/-!
Faults: the ways an operation can break off half-way. A fault ends the operation and leaves the
state as it was at that point; the caller may go on with it.

One source of faults is arithmetic on natural numbers with an upper limit. Item indices stay at or
below `maxIndex`, screen cells at or below `maxCell`. A sum past the limit either stops at the limit
or is a fault.
-/
namespace ListWindow

/-- Why an operation broke off. -/
inductive Fault where
  /-- A sum left the range of its numbers. -/
  | addOverflow
  /-- A difference fell below zero. -/
  | subOverflow
  /-- A range was asked for with an item extent that is not above zero. -/
  | itemExtentNotPositive
  /-- An estimator was started from an extent that is not finite and above zero. -/
  | defaultExtentNotPositive
  /-- A point in time past the last one. -/
  | instantOverflow
  /-- The caller's create function gave up on an index. -/
  | createFailed (index : Nat)
  /-- The caller's update function gave up on an index. -/
  | updateFailed (index : Nat)
  deriving DecidableEq, Repr

def Fault.message : Fault → String
  | addOverflow => "attempt to add with overflow"
  | subOverflow => "attempt to subtract with overflow"
  | itemExtentNotPositive => "item extent must be positive"
  | defaultExtentNotPositive => "default extent must be positive"
  | instantOverflow => "overflow when adding duration to instant"
  | createFailed index => s!"create failed at {index}"
  | updateFailed index => s!"update failed at {index}"

/-! ## Numbers with a limit -/

/-- The largest item index and item count. -/
def maxIndex : Nat := 0xFFFFFFFFFFFFFFFF

/-- The largest screen coordinate and screen size. -/
def maxCell : Nat := 0xFFFF

def saturatingAdd (limit m n : Nat) : Nat := min (m + n) limit

/-- The sum, a fault when it is past the limit. -/
def checkedAdd (limit m n : Nat) : Except Fault Nat :=
  if m + n ≤ limit then .ok (m + n) else .error .addOverflow

def checkedSub (m n : Nat) : Except Fault Nat :=
  if n ≤ m then .ok (m - n) else .error .subOverflow

end ListWindow
