import ListWindow.Fault
import ListWindow.Scalar.Basic

/-!
Which items a viewport needs. `visibleRange` turns the geometry of a scroll area into the range of
item indices to keep rendered: the items that touch the viewport and `overscan` more on each side.
The offset is first pulled back to the last one at which the viewport is still full.
-/
namespace ListWindow

/-- Where a viewport lies along the scroll axis. -/
structure Geometry where
  scrollOffset : Scalar
  viewportExtent : Scalar
  deriving DecidableEq, Repr

instance : Inhabited Geometry := ⟨⟨0, 0⟩⟩

/-- A geometry from raw readings: what is not finite and above zero counts as zero. -/
def Geometry.sample (offset extent : Scalar) : Geometry :=
  ⟨offset.nonNegative, extent.nonNegative⟩

/-- A range of item indices, both ends included. -/
inductive IndexRange where
  | empty
  | span (first last : Nat)
  deriving DecidableEq, Repr

namespace IndexRange

instance : Inhabited IndexRange := ⟨empty⟩

def isEmpty : IndexRange → Bool
  | empty => true
  | span _ _ => false

/-- Number of indices. Ends in the wrong order have none, and all indices there are cannot be
counted within the limit. -/
def size : IndexRange → Except Fault Nat
  | empty => .ok 0
  | span first last => do checkedAdd maxIndex (← checkedSub last first) 1

def first? : IndexRange → Option Nat
  | empty => none
  | span first _ => some first

def last? : IndexRange → Option Nat
  | empty => none
  | span _ last => some last

def contains (i : Nat) : IndexRange → Bool
  | empty => false
  | span first last => first ≤ i && i ≤ last

/-- The first index and the one past the last, from which the indices are enumerated. -/
def limits : IndexRange → Except Fault (Nat × Nat)
  | empty => .ok (0, 0)
  | span first last => do return (first, ← checkedAdd maxIndex last 1)

/-- The indices in ascending order, those below `bound` only. -/
def indicesBelow (bound : Nat) : IndexRange → List Nat
  | empty => []
  | span first last => List.range' first (min (last + 1) bound - first)

def indices : IndexRange → List Nat
  | empty => []
  | span first last => List.range' first (last + 1 - first)

def take (n : Nat) (r : IndexRange) : Except Fault (List Nat) := do
  let (first, stop) ← r.limits
  return List.range' first (min n (stop - first))

end IndexRange

/-- The range of items to keep rendered out of `count` items of the given extent. -/
def visibleRange (a : Arithmetic) (g : Geometry) (itemExtent : Scalar) (count overscan : Nat) :
    Except Fault IndexRange :=
  if count = 0 then .ok .empty
  else if ¬ (0 : Scalar) < itemExtent then .error .itemExtentNotPositive
  else
    let viewport := g.viewportExtent.nonNegative
    let maxOffset := (Scalar.mulAdd a (.ofNat a count) itemExtent viewport.neg).max 0
    let offset := g.scrollOffset.nonNegative.min maxOffset
    let firstVisible := (Scalar.div a offset itemExtent).floor.toNat maxIndex
    let lastVisible := (Scalar.div a (.add a offset viewport) itemExtent).ceil.toNat maxIndex
    let last := min (saturatingAdd maxIndex lastVisible overscan) (count - 1)
    .ok (.span (min (firstVisible - overscan) last) last)

end ListWindow
