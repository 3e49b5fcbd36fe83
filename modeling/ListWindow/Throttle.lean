import ListWindow.Fault
import ListWindow.Scalar.Decimal

/-!
The frame throttle. Reasons for a new pass are collected, and all that have come together are
released at once, at most once in a frame. Times are nanoseconds on one clock, durations are
nanoseconds.
-/
namespace ListWindow

/-- A set of reasons for a pass. -/
structure Reasons where
  bits : UInt8
  deriving DecidableEq, Repr

namespace Reasons

def none : Reasons := ⟨0⟩

def scroll : Reasons := ⟨1⟩

def resize : Reasons := ⟨2⟩

def data : Reasons := ⟨4⟩

instance : Inhabited Reasons := ⟨none⟩

def union (r s : Reasons) : Reasons := ⟨r.bits ||| s.bits⟩

def isEmpty (r : Reasons) : Bool := r.bits == 0

def text (r : Reasons) : String :=
  Flags.text [(scroll.bits, "SCROLL"), (resize.bits, "RESIZE"), (data.bits, "DATA")] r.bits

end Reasons

/-- A point in time, in nanoseconds from the zero of the clock. -/
abbrev Instant := Int

/-- The last point in time there is: clocks count seconds with 63 bits. -/
def lastInstant : Instant := 9223372036854775808 * 1000000000 - 1

/-- Time from one instant to another; none when the clock has gone back. -/
def elapsed (start now : Instant) : Nat := (now - start).toNat

/-- The instant a duration after another. -/
def Instant.after (start : Instant) (duration : Nat) : Except Fault Instant :=
  if start + duration ≤ lastInstant then .ok (start + duration) else .error .instantOverflow

/-- A throttle with the frame it keeps to. -/
structure Throttle where
  frame : Nat
  lastRelease : Option Instant := none
  pending : Reasons := .none
  frames : Nat := 0
  deriving DecidableEq, Repr, Inhabited

namespace Throttle

def request (reasons : Reasons) (t : Throttle) : Throttle :=
  { t with pending := t.pending.union reasons }

def hasPending (t : Throttle) : Bool := !t.pending.isEmpty

def release (now : Instant) (t : Throttle) : Throttle × Reasons :=
  ({ t with lastRelease := some now, frames := t.frames + 1, pending := .none }, t.pending)

/-- The frame of the last release is over at the given time. -/
def frameOver (now : Instant) (t : Throttle) : Bool :=
  match t.lastRelease with
  | none => true
  | some last => t.frame ≤ elapsed last now

/-- Release what waits if the frame of the last release is over. -/
def poll (now : Instant) (t : Throttle) : Throttle × Option Reasons :=
  if t.hasPending && t.frameOver now then ((t.release now).1, some (t.release now).2)
  else (t, none)

def take (now : Instant) (t : Throttle) : Throttle × Option Reasons :=
  if t.hasPending then ((t.release now).1, some (t.release now).2) else (t, none)

/-- The earliest time at which `poll` would release what waits. Without a release so far that is
the present. -/
def deadline (now : Instant) (t : Throttle) : Except Fault (Option Instant) :=
  if t.hasPending then
    match t.lastRelease with
    | none => .ok (some now)
    | some last => (Instant.after last t.frame).map some
  else .ok none

/-- Forget what waits without counting a frame. -/
def discard (t : Throttle) : Throttle × Reasons := ({ t with pending := .none }, t.pending)

/-- Forget what waits and when the last release was. -/
def reset (t : Throttle) : Throttle := { t with pending := .none, lastRelease := none }

end Throttle

end ListWindow
