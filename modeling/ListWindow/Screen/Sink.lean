/-!
Delivery of a frame to a sink that takes a limited number of bytes at a time, and in all.
-/
namespace ListWindow.Screen

/-- How many bytes a sink takes at a time, and how many it has room for. -/
structure Sink where
  chunk : Nat
  room : Nat
  deriving DecidableEq, Repr

/-- What became of a delivery: the bytes the sink took, and whether these were all. -/
structure Delivery where
  written : Nat
  complete : Bool
  deriving DecidableEq, Repr

namespace Sink

def accepted (s : Sink) (bytes : Nat) : Nat := min bytes (min s.chunk s.room)

/-- Offer bytes until the sink has them all, or takes no more. -/
def deliver (s : Sink) (bytes : Nat) : Delivery :=
  if bytes = 0 then ⟨0, true⟩
  else if _h : s.accepted bytes = 0 then ⟨0, false⟩
  else
    let taken := s.accepted bytes
    let rest := deliver { s with room := s.room - taken } (bytes - taken)
    { rest with written := rest.written + taken }
termination_by bytes
decreasing_by
  have : s.accepted bytes ≤ bytes := Nat.min_le_left _ _
  omega

end Sink

/-- The text for a delivery that is not complete. -/
def Delivery.failure : String := "failed to write whole buffer"

end ListWindow.Screen
