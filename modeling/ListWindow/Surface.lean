import ListWindow.Spacer

/-!
The surface that a window draws on: a column of regions, each a spacer or the copy of an element.
Every pass clears the surface and places its regions anew.
-/
namespace ListWindow

inductive Region (ε : Type) where
  | filler (edge : Edge) (extent : Scalar)
  | element (index : Nat) (content : ε)
  deriving DecidableEq, Repr

/-- The regions from start to end, and how often the surface was cleared. -/
structure Surface (ε : Type) where
  regions : List (Region ε) := []
  passes : Nat := 0
  deriving DecidableEq, Repr

namespace Surface

variable {ε : Type}

instance : Inhabited (Surface ε) := ⟨{}⟩

def clear (s : Surface ε) : Surface ε := { regions := [], passes := s.passes + 1 }

def push (region : Region ε) (s : Surface ε) : Surface ε :=
  { s with regions := s.regions ++ [region] }

def redraw (regions : List (Region ε)) (s : Surface ε) : Surface ε :=
  { regions, passes := s.passes + 1 }

end Surface

/-- The region of a spacer, if the spacer fills anything. -/
def Spacers.region {ε : Type} (edge : Edge) (extent : Option Scalar) : List (Region ε) :=
  match extent with
  | none => []
  | some x => [.filler edge x]

end ListWindow
