import ListWindow.Fault

/-!
Rectangles of terminal cells.
-/
namespace ListWindow.Screen

/-- A rectangle: the cell at its top left, and its size. -/
structure Rect where
  x : Nat := 0
  y : Nat := 0
  width : Nat := 0
  height : Nat := 0
  deriving DecidableEq, Repr, Inhabited

namespace Rect

def ofSize (width height : Nat) : Rect := { width, height }

def isEmpty (r : Rect) : Bool := r.width == 0 || r.height == 0

/-- The column past the last one. -/
def right (r : Rect) : Nat := saturatingAdd maxCell r.x r.width

/-- The line past the last one. -/
def bottom (r : Rect) : Nat := saturatingAdd maxCell r.y r.height

def contains (r : Rect) (px py : Nat) : Bool :=
  r.x ≤ px && px < r.right && r.y ≤ py && py < r.bottom

/-- The first lines and the rest. Lines that the rectangle does not have are not counted. -/
def splitAt (r : Rect) (lines : Nat) : Except Fault (Rect × Rect) := do
  let top := min lines r.height
  let y ← checkedAdd maxCell r.y top
  return ({ r with height := top }, { r with y, height := r.height - top })

def describe (r : Rect) : String := s!"Rect({r.x}, {r.y} {r.width}x{r.height})"

end Rect

end ListWindow.Screen
