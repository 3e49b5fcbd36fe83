import ListWindow.Screen.Command
import ListWindow.Screen.Rect
import ListWindow.Screen.Style
import ListWindow.Surface
import ListWindow.Text.Fit

/-!
Rows of a table, made up once and then only copied to the screen, and how a surface of rows is
painted. The regions of the surface lie one below the other; a spacer is a gap as high as its
extent. For a scroll offset, the rows that begin inside the viewport are painted on the screen lines
where they begin, and all other lines are cleared.
-/
namespace ListWindow.Screen

/-- A line of text with its style. It may be followed by blank lines, which are part of its
height. -/
structure Row where
  text : String
  style : Style := .plain
  height : Nat := 1
  deriving DecidableEq, Repr, Inhabited

namespace Row

def withHeight (height : Nat) (r : Row) : Row := { r with height := max height 1 }

def replace (text : String) (style : Style) (r : Row) : Row := { r with text, style }

def width (r : Row) : Nat := Text.displayWidth r.text

end Row

def regionExtent (a : Arithmetic) : Region Row → Scalar
  | .filler _ extent => extent
  | .element _ row => .ofNat a row.height

def contentExtent (a : Arithmetic) (s : Surface Row) : Scalar :=
  match s.regions.map (regionExtent a) with
  | [] => 0
  | first :: rest => rest.foldl (Scalar.add a) first

def seeded (sample : Row) : Surface Row := { regions := [.element 0 sample] }

/-- The height of the first row on display. -/
def firstExtent? (a : Arithmetic) (s : Surface Row) : Option Scalar :=
  s.regions.findSome? fun
    | .element _ row => some (.ofNat a row.height)
    | .filler _ _ => none

/-- A row on the screen: the line where it begins, counted from the top of the viewport, and the
index of its item. -/
structure PlacedRow where
  line : Nat
  index : Nat
  row : Row
  deriving DecidableEq, Repr

/-- The line of a row whose top is at `y`, if it begins inside a viewport at `offset`. -/
def lineOf? (a : Arithmetic) (offset y : Scalar) : Option Nat :=
  let line := (Scalar.sub a y offset).floor
  if offset < Scalar.add a y 1 ∧ 0 ≤ line then some (line.toNat maxCell) else none

/-- The rows of some regions that begin at or below `offset` and above `bottom`; the first region
is at `y`. -/
def rowsFrom (a : Arithmetic) (offset bottom : Scalar) :
    Scalar → List (Region Row) → List PlacedRow
  | _, [] => []
  | y, region :: rest =>
    if bottom ≤ y then []
    else
      let later := rowsFrom a offset bottom (Scalar.add a y (regionExtent a region)) rest
      match region with
      | .filler _ _ => later
      | .element index row =>
        match lineOf? a offset y with
        | some line => ⟨line, index, row⟩ :: later
        | none => later

/-- The rows that begin in a viewport of the given height. -/
def visibleRows (a : Arithmetic) (offset : Scalar) (height : Nat) (s : Surface Row) :
    List PlacedRow :=
  rowsFrom a offset (Scalar.add a offset (.ofNat a height)) 0 s.regions

/-- The commands that write a text at the start of a line of an area. -/
def writeLine (area : Rect) (line : Nat) (commands : Frame) :
    Except Fault Frame := do
  return .moveTo area.x (← checkedAdd maxCell area.y line) :: commands

/-- Paint the rows that begin in an area, and clear its other lines. -/
def paint (a : Arithmetic) (offset : Scalar) (area : Rect) (s : Surface Row) :
    Except Fault Frame := do
  let rows := (visibleRows a offset area.height s).filter (·.line < area.height)
  let painted ← rows.mapM fun r =>
    writeLine area r.line (r.row.style.commands ++ [.text (Text.fit r.row.text area.width)])
  let empty := (List.range area.height).filter fun k => !rows.any (·.line == k)
  let cleared ← empty.mapM fun k =>
    writeLine area k [.text (String.ofList (Text.blanks area.width))]
  return painted.flatten ++ Style.plain.commands ++ cleared.flatten

end ListWindow.Screen
