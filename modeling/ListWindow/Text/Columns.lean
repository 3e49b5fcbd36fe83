import ListWindow.Text.Fit

/-!
Lines of a table: cells fitted into columns of fixed widths, with a gap between two columns.
-/
namespace ListWindow.Text

structure Column where
  title : String
  width : Nat
  deriving DecidableEq, Repr

/-- The columns of a table from left to right, and the cells between two of them. -/
structure Columns where
  columns : List Column := []
  gap : Nat := 1
  deriving DecidableEq, Repr

namespace Columns

instance : Inhabited Columns := ⟨{}⟩

def cellCount : List Column → Nat
  | [] => 0
  | c :: rest => c.width + cellCount rest

def width (t : Columns) : Nat := cellCount t.columns + t.gap * (t.columns.length - 1)

/-- The fitted cells of a line: a missing value leaves a blank, a value too many is left out. -/
def cells : List Column → List String → List (List Char)
  | [], _ => []
  | c :: rest, values =>
    terminal.fitChars (values.headD "").toList c.width :: cells rest values.tail

def format (t : Columns) (values : List String) : String :=
  String.ofList ((blanks t.gap).intercalate (cells t.columns values))

def header (t : Columns) : String := t.format (t.columns.map (·.title))

end Columns

end ListWindow.Text
