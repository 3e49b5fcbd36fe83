import ListWindow.Range

/-!
Spacers: blank regions that stand in for the items before and after the rendered range, so that
rendered items lie where they would lie if every item were rendered.
-/
namespace ListWindow

/-- The side of the rendered range a spacer is on. -/
inductive Edge where
  | leading
  | trailing
  deriving DecidableEq, Repr

def Edge.name : Edge → String
  | leading => "leading"
  | trailing => "trailing"

structure Spacers where
  leading : Scalar := 0
  trailing : Scalar := 0
  deriving DecidableEq, Repr, Inhabited

namespace Spacers

/-- The spacers that stand in for the items around a range of `count` items. -/
def around (a : Arithmetic) (count : Nat) (itemExtent : Scalar) : IndexRange → Spacers
  | .empty => {}
  | .span first last =>
    let after := count - saturatingAdd maxIndex last 1
    { leading := (Scalar.mul a (.ofNat a first) itemExtent).max 0
      trailing := (Scalar.mul a (.ofNat a after) itemExtent).max 0 }

/-- A spacer's extent when there is anything to fill. -/
def filler? (extent : Scalar) : Option Scalar := if (0 : Scalar) < extent then some extent else none

def leading? (s : Spacers) : Option Scalar := filler? s.leading

def trailing? (s : Spacers) : Option Scalar := filler? s.trailing

def total (a : Arithmetic) (s : Spacers) : Scalar := Scalar.add a s.leading s.trailing

end Spacers

end ListWindow
