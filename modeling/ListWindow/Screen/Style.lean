import ListWindow.Scalar.Decimal

/-!
Colours and text attributes.
-/
namespace ListWindow.Screen

structure Rgb where
  red : UInt8
  green : UInt8
  blue : UInt8
  deriving DecidableEq, Repr

namespace Rgb

def black : Rgb := ⟨0, 0, 0⟩

def white : Rgb := ⟨255, 255, 255⟩

/-- The colour of a number with two hexadecimal digits for each part; higher digits do not count. -/
def ofNat (n : Nat) : Rgb := ⟨(n / 65536).toUInt8, (n / 256).toUInt8, n.toUInt8⟩

def channelText (value : UInt8) : String := (if value < 16 then "0" else "") ++ Flags.hex value

def text (c : Rgb) : String :=
  "#" ++ channelText c.red ++ channelText c.green ++ channelText c.blue

end Rgb

structure Modifiers where
  bits : UInt8 := 0
  deriving DecidableEq, Repr, Inhabited

namespace Modifiers

def bold : Modifiers := ⟨1⟩

def dim : Modifiers := ⟨2⟩

def italic : Modifiers := ⟨4⟩

def underline : Modifiers := ⟨8⟩

def reversed : Modifiers := ⟨32⟩

def union (m n : Modifiers) : Modifiers := ⟨m.bits ||| n.bits⟩

/-- Every attribute of the second set is in the first. -/
def includes (m n : Modifiers) : Bool := m.bits &&& n.bits == n.bits

/-- The codes that turn the attributes on, in a fixed order. -/
def codes (m : Modifiers) : List Nat :=
  [(bold, 1), (dim, 2), (italic, 3), (underline, 4), (reversed, 7)].filterMap
    fun (flag, code) => if m.includes flag then some code else none

def text (m : Modifiers) : String :=
  Flags.text
    [(bold.bits, "BOLD"), (dim.bits, "DIM"), (italic.bits, "ITALIC"),
     (underline.bits, "UNDERLINE"), (reversed.bits, "REVERSED")]
    m.bits

end Modifiers

/-- How a row is shown. Without a colour it has the terminal's own. -/
structure Style where
  foreground : Option Rgb := none
  background : Option Rgb := none
  modifiers : Modifiers := {}
  deriving DecidableEq, Repr, Inhabited

namespace Style

/-- The terminal's own colours and no attributes. -/
def plain : Style := {}

def isPlain (s : Style) : Bool := s == plain

end Style

end ListWindow.Screen
