import ListWindow.Screen.Style

/-!
What is sent to a terminal: texts, and commands in escape sequences. A frame is a list of commands,
and `encode` writes it down.
-/
namespace ListWindow.Screen

/-- One piece of output. Columns and lines count from zero. -/
inductive Command where
  | text (content : String)
  | moveTo (x y : Nat)
  | hideCursor
  | showCursor
  | foreground (colour : Rgb)
  | background (colour : Rgb)
  /-- Turn on the attribute of a code. -/
  | turnOn (code : Nat)
  /-- The terminal's own colours and no attributes. -/
  | resetAttributes
  | clearLine
  | clearScreen
  deriving DecidableEq, Repr

abbrev Frame := List Command

/-- An escape sequence: the escape character, a bracket, and the given text. -/
def sequence (body : String) : String := "\u001b[" ++ body

def parameters (values : List Nat) : String := ";".intercalate (values.map toString)

def Rgb.channels (c : Rgb) : List Nat := [c.red.toNat, c.green.toNat, c.blue.toNat]

/-- The sequence of a display attribute. -/
def rendition (code : Nat) : String := sequence (parameters [code] ++ "m")

/-- The sequence of a colour, of the letters or of what is behind them. -/
def layer (code : Nat) (c : Rgb) : String := sequence (parameters ([code, 2] ++ c.channels) ++ "m")

/-- One call that adds to the output. -/
inductive Write where
  | text (content : String)
  | moveTo (x y : Nat)
  | hideCursor
  | showCursor
  | foreground (colour : Rgb)
  | background (colour : Rgb)
  | style (s : Style)
  | resetAttributes
  | clearLine
  | clearScreen
  deriving DecidableEq, Repr

/-- What a call adds. Terminals count columns and lines from one, and take the line first. A style
begins with a reset, so that nothing of the one before remains. -/
def Write.encode : Write → String
  | text content => content
  | moveTo x y => sequence (parameters [y + 1, x + 1] ++ "H")
  | hideCursor => sequence "?25l"
  | showCursor => sequence "?25h"
  | foreground c => layer 38 c
  | background c => layer 48 c
  | style s =>
    sequence "0m" ++ String.join (s.modifiers.codes.map rendition)
      ++ (s.foreground.elim "" (layer 38)) ++ (s.background.elim "" (layer 48))
  | resetAttributes => sequence "0m"
  | clearLine => sequence "2K"
  | clearScreen => sequence "2J"

def Write.append (bytes : ByteArray) (w : Write) : ByteArray := bytes ++ w.encode.toUTF8

/-- The bytes of the output after calls that began with none. -/
def output (ws : List Write) : ByteArray := ws.foldl Write.append .empty

/-- The written form of a command. -/
def Command.encode : Command → String
  | text content => (Write.text content).encode
  | moveTo x y => (Write.moveTo x y).encode
  | hideCursor => Write.hideCursor.encode
  | showCursor => Write.showCursor.encode
  | foreground c => (Write.foreground c).encode
  | background c => (Write.background c).encode
  | turnOn code => rendition code
  | resetAttributes => Write.resetAttributes.encode
  | clearLine => Write.clearLine.encode
  | clearScreen => Write.clearScreen.encode

def encode (frame : Frame) : String := String.join (frame.map Command.encode)

/-- The commands that put a style in force, whatever was in force before. -/
def Style.commands (s : Style) : Frame :=
  .resetAttributes :: s.modifiers.codes.map Command.turnOn
    ++ (s.foreground.map Command.foreground).toList
    ++ (s.background.map Command.background).toList

end ListWindow.Screen
