/-!
What a terminal session reports, and how the terminal is taken over. A terminal reports many kinds
of events; a table needs a few of them, and `InputEvent.of` drops the others.
-/
namespace ListWindow.Screen

structure HeldKeys where
  shift : Bool := false
  control : Bool := false
  alt : Bool := false
  deriving DecidableEq, Repr, Inhabited

inductive Key where
  | char (c : Char)
  | enter
  | up
  | down
  | left
  | right
  | home
  | last
  | pageUp
  | pageDown
  | escape
  | tab
  | backTab
  | backspace
  | delete
  | insert
  | null
  | function (number : Nat)
  | capsLock
  | menu
  deriving DecidableEq, Repr

/-- Keys that a table may act on. -/
def Key.isUsed : Key → Bool
  | char _ | enter | up | down | home | last | pageUp | pageDown | escape => true
  | _ => false

inductive Stroke where
  | press
  | hold
  | release
  deriving DecidableEq, Repr

inductive MouseAction where
  | wheelUp
  | wheelDown
  | wheelLeft
  | wheelRight
  | move
  | press
  | release
  | drag
  deriving DecidableEq, Repr

inductive TerminalEvent where
  | key (key : Key) (held : HeldKeys) (stroke : Stroke)
  | mouse (action : MouseAction)
  | resize (width height : Nat)
  | focusGained
  | focusLost
  | paste (text : String)
  deriving DecidableEq, Repr

/-- What a table is told. -/
inductive InputEvent where
  /-- A key was pressed. -/
  | key (key : Key) (held : HeldKeys)
  /-- The mouse wheel turned, up when positive. -/
  | wheel (notches : Int)
  | resize (width height : Nat)
  /-- Reading from the terminal failed. -/
  | failure (text : String)
  /-- No more events will come. -/
  | shutdown
  deriving DecidableEq, Repr

/-- The input event of a terminal event, if a table has any use for it. -/
def InputEvent.of : TerminalEvent → Option InputEvent
  | .key k held .press => if k.isUsed then some (.key k held) else none
  | .mouse .wheelUp => some (.wheel 1)
  | .mouse .wheelDown => some (.wheel (-1))
  | .resize width height => some (.resize width height)
  | _ => none

structure SessionConfig where
  /-- Nanoseconds between two looks for input. -/
  inputPoll : Nat := 10000000
  /-- Whether the mouse wheel is reported. -/
  mouse : Bool := true
  /-- Whether the screen of the shell is kept and restored. -/
  alternateScreen : Bool := true
  /-- Input events that may wait. -/
  inputCapacity : Nat := 64
  deriving DecidableEq, Repr, Inhabited

end ListWindow.Screen
