import ListWindow.Extent
import ListWindow.Scalar.Decimal

/-!
Configuration of a window, and the errors that its operations report to the caller.
-/
namespace ListWindow

/-- Why a window was not built, or an indexed operation refused. -/
inductive Error where
  | missingTarget
  | missingContainer
  | missingCreate
  | invalidItemExtent (extent : Scalar)
  | invalidFrameRate
  | indexOutOfBounds (index len : Nat)
  deriving DecidableEq, Repr

def Error.message : Error → String
  | missingTarget => "a rendering target is required"
  | missingContainer => "a scrollable container is required"
  | missingCreate => "a create function is required"
  | invalidItemExtent extent => s!"item extent must be finite and positive, got {extent.plainText}"
  | invalidFrameRate => "target frame rate must be non-zero"
  | indexOutOfBounds index len => s!"index {index} out of bounds for {len} items"

/-- How a window is set up. -/
structure Config where
  /-- Extent of one item, unless an element on display is measured. -/
  itemExtent : Scalar := 50
  /-- Items kept rendered past each edge of the viewport. -/
  overscan : Nat := 5
  /-- Passes per second that scrolling and resizing may cause. -/
  targetFps : Nat := 60
  /-- Events that may wait for the window at one time. -/
  eventCapacity : Nat := 64
  deriving DecidableEq, Repr, Inhabited

namespace Config

/-- Nanoseconds of one frame, cut to a whole number; none at a frame rate of zero. -/
def frameDuration (c : Config) : Nat :=
  if c.targetFps = 0 then 0 else 1000000000 / c.targetFps

/-- Refuse what no window can work with: the extent is looked at first. -/
def validate (c : Config) : Except Error Unit :=
  if !c.itemExtent.isExtent then .error (.invalidItemExtent c.itemExtent)
  else if c.targetFps = 0 then .error .invalidFrameRate
  else .ok ()

end Config

end ListWindow
