import ListWindow.Container
import ListWindow.Fault
import ListWindow.Screen.Session

/-!
The scroll area of a terminal, measured in lines. Its offset stays between zero and the last one at
which the viewport is full, and every change is told to the subscribers.
-/
namespace ListWindow.Screen

/-- The scroll area: as high as the terminal less some reserved lines. -/
structure Viewport where
  offset : Scalar := 0
  height : Nat
  reserved : Nat
  content : Scalar := 0
  subscribers : Subscribers := {}
  deriving DecidableEq, Repr, Inhabited

/-- Lines that one notch of the mouse wheel scrolls. -/
def wheelStep : Scalar := 3

/-- Offsets closer than this are the same. -/
def offsetTolerance : Scalar := .rat (mkRat 1 (1 <<< 52))

namespace Viewport

def ofTerminal (terminalHeight reserved : Nat) : Viewport :=
  { height := terminalHeight - reserved, reserved }

def extent (a : Arithmetic) (v : Viewport) : Scalar := .ofNat a v.height

def maxOffset (a : Arithmetic) (v : Viewport) : Scalar :=
  (Scalar.sub a v.content (v.extent a)).max 0

def clampOffset (a : Arithmetic) (offset : Scalar) (v : Viewport) : Scalar :=
  if offset.isFinite then offset.clamp 0 (v.maxOffset a) else 0

/-- Scroll to an offset, or as close to it as possible. -/
def scrollTo (a : Arithmetic) (offset : Scalar) (v : Viewport) (cs : Channels) :
    Viewport × Channels :=
  let target := v.clampOffset a offset
  if (Scalar.sub a target v.offset).abs < offsetTolerance then (v, cs)
  else
    let (subscribers, cs) := v.subscribers.broadcast (.scroll target) cs
    ({ v with offset := target, subscribers }, cs)

/-- Scroll down by some lines, or up if they are negative. -/
def scrollBy (a : Arithmetic) (lines : Scalar) (v : Viewport) (cs : Channels) :
    Viewport × Channels :=
  v.scrollTo a (Scalar.add a v.offset lines) cs

def resize (a : Arithmetic) (terminalHeight : Nat) (v : Viewport) (cs : Channels) :
    Viewport × Channels :=
  let height := terminalHeight - v.reserved
  if height = v.height then (v, cs)
  else
    let (subscribers, cs) := v.subscribers.broadcast (.resize (.ofNat a height)) cs
    scrollTo a v.offset { v with height, subscribers } cs

def setContent (a : Arithmetic) (extent : Scalar) (v : Viewport) : Viewport :=
  let v := { v with content := extent }
  if v.maxOffset a < v.offset then { v with offset := v.maxOffset a } else v

/-- A page is what is visible, and never nothing. -/
def page (a : Arithmetic) (v : Viewport) : Scalar := .ofNat a (max v.height 1)

def applyKey (a : Arithmetic) (key : Key) (v : Viewport) (cs : Channels) :
    Option (Viewport × Channels) :=
  match key with
  | .up | .char 'k' => some (v.scrollBy a (Scalar.neg 1) cs)
  | .down | .char 'j' => some (v.scrollBy a 1 cs)
  | .pageUp => some (v.scrollBy a (v.page a).neg cs)
  | .pageDown | .char ' ' => some (v.scrollBy a (v.page a) cs)
  | .home | .char 'g' => some (v.scrollTo a 0 cs)
  | .last | .char 'G' => some (v.scrollTo a (v.maxOffset a) cs)
  | _ => none

/-- Act on an input event, if it moves or resizes the viewport. -/
def apply (a : Arithmetic) (event : InputEvent) (v : Viewport) (cs : Channels) :
    Option (Viewport × Channels) :=
  match event with
  | .wheel notches => some (v.scrollBy a (Scalar.mul a (Scalar.ofInt a notches).neg wheelStep) cs)
  | .resize _ height => some (v.resize a height cs)
  | .key key _ => v.applyKey a key cs
  | _ => none

instance : Container Viewport where
  scrollOffset v := v.offset
  viewportExtent v := .ofNat .exact v.height
  setScrollOffset a offset v cs := v.scrollTo a offset cs
  setContentExtent a extent v := v.setContent a extent
  subscribe channel v :=
    let (subscribers, handle) := v.subscribers.add channel
    ({ v with subscribers }, handle)
  unsubscribe handle v := { v with subscribers := (v.subscribers.remove handle).1 }

end Viewport

end ListWindow.Screen
