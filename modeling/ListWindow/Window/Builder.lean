import ListWindow.Window.Basic

/-!
Building a window. All that is missing or wrong is found before anything is touched; then the
window subscribes to the scroll area and runs its first pass. If that pass breaks off, the window
is taken back and its subscription with it.

The `describe` functions tell the state of a window in words, for logs and debugging.
-/
namespace ListWindow

/-- The parts of a window to be. The scroll area itself is in the world. -/
structure Builder (σ α ε : Type) where
  surface : Option (Surface ε) := none
  /-- Extent of an element that the surface shows already. -/
  sample : Option Scalar := none
  /-- Whether there is a scroll area to watch. -/
  attached : Bool := false
  create : Option (σ → α → Nat → σ × Option ε) := none
  update : Option (σ → ε → α → Nat → σ × ε × Bool) := none
  items : Array α := #[]
  config : Config := {}

namespace Builder

variable {κ σ α ε : Type} [Container κ]

/-- The parts that every window needs, or the first of them that is missing or wrong. -/
def parts (b : Builder σ α ε) : Except Error (Surface ε × Callbacks σ α ε) :=
  match b.surface, b.attached, b.create with
  | none, _, _ => .error .missingTarget
  | some _, false, _ => .error .missingContainer
  | some _, true, none => .error .missingCreate
  | some surface, true, some create =>
    b.config.validate.map fun _ => (surface, { create, update := b.update })

/-- A window that watches the scroll area of a world and has not drawn yet. -/
def subscribed (b : Builder σ α ε) (surface : Surface ε) (estimator : ExtentEstimator)
    (world : World κ σ) : Scene κ σ α ε :=
  let (channels, channel) := world.channels.openWith b.config.eventCapacity
  let (container, handle) := Container.subscribe channel world.container
  { window :=
      { config := b.config
        surface
        items := b.items
        estimator
        subscription := some ⟨handle, channel⟩
        throttle := { frame := b.config.frameDuration } }
    world := { world with container, channels } }

/-- Build a window in a world. Besides the window, or the first error, or the fault of the first
pass, this tells what is left of the surface that was given. -/
def carryOut (a : Arithmetic) (b : Builder σ α ε) (world : World κ σ) :
    Except Fault (Except Error (Window α ε)) × Option (Surface ε) × World κ σ :=
  match b.parts with
  | .error e => (.ok (.error e), b.surface, world)
  | .ok (surface, cb) =>
    match ExtentEstimator.start b.config.itemExtent with
    | .error fault => (.error fault, some surface, world)
    | .ok estimator =>
      match (b.subscribed surface (estimator.measure b.sample) world).render a cb with
      | (.ok _, s) => (.ok (.ok s.window), some s.window.surface, s.world)
      | (.error fault, s) =>
        let left := s.unsubscribe
        (.error fault, some left.window.surface, left.world)

def build (a : Arithmetic) (b : Builder σ α ε) (world : World κ σ) :
    Except Fault (Except Error (Window α ε)) × World κ σ :=
  let built := b.carryOut a world
  (built.1, built.2.2)

end Builder

/-! ## In words -/

def IndexRange.describe : IndexRange → String
  | empty => "Empty"
  | span first last => s!"Span \x7b start: {first}, end: {last} \x7d"

def Geometry.describe (g : Geometry) : String :=
  s!"Geometry \x7b scroll_offset: {g.scrollOffset.fullText}, "
    ++ s!"viewport_extent: {g.viewportExtent.fullText} \x7d"

def Config.describe (c : Config) : String :=
  s!"VirtualScrollConfig \x7b item_extent: {c.itemExtent.fullText}, overscan: {c.overscan}, "
    ++ s!"target_fps: {c.targetFps}, event_capacity: {c.eventCapacity} \x7d"

def Window.describe {α ε : Type} (w : Window α ε) : String :=
  s!"VirtualScrollManager \x7b items: {w.items.size}, item_extent: {w.itemExtent.fullText}, "
    ++ s!"phase: {w.estimator.phase.name}, range: {w.range.describe}, "
    ++ s!"rendered: {w.registry.size}, geometry: {w.geometry.describe}, .. \x7d"

def Builder.describe {σ α ε : Type} (b : Builder σ α ε) : String :=
  let config := b.config.describe
  s!"VirtualScrollBuilder \x7b has_target: {b.surface.isSome}, has_container: {b.attached}, "
    ++ s!"has_create: {b.create.isSome}, has_update: {b.update.isSome}, "
    ++ s!"items: {b.items.size}, config: {config} \x7d"

end ListWindow
