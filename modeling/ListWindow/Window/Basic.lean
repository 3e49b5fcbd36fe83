import ListWindow.Config
import ListWindow.Container
import ListWindow.Reconcile
import ListWindow.Surface
import ListWindow.Throttle

/-!
A window onto a long list. It keeps elements only for the items near the viewport of a scroll area
and draws them on a surface, with spacers for all the others. Every pass reads the geometry of the
area, works out the range of items it needs, reconciles the registry with it and draws the surface
anew.

A window acts on a world that it may share with others: the scroll area, the event channels and
the state of the caller's functions. `Scene` is a window together with its world, and each
operation takes a scene to its outcome and the scene it leaves, also when it breaks off.
-/
namespace ListWindow

/-- The state of a window. -/
structure Window (α ε : Type) where
  config : Config
  surface : Surface ε
  items : Array α
  estimator : ExtentEstimator
  geometry : Geometry := ⟨0, 0⟩
  range : IndexRange := .empty
  spacers : Spacers := {}
  registry : Registry ε := {}
  subscription : Option Subscription
  throttle : Throttle
  stats : Stats := {}

/-- What windows act on. -/
structure World (κ σ : Type) where
  container : κ
  channels : Channels
  caller : σ

/-- A window and its world. -/
structure Scene (κ σ α ε : Type) where
  window : Window α ε
  world : World κ σ

/-- What became of `updateAt`. -/
inductive UpdateOutcome where
  /-- The element on display was brought up to date. -/
  | updated
  /-- A whole pass ran. -/
  | rerendered
  /-- The item is stored and not on display. -/
  | deferred
  /-- The window is destroyed. -/
  | ignored
  deriving DecidableEq, Repr

namespace Window

variable {α ε : Type}

def itemExtent (w : Window α ε) : Scalar := w.estimator.extent

def totalExtent (a : Arithmetic) (w : Window α ε) : Scalar :=
  Scalar.mul a (.ofNat a w.items.size) w.itemExtent

def isDestroyed (w : Window α ε) : Bool := w.estimator.phase == .destroyed

/-- The regions to draw: the leading spacer, the elements of the range, the trailing spacer. -/
def regions (w : Window α ε) : List (Region ε) :=
  Spacers.region .leading w.spacers.leading?
    ++ w.range.indices.filterMap (fun i => (w.registry.element? i).map (Region.element i))
    ++ Spacers.region .trailing w.spacers.trailing?

def place (w : Window α ε) : Window α ε := { w with surface := w.surface.redraw w.regions }

/-- Note the reason that an event gives for a pass. -/
def requestFor (t : Throttle) : ViewportEvent → Throttle
  | .scroll _ => t.request .scroll
  | .resize _ => t.request .resize

end Window

namespace Scene

variable {κ σ α ε : Type} [Container κ]

def drainEvents (s : Scene κ σ α ε) : Scene κ σ α ε × List ViewportEvent :=
  match s.window.subscription with
  | none => (s, [])
  | some subscription =>
    let (channels, events) := s.world.channels.drain subscription.channel
    ({ s with world := { s.world with channels } }, events)

/-- Turn the events that wait into reasons for a pass. -/
def collectEvents (s : Scene κ σ α ε) : Scene κ σ α ε :=
  let (s, events) := s.drainEvents
  let throttle := events.foldl Window.requestFor s.window.throttle
  { s with window := { s.window with throttle } }

def discardEvents (s : Scene κ σ α ε) : Scene κ σ α ε :=
  let (s, _) := s.drainEvents
  { s with window := { s.window with throttle := s.window.throttle.discard.1 } }

/-- The end of a pass, once the registry is reconciled: spacers, surface, content extent. -/
def finishPass (a : Arithmetic) (stats : Stats) (s : Scene κ σ α ε) : Scene κ σ α ε :=
  let w := s.window
  let w := { w with spacers := .around a w.items.size w.itemExtent w.range }
  let w := { w.place with estimator := w.estimator.markReady, stats }
  let container := Container.setContentExtent a (w.totalExtent a) s.world.container
  { window := w, world := { s.world with container } }

/-- Run a pass over the geometry that the scroll area has now. What waits is covered by it. -/
def render (a : Arithmetic) (cb : Callbacks σ α ε) (s : Scene κ σ α ε) :
    Except Fault Stats × Scene κ σ α ε :=
  if s.window.isDestroyed then (.ok {}, s)
  else
    let s := s.discardEvents
    let geometry := Geometry.sample
      (Container.scrollOffset s.world.container) (Container.viewportExtent s.world.container)
    let w := { s.window with geometry }
    match visibleRange a geometry w.itemExtent w.items.size w.config.overscan with
    | .error fault => (.error fault, { s with window := w })
    | .ok range =>
      let pass := reconcile cb w.items range w.registry s.world.caller
      let s : Scene κ σ α ε :=
        { window := { w with range, registry := pass.registry }
          world := { s.world with caller := pass.caller } }
      match pass.outcome with
      | .error fault => (.error fault, s)
      | .ok stats => (.ok stats, s.finishPass a stats)

/-- A pass after a release of the throttle; none when nothing was released. -/
def renderReleased (a : Arithmetic) (cb : Callbacks σ α ε) (released : Throttle × Option Reasons)
    (s : Scene κ σ α ε) : Except Fault (Option Stats) × Scene κ σ α ε :=
  let s := { s with window := { s.window with throttle := released.1 } }
  match released.2 with
  | none => (.ok none, s)
  | some _ =>
    let (outcome, s) := s.render a cb
    (outcome.map some, s)

/-- Look at the events that wait and run a pass if they ask for one and the frame allows it. -/
def pump (a : Arithmetic) (cb : Callbacks σ α ε) (now : Instant) (s : Scene κ σ α ε) :
    Except Fault (Option Stats) × Scene κ σ α ε :=
  if s.window.isDestroyed then (.ok none, s)
  else
    let s := s.collectEvents
    s.renderReleased a cb (s.window.throttle.poll now)

/-- Look at the events that wait and run a pass at once if they ask for one. -/
def flush (a : Arithmetic) (cb : Callbacks σ α ε) (now : Instant) (s : Scene κ σ α ε) :
    Except Fault (Option Stats) × Scene κ σ α ε :=
  if s.window.isDestroyed then (.ok none, s)
  else
    let s := s.collectEvents
    s.renderReleased a cb (s.window.throttle.take now)

/-- Put other items in place of the present ones and run a pass. Elements past the new end go
before the pass and count as dropped by it. -/
def setItems (a : Arithmetic) (cb : Callbacks σ α ε) (now : Instant) (items : Array α)
    (s : Scene κ σ α ε) : Except Fault Stats × Scene κ σ α ε :=
  if s.window.isDestroyed then (.ok {}, s)
  else
    let (registry, truncated) := s.window.registry.truncate items.size
    let throttle := s.window.throttle.request .data
    let s := { s with window := { s.window with registry, items, throttle } }
    match s.flush a cb now with
    | (.error fault, s) => (.error fault, s)
    | (.ok stats, s) =>
      let stats := stats.getD {}
      let stats := { stats with dropped := stats.dropped + truncated }
      (.ok stats, { s with window := { s.window with stats } })

/-- Store one item and refresh what shows it. -/
def updateAt (a : Arithmetic) (cb : Callbacks σ α ε) (index : Nat) (item : α)
    (s : Scene κ σ α ε) : Except Fault (Except Error UpdateOutcome) × Scene κ σ α ε :=
  let w := s.window
  if w.isDestroyed then (.ok (.ok .ignored), s)
  else if w.items.size ≤ index then (.ok (.error (.indexOutOfBounds index w.items.size)), s)
  else
    let w := { w with items := w.items.setIfInBounds index item }
    match w.registry.element? index, cb.update with
    | some element, some update =>
      let (caller, element, done) := update s.world.caller element item index
      let w := { w with registry := w.registry.modify index fun _ => element }
      let world := { s.world with caller }
      if done then (.ok (.ok .updated), { window := w.place, world })
      else (.error (.updateFailed index), { window := w, world })
    | _, _ =>
      let s := { s with window := w }
      if w.range.contains index then
        let (outcome, s) := s.render a cb
        (outcome.map fun _ => .ok .rerendered, s)
      else (.ok (.ok .deferred), s)

/-- Scroll until the item at an index, or the last one before it, is at the top. The window follows
with its next pass. The answer is the offset the area was given. -/
def scrollToIndex (a : Arithmetic) (index : Nat) (s : Scene κ σ α ε) :
    Scalar × Scene κ σ α ε :=
  if s.window.isDestroyed then (Container.scrollOffset s.world.container, s)
  else
    let clamped := min index (s.window.items.size - 1)
    let offset := Scalar.mul a (.ofNat a clamped) s.window.itemExtent
    let (container, channels) :=
      Container.setScrollOffset a offset s.world.container s.world.channels
    (offset, { s with world := { s.world with container, channels } })

def deadline (now : Instant) (s : Scene κ σ α ε) : Except Fault (Option Instant) :=
  s.window.throttle.deadline now

/-- Stop watching the scroll area: the subscription goes off its list and its channel closes. -/
def unsubscribe (s : Scene κ σ α ε) : Scene κ σ α ε :=
  match s.window.subscription with
  | none => s
  | some subscription =>
    { window := { s.window with subscription := none }
      world := { s.world with
        container := Container.unsubscribe subscription.handle s.world.container
        channels := s.world.channels.close subscription.channel } }

/-- Let go of everything. A destroyed window does nothing any more. -/
def destroy (s : Scene κ σ α ε) : Scene κ σ α ε :=
  if s.window.isDestroyed then s
  else
    let s := s.unsubscribe
    let w := s.window
    { s with window := { w with
        registry := {}
        items := #[]
        surface := w.surface.clear
        throttle := w.throttle.reset
        range := .empty
        spacers := {}
        estimator := w.estimator.markDestroyed } }

end Scene

end ListWindow
