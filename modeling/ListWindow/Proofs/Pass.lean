import ListWindow.Proofs.Reconcile
import ListWindow.Proofs.Run

/-!
What a request can do to a window. `Scene.passed` is the scene that a complete pass leaves, and
`Scene.render_eq` says that a direct pass leaves it unless the caller's functions give up.
`Scene.Effect` lists everything a request can do to a live window, with the conditions under which
it does it, and `Scene.perform_effect` proves the list complete. `Scene.Breaks` does the same for
the requests that the caller's functions break off (`Scene.perform_breaks`). What holds in every run
is derived from these lists.
-/
namespace ListWindow

variable {κ σ α ε : Type}

def Container.geometry [Container κ] (c : κ) : Geometry :=
  Geometry.sample (Container.scrollOffset c) (Container.viewportExtent c)

namespace Scene

/-! ## Events taken from the channel -/

def waiting (s : Scene κ σ α ε) : List ViewportEvent :=
  match s.window.subscription with
  | none => []
  | some subscription => (s.world.channels.drain subscription.channel).2

/-- The channels once the window has taken its events. -/
def drained (s : Scene κ σ α ε) : Channels :=
  match s.window.subscription with
  | none => s.world.channels
  | some subscription => (s.world.channels.drain subscription.channel).1

/-- The throttle once the window has taken its events as reasons for a pass. -/
def collected (s : Scene κ σ α ε) : Throttle :=
  s.waiting.foldl Window.requestFor s.window.throttle

theorem drainEvents_eq (s : Scene κ σ α ε) :
    s.drainEvents = ({ s with world := { s.world with channels := s.drained } }, s.waiting) := by
  unfold drained waiting drainEvents
  cases s.window.subscription <;> rfl

theorem collectEvents_eq (s : Scene κ σ α ε) :
    s.collectEvents =
      { window := { s.window with throttle := s.collected }
        world := { s.world with channels := s.drained } } := by
  rw [collectEvents, drainEvents_eq]
  rfl

theorem discardEvents_eq (s : Scene κ σ α ε) :
    s.discardEvents =
      { window := { s.window with throttle := s.window.throttle.discard.1 }
        world := { s.world with channels := s.drained } } := by
  rw [discardEvents, drainEvents_eq]

theorem drain_drain (id : Nat) (cs : Channels) :
    ((cs.drain id).1.drain id).1 = (cs.drain id).1 := by
  unfold Channels.drain
  rcases hc : cs[id]? with _ | c
  · simp [hc]
  · have hid : id < cs.size := (Array.getElem?_eq_some_iff.1 hc).1
    simp [hid, Channel.drain]

/-- Taking the events twice takes what taking them once takes. -/
theorem drained_drained {s t : Scene κ σ α ε}
    (hsub : t.window.subscription = s.window.subscription) (hcs : t.world.channels = s.drained) :
    t.drained = s.drained := by
  rw [drained, hsub, hcs]
  rcases h : s.window.subscription with _ | subscription
  · rfl
  · rw [drained, h]
    exact drain_drain _ _

theorem drain_empties (id : Nat) (cs : Channels) : ((cs.drain id).1.drain id).2 = [] := by
  unfold Channels.drain
  rcases hc : cs[id]? with _ | c
  · simp [hc]
  · have hid : id < cs.size := (Array.getElem?_eq_some_iff.1 hc).1
    simp [hid, Channel.drain]

theorem waiting_drained {s t : Scene κ σ α ε}
    (hsub : t.window.subscription = s.window.subscription) (hcs : t.world.channels = s.drained) :
    t.waiting = [] := by
  rw [waiting, hsub, hcs]
  rcases h : s.window.subscription with _ | subscription
  · rfl
  · rw [drained, h]
    exact drain_empties _ _

theorem hasPending_request (t : Throttle) (event : ViewportEvent) :
    (Window.requestFor t event).hasPending = true := by
  cases event <;> simp [Window.requestFor, Throttle.request, Throttle.hasPending, Reasons.union,
    Reasons.isEmpty, Reasons.scroll, Reasons.resize]

theorem hasPending_foldl (events : List ViewportEvent) (t : Throttle) :
    (events.foldl Window.requestFor t).hasPending = (t.hasPending || !events.isEmpty) := by
  induction events generalizing t with
  | nil => simp
  | cons event rest ih =>
    rw [List.foldl_cons, ih, hasPending_request]
    simp

/-- Something waits to be released exactly when a reason or an event does. -/
theorem hasPending_collected (s : Scene κ σ α ε) :
    s.collected.hasPending = (s.window.throttle.hasPending || !s.waiting.isEmpty) :=
  hasPending_foldl _ _

variable [Container κ] {a : Arithmetic} {cb : Callbacks σ α ε}

@[simp] theorem scrollToIndex_window (a : Arithmetic) (index : Nat) (s : Scene κ σ α ε) :
    (s.scrollToIndex a index).2.window = s.window := by
  rw [scrollToIndex]
  split
  · rfl
  · rfl

/-! ## A complete pass -/

/-- The scene that a complete pass leaves. `extra` entries were dropped before it. -/
def passed (a : Arithmetic) (throttle : Throttle) (range : IndexRange) (p : Progress σ ε)
    (extra : Nat) (s : Scene κ σ α ε) : Scene κ σ α ε :=
  finishPass a { range, created := p.created, reused := p.reused, dropped := p.left.size + extra }
    { window :=
        { s.window with
          geometry := Container.geometry s.world.container
          range
          registry := { entries := p.made }
          throttle }
      world := { s.world with channels := s.drained, caller := p.caller } }

/-- A pass that breaks off leaves the entries it has made, on the surface of the pass before. -/
def broken (range : IndexRange) (p : Progress σ ε) (s : Scene κ σ α ε) : Scene κ σ α ε :=
  { window :=
      { s.window with
        geometry := Container.geometry s.world.container
        range
        registry := { entries := p.made }
        throttle := s.window.throttle.discard.1 }
    world := { s.world with channels := s.drained, caller := p.caller } }

/-- A direct pass over a range that fits the items is complete unless the caller's functions give
up on an index of it. -/
theorem render_eq (a : Arithmetic) (cb : Callbacks σ α ε) {s : Scene κ σ α ε}
    (hlive : s.window.isDestroyed = false) (he : (0 : Scalar) < s.window.itemExtent)
    (hc : s.window.items.size ≤ maxIndex) :
    ∃ range, visibleRange a (Container.geometry s.world.container) s.window.itemExtent
        s.window.items.size s.window.config.overscan = .ok range ∧
      range.Within s.window.items.size ∧
      s.render a cb =
        (let p := Progress.run cb s.window.items range.indices s.window.registry s.world.caller
         match p.fault with
         | some fault => (.error fault, s.broken range p)
         | none => (.ok { range, created := p.created, reused := p.reused, dropped := p.left.size },
            s.passed a s.window.throttle.discard.1 range p 0)) := by
  obtain ⟨range, hrange, hwithin⟩ := visibleRange_within a (Container.geometry s.world.container) he
    s.window.items.size s.window.config.overscan
  refine ⟨range, hrange, hwithin, ?_⟩
  -- the range fits the items, so counting and enumerating it does not fault
  obtain ⟨first, stop, hlimits, _⟩ := hwithin.limits_eq hc
  rw [render, hlive, discardEvents_eq]
  rw [Container.geometry, Window.itemExtent] at hrange
  simp only [Bool.false_eq_true, if_false, Window.itemExtent, hrange]
  simp only [reconcile, hwithin.size_eq hc, hlimits, hwithin.indicesBelow_eq]
  rcases (Progress.run cb s.window.items range.indices s.window.registry s.world.caller).fault with
    _ | fault <;> rfl

/-! ## Everything a request can do -/

end Scene

namespace Request

/-- The window as the pass of a request finds it: with the items it is to show, and without the
entries past their end. -/
def staged (w : Window α ε) : Request α → Window α ε
  | setItems _ items => { w with registry := (w.registry.truncate items.size).1, items }
  | updateAt index item => { w with items := w.items.setIfInBounds index item }
  | _ => w

/-- Requests that run a pass whatever waits for the window. -/
def alwaysPasses : Request α → Bool
  | setItems _ _ | render => true
  | _ => false

/-- How many entries went before the pass. -/
def cut (w : Window α ε) : Request α → Nat
  | setItems _ items => (w.registry.truncate items.size).2
  | _ => 0

/-- Requests that bring the element on display up to date in its place and run no pass. -/
def refreshes (cb : Callbacks σ α ε) (w : Window α ε) : Request α → Bool
  | updateAt index _ => (w.registry.element? index).isSome && cb.update.isSome
  | _ => false

/-- The throttle that the pass of a request leaves. -/
def released (s : Scene κ σ α ε) : Request α → Throttle
  | setItems now _ =>
    let throttle := s.window.throttle.request .data
    ((s.waiting.foldl Window.requestFor throttle).release now).1
  | pump now | flush now => (s.collected.release now).1
  | _ => s.window.throttle.discard.1

/-- What a window is answered that does nothing any more. -/
def inert (offset : Scalar) : Request α → Answer
  | setItems _ _ | render => .stats (.ok {})
  | updateAt _ _ => .update (.ok (.ok .ignored))
  | scrollToIndex _ => .offset offset
  | pump _ | flush _ => .pass (.ok none)
  | destroy => .silent

end Request

namespace Scene

variable [Container κ]

/-- What a request does to a live window: its answer and the scene it leaves. -/
inductive Effect (a : Arithmetic) (cb : Callbacks σ α ε) (s : Scene κ σ α ε) :
    Request α → Answer → Scene κ σ α ε → Prop where
  /-- A complete pass. -/
  | passes (r : Request α) (answer : Answer) (range : IndexRange) (p : Progress σ ε) :
      answer.ranPass = true →
      (∀ st, answer.stats? = some st →
        st = (passed a (r.released s) range p (r.cut s.window)
          { s with window := r.staged s.window }).window.stats) →
      visibleRange a (Container.geometry s.world.container) s.window.itemExtent
        (r.staged s.window).items.size s.window.config.overscan = .ok range →
      range.Within (r.staged s.window).items.size →
      p = Progress.run cb (r.staged s.window).items range.indices (r.staged s.window).registry
        s.world.caller →
      p.fault = none →
      Effect a cb s r answer (passed a (r.released s) range p (r.cut s.window)
        { s with window := r.staged s.window })
  /-- Nothing waits, or the frame is not over. -/
  | waits (r : Request α) (now : Instant) :
      (r = .pump now ∧ (s.collected.hasPending = true → s.collected.frameOver now = false)) ∨
        (r = .flush now ∧ s.collected.hasPending = false) →
      Effect a cb s r (.pass (.ok none)) s.collectEvents
  /-- The element on display is brought up to date. -/
  | updates (index : Nat) (item : α) (held left : ε) (u : σ → ε → α → Nat → σ × ε × Bool)
      (caller : σ) : index < s.window.items.size → s.window.registry.element? index = some held →
      cb.update = some u → u s.world.caller held item index = (caller, left, true) →
      Effect a cb s (.updateAt index item) (.update (.ok (.ok .updated)))
        { window := Window.place
            { s.window with
              items := s.window.items.setIfInBounds index item
              registry := s.window.registry.modify index fun _ => left }
          world := { s.world with caller } }
  /-- The item is stored and not on display. -/
  | defers (index : Nat) (item : α) : index < s.window.items.size →
      s.window.range.contains index = false →
      Effect a cb s (.updateAt index item) (.update (.ok (.ok .deferred)))
        { s with window := { s.window with items := s.window.items.setIfInBounds index item } }
  /-- There is no such item. -/
  | refuses (index : Nat) (item : α) : s.window.items.size ≤ index →
      Effect a cb s (.updateAt index item)
        (.update (.ok (.error (.indexOutOfBounds index s.window.items.size)))) s
  | scrolls (index : Nat) :
      Effect a cb s (.scrollToIndex index) (.offset (s.scrollToIndex a index).1)
        (s.scrollToIndex a index).2
  | destroys : Effect a cb s .destroy .silent s.destroy

variable {a : Arithmetic} {cb : Callbacks σ α ε} {s : Scene κ σ α ε}

theorem Effect.faultless {r : Request α} {answer : Answer} {s' : Scene κ σ α ε}
    (h : Effect a cb s r answer s') : answer.fault? = none := by
  cases h with
  | passes _ _ _ _ hran _ _ _ _ _ =>
    unfold Answer.ranPass at hran
    split at hran
    · rfl
    · rfl
    · rfl
    · cases hran
  | _ => rfl

theorem Effect.alwaysPasses {r : Request α} {answer : Answer} {s' : Scene κ σ α ε}
    (h : Effect a cb s r answer s') (hr : r.alwaysPasses = true) : answer.ranPass = true := by
  cases h with
  | passes _ _ _ _ hran _ _ _ _ _ => exact hran
  | waits _ now hwhen =>
    rcases hwhen with ⟨rfl, _⟩ | ⟨rfl, _⟩
    · cases hr
    · cases hr
  | _ => cases hr

theorem Effect.of_ranPass {r : Request α} {answer : Answer} {s' : Scene κ σ α ε}
    (h : Effect a cb s r answer s') (hran : answer.ranPass = true) :
    ∃ range p,
      (∀ st, answer.stats? = some st → st = s'.window.stats) ∧
      visibleRange a (Container.geometry s.world.container) s.window.itemExtent
        (r.staged s.window).items.size s.window.config.overscan = .ok range ∧
      range.Within (r.staged s.window).items.size ∧
      p = Progress.run cb (r.staged s.window).items range.indices (r.staged s.window).registry
        s.world.caller ∧
      p.fault = none ∧
      s' = passed a (r.released s) range p (r.cut s.window)
        { s with window := r.staged s.window } := by
  cases h with
  | passes _ _ range p _ hstats hrange hwithin hp hfault =>
    exact ⟨range, p, hstats, hrange, hwithin, hp, hfault, rfl⟩
  | _ => cases hran

theorem passed_drained (th th' : Throttle) (range : IndexRange) (p : Progress σ ε) (extra : Nat) :
    passed a th' range p extra
        { window := { s.window with throttle := th }
          world := { s.world with channels := s.drained } } =
      s.passed a th' range p extra := by
  have h : drained
      { window := { s.window with throttle := th }
        world := { s.world with channels := s.drained } } = s.drained :=
    drained_drained rfl rfl
  unfold passed
  rw [h]

theorem broken_drained (th : Throttle) (range : IndexRange) (p : Progress σ ε) :
    broken range p
        { window := { s.window with throttle := th }
          world := { s.world with channels := s.drained } } =
      broken range p { s with window := { s.window with throttle := th } } := by
  have h : drained
      { window := { s.window with throttle := th }
        world := { s.world with channels := s.drained } } = s.drained :=
    drained_drained rfl rfl
  unfold broken
  rw [h]
  rfl

theorem renderReleased_eq (a : Arithmetic) (cb : Callbacks σ α ε)
    (hlive : s.window.isDestroyed = false) (he : (0 : Scalar) < s.window.itemExtent)
    (hc : s.window.items.size ≤ maxIndex) (th : Throttle) (reasons : Reasons) :
    ∃ range, visibleRange a (Container.geometry s.world.container) s.window.itemExtent
        s.window.items.size s.window.config.overscan = .ok range ∧
      range.Within s.window.items.size ∧
      s.collectEvents.renderReleased a cb (th, some reasons) =
        (let p := Progress.run cb s.window.items range.indices s.window.registry s.world.caller
         match p.fault with
         | some fault =>
           (.error fault, broken range p { s with window := { s.window with throttle := th } })
         | none => (.ok (some
              { range, created := p.created, reused := p.reused, dropped := p.left.size }),
            s.passed a th.discard.1 range p 0)) := by
  obtain ⟨range, hrange, hwithin, hrender⟩ := render_eq a cb
    (s := { window := { s.window with throttle := th }
            world := { s.world with channels := s.drained } }) hlive he hc
  refine ⟨range, hrange, hwithin, ?_⟩
  rw [collectEvents_eq, renderReleased]
  dsimp only at hrender ⊢
  rw [hrender, passed_drained, broken_drained]
  rcases (Progress.run cb s.window.items range.indices s.window.registry s.world.caller).fault with
    _ | fault
  · rfl
  · rfl

theorem run_faultless (cb : Callbacks σ α ε) {items : Array α} {range : IndexRange}
    (left : Registry ε) (caller : σ) (hwithin : range.Within items.size)
    (hok : cb.Total ∨ ∀ fault,
      (Progress.run cb items range.indices left caller).fault = some fault →
        fault.ofCaller = false) :
    (Progress.run cb items range.indices left caller).fault = none := by
  rcases hok with hcb | hok
  · exact Progress.run_total hcb _ _ _
  rcases hp : (Progress.run cb items range.indices left caller).fault with _ | fault
  · rfl
  · obtain ⟨i, rfl | rfl⟩ := Progress.run_fault hwithin.lt_of_mem hp
    · exact absurd (hok _ hp) (by simp [Fault.ofCaller])
    · exact absurd (hok _ hp) (by simp [Fault.ofCaller])

theorem perform_pump (a : Arithmetic) (cb : Callbacks σ α ε) (hlive : s.window.isDestroyed = false)
    (now : Instant) :
    s.perform a cb (.pump now) =
      if s.collected.hasPending && s.collected.frameOver now then
        let pass := s.collectEvents.renderReleased a cb
          ((s.collected.release now).1, some (s.collected.release now).2)
        (.pass pass.1, pass.2)
      else (.pass (.ok none), s.collectEvents) := by
  have hpump : s.pump a cb now = s.collectEvents.renderReleased a cb (s.collected.poll now) := by
    rw [pump, hlive, collectEvents_eq]
    rfl
  rw [perform, hpump, Throttle.poll]
  rcases s.collected.hasPending && s.collected.frameOver now with _ | _
  · rw [collectEvents_eq]
    rfl
  · rfl

theorem perform_flush (a : Arithmetic) (cb : Callbacks σ α ε) (hlive : s.window.isDestroyed = false)
    (now : Instant) :
    s.perform a cb (.flush now) =
      if s.collected.hasPending then
        let pass := s.collectEvents.renderReleased a cb
          ((s.collected.release now).1, some (s.collected.release now).2)
        (.pass pass.1, pass.2)
      else (.pass (.ok none), s.collectEvents) := by
  have hflush : s.flush a cb now = s.collectEvents.renderReleased a cb (s.collected.take now) := by
    rw [flush, hlive, collectEvents_eq]
    rfl
  rw [perform, hflush, Throttle.take]
  rcases s.collected.hasPending with _ | _
  · rw [collectEvents_eq]
    rfl
  · rfl

section

variable (hlive : s.window.isDestroyed = false) (he : (0 : Scalar) < s.window.itemExtent)
  (hc : s.window.items.size ≤ maxIndex)

include hlive he hc

theorem render_effect (hok : cb.Total ∨ s.Unbroken a cb .render) :
    Effect a cb s .render (s.perform a cb .render).1 (s.perform a cb .render).2 := by
  obtain ⟨range, hrange, hwithin, hrender⟩ := render_eq a cb hlive he hc
  have hp := run_faultless cb s.window.registry s.world.caller
    hwithin (hok.imp_right fun hok fault hp => hok fault (by simp only [perform, hrender, hp]; rfl))
  simp only [hp] at hrender
  simp only [perform, hrender]
  exact .passes .render _ range _ rfl (fun st hst => (Option.some.inj hst).symm) hrange hwithin
    rfl hp

theorem release_effect {r : Request α} (hstaged : r.staged s.window = s.window)
    (hcut : r.cut s.window = 0) (hidle : (r.released s).discard.1 = r.released s)
    (reasons : Reasons)
    (hperform : s.perform a cb r =
      (.pass (s.collectEvents.renderReleased a cb (r.released s, some reasons)).1,
        (s.collectEvents.renderReleased a cb (r.released s, some reasons)).2))
    (hok : cb.Total ∨ s.Unbroken a cb r) :
    Effect a cb s r (s.perform a cb r).1 (s.perform a cb r).2 := by
  obtain ⟨range, hrange, hwithin, hrender⟩ := renderReleased_eq a cb hlive he hc
    (r.released s) reasons
  rw [hrender] at hperform
  have hp := run_faultless cb s.window.registry s.world.caller
    hwithin (hok.imp_right fun hok fault hp => hok fault (by rw [hperform]; simp only [hp]; rfl))
  simp only [hp, hidle] at hperform
  rw [hperform]
  have hpass := @Effect.passes _ _ _ _ _ a cb s r (.pass (.ok (some
    { range
      created := (Progress.run cb s.window.items range.indices s.window.registry
        s.world.caller).created
      reused := (Progress.run cb s.window.items range.indices s.window.registry
        s.world.caller).reused
      dropped := (Progress.run cb s.window.items range.indices s.window.registry
        s.world.caller).left.size }))) range
    (Progress.run cb s.window.items range.indices s.window.registry s.world.caller) rfl
  rw [hstaged, hcut] at hpass
  exact hpass (fun st hst => (Option.some.inj hst).symm) hrange hwithin rfl hp

theorem pump_effect (now : Instant) (hok : cb.Total ∨ s.Unbroken a cb (.pump now)) :
    Effect a cb s (.pump now) (s.perform a cb (.pump now)).1 (s.perform a cb (.pump now)).2 := by
  have hpump := perform_pump a cb hlive now
  rcases hready : (s.collected.hasPending && s.collected.frameOver now) with _ | _
  · rw [hpump, hready]
    refine .waits _ now (Or.inl ⟨rfl, fun h => ?_⟩)
    simpa [h] using hready
  · rw [hready] at hpump
    exact release_effect hlive he hc rfl rfl rfl (s.collected.release now).2 hpump hok

theorem flush_effect (now : Instant) (hok : cb.Total ∨ s.Unbroken a cb (.flush now)) :
    Effect a cb s (.flush now) (s.perform a cb (.flush now)).1 (s.perform a cb (.flush now)).2 := by
  have hflush := perform_flush a cb hlive now
  rcases hready : s.collected.hasPending with _ | _
  · rw [hflush, hready]
    exact .waits _ now (Or.inr ⟨rfl, hready⟩)
  · rw [hready] at hflush
    exact release_effect hlive he hc rfl rfl rfl (s.collected.release now).2 hflush hok

end

/-- The scene with new items in which `setItems` flushes. -/
def refilled (items : Array α) (s : Scene κ σ α ε) : Scene κ σ α ε :=
  { s with window :=
      { s.window with
        registry := (s.window.registry.truncate items.size).1
        items
        throttle := s.window.throttle.request .data } }

theorem setItems_eq (a : Arithmetic) (cb : Callbacks σ α ε) (hlive : s.window.isDestroyed = false)
    (now : Instant) (items : Array α) :
    s.setItems a cb now items =
      match (s.refilled items).flush a cb now with
      | (.error fault, s) => (.error fault, s)
      | (.ok stats, s') =>
        let stats := stats.getD {}
        let stats := { stats with
          dropped := stats.dropped + (s.window.registry.truncate items.size).2 }
        (.ok stats, { s' with window := { s'.window with stats } }) := by
  rw [setItems, hlive]
  rfl

/-- New items always ask for a pass, so setting them runs one. -/
theorem setItems_released (a : Arithmetic) (cb : Callbacks σ α ε)
    (hlive : s.window.isDestroyed = false) (now : Instant) (items : Array α) :
    (s.refilled items).flush a cb now =
      (s.refilled items).collectEvents.renderReleased a cb
        (((s.refilled items).collected.release now).1,
          some ((s.refilled items).collected.release now).2) := by
  -- the flush finds the request for new items waiting, so it releases something
  have hpending : (s.refilled items).collected.hasPending = true := by
    rw [hasPending_collected]
    simp [refilled, Throttle.request, Throttle.hasPending, Reasons.union, Reasons.isEmpty,
      Reasons.data]
  have hsame : (s.refilled items).window.isDestroyed = s.window.isDestroyed := rfl
  rw [flush, hsame, hlive, collectEvents_eq]
  simp only [Bool.false_eq_true, if_false, Throttle.take, hpending, if_true]

theorem setItems_effect (hlive : s.window.isDestroyed = false)
    (he : (0 : Scalar) < s.window.itemExtent) (now : Instant) (items : Array α)
    (hc : items.size ≤ maxIndex) (hok : cb.Total ∨ s.Unbroken a cb (.setItems now items)) :
    Effect a cb s (.setItems now items) (s.perform a cb (.setItems now items)).1
      (s.perform a cb (.setItems now items)).2 := by
  let t := s.refilled items
  have hset := setItems_eq a cb hlive now items
  obtain ⟨range, hrange, hwithin, hrender⟩ := renderReleased_eq a cb (s := t) hlive he
    hc (t.collected.release now).1 (t.collected.release now).2
  rw [setItems_released a cb hlive, show s.refilled items = t from rfl, hrender] at hset
  have hp := run_faultless cb t.window.registry t.world.caller hwithin <|
    hok.imp_right fun hok fault hp => hok fault (by rw [perform, hset]; simp only [hp]; rfl)
  simp only [hp] at hset
  rw [perform, hset]
  exact .passes (.setItems now items) _ range _ rfl (fun st hst => (Option.some.inj hst).symm)
    hrange hwithin rfl hp

def stored (index : Nat) (item : α) (s : Scene κ σ α ε) : Scene κ σ α ε :=
  { s with window := { s.window with items := s.window.items.setIfInBounds index item } }

/-- Storing an item brings the element on display up to date in its place. -/
theorem updateAt_refresh (a : Arithmetic) (hlive : s.window.isDestroyed = false) {index : Nat}
    (hindex : index < s.window.items.size) (item : α) {held : ε}
    (hheld : s.window.registry.element? index = some held)
    {u : σ → ε → α → Nat → σ × ε × Bool} (hu : cb.update = some u) :
    s.updateAt a cb index item =
      (let (caller, left, done) := u s.world.caller held item index
       let w := { (s.stored index item).window with
         registry := s.window.registry.modify index fun _ => left }
       let world := { s.world with caller }
       if done then (.ok (.ok .updated), { window := w.place, world })
       else (.error (.updateFailed index), { window := w, world })) := by
  rw [updateAt, hlive]
  simp [Nat.not_le.2 hindex, hheld, hu, stored]

/-- Where it cannot, a whole pass shows the item if it is in range. -/
theorem updateAt_store (a : Arithmetic) (hlive : s.window.isDestroyed = false) {index : Nat}
    (hindex : index < s.window.items.size) (item : α)
    (hstore : (Request.updateAt index item).refreshes cb s.window = false) :
    s.updateAt a cb index item =
      if s.window.range.contains index then
        (((s.stored index item).render a cb).1.map fun _ => .ok .rerendered,
          ((s.stored index item).render a cb).2)
      else (.ok (.ok .deferred), s.stored index item) := by
  rw [updateAt, hlive]
  rcases hheld : s.window.registry.element? index with _ | held
  · simp [Nat.not_le.2 hindex, hheld, stored]
  · rcases hu : cb.update with _ | u
    · simp [Nat.not_le.2 hindex, hheld, stored]
    · simp [Request.refreshes, hheld, hu] at hstore

theorem updateAt_refuse (a : Arithmetic) (cb : Callbacks σ α ε)
    (hlive : s.window.isDestroyed = false) {index : Nat} (hindex : s.window.items.size ≤ index)
    (item : α) :
    s.updateAt a cb index item =
      (.ok (.error (.indexOutOfBounds index s.window.items.size)), s) := by
  rw [updateAt, hlive]
  simp [hindex]

theorem refreshes_spec {w : Window α ε} {index : Nat} {item : α}
    (h : (Request.updateAt index item).refreshes cb w = true) :
    ∃ held u, w.registry.element? index = some held ∧ cb.update = some u := by
  obtain ⟨hheld, hu⟩ := Bool.and_eq_true_iff.1 h
  obtain ⟨held, hheld⟩ := Option.isSome_iff_exists.1 hheld
  obtain ⟨u, hu⟩ := Option.isSome_iff_exists.1 hu
  exact ⟨held, u, hheld, hu⟩

theorem updateAt_effect (hlive : s.window.isDestroyed = false)
    (he : (0 : Scalar) < s.window.itemExtent) (hc : s.window.items.size ≤ maxIndex) (index : Nat)
    (item : α) (hok : cb.Total ∨ s.Unbroken a cb (.updateAt index item)) :
    Effect a cb s (.updateAt index item) (s.perform a cb (.updateAt index item)).1
      (s.perform a cb (.updateAt index item)).2 := by
  by_cases hindex : s.window.items.size ≤ index
  · rw [perform, updateAt_refuse a cb hlive hindex]
    exact .refuses index item hindex
  have hlt := Nat.lt_of_not_le hindex
  rcases hrefresh : (Request.updateAt index item).refreshes cb s.window with _ | _
  · have hstore := updateAt_store a hlive hlt item hrefresh
    by_cases hin : s.window.range.contains index = true
    · rw [if_pos hin] at hstore
      have hsize : (s.stored index item).window.items.size ≤ maxIndex := by simpa [stored] using hc
      obtain ⟨range, hrange, hwithin, hrender⟩ :=
        render_eq a cb (s := s.stored index item) hlive he hsize
      have hworld : (s.stored index item).world = s.world := rfl
      rw [hrender, hworld] at hstore
      have hp := run_faultless cb (s.stored index item).window.registry s.world.caller hwithin <|
        hok.imp_right fun hok fault hp =>
          hok fault (by rw [perform, hstore]; simp only [hp]; rfl)
      simp only [hp] at hstore
      rw [perform, hstore]
      exact .passes (.updateAt index item) _ range _ rfl (fun st hst => by cases hst) hrange
        hwithin rfl hp
    · rw [if_neg hin] at hstore
      rw [perform, hstore]
      exact .defers index item hlt (by simpa using hin)
  · obtain ⟨held, u, hheld, hu⟩ := refreshes_spec hrefresh
    have hupdate := updateAt_refresh a hlive hlt item hheld hu
    rcases hcall : u s.world.caller held item index with ⟨caller, left, done⟩
    rw [hcall] at hupdate
    cases done with
    | false =>
      rcases hok with hcb | hok
      · have := hcb.update u hu s.world.caller held item index
        rw [hcall] at this
        cases this
      · have := hok (.updateFailed index) (by rw [perform, hupdate]; rfl)
        simp [Fault.ofCaller] at this
    | true =>
      rw [perform, hupdate]
      exact .updates index item held left u caller hlt hheld hu hcall

/-- The list of effects is complete: a request that the caller's functions do not break off does to
a live window one of the things listed. -/
theorem perform_effect (hlive : s.window.isDestroyed = false)
    (he : (0 : Scalar) < s.window.itemExtent) (hc : s.window.items.size ≤ maxIndex) (r : Request α)
    (hfits : r.Fits) (hok : cb.Total ∨ s.Unbroken a cb r) :
    Effect a cb s r (s.perform a cb r).1 (s.perform a cb r).2 := by
  cases r with
  | setItems now items => exact setItems_effect hlive he now items hfits hok
  | updateAt index item => exact updateAt_effect hlive he hc index item hok
  | scrollToIndex index => exact .scrolls index
  | pump now => exact pump_effect hlive he hc now hok
  | flush now => exact flush_effect hlive he hc now hok
  | render => exact render_effect hlive he hc hok
  | destroy => exact .destroys

theorem unbroken_of_total (hcb : cb.Total) (hlive : s.window.isDestroyed = false)
    (he : (0 : Scalar) < s.window.itemExtent) (hc : s.window.items.size ≤ maxIndex) {r : Request α}
    (hfits : r.Fits) : s.Unbroken a cb r := by
  intro fault hfault
  rw [(perform_effect hlive he hc r hfits (.inl hcb)).faultless] at hfault
  cases hfault

/-- A destroyed window does nothing any more. -/
theorem perform_inert (hdead : s.window.isDestroyed = true) (cb : Callbacks σ α ε)
    (r : Request α) :
    s.perform a cb r = (r.inert (Container.scrollOffset s.world.container), s) := by
  cases r <;>
    simp [perform, setItems, updateAt, scrollToIndex, pump, flush, render, destroy, hdead,
      Request.inert]

theorem perform_destroyed (hdead : s.window.isDestroyed = true) (r : Request α) :
    (s.perform a cb r).2 = s := by
  rw [perform_inert hdead cb r]

/-! ## Everything a request can have done when it breaks off -/

/-- What a request has done to a live window when one of the caller's functions gives up. -/
inductive Breaks (a : Arithmetic) (cb : Callbacks σ α ε) (s : Scene κ σ α ε) :
    Request α → Fault → Scene κ σ α ε → Prop where
  /-- The pass of the request has broken off. -/
  | passes (r : Request α) (range : IndexRange) (p : Progress σ ε) (fault : Fault) :
      r.refreshes cb s.window = false →
      visibleRange a (Container.geometry s.world.container) s.window.itemExtent
        (r.staged s.window).items.size s.window.config.overscan = .ok range →
      range.Within (r.staged s.window).items.size →
      p = Progress.run cb (r.staged s.window).items range.indices (r.staged s.window).registry
        s.world.caller →
      p.fault = some fault →
      Breaks a cb s r fault
        (broken range p { s with window := { r.staged s.window with throttle := r.released s } })
  /-- The element on display has been left half-way. -/
  | updates (index : Nat) (item : α) (held left : ε) (u : σ → ε → α → Nat → σ × ε × Bool)
      (caller : σ) : index < s.window.items.size → s.window.registry.element? index = some held →
      cb.update = some u → u s.world.caller held item index = (caller, left, false) →
      Breaks a cb s (.updateAt index item) (.updateFailed index)
        { window := { (s.stored index item).window with
            registry := s.window.registry.modify index fun _ => left }
          world := { s.world with caller } }

section

variable {fault : Fault} (hlive : s.window.isDestroyed = false)
  (he : (0 : Scalar) < s.window.itemExtent)

include hlive he

theorem render_breaks (hc : s.window.items.size ≤ maxIndex)
    (h : (s.perform a cb .render).1.fault? = some fault) :
    Breaks a cb s .render fault (s.perform a cb .render).2 := by
  obtain ⟨range, hrange, hwithin, hrender⟩ := render_eq a cb hlive he hc
  simp only [perform, hrender] at h ⊢
  rcases hp : (Progress.run cb s.window.items range.indices s.window.registry
    s.world.caller).fault with _ | fault'
  · simp only [hp] at h
    cases h
  · simp only [hp] at h ⊢
    cases h
    exact .passes .render range _ fault rfl hrange hwithin rfl hp

theorem release_breaks (hc : s.window.items.size ≤ maxIndex) {r : Request α}
    (hstaged : r.staged s.window = s.window) (hpasses : r.refreshes cb s.window = false)
    (reasons : Reasons)
    (hperform : s.perform a cb r =
      (.pass (s.collectEvents.renderReleased a cb (r.released s, some reasons)).1,
        (s.collectEvents.renderReleased a cb (r.released s, some reasons)).2))
    (h : (s.perform a cb r).1.fault? = some fault) :
    Breaks a cb s r fault (s.perform a cb r).2 := by
  obtain ⟨range, hrange, hwithin, hrender⟩ := renderReleased_eq a cb hlive he hc
    (r.released s) reasons
  rw [hrender] at hperform
  rw [hperform] at h ⊢
  rcases hp : (Progress.run cb s.window.items range.indices s.window.registry
    s.world.caller).fault with _ | fault'
  · simp only [hp] at h
    cases h
  · simp only [hp] at h ⊢
    cases h
    have hbreak := @Breaks.passes _ _ _ _ _ a cb s r range
      (Progress.run cb s.window.items range.indices s.window.registry s.world.caller) fault hpasses
    rw [hstaged] at hbreak
    exact hbreak hrange hwithin rfl hp

theorem pump_breaks (hc : s.window.items.size ≤ maxIndex) (now : Instant)
    (h : (s.perform a cb (.pump now)).1.fault? = some fault) :
    Breaks a cb s (.pump now) fault (s.perform a cb (.pump now)).2 := by
  have hpump := perform_pump a cb hlive now
  rcases hready : (s.collected.hasPending && s.collected.frameOver now) with _ | _
  · rw [hpump, hready] at h
    cases h
  · rw [hready] at hpump
    exact release_breaks hlive he hc rfl rfl (s.collected.release now).2 hpump h

theorem flush_breaks (hc : s.window.items.size ≤ maxIndex) (now : Instant)
    (h : (s.perform a cb (.flush now)).1.fault? = some fault) :
    Breaks a cb s (.flush now) fault (s.perform a cb (.flush now)).2 := by
  have hflush := perform_flush a cb hlive now
  rcases hready : s.collected.hasPending with _ | _
  · rw [hflush, hready] at h
    cases h
  · rw [hready] at hflush
    exact release_breaks hlive he hc rfl rfl (s.collected.release now).2 hflush h

theorem setItems_breaks (now : Instant) (items : Array α) (hc : items.size ≤ maxIndex)
    (h : (s.perform a cb (.setItems now items)).1.fault? = some fault) :
    Breaks a cb s (.setItems now items) fault (s.perform a cb (.setItems now items)).2 := by
  have hset := setItems_eq a cb hlive now items
  obtain ⟨range, hrange, hwithin, hrender⟩ := renderReleased_eq a cb (s := s.refilled items) hlive
    he hc ((s.refilled items).collected.release now).1 ((s.refilled items).collected.release now).2
  rw [setItems_released a cb hlive, hrender] at hset
  simp only [perform, hset] at h ⊢
  rcases hp : (Progress.run cb (s.refilled items).window.items range.indices
    (s.refilled items).window.registry (s.refilled items).world.caller).fault with _ | fault'
  · simp only [hp] at h
    cases h
  · simp only [hp] at h ⊢
    cases h
    exact .passes (.setItems now items) range _ fault rfl hrange hwithin rfl hp

theorem updateAt_breaks (hc : s.window.items.size ≤ maxIndex) (index : Nat) (item : α)
    (h : (s.perform a cb (.updateAt index item)).1.fault? = some fault) :
    Breaks a cb s (.updateAt index item) fault (s.perform a cb (.updateAt index item)).2 := by
  by_cases hindex : s.window.items.size ≤ index
  · rw [perform, updateAt_refuse a cb hlive hindex] at h
    cases h
  have hlt := Nat.lt_of_not_le hindex
  rcases hrefresh : (Request.updateAt index item).refreshes cb s.window with _ | _
  · have hstore := updateAt_store a hlive hlt item hrefresh
    by_cases hin : s.window.range.contains index = true
    · rw [if_pos hin] at hstore
      have hsize : (s.stored index item).window.items.size ≤ maxIndex := by simpa [stored] using hc
      obtain ⟨range, hrange, hwithin, hrender⟩ :=
        render_eq a cb (s := s.stored index item) hlive he hsize
      rw [hrender] at hstore
      simp only [perform, hstore] at h ⊢
      rcases hp : (Progress.run cb (s.stored index item).window.items range.indices
        (s.stored index item).window.registry (s.stored index item).world.caller).fault with
        _ | fault'
      · simp only [hp] at h
        cases h
      · simp only [hp] at h ⊢
        cases h
        exact .passes (.updateAt index item) range _ fault hrefresh hrange hwithin rfl hp
    · rw [perform, hstore, if_neg hin] at h
      cases h
  · obtain ⟨held, u, hheld, hu⟩ := refreshes_spec hrefresh
    have hupdate := updateAt_refresh a hlive hlt item hheld hu
    rcases hcall : u s.world.caller held item index with ⟨caller, left, done⟩
    rw [hcall] at hupdate
    cases done with
    | true =>
      rw [perform, hupdate] at h
      cases h
    | false =>
      rw [perform, hupdate] at h ⊢
      cases h
      exact .updates index item held left u caller hlt hheld hu hcall

end

/-- A request of a live window breaks off where one of the caller's functions gives up, and nowhere
else. -/
theorem perform_breaks (hlive : s.window.isDestroyed = false)
    (he : (0 : Scalar) < s.window.itemExtent) (hc : s.window.items.size ≤ maxIndex) (r : Request α)
    (hfits : r.Fits) {fault : Fault} (h : (s.perform a cb r).1.fault? = some fault) :
    Breaks a cb s r fault (s.perform a cb r).2 := by
  cases r with
  | setItems now items => exact setItems_breaks hlive he now items hfits h
  | updateAt index item => exact updateAt_breaks hlive he hc index item h
  | scrollToIndex index => cases h
  | pump now => exact pump_breaks hlive he hc now h
  | flush now => exact flush_breaks hlive he hc now h
  | render => exact render_breaks hlive he hc h
  | destroy => cases h

theorem unbroken_of_faultless {r : Request α} (h : (s.perform a cb r).1.fault? = none) :
    s.Unbroken a cb r := by
  intro fault hfault
  cases h.symm.trans hfault

end Scene

end ListWindow
