import ListWindow.Proofs.Invariant

/-!
What a window touches of the world it shares, over any scroll area. `World.Touch` lists the ways to
touch a world: moving the area, calling the caller's functions, taking events out of a channel, and
taking a subscription off the list and closing its channel. What counts as moving the area is left
open.

Whatever is asked of a window, and however it ends, the window moves the area only as
`setScrollOffset` and `setContentExtent` do, takes events out of its own channel only, and keeps its
subscription (`Scene.perform_touches`); `destroy` gives up that one and no other
(`Scene.unsubscribe_touches`). So does a window that is built (`Builder.build_touches`).
-/
namespace ListWindow

variable {κ σ α ε : Type}

/-- One way to touch a world, where areas may be moved as `moves` says, events taken out of the
channels of `reads`, and the subscriptions of `ends` given up. -/
inductive World.Touch [Container κ] (moves : κ → Channels → κ → Channels → Prop)
    (reads ends : Subscription → Prop) (w : World κ σ) : World κ σ → Prop where
  | move {c : κ} {cs : Channels} : moves w.container w.channels c cs →
      Touch moves reads ends w { w with container := c, channels := cs }
  | caller (c : σ) : Touch moves reads ends w { w with caller := c }
  | receive {sub : Subscription} : reads sub →
      Touch moves reads ends w { w with channels := (w.channels.receive sub.channel).1 }
  | take {sub : Subscription} : reads sub →
      Touch moves reads ends w { w with channels := (w.channels.drain sub.channel).1 }
  | unlist {sub : Subscription} : ends sub →
      Touch moves reads ends w { w with container := Container.unsubscribe sub.handle w.container }
  | close {sub : Subscription} : ends sub →
      Touch moves reads ends w { w with channels := w.channels.close sub.channel }

def World.Touches [Container κ] (moves : κ → Channels → κ → Channels → Prop)
    (reads ends : Subscription → Prop) : World κ σ → World κ σ → Prop :=
  Relation.ReflTransGen (World.Touch moves reads ends)

/-- No subscription is given up. -/
def Subscription.none (_ : Subscription) : Prop := False

/-- A world once a channel is listed, and the subscription that stands for it. -/
def World.register [Container κ] (channel : Nat) (w : World κ σ) : World κ σ × Subscription :=
  ({ w with container := (Container.subscribe channel w.container).1 },
    ⟨(Container.subscribe channel w.container).2, channel⟩)

/-- A world once a new channel is opened and listed. -/
def World.enter [Container κ] (capacity : Nat) (w : World κ σ) : World κ σ × Subscription :=
  World.register (w.channels.openWith capacity).2
    { w with channels := (w.channels.openWith capacity).1 }

def World.without [Container κ] (sub : Subscription) (w : World κ σ) : World κ σ :=
  { w with
    container := Container.unsubscribe sub.handle w.container
    channels := w.channels.close sub.channel }

namespace World

variable [Container κ] {moves : κ → Channels → κ → Channels → Prop}
  {reads ends : Subscription → Prop} {w w' : World κ σ}

theorem Touches.mono {reads' ends' : Subscription → Prop} (h : Touches moves reads ends w w')
    (hreads : ∀ sub, reads sub → reads' sub) (hends : ∀ sub, ends sub → ends' sub) :
    Touches moves reads' ends' w w' := by
  refine Relation.ReflTransGen.mono ?_ _ _ h
  intro x y htouch
  cases htouch with
  | move hmoves => exact .move hmoves
  | caller c => exact .caller c
  | receive hsub => exact .receive (hreads _ hsub)
  | take hsub => exact .take (hreads _ hsub)
  | unlist hsub => exact .unlist (hends _ hsub)
  | close hsub => exact .close (hends _ hsub)

theorem without_touches (sub : Subscription) (w : World κ σ) :
    Touches moves reads (· = sub) w (w.without sub) :=
  Relation.ReflTransGen.tail (.single (.unlist rfl)) (.close rfl)

end World

namespace Scene

variable [Container κ] {moves : κ → Channels → κ → Channels → Prop} {s t u : Scene κ σ α ε}

def Mine (s : Scene κ σ α ε) (sub : Subscription) : Prop := s.window.subscription = some sub

/-- The window has touched the world as it may, and keeps its subscription. -/
structure Treads (moves : κ → Channels → κ → Channels → Prop) (s t : Scene κ σ α ε) : Prop where
  touches : World.Touches moves s.Mine Subscription.none s.world t.world
  keeps : t.window.subscription = s.window.subscription

theorem Treads.refl (s : Scene κ σ α ε) : s.Treads moves s := ⟨.refl, rfl⟩

theorem Treads.trans (h : s.Treads moves t) (h' : t.Treads moves u) : s.Treads moves u := by
  refine ⟨Relation.ReflTransGen.trans h.touches ?_, h'.keeps.trans h.keeps⟩
  refine h'.touches.mono ?_ fun _ hnone => hnone
  intro sub hsub
  exact h.keeps.symm.trans hsub

theorem Treads.inside (w : Window α ε) (h : w.subscription = s.window.subscription) :
    s.Treads moves { s with window := w } := ⟨.refl, h⟩

theorem Treads.touch {w : World κ σ}
    (h : World.Touch moves s.Mine Subscription.none s.world w) :
    s.Treads moves { s with world := w } := ⟨.single h, rfl⟩

theorem drained_treads (s : Scene κ σ α ε) :
    s.Treads moves { s with world := { s.world with channels := s.drained } } := by
  cases hsub : s.window.subscription with
  | none =>
    have hnone : s.drained = s.world.channels := by rw [drained, hsub]
    rw [hnone]
    exact .refl s
  | some sub =>
    have hmine : s.drained = (s.world.channels.drain sub.channel).1 := by rw [drained, hsub]
    rw [hmine]
    exact .touch (.take hsub)

theorem collectEvents_treads (s : Scene κ σ α ε) : s.Treads moves s.collectEvents := by
  rw [collectEvents_eq]
  exact (drained_treads s).trans (.inside _ rfl)

section

variable {a : Arithmetic} (hcontent : ∀ extent c cs, moves c cs
  (Container.setContentExtent a extent c) cs)

include hcontent

theorem render_treads (cb : Callbacks σ α ε) (s : Scene κ σ α ε) :
    s.Treads moves (s.render a cb).2 := by
  -- the window takes its events, runs the functions and tells the area how large the content is
  rw [render]
  split
  · exact .refl s
  · rw [discardEvents_eq]
    dsimp only
    have hdrained : s.Treads moves _ := drained_treads s
    split
    · exact hdrained.trans (.inside _ rfl)
    · rename_i range _
      have hcalled := hdrained.trans (.touch (.caller (reconcile cb s.window.items range
        s.window.registry s.world.caller).caller))
      split
      · exact hcalled.trans (.inside _ rfl)
      · exact (hcalled.trans (.touch (.move (hcontent _ _ _)))).trans (.inside _ rfl)

theorem renderReleased_treads (cb : Callbacks σ α ε) (released : Throttle × Option Reasons)
    (s : Scene κ σ α ε) : s.Treads moves (s.renderReleased a cb released).2 := by
  rcases released with ⟨th, _ | reasons⟩
  · exact .inside _ rfl
  · exact (Treads.inside { s.window with throttle := th } rfl).trans (render_treads hcontent cb _)

theorem pump_treads (cb : Callbacks σ α ε) (now : Instant) (s : Scene κ σ α ε) :
    s.Treads moves (s.pump a cb now).2 := by
  rw [pump]
  split
  · exact .refl s
  · exact (collectEvents_treads s).trans (renderReleased_treads hcontent cb _ _)

theorem flush_treads (cb : Callbacks σ α ε) (now : Instant) (s : Scene κ σ α ε) :
    s.Treads moves (s.flush a cb now).2 := by
  rw [flush]
  split
  · exact .refl s
  · exact (collectEvents_treads s).trans (renderReleased_treads hcontent cb _ _)

theorem setItems_treads (cb : Callbacks σ α ε) (now : Instant) (items : Array α)
    (s : Scene κ σ α ε) : s.Treads moves (s.setItems a cb now items).2 := by
  cases hlive : s.window.isDestroyed with
  | true =>
    rw [setItems, if_pos hlive]
    exact .refl s
  | false =>
    have hflush : s.Treads moves ((s.refilled items).flush a cb now).2 :=
      Treads.trans (Treads.inside (s.refilled items).window rfl)
        (flush_treads hcontent cb now (s.refilled items))
    rw [setItems_eq a cb hlive]
    rcases h : (s.refilled items).flush a cb now with ⟨fault | stats, t⟩
    · rw [h] at hflush
      exact hflush
    · rw [h] at hflush
      exact hflush.trans (.inside _ rfl)

theorem updateAt_treads (cb : Callbacks σ α ε) (index : Nat) (item : α) (s : Scene κ σ α ε) :
    s.Treads moves (s.updateAt a cb index item).2 := by
  rw [updateAt]
  dsimp only
  split
  · exact .refl s
  split
  · exact .refl s
  split
  · split
    · exact (Treads.touch (.caller _)).trans (.inside _ rfl)
    · exact (Treads.touch (.caller _)).trans (.inside _ rfl)
  · split
    · exact (Treads.inside
        { s.window with items := s.window.items.setIfInBounds index item } rfl).trans
        (render_treads hcontent cb _)
    · exact .inside _ rfl

/-- Whatever is asked of a window but its destruction, and however it ends, the window touches the
world only as it may and keeps its subscription. -/
theorem perform_treads (hscroll : ∀ offset c cs, moves c cs
      (Container.setScrollOffset a offset c cs).1 (Container.setScrollOffset a offset c cs).2)
    (cb : Callbacks σ α ε) (r : Request α) (hr : r ≠ .destroy) (s : Scene κ σ α ε) :
    s.Treads moves (s.perform a cb r).2 := by
  cases r with
  | setItems now items => exact setItems_treads hcontent cb now items s
  | updateAt index item => exact updateAt_treads hcontent cb index item s
  | scrollToIndex index =>
    rw [perform, scrollToIndex]
    dsimp only
    split
    · exact .refl s
    · exact .touch (.move (hscroll _ _ _))
  | pump now => exact pump_treads hcontent cb now s
  | flush now => exact flush_treads hcontent cb now s
  | render => exact render_treads hcontent cb s
  | destroy => exact absurd rfl hr

end

theorem unsubscribe_eq {sub : Subscription} (h : s.Mine sub) :
    s.unsubscribe =
      { window := { s.window with subscription := none }, world := s.world.without sub } := by
  have hsub : s.window.subscription = some sub := h
  rw [unsubscribe, hsub]
  rfl

theorem unsubscribe_touches {reads : Subscription → Prop} (s : Scene κ σ α ε) :
    World.Touches moves reads s.Mine s.world s.unsubscribe.world := by
  cases hsub : s.window.subscription with
  | none =>
    have hsame : s.unsubscribe = s := by rw [unsubscribe, hsub]
    rw [hsame]
    exact .refl
  | some sub =>
    rw [unsubscribe_eq hsub]
    refine (World.without_touches sub s.world).mono (fun _ hreads => hreads) ?_
    rintro mine rfl
    exact hsub

theorem destroy_world (hlive : s.window.isDestroyed = false) :
    s.destroy.world = s.unsubscribe.world := by
  rw [destroy, hlive]
  rfl

end Scene

/-- A window that is built enters the world with a subscription of its own and touches it only as it
may; if its first pass breaks off, it gives up the subscription. -/
theorem Builder.build_touches [Container κ] {moves : κ → Channels → κ → Channels → Prop}
    {a : Arithmetic}
    (hcontent : ∀ extent c cs, moves c cs (Container.setContentExtent a extent c) cs)
    {b : Builder σ α ε} {surface : Surface ε} {cb : Callbacks σ α ε}
    (hparts : b.parts = .ok (surface, cb)) (w : World κ σ) :
    ∃ w', World.Touches moves (· = (w.enter b.config.eventCapacity).2) Subscription.none
        (w.enter b.config.eventCapacity).1 w' ∧
      ((∃ window, b.build a w = (.ok (.ok window), w') ∧
          window.subscription = some (w.enter b.config.eventCapacity).2) ∨
        ∃ fault, b.build a w = (.error fault, w'.without (w.enter b.config.eventCapacity).2)) := by
  rw [build, carryOut_of_parts a hparts]
  obtain ⟨t, ht⟩ : ∃ t : Scene κ σ α ε, t = b.opened surface w := ⟨_, rfl⟩
  have hworld : t.world = (w.enter b.config.eventCapacity).1 := by
    rw [ht]
    rfl
  have hmine : t.window.subscription = some (w.enter b.config.eventCapacity).2 := by
    rw [ht]
    rfl
  have hrender : t.Treads moves (t.render a cb).2 := Scene.render_treads hcontent cb t
  have htouches : World.Touches moves (· = (w.enter b.config.eventCapacity).2) Subscription.none
      (w.enter b.config.eventCapacity).1 (t.render a cb).2.world := by
    rw [← hworld]
    refine hrender.touches.mono ?_ fun _ hnone => hnone
    intro sub hsub
    exact (Option.some.inj (hmine.symm.trans hsub)).symm
  refine ⟨(t.render a cb).2.world, htouches, ?_⟩
  have hkeeps := hrender.keeps.trans hmine
  rw [← ht]
  rcases h : t.render a cb with ⟨fault | stats, s⟩
  · rw [h] at hkeeps
    refine .inr ⟨fault, ?_⟩
    dsimp only
    rw [Scene.unsubscribe_eq hkeeps]
  · rw [h] at hkeeps
    exact .inl ⟨s.window, rfl, hkeeps⟩

end ListWindow
