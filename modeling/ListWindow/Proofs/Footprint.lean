import ListWindow.Proofs.Touch
import ListWindow.Proofs.Watch

/-!
What a window may touch of a scroll area that it shares with others. `World.Act` lists what somebody
can do to the area and the channels with subscriptions of their own; whatever is asked of a window,
and however it ends, the window does nothing but that (`Scene.perform_footprint`), and nothing of it
passes anybody else by (`World.Acts.heeds`).
-/
namespace ListWindow

variable {σ α ε : Type}

/-- One thing that is done to a shared world by somebody with some subscriptions of their own. -/
inductive World.Act (own : Subscription → Prop) (w : World ScrollArea σ) :
    World ScrollArea σ → Prop where
  | scroll (offset : Scalar) :
      Act own w
        { w with
          container := (w.container.scrollTo offset w.channels).1
          channels := (w.container.scrollTo offset w.channels).2 }
  | resize (extent : Scalar) :
      Act own w
        { w with
          container := (w.container.resize extent w.channels).1
          channels := (w.container.resize extent w.channels).2 }
  | content (extent : Scalar) : Act own w { w with container.content := extent }
  | caller (c : σ) : Act own w { w with caller := c }
  | receive {sub : Subscription} : own sub →
      Act own w { w with channels := (w.channels.receive sub.channel).1 }
  | take {sub : Subscription} : own sub →
      Act own w { w with channels := (w.channels.drain sub.channel).1 }
  | unlist {sub : Subscription} : own sub →
      Act own w { w with container := Container.unsubscribe sub.handle w.container }
  | close {sub : Subscription} : own sub →
      Act own w { w with channels := w.channels.close sub.channel }

def World.Acts (own : Subscription → Prop) : World ScrollArea σ → World ScrollArea σ → Prop :=
  Relation.ReflTransGen (World.Act own)

/-- Two subscriptions that have neither the handle nor the channel in common. -/
def Subscription.Apart (sub sub' : Subscription) : Prop :=
  sub.handle ≠ sub'.handle ∧ sub.channel ≠ sub'.channel

theorem Subscription.Apart.symm {sub sub' : Subscription} (h : sub.Apart sub') : sub'.Apart sub :=
  ⟨h.1.symm, h.2.symm⟩

namespace ScrollArea

theorem faithful (a : Arithmetic) : Faithful a ScrollArea.subscribers fun _ => True where
  subscribe := fun _ _ _ => ⟨trivial, rfl, rfl⟩
  scroll := fun offset _ _ _ => ⟨trivial, heeds_broadcast _ (.scroll offset) rfl⟩
  content := fun _ _ _ _ _ => ⟨trivial, rfl, fun _ => rfl⟩

end ScrollArea

namespace World

variable {own : Subscription → Prop} {w w' : World ScrollArea σ}

/-! ## What others do -/

theorem Act.frame (h : Act own w w') :
    w'.channels.size = w.channels.size ∧
      w'.container.subscribers.nextHandle = w.container.subscribers.nextHandle := by
  cases h with
  | scroll offset => exact ⟨Subscribers.size_announce _ _ _, rfl⟩
  | resize extent => exact ⟨Subscribers.size_announce _ _ _, rfl⟩
  | content _ => exact ⟨rfl, rfl⟩
  | caller _ => exact ⟨rfl, rfl⟩
  | receive _ => exact ⟨Channels.size_receive, rfl⟩
  | take _ => exact ⟨Channels.size_drain, rfl⟩
  | unlist _ => exact ⟨rfl, rfl⟩
  | close _ => exact ⟨Channels.size_close, rfl⟩

theorem heeds_of_same {mine : Subscription} {c : ScrollArea} {cs cs' : Channels}
    (hsame : cs'[mine.channel]? = cs[mine.channel]?) :
    Heeds ScrollArea.subscribers mine c cs c cs' := by
  rintro ⟨hlisted, hopen⟩
  obtain ⟨hopen', hwaiting⟩ := Channels.open_of_same hsame hopen
  exact ⟨⟨hlisted, hopen'⟩, fun hempty => ⟨hwaiting ▸ hempty, rfl⟩⟩

/-- Nothing that others do passes a subscription by. -/
theorem Act.heeds (h : Act own w w') {mine : Subscription}
    (happart : ∀ sub, own sub → sub.Apart mine) :
    Heeds ScrollArea.subscribers mine w.container w.channels w'.container w'.channels := by
  cases h with
  | scroll offset => exact heeds_broadcast ScrollArea.subscribers (.scroll offset) rfl mine
  | resize extent => exact heeds_broadcast ScrollArea.subscribers (.resize extent) rfl mine
  | content _ => exact fun h => ⟨h, fun hempty => ⟨hempty, rfl⟩⟩
  | caller _ => exact Heeds.refl _ _ _ _
  | receive hown => exact heeds_of_same (Channels.receive_getElem?_of_ne (happart _ hown).2)
  | take hown => exact heeds_of_same (Channels.drain_getElem?_of_ne (happart _ hown).2)
  | @unlist sub hown =>
    rintro ⟨hlisted, hopen⟩
    refine ⟨⟨?_, hopen⟩, fun hempty => ⟨hempty, rfl⟩⟩
    exact List.mem_filter.2 ⟨hlisted, by simpa using (happart sub hown).1.symm⟩
  | close hown => exact heeds_of_same (Channels.close_getElem?_of_ne (happart _ hown).2)

theorem Acts.frame (h : Acts own w w') :
    w'.channels.size = w.channels.size ∧
      w'.container.subscribers.nextHandle = w.container.subscribers.nextHandle := by
  induction h with
  | refl => exact ⟨rfl, rfl⟩
  | tail _ hlast ih =>
    obtain ⟨hsize, hnext⟩ := hlast.frame
    exact ⟨hsize.trans ih.1, hnext.trans ih.2⟩

theorem Acts.heeds (h : Acts own w w') {mine : Subscription}
    (happart : ∀ sub, own sub → sub.Apart mine) :
    Heeds ScrollArea.subscribers mine w.container w.channels w'.container w'.channels := by
  induction h with
  | refl => exact Heeds.refl _ _ _ _
  | tail _ hlast ih => exact ih.trans (hlast.heeds happart)

end World

/-! ## What a window does -/

/-- How a window moves a plain area: it scrolls it, or tells it how large the content is. -/
def ScrollArea.Moves (c : ScrollArea) (cs : Channels) (c' : ScrollArea) (cs' : Channels) : Prop :=
  (∃ offset, (c', cs') = c.scrollTo offset cs) ∨
    ∃ extent, (c', cs') = ({ c with content := extent }, cs)

theorem World.Touches.acts {reads ends own : Subscription → Prop} {w w' : World ScrollArea σ}
    (h : World.Touches ScrollArea.Moves reads ends w w') (hreads : ∀ sub, reads sub → own sub)
    (hends : ∀ sub, ends sub → own sub) : World.Acts own w w' := by
  refine Relation.ReflTransGen.mono ?_ _ _ h
  intro x y htouch
  cases htouch with
  | move hmoves =>
    obtain ⟨offset, heq⟩ | ⟨extent, heq⟩ := hmoves
    · obtain ⟨rfl, rfl⟩ := Prod.mk.inj heq
      exact .scroll offset
    · obtain ⟨rfl, rfl⟩ := Prod.mk.inj heq
      exact .content extent
  | caller c => exact .caller c
  | receive hsub => exact .receive (hreads _ hsub)
  | take hsub => exact .take (hreads _ hsub)
  | unlist hsub => exact .unlist (hends _ hsub)
  | close hsub => exact .close (hends _ hsub)

namespace Scene

/-- The window has acted with its own subscription only, and has not come by another one. -/
structure Footprint (s s' : Scene ScrollArea σ α ε) : Prop where
  acts : World.Acts (fun sub => s.window.subscription = some sub) s.world s'.world
  own : ∀ sub, s'.window.subscription = some sub → s.window.subscription = some sub

/-- Whatever is asked of a window, and however it ends, the window acts with its own subscription
only. -/
theorem perform_footprint (a : Arithmetic) (cb : Callbacks σ α ε) (r : Request α)
    (s : Scene ScrollArea σ α ε) : s.Footprint (s.perform a cb r).2 := by
  by_cases hr : r = .destroy
  · subst hr
    rw [perform]
    cases hlive : s.window.isDestroyed with
    | true =>
      rw [destroy, if_pos hlive]
      exact ⟨.refl, fun _ hsub => hsub⟩
    | false =>
      refine ⟨?_, ?_⟩
      · rw [destroy_world hlive]
        have htouches : World.Touches ScrollArea.Moves Subscription.none s.Mine s.world
            s.unsubscribe.world := s.unsubscribe_touches
        exact htouches.acts (fun _ => False.elim) fun _ hsub => hsub
      · intro sub hsub
        simp [destroy, hlive, unsubscribe_window] at hsub
  · have htreads : s.Treads ScrollArea.Moves (s.perform a cb r).2 :=
      perform_treads (fun extent c cs => .inr ⟨extent, rfl⟩) (fun offset c cs => .inl ⟨offset, rfl⟩)
        cb r hr s
    refine ⟨htreads.touches.acts (fun _ hsub => hsub) fun _ => False.elim, ?_⟩
    intro sub hsub
    exact htreads.keeps.symm.trans hsub

end Scene

end ListWindow
