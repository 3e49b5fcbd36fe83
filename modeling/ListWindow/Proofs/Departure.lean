import ListWindow.Proofs.Commons
import ListWindow.Proofs.Recycling

/-!
How a window leaves. A window that is destroyed lets go of everything (`Scene.destroy_vacant`), and
nothing that is asked of it afterwards has any effect, in whatever world (`Scene.Inert`).

In a world that it shares with others (`Commons`) a live window takes exactly its own entry off the
list of the area when it is destroyed, or dropped without that (`Commons.Reachable.departs`).
-/
namespace ListWindow

variable {κ σ α ε : Type}

/-! ## Nothing is left of the window -/

/-- A window that has let go of everything. -/
structure Window.Vacant (w : Window α ε) : Prop where
  destroyed : w.isDestroyed = true
  items : w.items = #[]
  registry : w.registry.entries = []
  range : w.range = .empty
  spacers : w.spacers = { leading := 0, trailing := 0 }
  surface : w.surface.regions = []
  subscription : w.subscription = none
  /-- No pass is waited for, and none will fall due. -/
  idle : w.throttle.hasPending = false ∧ ∀ now, w.throttle.deadline now = .ok none

namespace Scene

variable [Container κ] {a : Arithmetic} {s : Scene κ σ α ε}

def performAll (a : Arithmetic) (cb : Callbacks σ α ε) :
    List (Request α) → Scene κ σ α ε → List Answer × Scene κ σ α ε
  | [], s => ([], s)
  | r :: rest, s =>
    let (answer, s) := s.perform a cb r
    let (answers, s) := performAll a cb rest s
    (answer :: answers, s)

theorem destroy_vacant (hlive : s.window.isDestroyed = false) : s.destroy.window.Vacant := by
  rw [destroy_window hlive]
  exact ⟨rfl, rfl, rfl, rfl, rfl, rfl, rfl, rfl, fun _ => rfl⟩

/-! ## Nothing happens afterwards -/

/-- Whatever is asked of the window, it answers without doing anything, and calls none of the
caller's functions. Dropping it changes nothing either. -/
structure Inert (a : Arithmetic) (s : Scene κ σ α ε) : Prop where
  answers : ∀ (cb : Callbacks σ α ε) (requests : List (Request α)),
    s.performAll a cb requests =
      (requests.map (Request.inert (Container.scrollOffset s.world.container)), s)
  uncalled : ∀ (cb : Callbacks σ α ε) (requests : List (Request α)) (log : List (Call α ε)),
    ((s.logged log).performAll a cb.recording requests).2 = s.logged log
  drop : s.unsubscribe = s

theorem performAll_inert (hdead : s.window.isDestroyed = true) (cb : Callbacks σ α ε)
    (requests : List (Request α)) :
    s.performAll a cb requests =
      (requests.map (Request.inert (Container.scrollOffset s.world.container)), s) := by
  induction requests with
  | nil => rfl
  | cons r rest ih =>
    rw [performAll, perform_inert hdead cb r]
    dsimp only
    rw [ih]
    rfl

theorem inert_of_vacant (h : s.window.Vacant) : s.Inert a where
  answers := performAll_inert h.destroyed
  uncalled cb requests log := by
    rw [performAll_inert (s := s.logged log) h.destroyed]
  drop := by rw [unsubscribe, h.subscription]

end Scene

/-! ## Others are left alone -/

namespace Commons

variable [Container κ] {a : Arithmetic} {subs : κ → Subscribers} {E : Commons κ σ}

/-- What is left of the list once one entry is taken off it; if somebody else has withdrawn that
entry before, all of it. -/
def Struck (withdrawn : List UInt32) (mine : Subscription) (s s' : Subscribers) : Prop :=
  (∃ before after, s.entries = before ++ mine :: after ∧
    s' = { s with entries := before ++ after }) ∨
  mine.handle ∈ withdrawn ∧ mine ∉ s.entries ∧ s' = s

/-- How a window leaves others behind, and what becomes of it. -/
structure Departs (a : Arithmetic) (subs : κ → Subscribers) (E : Commons κ σ) (k : Nat)
    (mine : Subscription) (s : Scene κ σ α ε) : Prop where
  /-- The subscription is given up and nothing else in the world is touched, whether the window is
  destroyed or only dropped. -/
  destroy : s.destroy.world = s.world.without mine
  drop : s.unsubscribe.world = s.world.without mine
  /-- The entry of the window is taken off the list. -/
  struck : Struck E.withdrawn mine (subs s.world.container)
    (subs (s.world.without mine).container)
  /-- The channel of the window closes, and no other one changes. -/
  channels : (s.world.without mine).channels.listens mine.channel = false ∧
    ∀ id, id ≠ mine.channel → (s.world.without mine).channels[id]? = s.world.channels[id]?
  /-- It has nothing in common with the subscription of any other window. -/
  apart : ∀ l other, l ≠ k → E.Holds l other → mine.Apart other
  vacant : s.destroy.window.Vacant
  /-- Whatever others do meanwhile, nothing that is asked of the window has any effect. -/
  inert : ∀ w : World κ σ, ({ s.destroy with world := w } : Scene κ σ α ε).Inert a

theorem Sound.struck (hreg : Registers a subs) (h : E.Sound subs) {k : Nat} {mine : Subscription}
    (hmine : E.Holds k mine) :
    Struck E.withdrawn mine (subs E.world.container)
      (subs (E.world.without mine).container) := by
  obtain ⟨hmem, hstands⟩ := h.holds k mine hmine
  have hnodup : ((subs E.world.container).entries.map (·.handle)).Nodup :=
    h.nodup.sublist (h.order.map _)
  show Struck _ _ _ (subs (Container.unsubscribe mine.handle E.world.container))
  rw [hreg.unsubscribe]
  by_cases hlisted : mine ∈ (subs E.world.container).entries
  · obtain ⟨before, after, hsplit⟩ := List.append_of_mem hlisted
    refine .inl ⟨before, after, hsplit, ?_⟩
    rw [Subscribers.remove_split hnodup hsplit]
  · refine .inr ⟨?_, hlisted, ?_⟩
    · by_contra hkept
      exact hlisted (hstands.listed hkept)
    · rw [Subscribers.remove_absent]
      intro entry hentry heq
      -- handles are given out once, so the entry would be the one of the window
      have hsame : entry = mine :=
        List.inj_on_of_nodup_map h.nodup (h.order.subset hentry) hmem heq
      exact hlisted (hsame ▸ hentry)

/-- The end of a window.

Whatever has happened in the world it shares, a live window has a subscription of its own. When it
is destroyed, it lets go of everything it has, its entry goes off the list of the area and the
others stay as they are and in their order; afterwards nothing that is asked of it does anything. A
window that is dropped leaves the world in the same way. -/
theorem Reachable.departs (hreg : Registers a subs) (h : E.Reachable a subs) {k : Nat}
    {res : Resident σ} (hk : E.windows k = some res) (hlive : res.window.isDestroyed = false) :
    ∃ mine, res.window.subscription = some mine ∧
      E.Departs a subs k mine (res.inWorld E.world) := by
  have hsound := h.sound hreg
  obtain ⟨mine, hmine⟩ := hsound.live k res hk hlive
  have hholds : E.Holds k mine := ⟨res, hk, hmine⟩
  have hdrop : (res.inWorld E.world).unsubscribe.world = E.world.without mine := by
    rw [Scene.unsubscribe_eq (s := res.inWorld E.world) hmine]
    rfl
  have hvacant : (res.inWorld E.world).destroy.window.Vacant := Scene.destroy_vacant hlive
  exact ⟨mine, hmine,
    { destroy := (Scene.destroy_world hlive).trans hdrop
      drop := hdrop
      struck := hsound.struck hreg hholds
      channels :=
        ⟨Channels.close_listens mine.channel _,
          fun _ hne => Channels.close_getElem?_of_ne hne.symm⟩
      apart := fun l other hne hl => hsound.apart k l mine other hne.symm hholds hl
      vacant := hvacant
      inert := fun _ => Scene.inert_of_vacant hvacant }⟩

/-- A window, a guest and another window share the viewport of a terminal, and the first window
goes. -/
theorem departs_shared :
    ∃ (E : Commons Screen.Viewport Unit) (res : Resident Unit),
      E.Reachable .binary64 Screen.Viewport.subscribers ∧ E.windows 0 = some res ∧
      res.window.isDestroyed = false ∧
      E.Departs .binary64 Screen.Viewport.subscribers 0 ⟨0, 0⟩ (res.inWorld E.world) ∧
      E.world.container.subscribers.entries = [⟨0, 0⟩, ⟨1, 1⟩, ⟨2, 2⟩] ∧
      (E.world.without ⟨0, 0⟩).container.subscribers.entries = [⟨1, 1⟩, ⟨2, 2⟩] := by
  let w₀ : World Screen.Viewport Unit :=
    { container := .ofTerminal 24 2, channels := #[], caller := () }
  have hrun : (match (Builder.copying #[4, 5, 6]).build .binary64 w₀ with
    | (.ok (.ok first), w₁) =>
      match (Builder.copying #[7, 8]).build .binary64
          (World.register 1 { w₁ with channels := (w₁.channels.openWith 4).1 }).1 with
      | (.ok (.ok _), w₂) =>
        decide (first.isDestroyed = false ∧ first.subscription = some ⟨0, 0⟩ ∧
          w₂.container.subscribers.entries = [⟨0, 0⟩, ⟨1, 1⟩, ⟨2, 2⟩] ∧
          (w₂.without ⟨0, 0⟩).container.subscribers.entries = [⟨1, 1⟩, ⟨2, 2⟩])
      | (.ok (.error _), _) | (.error _, _) => false
    | (.ok (.error _), _) | (.error _, _) => false) = true := by decide +kernel
  split at hrun
  · rename_i first w₁ hfirst
    split at hrun
    · rename_i second w₂ hsecond
      obtain ⟨hlive, hmine, hbefore, hafter⟩ := of_decide_eq_true hrun
      have hroom (n : Nat) (hn : n < 3) : n < UInt32.size := by
        have hsize : UInt32.size = 4294967296 := rfl
        omega
      have hempty : Reachable .binary64 Screen.Viewport.subscribers
          ({ world := w₀ } : Commons Screen.Viewport Unit) := ⟨w₀, rfl, .refl⟩
      have hwindow := hempty.step
        (.build (k := 0) rfl (hroom 0 (by omega)) (Builder.copying_parts _) hfirst)
      have hguest := (hwindow.step (.openWith 4)).step (.list 1 (hroom 1 (by omega)))
      have hboth := hguest.step
        (.build (k := 1) rfl (hroom 2 (by omega)) (Builder.copying_parts _) hsecond)
      obtain ⟨mine, hmine', hdeparts⟩ :=
        hboth.departs (Screen.Viewport.registers .binary64) (k := 0) rfl hlive
      obtain rfl := Option.some.inj (hmine'.symm.trans hmine)
      exact ⟨_, _, hboth, rfl, hlive, hdeparts, hbefore, hafter⟩
    · cases hrun
    · cases hrun
  · cases hrun
  · cases hrun

end Commons

end ListWindow
