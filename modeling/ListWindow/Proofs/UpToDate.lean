import ListWindow.Proofs.Ensemble
import ListWindow.Proofs.Viewport

/-!
No change of the geometry is lost. Events may be dropped on a full channel, taken by a direct pass,
held back by the throttle, or made obsolete by an area that scrolls back when it learns how large
the content is; still a live window is up to date unless something waits for it, and is so after
every flush (`Scene.KeepsUp`). `changes_kept` proves it over a plain scroll area that many share, in
any arithmetic, and over the viewport of a terminal in exact arithmetic.
-/
namespace ListWindow

variable {κ σ α ε : Type}

namespace Scene

variable [Container κ] {a : Arithmetic} {subs : κ → Subscribers} {Good : κ → Prop}
  {cb : Callbacks σ α ε} {s : Scene κ σ α ε}

/-- Unless an event or a reason for a pass waits, the range is the one that the present geometry
asks for; a flush does not break off, and after it nothing waits and the range is that one. -/
structure KeepsUp (a : Arithmetic) (cb : Callbacks σ α ε) (s : Scene κ σ α ε) : Prop where
  scheduled : s.waiting ≠ [] ∨ s.window.throttle.hasPending = true ∨ s.UpToDate a
  flush : ∀ now, ∃ stats, (s.flush a cb now).1 = .ok stats ∧ (s.flush a cb now).2.Settled ∧
    (s.flush a cb now).2.UpToDate a

theorem Watching.keepsUp (h : s.Watching a subs Good) (hfaithful : Faithful a subs Good)
    (hs : s.window.Consistent a) (hcb : cb.Total) (hlive : s.window.isDestroyed = false) :
    s.KeepsUp a cb where
  scheduled := by
    by_cases hwait : s.waiting = []
    · rcases hidle : s.window.throttle.hasPending with _ | _
      · exact .inr (.inr (h.abreast ⟨hwait, hidle⟩))
      · exact .inr (.inl rfl)
    · exact .inl hwait
  flush := by
    intro now
    have heffect := perform_effect (a := a) hlive hs.pos hs.bounded (.flush now) trivial (.inl hcb)
    have hfault := heffect.faultless
    have hsettles := heffect.flush_settles hfaithful hs hlive h
    simp only [perform] at hfault hsettles
    rcases hflush : (s.flush a cb now).1 with fault | stats
    · rw [hflush] at hfault
      cases hfault
    · exact ⟨stats, rfl, hsettles⟩

end Scene

/-- A window over the viewport of a terminal: it watches the viewport while it lives, and has no
items afterwards. -/
structure Scene.WatchesViewport (s : Scene Screen.Viewport σ α ε) : Prop where
  proper : s.world.container.Proper
  live : s.window.isDestroyed = false → s.window.Consistent .exact ∧
    s.Watching .exact Screen.Viewport.subscribers Screen.Viewport.Proper
  dead : s.window.isDestroyed = true → s.window.items = #[]

theorem Scene.destroy_spec {s : Scene Screen.Viewport σ α ε} (hlive : s.window.isDestroyed = false)
    (hproper : s.world.container.Proper) :
    s.destroy.window.items = #[] ∧ s.destroy.world.container.Proper := by
  rw [destroy, hlive, unsubscribe]
  refine ⟨rfl, ?_⟩
  rcases s.window.subscription with _ | sub
  · exact hproper
  · exact ⟨hproper.offset, hproper.nonneg, hproper.content, hproper.height⟩

section

variable {cb : Callbacks σ α ε} {s : Scene Screen.Viewport σ α ε}

/-- Navigation and requests keep a window watching the viewport. A pass leaves nothing waiting, all
else is quiet. -/
theorem Scene.Step.watches {ran : Bool} {s' : Scene Screen.Viewport σ α ε}
    (hstep : Scene.Step .exact cb Screen.Navigates ran s s') (hcb : cb.Total)
    (hs : s.WatchesViewport) :
    s'.WatchesViewport ∧ (s'.window.isDestroyed = false →
      (ran = true → s'.Settled ∧ s'.UpToDate .exact) ∧
        (ran = false → s.window.isDestroyed = false ∧ s.Quiet s')) := by
  cases hstep with
  | outside hnavigates =>
    obtain ⟨hproper, hheeds⟩ := hnavigates.spec hs.proper
    have hother := fun hlive => (hs.live hlive).2.outside hproper fun mine _ => hheeds mine
    refine ⟨⟨hproper, fun hlive => ⟨(hs.live hlive).1, (hother hlive).2⟩, hs.dead⟩, ?_⟩
    exact fun hlive => ⟨fun hran => (by cases hran), fun _ => ⟨hlive, (hother hlive).1⟩⟩
  | ask r hfits _ =>
    rcases hlive : s.window.isDestroyed with _ | _
    · obtain ⟨hconsistent, hwatching⟩ := hs.live hlive
      have heffect := Scene.perform_effect (a := .exact) hlive hconsistent.pos hconsistent.bounded r
        hfits (.inl hcb)
      have hafter := fun hlive' =>
        Scene.perform_watching (r := r) Screen.Viewport.faithful hcb hfits hs.live hlive'
      rcases hlive' : (s.perform .exact cb r).2.window.isDestroyed with _ | _
      · obtain ⟨hconsistent', hwatching', hpass, hquiet⟩ := hafter hlive'
        refine ⟨⟨hwatching'.good, fun _ => ⟨hconsistent', hwatching'⟩, ?_⟩, ?_⟩
        · intro hdead
          cases hlive'.symm.trans hdead
        · exact fun _ => ⟨hpass, fun hran => ⟨rfl, hquiet hran⟩⟩
      · -- the request has ended the life of the window
        obtain ⟨hitems, hproper⟩ := Scene.destroy_spec hlive hs.proper
        have hsame := (heffect.dies hlive hlive').2
        rw [hsame] at hlive' ⊢
        refine ⟨⟨hproper, ?_, fun _ => hitems⟩, ?_⟩
        · intro hlive
          cases hlive'.symm.trans hlive
        · intro hlive
          cases hlive
    · rw [Scene.perform_destroyed hlive]
      refine ⟨hs, ?_⟩
      intro hlive'
      cases hlive.symm.trans hlive'

theorem Built.watches (h : Built .exact cb Screen.Navigated s) :
    s.WatchesViewport ∧ s.Settled ∧ s.UpToDate .exact := by
  obtain ⟨hwatching, hboth⟩ := h.watching Screen.Viewport.faithful fun w hw => hw.proper
  refine ⟨⟨hwatching.good, fun _ => ⟨h.consistent, hwatching⟩, ?_⟩, hboth⟩
  intro hdead
  cases h.live.symm.trans hdead

theorem Reachable.watches (h : Reachable .exact cb Screen.Navigated Screen.Navigates s)
    (hcb : cb.Total) : s.WatchesViewport :=
  h.invariant (fun _ hs => hs.watches.1) fun _ _ _ hstep hs => (hstep.watches hcb hs).1

theorem JustDrawn.watches (h : JustDrawn .exact cb Screen.Navigated Screen.Navigates s)
    (hcb : cb.Total) :
    s.WatchesViewport ∧ (s.window.isDestroyed = false → s.Settled ∧ s.UpToDate .exact) := by
  rcases h with hbuilt | ⟨s₀, hreach, hstep⟩
  · exact ⟨hbuilt.watches.1, fun _ => hbuilt.watches.2⟩
  · obtain ⟨hwatches, hpass⟩ := hstep.watches hcb (hreach.watches hcb)
    exact ⟨hwatches, fun hlive => (hpass hlive).1 rfl⟩

/-- Since its last pass all has been quiet for a live window. -/
theorem SincePass.quiet {drawn : Scene Screen.Viewport σ α ε}
    (h : SincePass .exact cb Screen.Navigates drawn s) (hcb : cb.Total)
    (hdrawn : drawn.WatchesViewport) :
    s.WatchesViewport ∧ (s.window.isDestroyed = false →
      drawn.window.isDestroyed = false ∧ drawn.Quiet s) := by
  induction h with
  | refl => exact ⟨hdrawn, fun hlive => ⟨hlive, .refl drawn⟩⟩
  | tail _ hlast ih =>
    obtain ⟨hwatches, hquiet⟩ := ih
    obtain ⟨hwatches', hstep⟩ := hlast.watches hcb hwatches
    refine ⟨hwatches', fun hlive' => ?_⟩
    obtain ⟨hlive, hsame⟩ := (hstep hlive').2 rfl
    exact ⟨(hquiet hlive).1, (hquiet hlive).2.trans hsame⟩

end

/-- No change of the geometry is lost on a live window whose functions never give up: neither over a
plain scroll area, which any number of windows and listeners may share that come and go under at
most `2 ^ 32` subscriptions, nor over the viewport of a terminal, in exact arithmetic, that is
navigated in any way. -/
theorem changes_kept :
    (∀ {σ : Type} (a : Arithmetic) (E : Ensemble σ) (k : Nat) (res : Resident σ),
      E.Reachable a → E.windows k = some res → res.cb.Total → res.window.isDestroyed = false →
      (res.scene E.world).KeepsUp a res.cb) ∧
    ∀ {σ α ε : Type} (cb : Callbacks σ α ε) (s : Scene Screen.Viewport σ α ε),
      Reachable .exact cb Screen.Navigated Screen.Navigates s → cb.Total →
      s.window.isDestroyed = false → s.KeepsUp .exact cb := by
  constructor
  · intro σ a E k res hE hk hcb hlive
    obtain ⟨hs, hwatching⟩ := hE.sound.watching k res hk hcb hlive
    exact hwatching.keepsUp (ScrollArea.faithful a) hs hcb hlive
  · intro σ α ε cb s hreach hcb hlive
    obtain ⟨hs, hwatching⟩ := (hreach.watches hcb).live hlive
    exact hwatching.keepsUp Screen.Viewport.faithful hs hcb hlive

/-- A window onto three numbers keeps up with a plain scroll area that is moved, and another one
with the viewport of a terminal that is scrolled by a line. -/
theorem changes_kept_copying :
    (∃ (E : Ensemble Unit) (res : Resident Unit), E.Reachable .binary64 ∧
      E.windows 0 = some res ∧ (res.scene E.world).KeepsUp .binary64 res.cb) ∧
    ∃ s : Scene Screen.Viewport Unit Nat Nat,
      Reachable .exact .copying Screen.Navigated Screen.Navigates s ∧
        s.KeepsUp .exact .copying := by
  have hthree : (Builder.copying #[4, 5, 6]).items.size ≤ maxIndex := by decide
  constructor
  · let E₀ : Ensemble Unit :=
      { world := { container := { extent := 2 }, channels := #[], caller := () } }
    obtain ⟨s, hs, _⟩ := Builder.build_total .binary64 (Builder.copying_parts _) hthree
      Callbacks.copying_total E₀.world
    have hbuilt : Built .binary64 .copying anywhere s :=
      ⟨_, E₀.world, trivial, hthree, ⟨_, Builder.copying_parts _⟩, hs⟩
    let E₁ : Ensemble Unit :=
      { E₀ with
        world := s.world
        windows := Function.update E₀.windows 0 (some { cb := .copying, window := s.window })
        made := 1 }
    have hbuild : Ensemble.Step .binary64 E₀ E₁ :=
      .build rfl (by decide) (Builder.copying_parts _) hthree hs
    have hreach : Ensemble.Reachable .binary64 { E₁ with world := _ } :=
      ⟨E₀.world, rfl, .tail (.single hbuild) (.act (.scroll 1))⟩
    exact ⟨_, _, hreach, rfl,
      changes_kept.1 .binary64 _ 0 _ hreach rfl Callbacks.copying_total hbuilt.live⟩
  · let w : World Screen.Viewport Unit :=
      { container := .ofTerminal 24 2, channels := #[], caller := () }
    obtain ⟨s, hs, _⟩ := Builder.build_total .exact (Builder.copying_parts _) hthree
      Callbacks.copying_total w
    have hnavigated : Screen.Navigated w := ⟨w, 24, 2, by decide, rfl, .refl⟩
    have hbuilt : Built .exact .copying Screen.Navigated s :=
      ⟨_, w, hnavigated, hthree, ⟨_, Builder.copying_parts _⟩, hs⟩
    have hreach :
        Reachable .exact .copying Screen.Navigated Screen.Navigates { s with world := _ } :=
      Reachable.step ⟨s, hbuilt, .refl⟩ (.outside (.scrollBy 1))
    exact ⟨_, hreach, changes_kept.2 .copying _ hreach Callbacks.copying_total hbuilt.live⟩

end ListWindow
