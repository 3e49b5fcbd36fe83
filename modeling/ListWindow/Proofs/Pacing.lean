import ListWindow.Proofs.Watch
import Mathlib.Data.List.Chain

/-!
The pace of a window. A run is told with its requests (`Scene.History`), and the releases of the
throttle are read off them: a pump, a flush or new items release what waits, and only a pump is
paced, that is, waits for the end of the frame. The throttle knows the time of the last release of
the run (`Scene.OnTime`), so a pump runs a pass exactly when something waits and the frame of that
release is over (`pump_passes_iff`). Hence no paced release comes within a frame of the one before,
nothing waits without a deadline, and a pass leaves nothing waiting (`Scene.History.keeps_pace`).
-/
namespace ListWindow

variable {κ σ α ε : Type}

/-- A release of the throttle. One that is paced has waited for the end of the frame. -/
structure Release where
  time : Instant
  paced : Bool

/-- The release of a request, given whether it ran a pass. Direct passes and updates release
nothing. -/
def Request.release? : Request α × Bool → Option Release
  | (pump now, true) => some ⟨now, true⟩
  | (flush now, true) | (setItems now _, true) => some ⟨now, false⟩
  | _ => none

def releases (log : List (Request α × Bool)) : List Release := log.filterMap Request.release?

/-- The second of two releases is not paced or comes a frame after the first. -/
def Release.Apart (frame : Nat) (x y : Release) : Prop := y.paced = true → x.time + frame ≤ y.time

/-- Each of several paced releases comes a frame after all before it. -/
theorem Release.apart_pairwise {frame : Nat} {x : Release} {later : List Release}
    (h : (x :: later).IsChain (Apart frame)) (hpaced : ∀ y ∈ later, y.paced = true) :
    (x :: later).Pairwise fun x y : Release => x.time + frame ≤ y.time := by
  let R (x y : Release) : Prop := x.time + frame ≤ y.time
  have : Trans R R R := ⟨fun {x y z} hxy hyz =>
    calc x.time + frame ≤ y.time := hxy
      _ ≤ y.time + frame := Int.le_add_of_nonneg_right (Int.natCast_nonneg frame)
      _ ≤ z.time := hyz⟩
  have hchain : (x :: later).IsChain R :=
    h.imp_of_mem_tail_imp fun _ y _ hy hapart => hapart (hpaced y hy)
  exact hchain.pairwise

theorem Request.release?_paced {r : Request α} {ran : Bool} {x : Release}
    (h : release? (r, ran) = some x) (hpaced : x.paced = true) : r = .pump x.time ∧ ran = true := by
  rcases ran with _ | _
  · cases r <;> cases h
  · cases r <;> cases h
    · cases hpaced
    · exact ⟨rfl, rfl⟩
    · cases hpaced

@[simp] theorem Request.release?_false (r : Request α) : release? (r, false) = none := by
  cases r <;> rfl

theorem releases_snoc (log : List (Request α × Bool)) (entry : Request α × Bool) :
    releases (log ++ [entry]) = releases log ++ (Request.release? entry).toList := by
  rw [releases, List.filterMap_append, ← releases]
  rfl

namespace Throttle

variable {t : Throttle}

theorem le_elapsed_iff {duration : Nat} (hpos : 0 < duration) (start now : Int) :
    duration ≤ elapsed start now ↔ start + duration ≤ now := by
  unfold elapsed
  omega

theorem frameOver_iff (hframe : 0 < t.frame) (now : Instant) :
    t.frameOver now = true ↔ ∀ last ∈ t.lastRelease, last + t.frame ≤ now := by
  rcases h : t.lastRelease with _ | last
  · simp [frameOver, h]
  · have hover : t.frameOver now = decide (t.frame ≤ elapsed last now) := by
      rw [frameOver, h]
    rw [hover, decide_eq_true_iff, le_elapsed_iff hframe]
    simp

end Throttle

namespace Scene

theorem requests_time (events : List ViewportEvent) (t : Throttle) :
    (events.foldl Window.requestFor t).frame = t.frame ∧
      (events.foldl Window.requestFor t).lastRelease = t.lastRelease := by
  induction events generalizing t with
  | nil => exact ⟨rfl, rfl⟩
  | cons event rest ih =>
    rw [List.foldl_cons, (ih _).1, (ih _).2]
    cases event <;> exact ⟨rfl, rfl⟩

@[simp] theorem collected_frame (s : Scene κ σ α ε) : s.collected.frame = s.window.throttle.frame :=
  (requests_time _ _).1

@[simp] theorem collected_lastRelease (s : Scene κ σ α ε) :
    s.collected.lastRelease = s.window.throttle.lastRelease :=
  (requests_time _ _).2

@[simp] theorem collected_frameOver (s : Scene κ σ α ε) (now : Instant) :
    s.collected.frameOver now = s.window.throttle.frameOver now := by
  rw [Throttle.frameOver, Throttle.frameOver, collected_frame, collected_lastRelease]

theorem released_time (r : Request α) (s : Scene κ σ α ε) :
    (r.released s).frame = s.window.throttle.frame ∧
      (r.released s).lastRelease =
        ((Request.release? (r, true)).map Release.time).or s.window.throttle.lastRelease := by
  cases r with
  | setItems now items => exact ⟨(requests_time _ _).1, rfl⟩
  | pump now => exact ⟨collected_frame s, rfl⟩
  | flush now => exact ⟨collected_frame s, rfl⟩
  | _ => exact ⟨rfl, rfl⟩

theorem collected_pending (s : Scene κ σ α ε) : s.collected.hasPending = true ↔ ¬s.Settled := by
  rw [hasPending_collected, Settled]
  cases s.window.throttle.hasPending <;> simp

/-- The throttle keeps to a frame and to the releases of a log: it knows the time of the last of
them, and none that is paced comes within a frame of the one before. Without a frame it does not
look at the clock. -/
structure OnTime (frame : Nat) (log : List (Request α × Bool)) (s : Scene κ σ α ε) : Prop where
  config : s.window.config.frameDuration = frame
  throttle : s.window.throttle.frame = frame
  last : s.window.isDestroyed = false →
    s.window.throttle.lastRelease = (releases log).getLast?.map Release.time
  apart : 0 < frame → (releases log).IsChain (Release.Apart frame)

theorem OnTime.frameOver_iff {frame : Nat} {log : List (Request α × Bool)}
    {s : Scene κ σ α ε} (h : s.OnTime frame log)
    (hlive : s.window.isDestroyed = false) (hframe : 0 < frame) (now : Instant) :
    s.window.throttle.frameOver now = true ↔
      ∀ x ∈ (releases log).getLast?, x.time + frame ≤ now := by
  rw [Throttle.frameOver_iff (h.throttle ▸ hframe), h.last hlive, h.throttle]
  simp

variable [Container κ] {a : Arithmetic} {cb : Callbacks σ α ε}
  {outside : World κ σ → World κ σ → Prop} {start : World κ σ → Prop} {s s' s₀ : Scene κ σ α ε}
  {r : Request α} {answer : Answer} {log : List (Request α × Bool)}

/-! ## One request -/

theorem Effect.config (h : Effect a cb s r answer s') :
    s'.window.config = s.window.config ∧ s'.window.throttle.frame = s.window.throttle.frame := by
  cases h with
  | passes _ _ _ _ _ _ _ _ _ _ => exact ⟨staged_config r s.window, (released_time r s).1⟩
  | waits _ now _ =>
    rw [collectEvents_eq]
    exact ⟨rfl, collected_frame s⟩
  | scrolls index =>
    rw [scrollToIndex_window]
    exact ⟨rfl, rfl⟩
  | destroys =>
    rw [destroy]
    split
    · exact ⟨rfl, rfl⟩
    · show s.unsubscribe.window.config = _ ∧ s.unsubscribe.window.throttle.frame = _
      rw [unsubscribe_window]
      exact ⟨rfl, rfl⟩
  | _ => exact ⟨rfl, rfl⟩

/-- The throttle of a window that stays live notes the release of the request, if there is one. -/
theorem Effect.lastRelease (h : Effect a cb s r answer s') (hlive : s'.window.isDestroyed = false) :
    s'.window.throttle.lastRelease =
      ((Request.release? (r, answer.ranPass)).map Release.time).or
        s.window.throttle.lastRelease := by
  cases h with
  | passes _ _ _ _ hran _ _ _ _ _ =>
    rw [hran]
    exact (released_time r s).2
  | waits _ now hwhich =>
    rw [collectEvents_eq]
    obtain ⟨rfl, _⟩ | ⟨rfl, _⟩ := hwhich <;> exact collected_lastRelease s
  | scrolls index =>
    rw [scrollToIndex_window]
    rfl
  | destroys =>
    rw [destroy] at hlive ⊢
    split
    · rfl
    · rename_i hnot
      rw [if_neg hnot] at hlive
      cases hlive
  | _ => rfl

/-- A pump runs a pass exactly when something waits and the frame of the last release is over. -/
theorem pump_passes_iff (hlive : s.window.isDestroyed = false) (hs : s.window.Consistent a)
    {now : Instant} (hok : s.Unbroken a cb (.pump now)) :
    (s.perform a cb (.pump now)).1.ranPass = true ↔
      ¬s.Settled ∧ s.window.throttle.frameOver now = true := by
  have heffect := pump_effect hlive hs.pos hs.bounded now (.inr hok)
  have hpump := perform_pump a cb hlive now
  rw [← collected_pending, ← collected_frameOver, ← Bool.and_eq_true_iff]
  constructor
  · intro hran
    by_contra hwait
    rw [hpump, if_neg hwait] at hran
    cases hran
  · intro hready
    generalize s.perform a cb (.pump now) = next at heffect
    obtain ⟨answer, s'⟩ := next
    cases heffect with
    | passes _ _ _ _ hran _ _ _ _ _ => exact hran
    | waits _ _ hwhich =>
      obtain ⟨hpending, hover⟩ := Bool.and_eq_true_iff.1 hready
      obtain ⟨hnow, hearly⟩ | ⟨hflush, _⟩ := hwhich
      · cases hnow
        cases hover.symm.trans (hearly hpending)
      · cases hflush

theorem pump_waits (hlive : s.window.isDestroyed = false) (hs : s.window.Consistent a)
    {now : Instant} (hok : s.Unbroken a cb (.pump now))
    (hran : (s.perform a cb (.pump now)).1.ranPass = false) :
    s.perform a cb (.pump now) = (.pass (.ok none), s.collectEvents) := by
  have heffect := pump_effect hlive hs.pos hs.bounded now (.inr hok)
  generalize s.perform a cb (.pump now) = next at heffect hran
  obtain ⟨answer, s'⟩ := next
  cases heffect with
  | passes _ _ _ _ hpass _ _ _ _ _ => cases hran.symm.trans hpass
  | waits _ _ _ => rfl

/-- What a pass leaves that has covered all that waited: it has read the geometry that the area had
then, has worked out the range from it and has drawn once; nothing waits, so that no pump runs
another pass. -/
structure Covered (a : Arithmetic) (cb : Callbacks σ α ε) (s s' : Scene κ σ α ε) : Prop where
  geometry : s'.window.geometry = Container.geometry s.world.container
  range : visibleRange a (Container.geometry s.world.container) s'.window.itemExtent
    s'.window.items.size s'.window.config.overscan = .ok s'.window.range
  once : s'.window.surface.passes = s.window.surface.passes + 1
  settled : s'.Settled
  next : ∀ now, s'.Unbroken a cb (.pump now) →
    (s'.perform a cb (.pump now)).1 = .pass (.ok none)

theorem Effect.covered (h : Effect a cb s r answer s') (hran : answer.ranPass = true)
    (hfits : r.Fits) (hlive : s.window.isDestroyed = false) (hs : s.window.Consistent a) :
    Covered a cb s s' := by
  have hs' := h.consistent hfits hs
  cases h with
  | passes _ _ range p _ _ hrange _ _ _ =>
    have hlive' := passed_live (a := a) (s := { s with window := r.staged s.window })
      ((staged_isDestroyed r s.window).trans hlive) (r.released s) range p (r.cut s.window)
    have hsettled : (passed a (r.released s) range p (r.cut s.window)
        { s with window := r.staged s.window }).Settled :=
      ⟨waiting_drained (s := { s with window := r.staged s.window }) rfl rfl, released_idle r s⟩
    refine ⟨rfl, ?_, ?_, hsettled, fun now hok => ?_⟩
    · show visibleRange a _ (r.staged s.window).estimator.markReady.extent _
        (r.staged s.window).config.overscan = _
      rw [markReady_extent, staged_config]
      rw [← staged_extent r s.window] at hrange
      exact hrange
    · show (r.staged s.window).surface.passes + 1 = _
      cases r <;> rfl
    · rcases hnext : ((passed a (r.released s) range p (r.cut s.window)
          { s with window := r.staged s.window }).perform a cb (.pump now)).1.ranPass with _ | _
      · rw [pump_waits hlive' hs' hok hnext]
      · exact absurd hsettled ((pump_passes_iff hlive' hs' hok).1 hnext).1
  | _ => cases hran

/-! ## A run -/

/-- A run from a scene, with the requests made in it and whether each of them ran a pass. -/
inductive History (a : Arithmetic) (cb : Callbacks σ α ε)
    (outside : World κ σ → World κ σ → Prop) (s₀ : Scene κ σ α ε) :
    List (Request α × Bool) → Scene κ σ α ε → Prop where
  | start : History a cb outside s₀ [] s₀
  | ask {log : List (Request α × Bool)} {s : Scene κ σ α ε} (r : Request α) :
      History a cb outside s₀ log s → r.Fits → s.Unbroken a cb r →
      History a cb outside s₀
        (log ++ [(r, !s.window.isDestroyed && (s.perform a cb r).1.ranPass)]) (s.perform a cb r).2
  | outside {log : List (Request α × Bool)} {s : Scene κ σ α ε} {w : World κ σ} :
      History a cb outside s₀ log s → outside s.world w →
      History a cb outside s₀ log { s with world := w }

theorem History.next (h : s₀.History a cb outside log s) (hlive : s.window.isDestroyed = false)
    (hfits : r.Fits) (hok : s.Unbroken a cb r) :
    s₀.History a cb outside (log ++ [(r, (s.perform a cb r).1.ranPass)]) (s.perform a cb r).2 := by
  have hask := h.ask r hfits hok
  rwa [hlive, Bool.not_false, Bool.true_and] at hask

theorem OnTime.ask {frame : Nat} (h : s.OnTime frame log) (hs : s.window.Consistent a)
    (hfits : r.Fits) (hok : s.Unbroken a cb r) :
    (s.perform a cb r).2.OnTime frame
      (log ++ [(r, !s.window.isDestroyed && (s.perform a cb r).1.ranPass)]) := by
  rcases hlive : s.window.isDestroyed with _ | _
  · have heffect := perform_effect hlive hs.pos hs.bounded r hfits (.inr hok)
    obtain ⟨hconfig, hsame⟩ := heffect.config
    refine ⟨hconfig ▸ h.config, hsame.trans h.throttle, fun hlive' => ?_, fun hframe => ?_⟩
    · rw [heffect.lastRelease hlive', h.last hlive, releases_snoc, Bool.not_false, Bool.true_and]
      rcases hrelease : Request.release? (r, (s.perform a cb r).1.ranPass) with _ | x <;> simp
    · rw [releases_snoc]
      rcases hrelease : Request.release? (r, (s.perform a cb r).1.ranPass) with _ | x
      · simpa [hrelease] using h.apart hframe
      · rw [Bool.not_false, Bool.true_and, hrelease]
        refine (h.apart hframe).append (.singleton x) ?_
        rintro last hlast y ⟨rfl⟩ hpaced
        obtain ⟨rfl, hran⟩ := Request.release?_paced hrelease hpaced
        have hover := ((pump_passes_iff hlive hs hok).1 hran).2
        exact (h.frameOver_iff hlive hframe _).1 hover last hlast
  · rw [perform_destroyed hlive]
    refine ⟨h.config, h.throttle, fun hlive' => (nomatch hlive.symm.trans hlive'), ?_⟩
    rw [releases_snoc, Bool.not_true, Bool.false_and, Request.release?_false]
    simpa using h.apart

end Scene

theorem Built.onTime [Container κ] {a : Arithmetic} {cb : Callbacks σ α ε}
    {start : World κ σ → Prop} {s : Scene κ σ α ε} (h : Built a cb start s) :
    s.OnTime s.window.config.frameDuration [] := by
  obtain ⟨b, w, surface, e, range, _, _, _, _, _, _, _, rfl⟩ := h.passed
  exact ⟨rfl, rfl, fun _ => rfl, fun _ => .nil⟩

namespace Scene

variable [Container κ] {a : Arithmetic} {cb : Callbacks σ α ε}
  {outside : World κ σ → World κ σ → Prop} {start : World κ σ → Prop} {s s₀ : Scene κ σ α ε}
  {log : List (Request α × Bool)}

theorem History.onTime (hs₀ : Built a cb start s₀) (h : s₀.History a cb outside log s) :
    Reachable a cb start outside s ∧ s.OnTime s₀.window.config.frameDuration log := by
  induction h with
  | start => exact ⟨⟨s₀, hs₀, .refl⟩, hs₀.onTime⟩
  | ask r _ hfits hok ih =>
    obtain ⟨hreach, htime⟩ := ih
    exact ⟨hreach.step (.ask r hfits hok), htime.ask hreach.consistent hfits hok⟩
  | outside _ hout ih =>
    obtain ⟨hreach, htime⟩ := ih
    exact ⟨hreach.step (.outside hout), ⟨htime.config, htime.throttle, htime.last, htime.apart⟩⟩

/-- What a pump leaves that has run no pass. No event waits. Where a reason does, it waits for the
end of the frame of the last release: that is the deadline, and exactly from then on the next pump
runs a pass. -/
def Waits (a : Arithmetic) (cb : Callbacks σ α ε) (frame : Nat) (last : Option Release)
    (now : Instant) (s : Scene κ σ α ε) : Prop :=
  s.waiting = [] ∧
    (s.window.throttle.hasPending = false ∧ (∀ present, s.deadline present = .ok none) ∨
      ∃ x ∈ last, now < x.time + frame ∧
        (x.time + frame ≤ lastInstant →
          ∀ present, s.deadline present = .ok (some (x.time + frame))) ∧
        ∀ next, s.Unbroken a cb (.pump next) →
          ((s.perform a cb (.pump next)).1.ranPass = true ↔ x.time + frame ≤ next))

/-- A pump that runs no pass leaves nothing stuck. -/
theorem OnTime.waits {frame : Nat} (h : s.OnTime frame log) (hlive : s.window.isDestroyed = false)
    (hs : s.window.Consistent a) (hframe : 0 < frame) {now : Instant}
    (hok : s.Unbroken a cb (.pump now))
    (hran : (s.perform a cb (.pump now)).1.ranPass = false) :
    (s.perform a cb (.pump now)).2.Waits a cb frame (releases log).getLast? now := by
  have hwhen := pump_passes_iff hlive hs hok
  rw [pump_waits hlive hs hok hran]
  have hwaiting := s.collectEvents_waiting
  refine ⟨hwaiting, ?_⟩
  have hthrottle : s.collectEvents.window.throttle = s.collected := by
    rw [collectEvents_eq]
  rcases hpending : s.collected.hasPending with _ | _
  · refine .inl ⟨hthrottle ▸ hpending, fun present => ?_⟩
    rw [deadline, hthrottle, Throttle.deadline, hpending]
    rfl
  · -- a reason waits, so it is the frame of the last release that is not over
    have hearly : ¬∀ x ∈ (releases log).getLast?, x.time + frame ≤ now := fun hover => by
      rw [hwhen.2 ⟨(collected_pending s).1 hpending,
        (h.frameOver_iff hlive hframe now).2 hover⟩] at hran
      cases hran
    obtain ⟨x, hfound⟩ := Classical.not_forall.1 hearly
    obtain ⟨hx, hlate⟩ := Classical.not_imp.1 hfound
    refine .inr ⟨x, hx, Int.not_le.1 hlate, fun hfits present => ?_, fun next hok' => ?_⟩
    · rw [deadline, hthrottle, Throttle.deadline, hpending, collected_lastRelease, h.last hlive, hx,
        collected_frame, h.throttle]
      simp [Instant.after, hfits, Except.map]
    · have hlive' : s.collectEvents.window.isDestroyed = false := by
        rw [collectEvents_eq]
        exact hlive
      have hs' : s.collectEvents.window.Consistent a := by
        rw [collectEvents_eq]
        exact ⟨hs.extent, hs.bounded, hs.range, hs.keys, hs.spacers, hs.drawn⟩
      have hover : s.collectEvents.window.throttle.frameOver next = true ↔
          ∀ y ∈ (releases log).getLast?, y.time + frame ≤ next := by
        rw [hthrottle, collected_frameOver]
        exact h.frameOver_iff hlive hframe next
      rw [pump_passes_iff hlive' hs' hok', hover, hx]
      simp [Settled, hthrottle, hpending]

/-- A pump keeps its pace over a whole run and leaves nothing stuck.

It runs a pass exactly when something waits and the frame of the last release is over, so that it
comes a frame after every pump that has run a pass since the last flush and the last new items.
When it runs none, all that waits has a deadline. Every pass covers all that waited. -/
theorem History.keeps_pace (hs₀ : Built a cb start s₀) (h : s₀.History a cb outside log s)
    (hlive : s.window.isDestroyed = false) (hframe : 0 < s₀.window.config.frameDuration) :
    let frame := s₀.window.config.frameDuration
    (∀ now, s.Unbroken a cb (.pump now) →
      let pumped := s.perform a cb (.pump now)
      (pumped.1.ranPass = true ↔
        ¬s.Settled ∧ ∀ x ∈ (releases log).getLast?, x.time + frame ≤ now) ∧
      (pumped.1.ranPass = true → ∀ before time after,
        log = before ++ (.pump time, true) :: after → (∀ x ∈ releases after, x.paced = true) →
        time + frame ≤ now) ∧
      (pumped.1.ranPass = false → pumped.1 = .pass (.ok none) ∧
        pumped.2.Waits a cb frame (releases log).getLast? now)) ∧
    ∀ r : Request α, r.Fits → s.Unbroken a cb r → (s.perform a cb r).1.ranPass = true →
      Covered a cb s (s.perform a cb r).2 := by
  obtain ⟨hreach, htime⟩ := h.onTime hs₀
  have hs := hreach.consistent
  refine ⟨fun now hok => ⟨?_, ?_, ?_⟩, fun r hfits hok hran => ?_⟩
  · rw [pump_passes_iff hlive hs hok, htime.frameOver_iff hlive hframe]
  · rintro hran before time after rfl hpaced
    -- the run with this pump is a run as well, and its releases from the first pump on are paced
    have hnext := (h.ask (.pump now) trivial hok).onTime hs₀
    have hsplit : releases (before ++ (.pump time, true) :: after ++ [(Request.pump now, true)]) =
        releases before ++ (⟨time, true⟩ :: (releases after ++ [⟨now, true⟩])) := by
      simp [releases, Request.release?]
    have hapart := hnext.2.apart hframe
    rw [hlive, hran, Bool.not_false, Bool.true_and, hsplit] at hapart
    have hfrom := Release.apart_pairwise hapart.right_of_append
      (by simpa [or_imp, forall_and] using hpaced)
    exact (List.pairwise_cons.1 hfrom).1 ⟨now, true⟩ (by simp)
  · intro hran
    exact ⟨congrArg Prod.fst (pump_waits hlive hs hok hran), htime.waits hlive hs hframe hok hran⟩
  · exact (perform_effect hlive hs.pos hs.bounded r hfits (.inr hok)).covered hran hfits hlive hs

end Scene

/-- After a pass at time zero a scroll is not followed at five nanoseconds, but has the end of the
frame as its deadline and is followed then. -/
theorem keeps_pace_copying :
    ∃ s₀ s : Scene ScrollArea Unit Nat Nat, Built .exact .copying anywhere s₀ ∧
      s₀.History .exact .copying anything
        [(.scrollToIndex 1, false), (.pump 0, true), (.scrollToIndex 0, false)] s ∧
      let pumped := s.perform .exact .copying (.pump 5)
      pumped.1 = .pass (.ok none) ∧ pumped.2.waiting = [] ∧
        pumped.2.deadline 5 = .ok (some 16666666) ∧
        (pumped.2.perform .exact .copying (.pump 16666666)).1.ranPass = true := by
  have hrun : (match (Builder.copying #[4, 5, 6]).build .exact
      { container := ({ extent := 2 } : ScrollArea), channels := #[], caller := () } with
    | (.ok (.ok window), world) =>
      let s₀ : Scene ScrollArea Unit Nat Nat := ⟨window, world⟩
      let s₁ := (s₀.perform .exact .copying (.scrollToIndex 1)).2
      let s₂ := (s₁.perform .exact .copying (.pump 0)).2
      let s := (s₂.perform .exact .copying (.scrollToIndex 0)).2
      let pumped := s.perform .exact .copying (.pump 5)
      decide (window.config.frameDuration = 16666666 ∧
        (s₁.window.isDestroyed = false ∧ s₂.window.isDestroyed = false ∧
          s.window.isDestroyed = false ∧ pumped.2.window.isDestroyed = false) ∧
        (s₁.perform .exact .copying (.pump 0)).1.ranPass = true ∧
        pumped.1.ranPass = false ∧ pumped.2.window.throttle.hasPending = true)
    | (.ok (.error _), _) | (.error _, _) => false) = true := by decide +kernel
  split at hrun
  · rename_i window world hbuild
    obtain ⟨hframe, ⟨hlive₁, hlive₂, hlive, hlive'⟩, hfirst, hsecond, hpending⟩ :=
      of_decide_eq_true hrun
    have hbuilt : Built .exact .copying anywhere (⟨window, world⟩ : Scene ScrollArea _ _ _) :=
      ⟨_, _, trivial, by decide, ⟨_, Builder.copying_parts _⟩, hbuild⟩
    have hok {log s r} (h : Scene.History .exact .copying anything ⟨window, world⟩ log s)
        (hlive : s.window.isDestroyed = false) (hfits : r.Fits) : s.Unbroken .exact .copying r := by
      have hs := (h.onTime hbuilt).1.consistent
      exact Scene.unbroken_of_total Callbacks.copying_total hlive hs.pos hs.bounded hfits
    have h₀ : Scene.History .exact .copying anything ⟨window, world⟩ [] ⟨window, world⟩ := .start
    have h₁ := h₀.next (r := .scrollToIndex 1) hbuilt.live trivial (hok h₀ hbuilt.live trivial)
    have h₂ := h₁.next (r := .pump 0) hlive₁ trivial (hok h₁ hlive₁ trivial)
    rw [hfirst] at h₂
    have h : Scene.History .exact .copying anything ⟨window, world⟩
        [(.scrollToIndex 1, false), (.pump 0, true), (.scrollToIndex 0, false)] _ :=
      h₂.next hlive₂ trivial (hok h₂ hlive₂ trivial)
    obtain ⟨hnone, hwaits⟩ := ((h.keeps_pace hbuilt hlive (by rw [hframe]; decide)).1 5
      (hok h hlive trivial)).2.2 hsecond
    refine ⟨_, _, hbuilt, h, hnone, hwaits.1, ?_⟩
    obtain ⟨hidle, _⟩ | ⟨x, hx, _, hdeadline, hnext⟩ := hwaits.2
    · cases hidle.symm.trans hpending
    · obtain rfl : ⟨0, true⟩ = x := Option.some.inj hx
      rw [hframe] at hdeadline hnext
      have h' := h.next (r := .pump 5) hlive trivial (hok h hlive trivial)
      exact ⟨hdeadline (by decide) 5, (hnext 16666666 (hok h' hlive' trivial)).2 (by decide)⟩
  · cases hrun
  · cases hrun

end ListWindow
