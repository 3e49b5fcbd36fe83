import ListWindow.Proofs.Footprint
import ListWindow.Proofs.Pacing
import Mathlib.Tactic.Linarith
import Mathlib.Tactic.Ring
import Mathlib.Tactic.Zify

/-!
The frame rate of a window. Where nothing but pumps releases what waits, the passes of a run are a
frame apart, so a second has room for the frames that begin in it (`Config.Steady.bound`). A frame
is a second divided by the frame rate and cut to whole nanoseconds. Where the division leaves
nothing over, that is as many passes as the frame rate says; where it leaves something, one more
frame begins before the second is over, and a window that is scrolled all the time runs a pass in
each (`Built.beats`). So the frame rate bounds the passes of a second exactly when it divides it
(`Config.rate_bounded_iff`).
-/
namespace ListWindow

variable {κ σ α ε : Type}

def second : Nat := 1000000000

def pumpTimes (log : List (Request α × Bool)) : List Instant :=
  log.filterMap fun
    | (.pump now, _) => some now
    | _ => none

/-- A paced release in the second from `start` on. -/
def Release.within (start : Instant) (x : Release) : Bool :=
  x.paced && decide (start ≤ x.time ∧ x.time < start + second)

/-- How many pumps of a run have run a pass in the second from `start` on. -/
def pumpedWithin (start : Instant) (log : List (Request α × Bool)) : Nat :=
  (releases log).countP (Release.within start)

/-- The log of a run of a window with a configuration, in which nothing but pumps releases what
waits, at times that do not go back. -/
structure Config.Steady (c : Config) (log : List (Request α × Bool)) : Prop where
  run : ∃ (κ σ ε : Type) (_ : Container κ) (a : Arithmetic) (cb : Callbacks σ α ε)
    (start : World κ σ → Prop) (outside : World κ σ → World κ σ → Prop) (s₀ s : Scene κ σ α ε),
    Built a cb start s₀ ∧ s₀.window.config = c ∧ s₀.History a cb outside log s
  paced : ∀ x ∈ releases log, x.paced = true
  forward : (pumpTimes log).Pairwise (· ≤ ·)

/-! ## How many frames begin in a second -/

/-- Releases that are a frame apart from each other: all frames but the last fit in. -/
theorem Release.length_spread {frame : Nat} {stop : Int} {l : List Release} {start : Int}
    (hapart : l.Pairwise fun x y : Release => x.time + frame ≤ y.time)
    (hin : ∀ x ∈ l, start ≤ x.time ∧ x.time < stop) (hstart : start < stop + frame) :
    (l.length * frame : Int) < stop - start + frame := by
  induction l generalizing start with
  | nil =>
    rw [List.length_nil]
    omega
  | cons x rest ih =>
    obtain ⟨hfirst, hrest⟩ := List.pairwise_cons.1 hapart
    obtain ⟨hbegin, hend⟩ := hin x List.mem_cons_self
    have hlater : ∀ y ∈ rest, x.time + frame ≤ y.time ∧ y.time < stop := fun y hy =>
      ⟨hfirst y hy, (hin y (List.mem_cons_of_mem x hy)).2⟩
    have hrest' := ih hrest hlater (Int.add_lt_add_right hend frame)
    calc ((x :: rest).length * frame : Int) = rest.length * frame + frame := by
          rw [List.length_cons]
          push_cast
          ring
      _ < stop - (x.time + frame) + frame + frame := Int.add_lt_add_right hrest' frame
      _ ≤ stop - start + frame := by
          unfold Instant at *
          omega

namespace Config

variable {c : Config} {log : List (Request α × Bool)}

/-- A second has room for the frames that begin in it. -/
theorem Steady.bound (h : c.Steady log) (hframe : 0 < c.frameDuration) (start : Instant) :
    pumpedWithin start log * c.frameDuration < second + c.frameDuration := by
  obtain ⟨κ, σ, ε, _, a, cb, _, outside, s₀, s, hs₀, rfl, hrun⟩ := h.run
  have hchain := (hrun.onTime hs₀).2.apart hframe
  have hapart : (releases log).Pairwise fun x y : Release =>
      x.time + s₀.window.config.frameDuration ≤ y.time := by
    rcases hlog : releases log with _ | ⟨x, later⟩
    · exact .nil
    · rw [hlog] at hchain
      exact Release.apart_pairwise hchain fun y hy =>
        h.paced y (hlog ▸ List.mem_cons_of_mem x hy)
  have hin : ∀ x ∈ (releases log).filter (Release.within start),
      start ≤ x.time ∧ x.time < start + second := by
    intro x hx
    have hwithin := (List.mem_filter.1 hx).2
    rw [Release.within, Bool.and_eq_true, decide_eq_true_iff] at hwithin
    exact hwithin.2
  have hlength := Release.length_spread (hapart.filter _) hin (by unfold Instant at *; omega)
  rw [pumpedWithin, List.countP_eq_length_filter]
  unfold Instant at *
  zify
  linarith

theorem fps_pos (hvalid : c.validate = .ok ()) : 0 < c.targetFps := by
  unfold validate at hvalid
  split at hvalid
  · cases hvalid
  · split at hvalid
    · cases hvalid
    · omega

/-- A frame rate makes up the second when it divides it, and falls short of it otherwise. -/
theorem fps_mul_frame (hfps : 0 < c.targetFps) :
    c.targetFps * c.frameDuration ≤ second ∧
      (c.targetFps * c.frameDuration = second ↔ c.targetFps ∣ second) := by
  have hframe : c.frameDuration = second / c.targetFps := if_neg hfps.ne'
  rw [hframe]
  exact ⟨Nat.mul_div_le _ _, Nat.mul_div_eq_iff_dvd⟩

end Config

/-! ## A window that is scrolled all the time -/

/-- Scroll and pump in turn, a frame apart, so that every pump runs a pass. -/
def beats (frame : Nat) : Nat → List (Request α × Bool)
  | 0 => []
  | k + 1 => beats frame k ++ [(.scrollToIndex 0, false), (.pump (k * frame : Nat), true)]

theorem releases_beats (frame k : Nat) :
    releases (beats (α := α) frame k) =
      (List.range k).map fun i => ⟨(i * frame : Nat), true⟩ := by
  induction k with
  | zero => rfl
  | succ k ih =>
    rw [List.range_succ, List.map_append, ← ih, beats, releases, List.filterMap_append]
    rfl

theorem pumpTimes_beats (frame k : Nat) :
    pumpTimes (beats (α := α) frame k) = (List.range k).map fun i => ((i * frame : Nat) : Int) := by
  induction k with
  | zero => rfl
  | succ k ih =>
    rw [List.range_succ, List.map_append, ← ih, beats, pumpTimes, List.filterMap_append]
    rfl

theorem pumpedWithin_beats {frame k : Nat} (hfits : k * frame < second) :
    pumpedWithin 0 (beats (α := α) frame (k + 1)) = k + 1 := by
  rw [pumpedWithin, releases_beats, List.countP_eq_length.2, List.length_map, List.length_range]
  intro x hx
  obtain ⟨i, hi, rfl⟩ := List.mem_map.1 hx
  have hle : i * frame ≤ k * frame :=
    Nat.mul_le_mul_right frame (Nat.le_of_lt_succ (List.mem_range.1 hi))
  have hend : i * frame < second := Nat.lt_of_le_of_lt hle hfits
  rw [Release.within, Bool.true_and, decide_eq_true_iff]
  show (0 : Int) ≤ (i * frame : Nat) ∧ ((i * frame : Nat) : Int) < 0 + second
  omega

theorem beats_frameOver {t : Throttle} {k : Nat}
    (hlast : t.lastRelease = (releases (beats (α := α) t.frame k)).getLast?.map Release.time) :
    t.frameOver (k * t.frame : Nat) = true := by
  cases k with
  | zero => rw [Throttle.frameOver, hlast]; rfl
  | succ k =>
    rw [releases_beats, List.range_succ, List.map_append, List.map_singleton,
      List.getLast?_concat] at hlast
    rw [Throttle.frameOver, hlast]
    show decide (t.frame ≤ (((k + 1) * t.frame : Nat) - ((k * t.frame : Nat) : Int)).toNat) = true
    rw [decide_eq_true_iff, Nat.succ_mul]
    omega

namespace Scene

variable {a : Arithmetic} {cb : Callbacks σ α ε} {s : Scene ScrollArea σ α ε}

theorem Watching.scroll_waits (h : s.Watching a ScrollArea.subscribers fun _ => True)
    (hlive : s.window.isDestroyed = false) (index : Nat) :
    ¬(s.perform a cb (.scrollToIndex index)).2.Settled := by
  obtain ⟨mine, hmine, hlisted, hopen⟩ := h.heard
  rintro ⟨hempty, _⟩
  have hwindow : (s.perform a cb (.scrollToIndex index)).2.window = s.window :=
    scrollToIndex_window a index s
  rw [waiting_eq (hwindow ▸ hmine), perform, scrollToIndex, hlive] at hempty
  exact ((Subscribers.announce_reaches _ _ hopen).2 mine hlisted rfl).2 hempty

end Scene

/-- A window in a plain scroll area can run a pass in every frame, from the first one on. -/
theorem Built.beats {a : Arithmetic} {cb : Callbacks σ α ε} {start : World ScrollArea σ → Prop}
    {s₀ : Scene ScrollArea σ α ε} (hs₀ : Built a cb start s₀) (hcb : cb.Total)
    (outside : World ScrollArea σ → World ScrollArea σ → Prop) (k : Nat) :
    ∃ s, s₀.History a cb outside (beats s₀.window.config.frameDuration k) s ∧
      s.window.isDestroyed = false ∧ s.Watching a ScrollArea.subscribers fun _ => True := by
  induction k with
  | zero =>
    exact ⟨s₀, .start, hs₀.live, (hs₀.watching (ScrollArea.faithful a) fun _ _ => trivial).1⟩
  | succ k ih =>
    obtain ⟨s, hrun, hlive, hwatching⟩ := ih
    have hs := (hrun.onTime hs₀).1.consistent
    have hok {s : Scene ScrollArea σ α ε} {r : Request α} (hlive : s.window.isDestroyed = false)
        (hs : s.window.Consistent a) (hfits : r.Fits) : s.Unbroken a cb r :=
      Scene.unbroken_of_total hcb hlive hs.pos hs.bounded hfits
    -- the scroll leaves an event waiting
    let s₁ := (s.perform a cb (.scrollToIndex 0)).2
    have hlive₁ : s₁.window.isDestroyed = false :=
      (congrArg Window.isDestroyed (Scene.scrollToIndex_window a 0 s)).trans hlive
    have hrun₁ : s₀.History a cb outside
        (ListWindow.beats s₀.window.config.frameDuration k ++ [(.scrollToIndex 0, false)]) s₁ :=
      hrun.next hlive trivial (hok hlive hs trivial)
    obtain ⟨hs₁, hwatching₁, _⟩ := Scene.perform_watching (r := .scrollToIndex 0)
      (ScrollArea.faithful a) hcb trivial (fun _ => ⟨hs, hwatching⟩) hlive₁
    -- so the pump runs a pass, as the frame of the last one is over
    have htime := (hrun₁.onTime hs₀).2
    have hlast := htime.last hlive₁
    rw [releases_snoc, Request.release?_false, Option.toList_none, List.append_nil,
      ← htime.throttle] at hlast
    have hover := beats_frameOver hlast
    rw [htime.throttle] at hover
    let pump : Request α := .pump (k * s₀.window.config.frameDuration : Nat)
    have hok₁ : s₁.Unbroken a cb pump := hok hlive₁ hs₁ trivial
    have hran : (s₁.perform a cb pump).1.ranPass = true :=
      (Scene.pump_passes_iff hlive₁ hs₁ hok₁).2 ⟨hwatching.scroll_waits hlive 0, hover⟩
    have hrun₂ := hrun₁.next (r := pump) hlive₁ trivial hok₁
    rw [hran, List.append_assoc] at hrun₂
    have hlive₂ := (Scene.pump_effect hlive₁ hs₁.pos hs₁.bounded _ (.inr hok₁)).live hlive₁
      (by simp)
    exact ⟨_, hrun₂, hlive₂, (Scene.perform_watching (r := pump) (ScrollArea.faithful a) hcb
      trivial (fun _ => ⟨hs₁, hwatching₁⟩) hlive₂).2.1⟩

theorem built_scrolling {c : Config} (hvalid : c.validate = .ok ()) :
    ∃ s : Scene ScrollArea Unit Nat Nat, Built .binary64 .copying anywhere s ∧
      s.window.config = c := by
  let b : Builder Unit Nat Nat := { Builder.copying #[4] with config := c }
  have hone : b.items.size ≤ maxIndex := by
    show 1 ≤ maxIndex
    decide
  have hparts : b.parts = .ok ({}, .copying) := by
    rw [Builder.parts, show b.config.validate = .ok () from hvalid]
    rfl
  obtain ⟨s, hs, hconfig, _⟩ := Builder.build_total .binary64 hparts hone Callbacks.copying_total
    { container := ({} : ScrollArea), channels := #[], caller := () }
  exact ⟨s, ⟨b, _, trivial, hone, ⟨_, hparts⟩, hs⟩, hconfig⟩

theorem Config.beats_steady {c : Config} (hvalid : c.validate = .ok ()) (k : Nat) :
    c.Steady (beats (α := Nat) c.frameDuration k) := by
  obtain ⟨s₀, hs₀, hconfig⟩ := built_scrolling hvalid
  obtain ⟨s, hrun, _⟩ := hs₀.beats Callbacks.copying_total anything k
  rw [hconfig] at hrun
  refine ⟨⟨_, _, _, _, _, _, _, _, s₀, s, hs₀, hconfig, hrun⟩, ?_, ?_⟩
  · intro x hx
    rw [releases_beats] at hx
    obtain ⟨i, _, rfl⟩ := List.mem_map.1 hx
    rfl
  · rw [pumpTimes_beats, List.pairwise_map]
    refine List.pairwise_lt_range.imp fun {i j} hij => ?_
    exact Int.ofNat_le.2 (Nat.mul_le_mul_right _ hij.le)

/-- The frame rate bounds the passes of a second exactly when it divides the second. In any case
there are no more of them than frames that begin in it. -/
theorem Config.rate_bounded_iff {c : Config} (hvalid : c.validate = .ok ()) :
    ((∀ (α : Type) (log : List (Request α × Bool)), c.Steady log →
        ∀ start, pumpedWithin start log ≤ c.targetFps) ↔ c.targetFps ∣ second) ∧
      (0 < c.frameDuration → ∀ (α : Type) (log : List (Request α × Bool)), c.Steady log →
        ∀ start, pumpedWithin start log * c.frameDuration < second + c.frameDuration) := by
  have hfps := fps_pos hvalid
  obtain ⟨hle, hwhole⟩ := fps_mul_frame hfps
  refine ⟨⟨fun hbounded => ?_, fun hdvd α log hsteady start => ?_⟩,
    fun hframe α log hsteady start => hsteady.bound hframe start⟩
  · -- if something were left over, one frame more would begin within the second
    by_contra hnot
    have hfits : c.targetFps * c.frameDuration < second := lt_of_le_of_ne hle (mt hwhole.1 hnot)
    have htoo := hbounded Nat _ (beats_steady hvalid (c.targetFps + 1)) 0
    rw [pumpedWithin_beats hfits] at htoo
    omega
  · have hsecond := hwhole.2 hdvd
    have hframe : 0 < c.frameDuration := by
      apply Nat.pos_of_ne_zero
      intro hzero
      rw [hzero] at hsecond
      cases hsecond
    have hbound := hsteady.bound hframe start
    rw [← hsecond, ← Nat.succ_mul] at hbound
    exact Nat.le_of_lt_succ (Nat.lt_of_mul_lt_mul_right hbound)

/-- Sixty frames a second do not divide it, so a window set up without a choice runs sixty-one
passes in a second at times, and never more than there are frames of 16666666 nanoseconds. -/
theorem rate_bounded_default :
    Config.validate {} = .ok () ∧
      ¬(∀ (α : Type) (log : List (Request α × Bool)), Config.Steady {} log →
        ∀ start, pumpedWithin start log ≤ 60) ∧
      ∀ (α : Type) (log : List (Request α × Bool)), Config.Steady {} log →
        ∀ start, pumpedWithin start log ≤ 61 := by
  have hvalid : Config.validate {} = .ok () := by decide +kernel
  obtain ⟨hiff, hbound⟩ := Config.rate_bounded_iff hvalid
  refine ⟨hvalid, fun hbounded => ?_, fun α log hsteady start => ?_⟩
  · exact absurd (hiff.1 hbounded) (by decide)
  · have hlt : pumpedWithin start log * 16666666 < 1000000000 + 16666666 :=
      hbound (by decide) α log hsteady start
    omega

/-- Three frames a second are 333333333 nanoseconds long. A window that is scrolled before each pump
and pumped at the end of each frame runs four passes within a second. -/
theorem fourth_pass_in_second :
    ∃ (c : Config) (log : List (Request Nat × Bool)), c.validate = .ok () ∧ c.targetFps = 3 ∧
      log = [(.scrollToIndex 0, false), (.pump 0, true),
        (.scrollToIndex 0, false), (.pump 333333333, true),
        (.scrollToIndex 0, false), (.pump 666666666, true),
        (.scrollToIndex 0, false), (.pump 999999999, true)] ∧
      c.Steady log ∧ ¬pumpedWithin 0 log ≤ c.targetFps := by
  have hvalid : Config.validate { targetFps := 3 } = .ok () := by decide +kernel
  exact ⟨_, _, hvalid, rfl, rfl, Config.beats_steady hvalid 4, by decide⟩

end ListWindow
