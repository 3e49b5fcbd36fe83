import ListWindow.Proofs.Exact
import ListWindow.Proofs.Recovery

/-!
No number leaves its range. The scroll area may read anything, a different thing each time, the
margin may be as large as a number can be, and the caller's functions may give up in any call.

1. A range that fits the items can be counted and enumerated, and its count and the indices in it
   are indices themselves (`IndexRange.Within.enumerable`).
2. What a pass counts is no more than the indices of its range, and what it drops no more than the
   entries there were (`Progress.run_rendered_le`, `Scene.dropped_le`).
3. So whatever is asked of a window, in any order, breaks off only where one of the caller's
   functions gives up, and the extent of an item is the one that was chosen when the window was
   built (`Builder.run_bounded`).
-/
namespace ListWindow

variable {κ σ α ε : Type}

namespace IndexRange

/-- A range of `count` items that can be counted and enumerated. -/
structure Enumerable (count : Nat) (r : IndexRange) : Prop where
  empty_iff : r = .empty ↔ count = 0
  ends : ∀ first last, r = .span first last → first ≤ last ∧ last ≤ count - 1
  size : r.size = .ok r.indices.length
  limits : ∃ first stop, r.limits = .ok (first, stop) ∧ r.indices = List.range' first (stop - first)
  ascending : r.indices.Pairwise (· < ·)
  members : ∀ i, i ∈ r.indices ↔ r.contains i = true

variable {r : IndexRange} {count : Nat}

theorem Within.length_le (h : r.Within count) : r.indices.length ≤ count := by
  cases r with
  | empty => exact Nat.zero_le _
  | span first last =>
    obtain ⟨_, hlast⟩ := h
    rw [indices, List.length_range']
    omega

theorem Within.enumerable (h : r.Within count) (hc : count ≤ maxIndex) : r.Enumerable count where
  empty_iff := h.empty_iff
  ends := by
    intro first last hr
    rw [hr] at h
    obtain ⟨hfirst, hlast⟩ := h
    exact ⟨hfirst, Nat.le_sub_one_of_lt hlast⟩
  size := h.size_eq hc
  limits := h.limits_eq hc
  ascending := r.pairwise_indices
  members := fun _ => mem_indices

end IndexRange

/-! ## What a pass counts -/

theorem Progress.run_rendered_le (cb : Callbacks σ α ε) (items : Array α) (is : List Nat)
    (left : Registry ε) (caller : σ) :
    (Progress.run cb items is left caller).created +
      (Progress.run cb items is left caller).reused ≤ is.length := by
  induction is generalizing left caller with
  | nil => exact Nat.le_refl _
  | cons i rest ih =>
    rcases hi : items[i]? with _ | item
    · rw [run, hi]
      exact Nat.zero_le _
    · rw [run_cons cb hi]
      dsimp only
      rcases (visit cb item i (left.element? i) caller).result with fault | e
      · exact Nat.zero_le _
      · have hrest := ih (left.remove i).1 (visit cb item i (left.element? i) caller).caller
        simp only [preceded, List.length_cons]
        cases (visit cb item i (left.element? i) caller).reused with
        | false =>
          simp only [Bool.not_false, Bool.toNat_true, Bool.toNat_false]
          omega
        | true =>
          simp only [Bool.not_true, Bool.toNat_true, Bool.toNat_false]
          omega

/-- The counts of a pass and their sum are numbers of items. -/
structure Stats.Small (st : Stats) : Prop where
  rendered : st.created + st.reused ≤ maxIndex
  dropped : st.dropped ≤ maxIndex

namespace Scene

variable {a : Arithmetic} {cb : Callbacks σ α ε}

theorem dropped_le {r : Request α} {w : Window α ε} {range : IndexRange}
    (hwithin : range.Within (r.staged w).items.size) {caller : σ}
    (h : (Progress.run cb (r.staged w).items range.indices (r.staged w).registry caller).fault
      = none) :
    (Progress.run cb (r.staged w).items range.indices (r.staged w).registry caller).left.size
      + r.cut w ≤ w.registry.size := by
  have hleft := Progress.run_left_indices hwithin.lt_of_mem h
  rw [Registry.size_eq_length_indices, hleft, dropped_count hwithin,
    Registry.size_eq_length_indices]
  exact List.length_filter_le _ _

end Scene

namespace Window.Orderly

variable {w : Window α ε}

theorem registry_le (h : w.Orderly) : w.registry.size ≤ w.items.size := by
  rw [Registry.size_eq_length_indices]
  exact Nat.le_trans h.keys.length_le h.range.length_le

end Window.Orderly

namespace Scene

variable [Container κ] {a : Arithmetic} {cb : Callbacks σ α ε} {s s' : Scene κ σ α ε}
  {r : Request α} {answer : Answer} {fault : Fault}

theorem passed_small (hbounded : (r.staged s.window).items.size ≤ maxIndex)
    (hregistry : s.window.registry.size ≤ maxIndex) {range : IndexRange}
    (hwithin : range.Within (r.staged s.window).items.size) {caller : σ}
    (h : (Progress.run cb (r.staged s.window).items range.indices (r.staged s.window).registry
      caller).fault = none) (th : Throttle) :
    (passed a th range (Progress.run cb (r.staged s.window).items range.indices
      (r.staged s.window).registry caller) (r.cut s.window)
      { s with window := r.staged s.window }).window.stats.Small where
  rendered := calc
    _ ≤ range.indices.length := Progress.run_rendered_le cb _ _ _ _
    _ ≤ (r.staged s.window).items.size := hwithin.length_le
    _ ≤ maxIndex := hbounded
  dropped := Nat.le_trans (dropped_le hwithin h) hregistry

theorem Effect.small (h : Effect a cb s r answer s') (hfits : r.Fits) (hs : s.window.Orderly)
    (hsmall : s.window.stats.Small) : s'.window.stats.Small := by
  cases h with
  | passes _ _ range p _ _ _ hwithin hp hfault =>
    subst hp
    exact passed_small (staged_bounded hfits hs.bounded)
      (Nat.le_trans hs.registry_le hs.bounded) hwithin hfault _
  | waits _ now _ =>
    rw [collectEvents_eq]
    exact hsmall
  | scrolls index =>
    rw [scrollToIndex_window]
    exact hsmall
  | destroys =>
    rw [destroy]
    split
    · exact hsmall
    · show s.unsubscribe.window.stats.Small
      rw [unsubscribe_window]
      exact hsmall
  | _ => exact hsmall

theorem Breaks.stats (h : Breaks a cb s r fault s') : s'.window.stats = s.window.stats := by
  cases h with
  | passes _ range p _ _ _ _ _ _ => cases r <;> rfl
  | updates _ _ _ _ _ _ _ _ _ _ => rfl

theorem Breaks.extent (h : Breaks a cb s r fault s') :
    s'.window.itemExtent = s.window.itemExtent := by
  cases h with
  | passes _ range p _ _ _ _ _ _ => exact staged_extent r s.window
  | updates _ _ _ _ _ _ _ _ _ _ => rfl

/-- What breaks off does so where one of the caller's functions gives up. -/
theorem Breaks.ofCaller (h : Breaks a cb s r fault s') : fault.ofCaller = true := by
  cases h with
  | passes _ range p _ _ _ hwithin hp hfault =>
    subst hp
    obtain ⟨i, rfl | rfl⟩ := Progress.run_fault hwithin.lt_of_mem hfault
    · rfl
    · rfl
  | updates _ _ _ _ _ _ _ _ _ _ => rfl

theorem perform_destroyed_faultless (hdead : s.window.isDestroyed = true) (r : Request α) :
    (s.perform a cb r).1.fault? = none := by
  rw [perform_inert hdead cb r]
  cases r <;> rfl

/-- Whatever is asked of a window, faults are those of the caller's functions. -/
theorem perform_ofCaller (hs : s.window.Orderly) (hfits : r.Fits)
    (h : (s.perform a cb r).1.fault? = some fault) : fault.ofCaller = true := by
  cases hlive : s.window.isDestroyed with
  | false => exact (perform_breaks hlive hs.pos hs.bounded r hfits h).ofCaller
  | true =>
    rw [perform_destroyed_faultless hlive] at h
    cases h

/-- An attempt keeps the extent of the items, and its counts are numbers of items. -/
theorem Attempt.bounded {outside : World κ σ → World κ σ → Prop} (h : Attempt a cb outside s s')
    (hs : s.window.Orderly) (hsmall : s.window.stats.Small) :
    s'.window.itemExtent = s.window.itemExtent ∧ s'.window.stats.Small := by
  cases h with
  | outside _ => exact ⟨rfl, hsmall⟩
  | ask r hfits =>
    cases hlive : s.window.isDestroyed with
    | true =>
      rw [perform_destroyed hlive]
      exact ⟨rfl, hsmall⟩
    | false =>
      obtain heffect | ⟨fault, hbreaks⟩ := perform_cases a cb hlive hs r hfits
      · exact ⟨heffect.extent, heffect.small hfits hs hsmall⟩
      · exact ⟨hbreaks.extent, hbreaks.stats ▸ hsmall⟩

end Scene

/-! ## Whole runs -/

/-- The extent that a window goes by: the sample if it can be one, the configured one otherwise. -/
def Builder.chosenExtent (b : Builder σ α ε) : Scalar :=
  (b.sample.filter Scalar.isExtent).getD b.config.itemExtent

/-- The numbers of a window are in range, and those of whatever is asked of it next. -/
structure Scene.Bounded [Container κ] (a : Arithmetic) (cb : Callbacks σ α ε) (extent : Scalar)
    (s : Scene κ σ α ε) : Prop where
  extent : s.window.itemExtent = extent ∧ extent.isExtent = true
  /-- Nothing breaks off but where one of the caller's functions gives up. -/
  faults : ∀ (r : Request α) fault, r.Fits → (s.perform a cb r).1.fault? = some fault →
    fault.ofCaller = true
  range : s.window.range.Enumerable s.window.items.size
  /-- Every geometry has a range. -/
  computes : ∀ g, ∃ r, visibleRange a g s.window.itemExtent s.window.items.size
    s.window.config.overscan = .ok r ∧ r.Enumerable s.window.items.size
  stats : s.window.stats.Small
  /-- A pass over the range counts no further, whatever it starts from and wherever it ends. -/
  counts : ∀ left caller,
    (Progress.run cb s.window.items s.window.range.indices left caller).created +
      (Progress.run cb s.window.items s.window.range.indices left caller).reused ≤ maxIndex
  /-- What is left of the registry is no more than there was. -/
  truncates : ∀ len, (s.window.registry.truncate len).1.size ≤ s.window.registry.size ∧
    s.window.registry.size ≤ maxIndex

theorem Builder.measured_extent (b : Builder σ α ε) :
    (ExtentEstimator.measure { extent := b.config.itemExtent } b.sample).extent =
      b.chosenExtent := by
  rw [chosenExtent]
  unfold ExtentEstimator.measure
  rcases b.sample with _ | x
  · rfl
  · by_cases hx : x.isExtent = true
    · simp [Option.filter, hx]
    · simp [Option.filter, hx]

section

variable [Container κ] {a : Arithmetic} {b : Builder σ α ε} {surface : Surface ε}
  {cb : Callbacks σ α ε} {w w' : World κ σ}

theorem Builder.build_ofCaller (hparts : b.parts = .ok (surface, cb))
    (hsize : b.items.size ≤ maxIndex) {fault : Fault} (h : b.build a w = (.error fault, w')) :
    fault.ofCaller = true := by
  obtain ⟨range, _, _, _, hwithin, heq⟩ := build_eq a hparts hsize w
  rw [h] at heq
  split at heq
  · rename_i broken hbroken
    obtain ⟨i, rfl | rfl⟩ := Progress.run_fault hwithin.lt_of_mem hbroken
    · cases heq
      rfl
    · cases heq
      rfl
  · cases heq

/-- A window just built goes by the chosen extent, and its first pass has counted no further than
there can be items. -/
theorem Builder.build_bounded (hparts : b.parts = .ok (surface, cb))
    (hsize : b.items.size ≤ maxIndex) {window : Window α ε}
    (h : b.build a w = (.ok (.ok window), w')) :
    window.itemExtent = b.chosenExtent ∧ window.stats.Small := by
  obtain ⟨range, _, _, _, hwithin, heq⟩ := build_eq a hparts hsize w
  rw [h] at heq
  split at heq
  · cases heq
  · rename_i hfault
    cases heq
    refine ⟨?_, ?_⟩
    · exact (Scene.markReady_extent _).trans b.measured_extent
    · exact Scene.passed_small (r := .render)
        (s := b.subscribed surface
          (ExtentEstimator.measure { extent := b.config.itemExtent } b.sample) w)
        hsize (Nat.zero_le _) hwithin hfault _

/-- No number leaves its range in any run of a window, from its building on.

Whatever the scroll area reads, whatever is asked of the window in whatever order, whatever others
do to the world in between and wherever the caller's functions give up: the extent of an item is the
chosen one, only the caller's functions break anything off, every range can be counted and
enumerated, and no count leaves the range of item counts. Readings that have not been looked through
give the same range. -/
theorem Builder.run_bounded (a : Arithmetic) (hparts : b.parts = .ok (surface, cb))
    (hsize : b.items.size ≤ maxIndex) (w : World κ σ) :
    (∀ fault w', b.build a w = (.error fault, w') → fault.ofCaller = true) ∧
    (∀ window w', b.build a w = (.ok (.ok window), w') → ∀ s : Scene κ σ α ε,
      Relation.ReflTransGen (Scene.Attempt a cb anything) ⟨window, w'⟩ s →
        s.Bounded a cb b.chosenExtent) ∧
    ∀ offset extent itemExtent count overscan,
      visibleRange a ⟨offset, extent⟩ itemExtent count overscan =
        visibleRange a (Geometry.sample offset extent) itemExtent count overscan := by
  refine ⟨fun fault w' h => build_ofCaller hparts hsize h, ?_, visibleRange_sample a⟩
  intro window w' hbuild s hrun
  have hbuilt : Built a cb anywhere (⟨window, w'⟩ : Scene κ σ α ε) :=
    ⟨b, w, trivial, hsize, ⟨surface, hparts⟩, hbuild⟩
  have hkept : s.window.itemExtent = b.chosenExtent ∧ s.window.stats.Small := by
    induction hrun with
    | refl => exact build_bounded hparts hsize hbuild
    | @tail t u hbefore hlast ih =>
      obtain ⟨hextent, hsmall⟩ := ih
      have horderly : t.window.Orderly := Attempted.orderly ⟨_, hbuilt, hbefore⟩
      obtain ⟨hsame, hsmall'⟩ := hlast.bounded horderly hsmall
      exact ⟨hsame.trans hextent, hsmall'⟩
  have hs : s.window.Orderly := Attempted.orderly ⟨_, hbuilt, hrun⟩
  exact
    { extent := ⟨hkept.1, hkept.1 ▸ hs.extent⟩
      faults := fun r fault hfits h => Scene.perform_ofCaller hs hfits h
      range := hs.range.enumerable hs.bounded
      computes := by
        intro g
        obtain ⟨r, hr, hwithin⟩ := visibleRange_within a g hs.pos s.window.items.size
          s.window.config.overscan
        exact ⟨r, hr, hwithin.enumerable hs.bounded⟩
      stats := hkept.2
      counts := fun left caller => calc
        _ ≤ s.window.range.indices.length := Progress.run_rendered_le cb _ _ _ _
        _ ≤ s.window.items.size := hs.range.length_le
        _ ≤ maxIndex := hs.bounded
      truncates := fun len =>
        ⟨List.length_filter_le _ _, Nat.le_trans hs.registry_le hs.bounded⟩ }

end

/-- A window that is offered an infinite sample and asked for the largest margin there is. -/
def Builder.boundless : Builder Unit Nat Nat :=
  { Builder.copying #[4, 5, 6] with
    sample := some (.infinite false)
    config := { itemExtent := 1, overscan := maxIndex } }

theorem Builder.boundless_parts : Builder.boundless.parts = .ok ({}, .copying) := by
  have hvalid : Config.validate { itemExtent := 1, overscan := maxIndex } = .ok () := by
    decide +kernel
  rw [parts, show boundless.config.validate = .ok () from hvalid]
  rfl

def World.nowhere : World SilentArea Unit :=
  { container := { offset := .nan, extent := .infinite true }, channels := #[], caller := () }

/-- In such a world the window goes by the extent that is configured and keeps all items in range.
It is as well off without any items. -/
theorem run_bounded_nowhere :
    ∃ s : Scene SilentArea Unit Nat Nat,
      Builder.boundless.build .binary64 .nowhere = (.ok (.ok s.window), s.world) ∧
      s.Bounded .binary64 .copying 1 ∧ s.window.range = .span 0 2 ∧
      (s.perform .binary64 .copying (.setItems 0 #[])).2.Bounded .binary64 .copying 1 := by
  have hrange : (match Builder.boundless.build .binary64 World.nowhere with
    | (.ok (.ok window), _) => decide (window.range = .span 0 2)
    | (.ok (.error _), _) | (.error _, _) => false) = true := by decide +kernel
  split at hrange
  · rename_i window world hbuild
    obtain ⟨_, hbounded, _⟩ := Builder.run_bounded .binary64 Builder.boundless_parts
      (show 3 ≤ maxIndex by decide) World.nowhere
    have hextent : Builder.boundless.chosenExtent = 1 := by decide
    rw [hextent] at hbounded
    refine ⟨⟨window, world⟩, hbuild, hbounded _ _ hbuild _ .refl, of_decide_eq_true hrange, ?_⟩
    refine hbounded _ _ hbuild _ (.single (.ask _ ?_))
    exact Nat.zero_le maxIndex
  · cases hrange
  · cases hrange

end ListWindow
