import ListWindow.Proofs.Pass

/-!
What holds of a window in every run. `Window.Consistent` ties the items, the range, the registry
and the surface of a window together, `Window.Fresh` says that its elements show the present items,
and `Window.Sampled` that its range is the one that the geometry of its last pass asks for. All
hold of a window just built and are kept by every step, so they hold whatever is asked of the window
and whatever others do to the world (`Reachable.consistent`, `Reachable.fresh`,
`Reachable.sampled`).
-/
namespace ListWindow

variable {κ σ α ε γ : Type}

namespace Window

/-- The range fits the items, the registry has an element for exactly the indices of the range, and
the surface shows them between the spacers that stand in for all others. -/
structure Consistent (a : Arithmetic) (w : Window α ε) : Prop where
  extent : w.itemExtent.isExtent = true
  bounded : w.items.size ≤ maxIndex
  range : w.range.Within w.items.size
  keys : w.registry.indices = w.range.indices
  spacers : w.spacers = .around a w.items.size w.itemExtent w.range
  drawn : w.surface.regions = w.regions

/-- Every element shows the present item of its index. -/
def Fresh (view : ε → γ) (f : α → Nat → γ) (w : Window α ε) : Prop :=
  ∀ e ∈ w.registry.entries, ∃ item, w.items[e.index]? = some item ∧ view e.element = f item e.index

/-- The geometry has been read from a scroll area, and the range is the one it asks for. -/
structure Sampled (a : Arithmetic) (w : Window α ε) : Prop where
  geometry : ∃ offset extent, w.geometry = Geometry.sample offset extent
  range : visibleRange a w.geometry w.itemExtent w.items.size w.config.overscan = .ok w.range

theorem isExtent_pos {x : Scalar} (h : x.isExtent = true) : (0 : Scalar) < x := by
  simp only [Scalar.isExtent, Bool.and_eq_true] at h
  exact h.2

namespace Consistent

variable {a : Arithmetic} {w : Window α ε}

theorem pos (h : w.Consistent a) : (0 : Scalar) < w.itemExtent := isExtent_pos h.extent

theorem nodup (h : w.Consistent a) : w.registry.indices.Nodup := by
  rw [h.keys]
  exact w.range.nodup_indices

theorem element?_isSome (h : w.Consistent a) (i : Nat) :
    (w.registry.element? i).isSome = w.range.contains i := by
  rw [Bool.eq_iff_iff, ← IndexRange.mem_indices, ← h.keys, ← not_iff_not, Bool.not_eq_true,
    Option.isSome_eq_false_iff, Option.isNone_iff_eq_none, Registry.element?_eq_none]

theorem contains_eq (h : w.Consistent a) (i : Nat) :
    w.registry.contains i = w.range.contains i := by
  rw [← h.element?_isSome, Registry.contains, Registry.element?, Option.isSome_map]

/-- The regions of a window: its elements in ascending order between the spacers. -/
theorem regions_eq (h : w.Consistent a) :
    w.regions = Spacers.region .leading w.spacers.leading?
      ++ w.registry.entries.map (fun e => .element e.index e.element)
      ++ Spacers.region .trailing w.spacers.trailing? := by
  have hmiddle : w.range.indices.filterMap (fun i => (w.registry.element? i).map (Region.element i))
      = w.registry.entries.map (fun e => .element e.index e.element) := by
    rw [← h.keys, Registry.indices, List.filterMap_map, ← List.filterMap_eq_map]
    apply List.filterMap_congr
    intro e he
    simp [Registry.element?, Registry.get?_of_mem h.nodup he]
  rw [regions, hmiddle]

end Consistent

end Window

namespace Scene

variable [Container κ] {a : Arithmetic} {cb : Callbacks σ α ε} {s : Scene κ σ α ε}

/-! ## A pass establishes the invariant -/

@[simp] theorem markReady_extent (e : ExtentEstimator) : e.markReady.extent = e.extent := by
  unfold ExtentEstimator.markReady
  cases e.phase <;> rfl

theorem passed_live (hlive : s.window.isDestroyed = false) (th : Throttle) (range : IndexRange)
    (p : Progress σ ε) (extra : Nat) :
    (s.passed a th range p extra).window.isDestroyed = false := by
  show (s.window.estimator.markReady.phase == .destroyed) = false
  unfold Window.isDestroyed at hlive
  unfold ExtentEstimator.markReady
  split
  · exact hlive
  · rfl

theorem passed_consistent (he : s.window.itemExtent.isExtent = true)
    (hc : s.window.items.size ≤ maxIndex) {range : IndexRange}
    (hwithin : range.Within s.window.items.size) {left : Registry ε} {caller : σ}
    (hp : (Progress.run cb s.window.items range.indices left caller).fault = none)
    (th : Throttle) (extra : Nat) :
    (s.passed a th range (Progress.run cb s.window.items range.indices left caller)
      extra).window.Consistent a where
  extent := by
    show (s.window.estimator.markReady.extent).isExtent = true
    rw [markReady_extent]
    exact he
  bounded := hc
  range := hwithin
  keys := Progress.run_made_indices hwithin.lt_of_mem hp
  spacers := by
    show Spacers.around a s.window.items.size s.window.itemExtent range
      = .around a s.window.items.size s.window.estimator.markReady.extent range
    rw [markReady_extent]
    rfl
  drawn := rfl

theorem passed_sampled {range : IndexRange}
    (hrange : visibleRange a (Container.geometry s.world.container) s.window.itemExtent
      s.window.items.size s.window.config.overscan = .ok range)
    (th : Throttle) (p : Progress σ ε) (extra : Nat) :
    (s.passed a th range p extra).window.Sampled a where
  geometry := ⟨_, _, rfl⟩
  range := by
    show visibleRange a _ s.window.estimator.markReady.extent s.window.items.size
      s.window.config.overscan = .ok range
    rw [markReady_extent]
    exact hrange

theorem passed_fresh {view : ε → γ} {f : α → Nat → γ} (hshow : cb.Shows view f)
    {range : IndexRange} (hwithin : range.Within s.window.items.size) {left : Registry ε}
    (hleft : ∀ e ∈ left.entries, ∃ old, view e.element = f old e.index) {caller : σ}
    (hp : (Progress.run cb s.window.items range.indices left caller).fault = none)
    (th : Throttle) (extra : Nat) :
    (s.passed a th range (Progress.run cb s.window.items range.indices left caller)
      extra).window.Fresh view f :=
  Progress.run_shows hshow hwithin.lt_of_mem hleft hp

/-! ## Every step keeps it -/

theorem staged_bounded {r : Request α} (hfits : r.Fits) {w : Window α ε}
    (hc : w.items.size ≤ maxIndex) : (r.staged w).items.size ≤ maxIndex := by
  cases r with
  | setItems now items => exact hfits
  | updateAt index item => simpa [Request.staged] using hc
  | _ => exact hc

@[simp] theorem staged_extent (r : Request α) (w : Window α ε) :
    (r.staged w).itemExtent = w.itemExtent := by
  cases r <;> rfl

@[simp] theorem staged_config (r : Request α) (w : Window α ε) :
    (r.staged w).config = w.config := by
  cases r <;> rfl

@[simp] theorem staged_isDestroyed (r : Request α) (w : Window α ε) :
    (r.staged w).isDestroyed = w.isDestroyed := by
  cases r <;> rfl

theorem staged_entries {r : Request α} {w : Window α ε} {e : Rendered ε}
    (h : e ∈ (r.staged w).registry.entries) : e ∈ w.registry.entries := by
  cases r with
  | setItems now items => exact (List.mem_filter.1 h).1
  | _ => exact h

theorem unsubscribe_window (s : Scene κ σ α ε) :
    s.unsubscribe.window = { s.window with subscription := none } := by
  rw [unsubscribe]
  rcases h : s.window.subscription with _ | subscription
  · simp [← h]
  · rfl

theorem Effect.consistent {r : Request α} {answer : Answer} {s' : Scene κ σ α ε}
    (h : Effect a cb s r answer s') (hfits : r.Fits) (hs : s.window.Consistent a) :
    s'.window.Consistent a := by
  cases h with
  | passes _ _ range p _ _ _ hwithin hp hfault =>
    subst hp
    refine passed_consistent (s := { s with window := r.staged s.window }) ?_ ?_ hwithin hfault _ _
    · rw [staged_extent]
      exact hs.extent
    · exact staged_bounded hfits hs.bounded
  | waits _ now _ =>
    rw [collectEvents_eq]
    exact ⟨hs.extent, hs.bounded, hs.range, hs.keys, hs.spacers, hs.drawn⟩
  | updates index item held left u caller hindex _ _ _ =>
    refine ⟨hs.extent, ?_, ?_, ?_, ?_, rfl⟩
    · simpa [Window.place] using hs.bounded
    · simpa [Window.place] using hs.range
    · show (s.window.registry.modify index fun _ => left).indices = _
      rw [Registry.indices_modify]
      exact hs.keys
    · simpa [Window.place, Window.itemExtent] using hs.spacers
  | defers index item _ _ =>
    refine ⟨hs.extent, ?_, ?_, hs.keys, ?_, hs.drawn⟩
    · simpa using hs.bounded
    · simpa using hs.range
    · simpa [Window.itemExtent] using hs.spacers
  | refuses _ _ _ => exact hs
  | scrolls index =>
    rw [scrollToIndex_window]
    exact hs
  | destroys =>
    rw [destroy]
    split
    · exact hs
    · refine ⟨?_, Nat.zero_le _, rfl, rfl, rfl, rfl⟩
      show s.unsubscribe.window.itemExtent.isExtent = true
      rw [unsubscribe_window]
      exact hs.extent

theorem Effect.fresh {r : Request α} {answer : Answer} {s' : Scene κ σ α ε}
    (h : Effect a cb s r answer s') (hs : s.window.Consistent a) {view : ε → γ} {f : α → Nat → γ}
    (hshow : cb.Shows view f) (hfresh : s.window.Fresh view f) : s'.window.Fresh view f := by
  cases h with
  | passes _ _ range p _ _ _ hwithin hp hfault =>
    subst hp
    refine passed_fresh (s := { s with window := r.staged s.window }) hshow hwithin ?_ hfault _ _
    intro e he
    obtain ⟨x, _, hx⟩ := hfresh e (staged_entries he)
    exact ⟨x, hx⟩
  | waits _ now _ =>
    rw [collectEvents_eq]
    exact hfresh
  | updates index item held left u caller hindex hheld hu hcall =>
    -- the entry that was changed shows the new item, and the others what they showed
    intro e he
    obtain ⟨old, hold, heq⟩ := List.mem_map.1 he
    by_cases hi : old.index = index
    · rw [if_pos hi] at heq
      subst heq hi
      refine ⟨item, by simp [Window.place, hindex], ?_⟩
      obtain ⟨x, _, hx⟩ := hfresh _ (Registry.mem_of_get? (Registry.element?_eq_some.1 hheld))
      have := hshow.update u hu s.world.caller held x item old.index hx (by rw [hcall])
      rwa [hcall] at this
    · rw [if_neg hi] at heq
      subst heq
      obtain ⟨x, hx, hview⟩ := hfresh old hold
      refine ⟨x, ?_, hview⟩
      show (s.window.items.setIfInBounds index item)[old.index]? = some x
      rw [Array.getElem?_setIfInBounds_ne (Ne.symm hi)]
      exact hx
  | defers index item hindex hout =>
    intro e he
    obtain ⟨x, hx, hview⟩ := hfresh e he
    -- no entry is for the item stored, because it is out of range
    have hi : e.index ≠ index := by
      intro heq
      have hmem : e.index ∈ s.window.range.indices := by
        rw [← hs.keys]
        exact List.mem_map_of_mem he
      rw [IndexRange.mem_indices, heq, hout] at hmem
      cases hmem
    refine ⟨x, ?_, hview⟩
    show (s.window.items.setIfInBounds index item)[e.index]? = some x
    rw [Array.getElem?_setIfInBounds_ne (Ne.symm hi)]
    exact hx
  | refuses _ _ _ => exact hfresh
  | scrolls index =>
    rw [scrollToIndex_window]
    exact hfresh
  | destroys =>
    rw [destroy]
    split
    · exact hfresh
    · intro e he
      cases he

theorem Effect.sampled {r : Request α} {answer : Answer} {s' : Scene κ σ α ε}
    (h : Effect a cb s r answer s') (hs : s.window.Sampled a) : s'.window.Sampled a := by
  cases h with
  | passes _ _ range p _ _ hrange _ _ _ =>
    refine passed_sampled (s := { s with window := r.staged s.window }) ?_ _ p _
    rw [staged_extent, staged_config]
    exact hrange
  | waits _ now _ =>
    rw [collectEvents_eq]
    exact ⟨hs.geometry, hs.range⟩
  | updates index item held left u caller _ _ _ _ =>
    refine ⟨hs.geometry, ?_⟩
    simpa [Window.place, Window.itemExtent] using hs.range
  | defers index item _ _ =>
    refine ⟨hs.geometry, ?_⟩
    simpa [Window.itemExtent] using hs.range
  | refuses _ _ _ => exact hs
  | scrolls index =>
    rw [scrollToIndex_window]
    exact hs
  | destroys =>
    rw [destroy]
    split
    · exact hs
    · -- without items any geometry asks for the empty range
      refine ⟨?_, rfl⟩
      show ∃ offset extent, s.unsubscribe.window.geometry = Geometry.sample offset extent
      rw [unsubscribe_window]
      exact hs.geometry

theorem Effect.extent {r : Request α} {answer : Answer} {s' : Scene κ σ α ε}
    (h : Effect a cb s r answer s') : s'.window.itemExtent = s.window.itemExtent := by
  cases h with
  | passes _ _ range p _ _ _ _ _ _ =>
    exact (markReady_extent (r.staged s.window).estimator).trans (staged_extent r s.window)
  | waits _ now _ => rw [collectEvents_eq]; rfl
  | updates index item held left u caller _ _ _ _ => rfl
  | defers index item _ _ => rfl
  | refuses _ _ _ => rfl
  | scrolls index => rw [scrollToIndex_window]
  | destroys =>
    rw [destroy]
    split
    · rfl
    · show s.unsubscribe.window.itemExtent = _
      rw [unsubscribe_window]
      rfl

theorem Effect.items {r : Request α} {answer : Answer} {s' : Scene κ σ α ε}
    (h : Effect a cb s r answer s') (hlive : s'.window.isDestroyed = false) :
    s'.window.items = (r.staged s.window).items := by
  cases h with
  | passes _ _ range p _ _ _ _ _ _ => rfl
  | waits _ now hwhen =>
    rw [collectEvents_eq]
    obtain ⟨rfl, _⟩ | ⟨rfl, _⟩ := hwhen
    · rfl
    · rfl
  | updates index item held left u caller _ _ _ _ => rfl
  | defers index item _ _ => rfl
  | refuses index item hout =>
    exact (Array.setIfInBounds_eq_of_size_le hout).symm
  | scrolls index =>
    rw [scrollToIndex_window]
    rfl
  | destroys =>
    rw [destroy] at hlive
    split at hlive
    · rename_i hdead
      cases hdead.symm.trans hlive
    · cases hlive

/-- Only `destroy` ends the life of a window. -/
theorem Effect.dies {r : Request α} {answer : Answer} {s' : Scene κ σ α ε}
    (h : Effect a cb s r answer s') (hlive : s.window.isDestroyed = false)
    (hdead : s'.window.isDestroyed = true) : r = .destroy ∧ s' = s.destroy := by
  cases h with
  | destroys => exact ⟨rfl, rfl⟩
  | passes _ _ range p _ _ _ _ _ _ =>
    rw [passed_live (s := { s with window := r.staged s.window })
      ((staged_isDestroyed r s.window).trans hlive)] at hdead
    cases hdead
  | waits _ now _ =>
    rw [collectEvents_eq] at hdead
    cases hlive.symm.trans hdead
  | scrolls index =>
    rw [scrollToIndex_window] at hdead
    cases hlive.symm.trans hdead
  | _ => cases hlive.symm.trans hdead

theorem Effect.live {r : Request α} {answer : Answer} {s' : Scene κ σ α ε}
    (h : Effect a cb s r answer s') (hlive : s.window.isDestroyed = false) (hr : r ≠ .destroy) :
    s'.window.isDestroyed = false :=
  Bool.eq_false_iff.2 fun hdead => hr (h.dies hlive hdead).1

end Scene

/-! ## Every run starts with it -/

theorem measure_spec {e : ExtentEstimator} (h : e.extent.isExtent = true)
    (hphase : e.phase = .uninitialized) (sample : Option Scalar) :
    (e.measure sample).extent.isExtent = true ∧ (e.measure sample).phase = .ready := by
  unfold ExtentEstimator.measure
  simp only [hphase]
  rcases sample with _ | x
  · exact ⟨h, rfl⟩
  · dsimp only
    split
    · rename_i hx
      exact ⟨hx, rfl⟩
    · exact ⟨h, rfl⟩

theorem Builder.extent_of_parts {b : Builder σ α ε} {surface : Surface ε} {cb : Callbacks σ α ε}
    (h : b.parts = .ok (surface, cb)) : b.config.itemExtent.isExtent = true := by
  by_contra hextent
  have hinvalid : b.config.validate = .error (.invalidItemExtent b.config.itemExtent) := by
    simp [Config.validate, hextent]
  unfold Builder.parts at h
  split at h
  · cases h
  · cases h
  · cases h
  · rw [hinvalid] at h
    cases h

/-- A window that has subscribed and has not drawn yet. -/
def Builder.opened [Container κ] (b : Builder σ α ε) (surface : Surface ε) (w : World κ σ) :
    Scene κ σ α ε :=
  b.subscribed surface (ExtentEstimator.measure { extent := b.config.itemExtent } b.sample) w

theorem Builder.carryOut_of_parts [Container κ] (a : Arithmetic) {b : Builder σ α ε}
    {surface : Surface ε} {cb : Callbacks σ α ε} (hparts : b.parts = .ok (surface, cb))
    (w : World κ σ) :
    b.carryOut a w = match (b.opened surface w).render a cb with
      | (.ok _, s) => (.ok (.ok s.window), some s.window.surface, s.world)
      | (.error fault, s) =>
        (.error fault, some s.unsubscribe.window.surface, s.unsubscribe.world) := by
  rw [carryOut, hparts]
  simp only [ExtentEstimator.start, extent_of_parts hparts, if_true]
  rfl

theorem Builder.opened_ready [Container κ] {b : Builder σ α ε} {surface : Surface ε}
    {cb : Callbacks σ α ε} (hparts : b.parts = .ok (surface, cb)) (w : World κ σ) :
    (b.opened surface w).window.isDestroyed = false ∧
      (b.opened surface w).window.itemExtent.isExtent = true := by
  obtain ⟨hmeasured, hready⟩ := measure_spec (e := { extent := b.config.itemExtent })
    (extent_of_parts hparts) rfl b.sample
  refine ⟨?_, hmeasured⟩
  show ((ExtentEstimator.measure { extent := b.config.itemExtent } b.sample).phase
    == .destroyed) = false
  rw [hready]
  rfl

/-- Building subscribes and runs a pass, which is complete unless the caller's functions give
up. -/
theorem Builder.build_eq [Container κ] (a : Arithmetic) {b : Builder σ α ε} {surface : Surface ε}
    {cb : Callbacks σ α ε} (hparts : b.parts = .ok (surface, cb)) (hsize : b.items.size ≤ maxIndex)
    (w : World κ σ) :
    ∃ range,
      let t := b.opened surface w
      let p := Progress.run cb t.window.items range.indices t.window.registry t.world.caller
      t.window.isDestroyed = false ∧ t.window.itemExtent.isExtent = true ∧
        visibleRange a (Container.geometry t.world.container) t.window.itemExtent
          t.window.items.size t.window.config.overscan = .ok range ∧
        range.Within t.window.items.size ∧
        b.build a w = match p.fault with
          | some fault => (.error fault, (t.broken range p).unsubscribe.world)
          | none =>
            let s := t.passed a t.window.throttle.discard.1 range p 0
            (.ok (.ok s.window), s.world) := by
  obtain ⟨hlive, hmeasured⟩ := b.opened_ready hparts w
  obtain ⟨range, hrange, hwithin, hrender⟩ := Scene.render_eq a cb hlive
    (Window.isExtent_pos hmeasured) hsize
  refine ⟨range, hlive, hmeasured, hrange, hwithin, ?_⟩
  rw [build, carryOut_of_parts a hparts]
  generalize b.opened surface w = t at hrender ⊢
  rw [hrender]
  dsimp only
  rcases (Progress.run cb t.window.items range.indices t.window.registry t.world.caller).fault with
    _ | fault
  · rfl
  · rfl

theorem Built.passed [Container κ] {a : Arithmetic} {cb : Callbacks σ α ε}
    {start : World κ σ → Prop} {s : Scene κ σ α ε} (h : Built a cb start s) :
    ∃ (b : Builder σ α ε) (w : World κ σ) (surface : Surface ε) (e : ExtentEstimator)
      (range : IndexRange), start w ∧
      (let t := b.subscribed surface e w
       let p := Progress.run cb t.window.items range.indices t.window.registry t.world.caller
       t.window.isDestroyed = false ∧ t.window.itemExtent.isExtent = true ∧
        t.window.items.size ≤ maxIndex ∧
        visibleRange a (Container.geometry t.world.container) t.window.itemExtent
          t.window.items.size t.window.config.overscan = .ok range ∧
        range.Within t.window.items.size ∧ p.fault = none ∧
        s = t.passed a t.window.throttle.discard.1 range p 0) := by
  obtain ⟨b, w, hw, hsize, ⟨surface, hparts⟩, hbuild⟩ := h
  obtain ⟨range, hlive, hextent, hrange, hwithin, heq⟩ := Builder.build_eq a hparts hsize w
  refine ⟨b, w, surface, _, range, hw, hlive, hextent, hsize, hrange, hwithin, ?_⟩
  rw [hbuild] at heq
  split at heq
  · cases heq
  · rename_i hp
    refine ⟨hp, ?_⟩
    obtain ⟨window, world⟩ := s
    simp only [Prod.mk.injEq, Except.ok.injEq] at heq
    obtain ⟨rfl, rfl⟩ := heq
    rfl

/-- Functions that never give up let every window be built that has all its parts. It keeps to the
configuration, begins with the items it was given, and they have the extent that was measured. -/
theorem Builder.build_total [Container κ] (a : Arithmetic) {b : Builder σ α ε} {surface : Surface ε}
    {cb : Callbacks σ α ε} (hparts : b.parts = .ok (surface, cb)) (hsize : b.items.size ≤ maxIndex)
    (hcb : cb.Total) (w : World κ σ) :
    ∃ s : Scene κ σ α ε, b.build a w = (.ok (.ok s.window), s.world) ∧
      s.window.config = b.config ∧ s.window.items = b.items ∧ s.window.itemExtent =
        (ExtentEstimator.measure { extent := b.config.itemExtent } b.sample).extent := by
  obtain ⟨range, _, _, _, _, heq⟩ := build_eq a hparts hsize w
  simp only [Progress.run_total hcb] at heq
  exact ⟨_, heq, rfl, rfl, Scene.markReady_extent _⟩

section

variable [Container κ] {a : Arithmetic} {cb : Callbacks σ α ε} {start : World κ σ → Prop}
  {outside : World κ σ → World κ σ → Prop} {s : Scene κ σ α ε}

theorem Built.consistent (h : Built a cb start s) : s.window.Consistent a := by
  obtain ⟨b, w, surface, e, range, _, _, hextent, hsize, _, hwithin, hp, rfl⟩ := h.passed
  exact Scene.passed_consistent hextent hsize hwithin hp _ _

theorem Built.live (h : Built a cb start s) : s.window.isDestroyed = false := by
  obtain ⟨b, w, surface, e, range, _, hlive, _, _, _, _, _, rfl⟩ := h.passed
  exact Scene.passed_live hlive _ _ _ _

theorem Built.fresh (h : Built a cb start s) {view : ε → γ} {f : α → Nat → γ}
    (hshow : cb.Shows view f) : s.window.Fresh view f := by
  obtain ⟨b, w, surface, e, range, _, _, _, _, _, hwithin, hp, rfl⟩ := h.passed
  refine Scene.passed_fresh hshow hwithin ?_ hp _ _
  intro e he
  cases he

/-- The scroll area of a window just built is one that it may start from, with the window on its
list and the extent of all items told, after a pass has seen it. -/
theorem Built.container (h : Built a cb start s) :
    ∃ (w : World κ σ) (channel : Nat), start w ∧
      s.window.geometry = Container.geometry (Container.subscribe channel w.container).1 ∧
      s.world.container = Container.setContentExtent a (s.window.totalExtent a)
        (Container.subscribe channel w.container).1 := by
  obtain ⟨b, w, surface, e, range, hw, _, _, _, _, _, _, rfl⟩ := h.passed
  exact ⟨w, _, hw, rfl, rfl⟩

theorem Built.sampled (h : Built a cb start s) : s.window.Sampled a := by
  obtain ⟨b, w, surface, e, range, _, _, _, _, hrange, _, _, rfl⟩ := h.passed
  exact Scene.passed_sampled hrange _ _ _

/-- A step has one of the effects listed, or leaves the window as it is: that of a destroyed window
and one that is taken outside. -/
theorem Scene.Step.effect {ran : Bool} {s' : Scene κ σ α ε} (h : Scene.Step a cb outside ran s s')
    (hs : s.window.Consistent a) :
    (∃ r answer, r.Fits ∧ Scene.Effect a cb s r answer s') ∨ s'.window = s.window := by
  cases h with
  | ask r hfits hok =>
    rcases hlive : s.window.isDestroyed with _ | _
    · exact .inl ⟨r, _, hfits, Scene.perform_effect hlive hs.pos hs.bounded r hfits (.inr hok)⟩
    · exact .inr (congrArg Scene.window (Scene.perform_destroyed hlive r))
  | outside _ => exact .inr rfl

theorem Scene.Step.extent {ran : Bool} {s' : Scene κ σ α ε} (h : Scene.Step a cb outside ran s s')
    (hs : s.window.Consistent a) : s'.window.itemExtent = s.window.itemExtent := by
  rcases h.effect hs with ⟨r, answer, _, heffect⟩ | hsame
  · exact heffect.extent
  · rw [hsame]

theorem Reachable.consistent (h : Reachable a cb start outside s) : s.window.Consistent a := by
  refine h.invariant (P := fun s => s.window.Consistent a) (fun s hs => hs.consistent) ?_
  intro ran s s' hstep hs
  rcases hstep.effect hs with ⟨r, answer, hfits, heffect⟩ | hsame
  · exact heffect.consistent hfits hs
  · rw [hsame]
    exact hs

theorem SincePass.extent {drawn : Scene κ σ α ε} (h : SincePass a cb outside drawn s)
    (hdrawn : Reachable a cb start outside drawn) :
    Reachable a cb start outside s ∧ s.window.itemExtent = drawn.window.itemExtent := by
  induction h with
  | refl => exact ⟨hdrawn, rfl⟩
  | tail _ hlast ih =>
    obtain ⟨hreach, hsame⟩ := ih
    exact ⟨hreach.step hlast, (hlast.extent hreach.consistent).trans hsame⟩

theorem Reachable.fresh (h : Reachable a cb start outside s) {view : ε → γ} {f : α → Nat → γ}
    (hshow : cb.Shows view f) : s.window.Fresh view f := by
  -- an item stored out of range must not be the item of an element, so the range comes along
  refine (h.invariant (P := fun s => s.window.Consistent a ∧ s.window.Fresh view f)
    (fun s hs => ⟨hs.consistent, hs.fresh hshow⟩) ?_).2
  rintro ran s s' hstep ⟨hs, hfresh⟩
  rcases hstep.effect hs with ⟨r, answer, hfits, heffect⟩ | hsame
  · exact ⟨heffect.consistent hfits hs, heffect.fresh hs hshow hfresh⟩
  · rw [hsame]
    exact ⟨hs, hfresh⟩

theorem Reachable.sampled (h : Reachable a cb start outside s) : s.window.Sampled a := by
  refine (h.invariant (P := fun s => s.window.Consistent a ∧ s.window.Sampled a)
    (fun s hs => ⟨hs.consistent, hs.sampled⟩) ?_).2
  rintro ran s s' hstep ⟨hs, hsampled⟩
  rcases hstep.effect hs with ⟨r, answer, hfits, heffect⟩ | hsame
  · exact ⟨heffect.consistent hfits hs, heffect.sampled hsampled⟩
  · rw [hsame]
    exact ⟨hs, hsampled⟩

/-- In every run the range, the registry and the surface agree with the items: the range is empty
exactly when there are no items and ends before the last of them otherwise, the registry has one
entry for every index of the range, the surface shows the entries in ascending order between the
spacers that are needed, and all elements show the present items. -/
theorem Reachable.window_agrees (h : Reachable a cb start outside s) :
    let w := s.window
    ((w.range = .empty ↔ w.items.size = 0) ∧
      ∀ first last, w.range = .span first last → first ≤ last ∧ last ≤ w.items.size - 1) ∧
    (w.registry.indices = w.range.indices ∧
      (∀ i, w.registry.contains i = w.range.contains i) ∧
      ∀ i e, w.registry.get? i = some e → e.index = i) ∧
    w.surface.regions =
      (if (0 : Scalar) < w.spacers.leading then [.filler .leading w.spacers.leading] else [])
        ++ w.registry.entries.map (fun e => .element e.index e.element)
        ++ (if (0 : Scalar) < w.spacers.trailing then [.filler .trailing w.spacers.trailing]
          else []) ∧
    ∀ (γ : Type) (view : ε → γ) (f : α → Nat → γ), cb.Shows view f →
      (∀ e ∈ w.registry.entries,
        ∃ item, w.items[e.index]? = some item ∧ view e.element = f item e.index) ∧
      ∀ i x, .element i x ∈ w.surface.regions →
        ∃ item, w.items[i]? = some item ∧ view x = f item i := by
  have hs := h.consistent
  have hspacer : ∀ (edge : Edge) (x : Scalar),
      (Spacers.region edge (Spacers.filler? x) : List (Region ε)) =
        if (0 : Scalar) < x then [.filler edge x] else [] := by
    intro edge x
    by_cases hx : (0 : Scalar) < x <;> simp [Spacers.filler?, Spacers.region, hx]
  have hregions := hs.drawn.trans hs.regions_eq
  rw [Spacers.leading?, Spacers.trailing?, hspacer, hspacer] at hregions
  refine ⟨⟨hs.range.empty_iff, ?_⟩, ⟨hs.keys, ?_, fun i e => Registry.get?_index⟩, hregions, ?_⟩
  · intro first last hrange
    have hwithin := hs.range
    rw [hrange] at hwithin
    obtain ⟨hfirst, hlast⟩ := hwithin
    exact ⟨hfirst, Nat.le_sub_one_of_lt hlast⟩
  · intro i
    rw [← hs.element?_isSome, Registry.contains, Registry.element?, Option.isSome_map]
  · intro γ view f hshow
    have hfresh := h.fresh hshow
    refine ⟨hfresh, ?_⟩
    intro i x hx
    rw [hregions] at hx
    obtain ⟨e, he, heq⟩ : ∃ e ∈ s.window.registry.entries,
        Region.element e.index e.element = .element i x := by
      simpa using hx
    obtain ⟨rfl, rfl⟩ := Region.element.inj heq
    exact hfresh e he

end

def Callbacks.copying : Callbacks Unit Nat Nat where
  create := fun _ item _ => ((), some item)
  update := some fun _ _ item _ => ((), item, true)

theorem Callbacks.copying_total : Callbacks.copying.Total where
  create := fun _ item _ => ⟨item, rfl⟩
  update := by
    rintro u ⟨rfl⟩ _ _ _ _
    rfl

theorem Callbacks.copying_shows : Callbacks.copying.Shows id fun item _ => item where
  create := by
    rintro _ item _ e ⟨rfl⟩
    rfl
  update := by
    rintro u ⟨rfl⟩ _ _ _ _ _ _ _
    rfl

/-- A window of lines one high onto some numbers, without a margin. -/
def Builder.copying (items : Array Nat) : Builder Unit Nat Nat where
  surface := some {}
  attached := true
  create := some Callbacks.copying.create
  update := Callbacks.copying.update
  items := items
  config := { itemExtent := 1, overscan := 0 }

theorem Builder.copying_parts (items : Array Nat) :
    (Builder.copying items).parts = .ok ({}, .copying) := by
  have hvalid : Config.validate { itemExtent := 1, overscan := 0 } = .ok () := by decide +kernel
  rw [parts, show (copying items).config.validate = .ok () from hvalid]
  rfl

theorem built_copying :
    ∃ s : Scene ScrollArea Unit Nat Nat, Built .binary64 .copying anywhere s := by
  have hthree : (Builder.copying #[4, 5, 6]).items.size ≤ maxIndex := by decide
  obtain ⟨s, hs, _⟩ := Builder.build_total .binary64 (Builder.copying_parts _) hthree
    Callbacks.copying_total
    { container := ({ extent := 2 } : ScrollArea), channels := #[], caller := () }
  exact ⟨s, _, _, trivial, hthree, ⟨_, Builder.copying_parts _⟩, hs⟩

theorem Built.copying_unbroken {s : Scene ScrollArea Unit Nat Nat}
    (h : Built .binary64 .copying anywhere s) {r : Request Nat} (hfits : r.Fits) :
    s.Unbroken .binary64 .copying r :=
  Scene.unbroken_of_total Callbacks.copying_total h.live h.consistent.pos h.consistent.bounded hfits

/-- After two numbers have been put in place of three the elements are the two numbers. -/
theorem window_agrees_copying :
    ∃ s : Scene ScrollArea Unit Nat Nat, Built .binary64 .copying anywhere s ∧
      let w := (s.perform .binary64 .copying (.setItems 0 #[7, 8])).2.window
      (∀ i, w.registry.contains i = w.range.contains i) ∧
        ∀ e ∈ w.registry.entries, w.items[e.index]? = some e.element := by
  obtain ⟨s, hs⟩ := built_copying
  have hfits : (Request.setItems 0 #[7, 8]).Fits := by
    show 2 ≤ maxIndex
    decide
  have hreach : Reachable .binary64 .copying anywhere anything
      (s.perform .binary64 .copying (.setItems 0 #[7, 8])).2 :=
    Reachable.step ⟨s, hs, .refl⟩ (.ask _ hfits (hs.copying_unbroken hfits))
  obtain ⟨_, ⟨_, hkeys, _⟩, _, hfresh⟩ := hreach.window_agrees
  refine ⟨s, hs, hkeys, fun e he => ?_⟩
  obtain ⟨item, hitem, hview⟩ := (hfresh Nat id _ Callbacks.copying_shows).1 e he
  rw [hitem]
  exact congrArg some hview.symm

end ListWindow
