import ListWindow.Proofs.Coverage
import ListWindow.Proofs.Invariant

/-!
How the range moves with the geometry, in exact arithmetic. Scrolling down moves both ends down or
leaves them (`neededRange_ends_mono`). A larger viewport or margin never takes an item out of the
range, although the offset that counts goes back as the viewport grows (`neededRange_grows`). So of
two windows onto as many items, with their offsets at the same place, the one with the larger
viewport and margin has an element wherever the other one has (`visibleRange_monotone`).
-/
namespace ListWindow

section

variable {offset offset' height height' extent : Rat} {count overscan overscan' : Nat}

theorem reachedOffset_mono (h : offset ≤ offset') (height extent : Rat) (count : Nat) :
    reachedOffset offset height extent count ≤ reachedOffset offset' height extent count :=
  min_le_min_right _ h

theorem reachedOffset_anti (h : height ≤ height') (offset extent : Rat) (count : Nat) :
    reachedOffset offset height' extent count ≤ reachedOffset offset height extent count :=
  min_le_min_left _ (max_le_max_right _ (sub_le_sub_left h _))

theorem reachedOffset_bottom (h : height ≤ height') (offset extent : Rat) (count : Nat) :
    reachedOffset offset height extent count + height ≤
      reachedOffset offset height' extent count + height' := by
  rw [reachedOffset, reachedOffset, ← min_add_add_right, ← min_add_add_right, ← max_add_add_right,
    ← max_add_add_right, sub_add_cancel, sub_add_cancel, zero_add, zero_add]
  exact min_le_min (add_le_add_right h _) (max_le_max_left _ h)

/-- Further down the content the range has both ends further down, or where they were. -/
theorem neededRange_ends_mono (hextent : 0 < extent) (hheight : 0 ≤ height)
    (hoffset : offset ≤ offset') (hcount : count ≠ 0) (hfits : count ≤ maxIndex) :
    ∃ first last first' last',
      neededRange offset height extent count overscan = .span first last ∧
        neededRange offset' height extent count overscan = .span first' last' ∧
        first ≤ first' ∧ last ≤ last' := by
  refine ⟨_, _, _, _, neededRange_span hextent hheight hcount hfits,
    neededRange_span hextent hheight hcount hfits, ?_⟩
  have hreached := reachedOffset_mono hoffset height extent count
  generalize reachedOffset offset height extent count = c at hreached ⊢
  generalize reachedOffset offset' height extent count = c' at hreached ⊢
  have hfirst : ⌊c / extent⌋.toNat ≤ ⌊c' / extent⌋.toNat :=
    Int.toNat_le_toNat (Int.floor_le_floor (div_le_div_of_nonneg_right hreached hextent.le))
  have hlast : ⌈(c + height) / extent⌉.toNat ≤ ⌈(c' + height) / extent⌉.toNat :=
    Int.toNat_le_toNat (Int.ceil_le_ceil
      (div_le_div_of_nonneg_right (add_le_add_left hreached height) hextent.le))
  omega

/-- A higher viewport and a larger margin keep every item in the range. -/
theorem neededRange_grows (hextent : 0 < extent) (hoffset : 0 ≤ offset) (hheight : 0 ≤ height)
    (hhigher : height ≤ height') (hwider : overscan ≤ overscan') (hfits : count ≤ maxIndex)
    {i : Nat} (hi : (neededRange offset height extent count overscan).contains i = true) :
    (neededRange offset height' extent count overscan').contains i = true := by
  rw [neededRange_contains_iff hextent hoffset hheight hfits] at hi
  rw [neededRange_contains_iff hextent hoffset (hheight.trans hhigher) hfits]
  obtain ⟨hcount, hbegins, hends⟩ := hi
  have hmargin : (overscan : Rat) * extent ≤ overscan' * extent :=
    mul_le_mul_of_nonneg_right (Nat.cast_le.2 hwider) hextent.le
  refine ⟨hcount, ?_, hends.imp_left fun hends => ?_⟩
  · have hbottom := reachedOffset_bottom hhigher offset extent count
    linarith
  · have htop := reachedOffset_anti hhigher offset extent count
    linarith

end

section

variable {κ κ' σ σ' α α' ε ε' : Type}

theorem Window.Sampled.needed {w : Window α ε} (h : w.Sampled .exact)
    (hextent : w.itemExtent.isExtent = true) :
    0 < w.itemExtent.toRat ∧ 0 ≤ w.geometry.scrollOffset.toRat ∧
      0 ≤ w.geometry.viewportExtent.toRat ∧
      w.range = neededRange w.geometry.scrollOffset.toRat w.geometry.viewportExtent.toRat
        w.itemExtent.toRat w.items.size w.config.overscan := by
  obtain ⟨e, he, heq⟩ := Scalar.isExtent_iff.1 hextent
  obtain ⟨⟨offset, extent, hgeometry⟩, hrange⟩ := h
  have hoffset : 0 ≤ w.geometry.scrollOffset.toRat := by
    rw [hgeometry, Geometry.sample, (Scalar.nonNegative_reads offset).2]
    exact le_max_right _ _
  have hheight : 0 ≤ w.geometry.viewportExtent.toRat := by
    rw [hgeometry, Geometry.sample, (Scalar.nonNegative_reads extent).2]
    exact le_max_right _ _
  rw [heq, visibleRange_reads w.geometry he, max_eq_left hoffset, max_eq_left hheight] at hrange
  rw [heq]
  exact ⟨he, hoffset, hheight, (Except.ok.inj hrange).symm⟩

/-- Of two windows onto as many items, at the same offset or where a higher viewport pulls it back
to, the one with the higher viewport and the larger margin has all the elements of the other. -/
theorem Window.Sampled.grows {w : Window α ε} {w' : Window α' ε'} (hs : w.Consistent .exact)
    (hs' : w'.Consistent .exact) (h : w.Sampled .exact) (h' : w'.Sampled .exact)
    (hextent : w'.itemExtent.toRat = w.itemExtent.toRat) (hsize : w'.items.size = w.items.size)
    (hoffset : w'.geometry.scrollOffset.toRat = w.geometry.scrollOffset.toRat ∨
      w'.geometry.scrollOffset.toRat = reachedOffset w.geometry.scrollOffset.toRat
        w'.geometry.viewportExtent.toRat w.itemExtent.toRat w.items.size)
    (hhigher : w.geometry.viewportExtent.toRat ≤ w'.geometry.viewportExtent.toRat)
    (hwider : w.config.overscan ≤ w'.config.overscan) {i : Nat}
    (hi : w.registry.contains i = true) : w'.registry.contains i = true := by
  obtain ⟨hpos, hnonneg, hheight, hrange⟩ := h.needed hs.extent
  obtain ⟨_, _, _, hrange'⟩ := h'.needed hs'.extent
  -- an offset that was pulled back asks for the range that the other one asks for
  have hsame : w'.range = neededRange w.geometry.scrollOffset.toRat
      w'.geometry.viewportExtent.toRat w.itemExtent.toRat w.items.size w'.config.overscan := by
    rw [hrange', hextent, hsize]
    rcases hoffset with hoffset | hoffset
    · rw [hoffset]
    · rw [hoffset, neededRange_clamped]
  rw [hs.contains_eq, hrange] at hi
  rw [hs'.contains_eq, hsame]
  exact neededRange_grows hpos hnonneg hheight hhigher hwider hs.bounded hi

end

/-- In exact arithmetic both ends of the range follow the offset, and the range grows with the
viewport and with the margin. No item of a window loses its element to a larger viewport or margin:
of two windows of any runs onto as many items of one extent, whose last passes were at the same
offset or where the larger viewport pulls it back to, the one with the larger viewport and margin
has all the elements of the other. -/
theorem visibleRange_monotone :
    (∀ (extent : Rat) (count : Nat), 0 < extent → 1 ≤ count → count ≤ maxIndex →
      (∀ (g g' : Geometry) (overscan : Nat),
        g'.viewportExtent.toRat = g.viewportExtent.toRat →
        g.scrollOffset.toRat ≤ g'.scrollOffset.toRat →
        ∃ first last first' last',
          visibleRange .exact g (.rat extent) count overscan = .ok (.span first last) ∧
            visibleRange .exact g' (.rat extent) count overscan = .ok (.span first' last') ∧
            first ≤ first' ∧ last ≤ last') ∧
      ∀ (g g' : Geometry) (overscan overscan' : Nat),
        g'.scrollOffset.toRat = g.scrollOffset.toRat →
        g.viewportExtent.toRat ≤ g'.viewportExtent.toRat → overscan ≤ overscan' →
        ∃ range range', visibleRange .exact g (.rat extent) count overscan = .ok range ∧
          visibleRange .exact g' (.rat extent) count overscan' = .ok range' ∧
          ∀ i, range.contains i = true → range'.contains i = true) ∧
    ∀ {κ κ' σ σ' α α' ε ε' : Type} [Container κ] [Container κ'] (cb : Callbacks σ α ε)
      (cb' : Callbacks σ' α' ε') (start : World κ σ → Prop) (start' : World κ' σ' → Prop)
      (outside : World κ σ → World κ σ → Prop) (outside' : World κ' σ' → World κ' σ' → Prop)
      (s : Scene κ σ α ε) (s' : Scene κ' σ' α' ε'),
      Reachable .exact cb start outside s → Reachable .exact cb' start' outside' s' →
      let w := s.window
      let w' := s'.window
      w'.itemExtent.toRat = w.itemExtent.toRat → w'.items.size = w.items.size →
      (w'.geometry.scrollOffset.toRat = w.geometry.scrollOffset.toRat ∨
        w'.geometry.scrollOffset.toRat = reachedOffset w.geometry.scrollOffset.toRat
          w'.geometry.viewportExtent.toRat w.itemExtent.toRat w.items.size) →
      w.geometry.viewportExtent.toRat ≤ w'.geometry.viewportExtent.toRat →
      w.config.overscan ≤ w'.config.overscan →
      ∀ i, w.registry.contains i = true → w'.registry.contains i = true := by
  refine ⟨fun extent count hextent hcount hfits => ⟨?_, ?_⟩, ?_⟩
  · intro g g' overscan hheight hoffset
    rw [visibleRange_reads g hextent, visibleRange_reads g' hextent, hheight]
    obtain ⟨first, last, first', last', hrange, hrange', hends⟩ :=
      neededRange_ends_mono hextent (le_max_right g.viewportExtent.toRat 0)
        (max_le_max_right 0 hoffset) (by omega : count ≠ 0) hfits
    exact ⟨first, last, first', last', congrArg _ hrange, congrArg _ hrange', hends⟩
  · intro g g' overscan overscan' hoffset hheight hwider
    refine ⟨_, _, visibleRange_reads g hextent count overscan,
      visibleRange_reads g' hextent count overscan', fun i hi => ?_⟩
    rw [hoffset]
    exact neededRange_grows hextent (le_max_right _ _) (le_max_right _ _)
      (max_le_max_right 0 hheight) hwider hfits hi
  · intro κ κ' σ σ' α α' ε ε' _ _ cb cb' start start' outside outside' s s' hreach hreach' w w'
      hextent hsize hoffset hhigher hwider i hi
    exact hreach.sampled.grows hreach.consistent hreach'.consistent hreach'.sampled hextent hsize
      hoffset hhigher hwider hi

/-- A viewport that grows at the end of the content keeps the last item: of ten items the range of
a geometry, and of three numbers the element, although the offset that counts goes back. -/
theorem visibleRange_monotone_copying :
    (∃ range range', visibleRange .exact ⟨.rat 100, .rat 0⟩ (.rat 2) 10 0 = .ok range ∧
      visibleRange .exact ⟨.rat 100, .rat 4⟩ (.rat 2) 10 1 = .ok range' ∧
      ∀ i, range.contains i = true → range'.contains i = true) ∧
    ∃ s s' : Scene ScrollArea Unit Nat Nat, Built .exact .copying anywhere s ∧
      Built .exact .copying anywhere s' ∧ s.window.range = .span 2 2 ∧
      s'.window.range = .span 1 2 ∧ s.window.registry.contains 2 = true ∧
      s'.window.registry.contains 2 = true := by
  have hthree : (Builder.copying #[4, 5, 6]).items.size ≤ maxIndex := by decide
  constructor
  · exact (visibleRange_monotone.1 2 10 (by decide +kernel) (by decide) (by decide)).2
      ⟨.rat 100, .rat 0⟩ ⟨.rat 100, .rat 4⟩ 0 1 rfl (by decide +kernel) (by decide)
  · let w (extent : Scalar) : World ScrollArea Unit :=
      { container := { offset := 5, extent }, channels := #[], caller := () }
    obtain ⟨s, hs, _⟩ := Builder.build_total .exact (Builder.copying_parts _) hthree
      Callbacks.copying_total (w 0)
    obtain ⟨s', hs', _⟩ := Builder.build_total .exact (Builder.copying_parts _) hthree
      Callbacks.copying_total (w 2)
    have hbuilt : Built .exact .copying anywhere s :=
      ⟨_, w 0, trivial, hthree, ⟨_, Builder.copying_parts _⟩, hs⟩
    have hbuilt' : Built .exact .copying anywhere s' :=
      ⟨_, w 2, trivial, hthree, ⟨_, Builder.copying_parts _⟩, hs'⟩
    -- what the two windows are like is read off the two builds
    let facts (w : Window Nat Nat) :=
      (w.itemExtent, w.items.size, w.geometry, w.config.overscan, w.range)
    have hbuild : (((Builder.copying #[4, 5, 6]).build .exact (w 0)).1.toOption.bind
        Except.toOption).map facts = some (1, 3, ⟨5, 0⟩, 0, .span 2 2) := by decide +kernel
    have hbuild' : (((Builder.copying #[4, 5, 6]).build .exact (w 2)).1.toOption.bind
        Except.toOption).map facts = some (1, 3, ⟨5, 2⟩, 0, .span 1 2) := by decide +kernel
    rw [hs] at hbuild
    rw [hs'] at hbuild'
    simp only [facts, Except.toOption, Option.bind_some, Option.map_some, Option.some.injEq,
      Prod.mk.injEq] at hbuild hbuild'
    obtain ⟨hextent, hsize, hgeometry, hmargin, hrange⟩ := hbuild
    obtain ⟨hextent', hsize', hgeometry', hmargin', hrange'⟩ := hbuild'
    have hlast : s.window.registry.contains 2 = true := by
      rw [hbuilt.consistent.contains_eq, hrange]
      rfl
    refine ⟨s, s', hbuilt, hbuilt', hrange, hrange', hlast, visibleRange_monotone.2 .copying
      .copying anywhere anywhere anything anything s s' ⟨s, hbuilt, .refl⟩ ⟨s', hbuilt', .refl⟩ ?_
      ?_ (.inl ?_) ?_ ?_ 2 hlast⟩
    · rw [hextent, hextent']
    · rw [hsize, hsize']
    · rw [hgeometry, hgeometry']
    · rw [hgeometry, hgeometry']
      decide +kernel
    · rw [hmargin, hmargin']

end ListWindow
