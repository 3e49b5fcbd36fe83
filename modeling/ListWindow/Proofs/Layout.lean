import ListWindow.Proofs.Exact
import ListWindow.Proofs.Invariant

/-!
Where the regions of a window lie, in exact arithmetic. An element takes up the extent of one item
and a spacer its own. With every item drawn the element of index `i` would begin after `i` items and
all would take up the extent of all items; `Window.LaidOut` says that it is so with the spacers in
place of the items around the range, and `Window.Consistent.laidOut` that every consistent window is
laid out in this way.
-/
namespace ListWindow

variable {α ε : Type}

namespace Region

/-- What a region takes up where the items have the given extent. -/
def size (e : Rat) : Region ε → Rat
  | filler _ extent => extent.toRat
  | element _ _ => e

def sizes (e : Rat) (regions : List (Region ε)) : Rat := (regions.map (size e)).sum

@[simp] theorem sizes_nil (e : Rat) : sizes e ([] : List (Region ε)) = 0 := rfl

@[simp] theorem sizes_cons (e : Rat) (r : Region ε) (regions : List (Region ε)) :
    sizes e (r :: regions) = r.size e + sizes e regions := List.sum_cons

@[simp] theorem sizes_append (e : Rat) (regions rest : List (Region ε)) :
    sizes e (regions ++ rest) = sizes e regions + sizes e rest := by
  rw [sizes, List.map_append, List.sum_append]
  rfl

end Region

/-- The elements of a window begin and end where they would with all items drawn, and there are
spacers exactly where items are left out. -/
structure Window.LaidOut (e : Rat) (w : Window α ε) : Prop where
  begins : ∀ before (i : Nat) x after, w.surface.regions = before ++ .element i x :: after →
    Region.sizes e before = i * e
  whole : Region.sizes e w.surface.regions = w.items.size * e
  total : (w.totalExtent .exact).isFinite = true ∧
    (w.totalExtent .exact).toRat = w.items.size * e
  parts : ∃ n : Nat, w.range.size = .ok n ∧
    w.spacers.leading.toRat + n * e + w.spacers.trailing.toRat = w.items.size * e
  leading : (∃ x, .filler .leading x ∈ w.surface.regions) ↔
    ∃ first last, w.range = .span first last ∧ 0 < first
  trailing : (∃ x, .filler .trailing x ∈ w.surface.regions) ↔
    ∃ first last, w.range = .span first last ∧ last < w.items.size - 1
  fillers : ∀ edge x, .filler edge x ∈ w.surface.regions → x.isFinite = true ∧ 0 < x.toRat

/-! ## Spacers -/

namespace Spacers

variable {x : Scalar} {edge : Edge}

theorem mem_region (hx : x.isFinite = true) {r : Region ε} :
    r ∈ region edge (filler? x) ↔ r = .filler edge x ∧ 0 < x.toRat := by
  have hpos : (0 : Scalar) < x ↔ 0 < x.toRat := Scalar.lt_iff Scalar.finite_zero hx
  by_cases h : (0 : Scalar) < x
  · simp [filler?, if_pos h, region, hpos.1 h]
  · simp [filler?, if_neg h, region, mt hpos.2 h]

/-- A spacer takes up its extent, also when it is not drawn. -/
theorem sizes_region (hx : x.isFinite = true) (hnonneg : 0 ≤ x.toRat) (e : Rat) :
    Region.sizes (ε := ε) e (region edge (filler? x)) = x.toRat := by
  have hpos : (0 : Scalar) < x ↔ 0 < x.toRat := Scalar.lt_iff Scalar.finite_zero hx
  by_cases h : (0 : Scalar) < x
  · simp [filler?, if_pos h, region, Region.size]
  · have hzero : x.toRat = 0 := le_antisymm (not_lt.1 (mt hpos.2 h)) hnonneg
    simp [filler?, if_neg h, region, hzero]

/-- The spacers around a range are as large as the items that they stand in for. -/
theorem around_exact {count last : Nat} (first : Nat) (hc : count ≤ maxIndex) (hlast : last < count)
    {e : Rat} (he : 0 ≤ e) :
    let s := around .exact count (.rat e) (.span first last)
    (s.leading.isFinite = true ∧ s.leading.toRat = first * e) ∧
      s.trailing.isFinite = true ∧ s.trailing.toRat = (count - (last + 1) : Nat) * e := by
  have hnext : saturatingAdd maxIndex last 1 = last + 1 := by
    rw [saturatingAdd]
    omega
  refine ⟨Scalar.multiple_exact first he, ?_⟩
  rw [around, hnext]
  exact Scalar.multiple_exact _ he

end Spacers

/-! ## Elements -/

/-- Before an element there are those of the indices before it. -/
theorem Region.sizes_before {entries : List (Rendered ε)} {first : Nat} (e : Rat)
    (hindices : entries.map (·.index) = List.range' first entries.length)
    {rest : List (Region ε)} (hrest : ∀ i x, .element i x ∉ rest) {before after : List (Region ε)}
    {i : Nat} {x : ε}
    (h : entries.map (fun n => .element n.index n.element) ++ rest =
      before ++ .element i x :: after) :
    first * e + sizes e before = i * e := by
  induction entries generalizing first before with
  | nil =>
    exfalso
    apply hrest i x
    rw [show rest = before ++ .element i x :: after from h]
    simp
  | cons n entries ih =>
    simp only [List.map_cons, List.length_cons, List.range'_succ, List.cons.injEq] at hindices
    obtain ⟨hindex, hindices⟩ := hindices
    rw [List.map_cons, List.cons_append] at h
    cases before with
    | nil =>
      obtain ⟨hfirst, _⟩ := List.cons.inj h
      cases hfirst
      rw [sizes_nil, add_zero, hindex]
    | cons r before =>
      obtain ⟨rfl, hlater⟩ := List.cons.inj h
      have hbefore := ih hindices hlater
      rw [sizes_cons, size, ← hbefore]
      push_cast
      ring

theorem Region.before_append {lead regions before after : List (Region ε)} {i : Nat} {x : ε}
    (hlead : ∀ i x, .element i x ∉ lead)
    (h : lead ++ regions = before ++ .element i x :: after) :
    ∃ later, before = lead ++ later ∧ regions = later ++ .element i x :: after := by
  rcases List.append_eq_append_iff.1 h with ⟨later, hbefore, hregions⟩ | ⟨more, hmore, hafter⟩
  · exact ⟨later, hbefore, hregions⟩
  · cases more with
    | nil => exact ⟨[], by simpa using hmore.symm, hafter.symm⟩
    | cons r more =>
      obtain ⟨rfl, _⟩ := List.cons.inj hafter
      exact absurd (hmore ▸ List.mem_append_right _ List.mem_cons_self) (hlead i x)

theorem Region.sizes_elements (e : Rat) (entries : List (Rendered ε)) :
    sizes e (entries.map fun n => .element n.index n.element) = entries.length * e := by
  induction entries with
  | nil => simp
  | cons n entries ih =>
    rw [List.map_cons, sizes_cons, ih, size, List.length_cons]
    push_cast
    ring

namespace Window

variable {w : Window α ε} {e : Rat}

theorem Consistent.spacers_exact (h : w.Consistent .exact) (hextent : w.itemExtent = .rat e)
    (he : 0 ≤ e) :
    ∃ first after : Nat, w.registry.indices = List.range' first w.registry.entries.length ∧
      first + w.registry.entries.length + after = w.items.size ∧
      (w.spacers.leading.isFinite = true ∧ w.spacers.leading.toRat = first * e) ∧
      (w.spacers.trailing.isFinite = true ∧ w.spacers.trailing.toRat = after * e) ∧
      (0 < first ↔ ∃ first last, w.range = .span first last ∧ 0 < first) ∧
      (0 < after ↔ ∃ first last, w.range = .span first last ∧ last < w.items.size - 1) := by
  have hlength : w.registry.entries.length = w.range.indices.length := by
    rw [← h.keys, Registry.indices, List.length_map]
  have hspacers := h.spacers
  have hrange := h.range
  have hkeys := h.keys
  rw [hextent] at hspacers
  cases hspan : w.range with
  | empty =>
    rw [hspan] at hlength hspacers hkeys hrange
    have hzero : w.items.size = 0 := hrange
    have hnone : (0 : Scalar).isFinite = true ∧ (0 : Scalar).toRat = (0 : Nat) * e := by
      rw [Nat.cast_zero, zero_mul]
      exact ⟨rfl, rfl⟩
    rw [hspacers, hlength, hzero, hkeys]
    exact ⟨0, 0, rfl, rfl, hnone, hnone, by simp, by simp⟩
  | span first last =>
    rw [hspan] at hlength hspacers hkeys hrange
    obtain ⟨hle, hlast⟩ := hrange
    obtain ⟨hleading, htrailing⟩ := Spacers.around_exact first h.bounded hlast he
    rw [← hspacers] at hleading htrailing
    rw [IndexRange.indices, List.length_range'] at hlength
    refine ⟨first, w.items.size - (last + 1), ?_, by omega, hleading, htrailing, ?_, ?_⟩
    · rw [hkeys, IndexRange.indices, hlength]
    · simp
    · simp
      omega

theorem Consistent.mem_filler {a : Arithmetic} (h : w.Consistent a)
    (hleading : w.spacers.leading.isFinite = true)
    (htrailing : w.spacers.trailing.isFinite = true) (edge : Edge) (x : Scalar) :
    .filler edge x ∈ w.surface.regions ↔
      edge = .leading ∧ x = w.spacers.leading ∧ 0 < w.spacers.leading.toRat ∨
        edge = .trailing ∧ x = w.spacers.trailing ∧ 0 < w.spacers.trailing.toRat := by
  rw [h.drawn.trans h.regions_eq, Spacers.leading?, Spacers.trailing?, List.mem_append,
    List.mem_append, Spacers.mem_region hleading, Spacers.mem_region htrailing]
  simp [and_assoc]

/-- A consistent window is laid out as all its items would be. -/
theorem Consistent.laidOut (h : w.Consistent .exact) (hextent : w.itemExtent = .rat e)
    (he : 0 < e) : w.LaidOut e := by
  obtain ⟨first, after, hindices, hcount, ⟨hleading, hleadingval⟩, ⟨htrailing, htrailingval⟩,
    hfirst, hafter⟩ := h.spacers_exact hextent he.le
  have hregions := h.drawn.trans h.regions_eq
  have hfillers := h.mem_filler hleading htrailing
  have hnonneg {k : Nat} {x : Scalar} (hx : x.toRat = k * e) : 0 ≤ x.toRat :=
    hx ▸ mul_nonneg (Nat.cast_nonneg k) he.le
  have hpos {k : Nat} : (0 : Rat) < k * e ↔ 0 < k := by
    rw [mul_pos_iff_of_pos_right he, Nat.cast_pos]
  have hsum : (first * e + w.registry.entries.length * e + after * e : Rat) =
      w.items.size * e := by
    rw [← hcount]
    push_cast
    ring
  refine ⟨?_, ?_, ?_, ?_, ?_, ?_, ?_⟩
  · intro before i x later heq
    rw [hregions, List.append_assoc] at heq
    obtain ⟨inner, rfl, hinner⟩ := Region.before_append
      (fun i x hmem => nomatch ((Spacers.mem_region hleading).1 hmem).1) heq
    have hbegins := Region.sizes_before e hindices
      (fun i x hmem => nomatch ((Spacers.mem_region htrailing).1 hmem).1) hinner
    rw [Region.sizes_append, Spacers.sizes_region hleading (hnonneg hleadingval), hleadingval,
      hbegins]
  · rw [hregions, Region.sizes_append, Region.sizes_append, Region.sizes_elements,
      Spacers.leading?, Spacers.trailing?, Spacers.sizes_region hleading (hnonneg hleadingval),
      Spacers.sizes_region htrailing (hnonneg htrailingval), hleadingval, htrailingval, hsum]
  · rw [totalExtent, hextent]
    exact Scalar.mul_exact rfl rfl
  · refine ⟨w.range.indices.length, h.range.size_eq h.bounded, ?_⟩
    rw [← h.keys, Registry.indices, List.length_map, hleadingval, htrailingval, hsum]
  · rw [← hfirst, ← hpos, ← hleadingval]
    simp [hfillers]
  · rw [← hafter, ← hpos, ← htrailingval]
    simp [hfillers]
  · intro edge x hmem
    obtain ⟨_, rfl, hx⟩ | ⟨_, rfl, hx⟩ := (hfillers edge x).1 hmem
    · exact ⟨hleading, hx⟩
    · exact ⟨htrailing, hx⟩

end Window

end ListWindow
