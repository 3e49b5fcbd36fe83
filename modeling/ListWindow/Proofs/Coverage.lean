import ListWindow.Proofs.Exact
import Mathlib.Tactic.Linarith
import Mathlib.Tactic.Ring

/-!
What a computed range covers, and how large it is. An item is in the range of a geometry exactly
when, with the margin on both sides, it lies within the viewport at the offset that counts
(`neededRange_contains_iff`): floor, ceiling, both clamps and both saturations come to that. So the
range has every item that a viewport within the margin of that offset overlaps, and its size depends
on how many items the viewport holds and not on how many there are (`visibleRange_covers`).
-/
namespace ListWindow

section

variable {offset height extent : Rat} {count overscan : Nat}

/-- The offset that counts: no further than where the content ends. -/
def reachedOffset (offset height extent : Rat) (count : Nat) : Rat :=
  min offset (max (count * extent - height) 0)

theorem reachedOffset_nonneg (hoffset : 0 ≤ offset) (height extent : Rat) (count : Nat) :
    0 ≤ reachedOffset offset height extent count :=
  le_min hoffset (le_max_right _ _)

theorem reachedOffset_reached (offset height extent : Rat) (count : Nat) :
    reachedOffset (reachedOffset offset height extent count) height extent count =
      reachedOffset offset height extent count := by
  simp only [reachedOffset, min_assoc, min_self]

theorem neededRange_clamped (offset height extent : Rat) (count overscan : Nat) :
    neededRange (reachedOffset offset height extent count) height extent count overscan =
      neededRange offset height extent count overscan := by
  simp only [neededRange, reachedOffset, min_assoc, min_self]

theorem reachedOffset_le (hextent : 0 < extent) (hheight : 0 ≤ height) :
    reachedOffset offset height extent count ≤ count * extent :=
  calc reachedOffset offset height extent count
      ≤ max (count * extent - height) 0 := min_le_right _ _
    _ ≤ count * extent :=
      max_le (sub_le_self _ hheight) (mul_nonneg (Nat.cast_nonneg _) hextent.le)

theorem floor_toNat_le (hextent : 0 < extent) (x : Rat) (i : Nat) :
    ⌊x / extent⌋.toNat ≤ i ↔ x < (i + 1) * extent := by
  rw [Int.toNat_le, ← Int.lt_add_one_iff, Int.floor_lt, div_lt_iff₀ hextent]
  push_cast
  rfl

theorem le_ceil_toNat_add (hextent : 0 < extent) {x : Rat} (hx : 0 ≤ x) (overscan i : Nat) :
    i ≤ ⌈x / extent⌉.toNat + overscan ↔ i * extent < x + (overscan + 1) * extent := by
  have hnonneg : 0 ≤ ⌈x / extent⌉ := Int.ceil_nonneg (div_nonneg hx hextent.le)
  have hshift : i ≤ ⌈x / extent⌉.toNat + overscan ↔ ((i : Int) - overscan - 1) < ⌈x / extent⌉ := by
    omega
  rw [hshift, Int.lt_ceil, lt_div_iff₀ hextent]
  push_cast
  rw [← sub_pos, ← sub_pos (a := x + _)]
  ring_nf

theorem first_le (hextent : 0 < extent) (hheight : 0 ≤ height) (offset : Rat) (count : Nat) :
    ⌊reachedOffset offset height extent count / extent⌋.toNat ≤
        ⌈(reachedOffset offset height extent count + height) / extent⌉.toNat ∧
      ⌊reachedOffset offset height extent count / extent⌋.toNat ≤ count := by
  generalize hc : reachedOffset offset height extent count = c
  constructor
  · refine Int.toNat_le_toNat (le_trans (Int.floor_le_ceil _) (Int.ceil_le_ceil ?_))
    exact div_le_div_of_nonneg_right (le_add_of_nonneg_right hheight) hextent.le
  · rw [floor_toNat_le hextent, ← hc]
    exact lt_of_le_of_lt (reachedOffset_le hextent hheight)
      (mul_lt_mul_of_pos_right (lt_add_one _) hextent)

/-- The range of a geometry, without the limits that no number reaches. -/
theorem neededRange_span (hextent : 0 < extent) (hheight : 0 ≤ height) (hcount : count ≠ 0)
    (hfits : count ≤ maxIndex) :
    neededRange offset height extent count overscan =
      (let c := reachedOffset offset height extent count
       let last := min (⌈(c + height) / extent⌉.toNat + overscan) (count - 1)
       .span (min (⌊c / extent⌋.toNat - overscan) last) last) := by
  obtain ⟨_, hfirst⟩ := first_le hextent hheight offset count
  have hlimit : min ⌊reachedOffset offset height extent count / extent⌋.toNat maxIndex =
      ⌊reachedOffset offset height extent count / extent⌋.toNat :=
    min_eq_left (hfirst.trans hfits)
  have hlast : min (saturatingAdd maxIndex (min
      ⌈(reachedOffset offset height extent count + height) / extent⌉.toNat maxIndex) overscan)
        (count - 1) =
      min (⌈(reachedOffset offset height extent count + height) / extent⌉.toNat + overscan)
        (count - 1) := by
    rw [saturatingAdd]
    omega
  rw [reachedOffset] at hlimit hlast
  rw [neededRange, if_neg hcount]
  dsimp only
  rw [hlimit, hlast]
  rfl

/-- An item is in the range exactly when it lies within the margin of the viewport at the offset
that counts; the last item of all always does at the top. -/
theorem neededRange_contains_iff (hextent : 0 < extent) (hoffset : 0 ≤ offset)
    (hheight : 0 ≤ height) (hfits : count ≤ maxIndex) (i : Nat) :
    (neededRange offset height extent count overscan).contains i = true ↔
      i < count ∧
        i * extent < reachedOffset offset height extent count + height + (overscan + 1) * extent ∧
        (reachedOffset offset height extent count < (i + 1 + overscan) * extent ∨
          i + 1 = count) := by
  rcases Nat.eq_zero_or_pos count with rfl | hcount
  · simp [neededRange, IndexRange.contains]
  obtain ⟨hordered, hfirst⟩ := first_le hextent hheight offset count
  have hnonneg := reachedOffset_nonneg hoffset height extent count
  -- both bounds as bounds on the rounded quotients
  have hbelow := le_ceil_toNat_add hextent (add_nonneg hnonneg hheight) overscan i
  have habove := floor_toNat_le hextent (reachedOffset offset height extent count) (i + overscan)
  rw [Nat.cast_add, add_right_comm] at habove
  rw [neededRange_span hextent hheight hcount.ne' hfits, ← hbelow, ← habove, IndexRange.contains,
    Bool.and_eq_true, decide_eq_true_iff, decide_eq_true_iff]
  omega

/-- The range for an offset has every item in sight at the offsets within the margin of it. -/
theorem neededRange_covers {p : Rat} {i : Nat} (hextent : 0 < extent) (hoffset : 0 ≤ offset)
    (hheight : 0 ≤ height) (hfits : count ≤ maxIndex) (hi : i < count)
    (hnear : |p - offset| ≤ overscan * extent) (habove : p ≤ i * extent)
    (hbelow : i * extent < p + height) :
    (neededRange offset height extent count overscan).contains i = true := by
  obtain ⟨hlow, hhigh⟩ := abs_le.1 hnear
  rw [neededRange_contains_iff hextent hoffset hheight hfits]
  refine ⟨hi, ?_, .inl ?_⟩
  · rcases min_choice offset (max (count * extent - height) 0) with hmin | hmin
    · rw [reachedOffset, hmin]
      linarith
    · -- where the offset was pulled back the viewport ends where the content does
      have hroom : count * extent - height ≤ max (count * extent - height) 0 := le_max_left _ _
      have hnext : (i : Rat) * extent < count * extent :=
        mul_lt_mul_of_pos_right (Nat.cast_lt.2 hi) hextent
      have hmargin : 0 ≤ (overscan : Rat) * extent := mul_nonneg (Nat.cast_nonneg _) hextent.le
      rw [reachedOffset, hmin]
      linarith
  · have hreached : reachedOffset offset height extent count ≤ offset := min_le_left _ _
    linarith

/-- The range is as large as the viewport and both margins need, however many items there are. -/
theorem neededRange_length (hextent : 0 < extent) (hheight : 0 ≤ height) (hoffset : 0 ≤ offset)
    (hcount : count ≠ 0) (hfits : count ≤ maxIndex) :
    ((neededRange offset height extent count overscan).indices.length : Int) ≤
      ⌈height / extent⌉ + 2 * overscan + 2 := by
  generalize hc : reachedOffset offset height extent count = c
  have hnonneg : 0 ≤ c := hc ▸ reachedOffset_nonneg hoffset _ _ _
  have hfloor : 0 ≤ ⌊c / extent⌋ := Int.floor_nonneg.2 (div_nonneg hnonneg hextent.le)
  have hrows : 0 ≤ ⌈height / extent⌉ := Int.ceil_nonneg (div_nonneg hheight hextent.le)
  -- a viewport that begins inside an item touches one more than it holds
  have hspan : ⌈(c + height) / extent⌉ ≤ ⌊c / extent⌋ + 1 + ⌈height / extent⌉ :=
    calc ⌈(c + height) / extent⌉ = ⌈c / extent + height / extent⌉ := by rw [add_div]
      _ ≤ ⌈c / extent⌉ + ⌈height / extent⌉ := Int.ceil_add_le _ _
      _ ≤ ⌊c / extent⌋ + 1 + ⌈height / extent⌉ :=
        add_le_add_left (Int.ceil_le_floor_add_one _) _
  rw [neededRange_span hextent hheight hcount hfits, hc, IndexRange.indices, List.length_range']
  omega

end

/-- In exact arithmetic the range of a geometry has every item that overlaps a viewport within the
margin of the offset that counts, and no more indices than the viewport and both margins hold. -/
theorem visibleRange_covers {g : Geometry} (hoffset : 0 ≤ g.scrollOffset.toRat)
    (hheight : 0 ≤ g.viewportExtent.toRat) {extent : Rat} (hextent : 0 < extent)
    (count overscan : Nat) (hcount : 1 ≤ count) (hfits : count ≤ maxIndex) :
    ∃ range, visibleRange .exact g (.rat extent) count overscan = .ok range ∧
      (∀ (p : Rat) (i : Nat),
        |p - min g.scrollOffset.toRat (max (count * extent - g.viewportExtent.toRat) 0)|
          ≤ overscan * extent →
        i < count → i * extent < p + g.viewportExtent.toRat → p < (i + 1) * extent →
        range.contains i = true) ∧
      (range.indices.length : Int) ≤ ⌈g.viewportExtent.toRat / extent⌉ + 2 * overscan + 2 := by
  refine ⟨_, visibleRange_reads g hextent count overscan, ?_, ?_⟩
  · rw [max_eq_left hoffset, max_eq_left hheight]
    intro p i hnear hi hbegins hends
    obtain ⟨hlow, hhigh⟩ := abs_le.1 hnear
    rw [neededRange_contains_iff hextent hoffset hheight hfits, reachedOffset]
    refine ⟨hi, by linarith, .inl (by linarith)⟩
  · rw [max_eq_left hoffset, max_eq_left hheight]
    exact neededRange_length hextent hheight hoffset (by omega) hfits

/-- Ten items of two lines in a viewport of five half lines: at the end of the content the range has
the item that ends at line 16, half a line above the viewport, and at most six. -/
theorem visibleRange_covers_end :
    ∃ range, visibleRange .exact ⟨.rat 100, .rat (5 / 2)⟩ (.rat 2) 10 1 = .ok range ∧
      range.contains 7 = true ∧ (range.indices.length : Int) ≤ 6 := by
  obtain ⟨range, hrange, hcovers, hlength⟩ :=
    visibleRange_covers (g := ⟨.rat 100, .rat (5 / 2)⟩) (by decide +kernel) (by decide +kernel)
      (show (0 : Rat) < 2 by decide +kernel) 10 1 (by decide) (by decide)
  refine ⟨range, hrange, hcovers (31 / 2) 7 ?_ (by decide) ?_ ?_, ?_⟩
  · decide +kernel
  · decide +kernel
  · decide +kernel
  · refine hlength.trans ?_
    decide +kernel

end ListWindow
