import ListWindow.Extent
import ListWindow.Proofs.Range
import Mathlib.Algebra.Order.Ring.Rat
import Mathlib.Data.Rat.Floor

/-!
Exact arithmetic. Every operation on finite scalars gives a finite scalar whose rational is what the
operation gives on the rationals; the sign of a zero makes no difference. So the range of items that
a finite geometry asks for can be worked out on rationals (`visibleRange_exact`).
-/
namespace ListWindow

namespace Scalar

variable {x y z : Scalar}

@[simp] theorem ofNat_exact (n : Nat) : ofNat .exact n = rat n := rfl

@[simp] theorem toRat_rat (q : Rat) : (rat q).toRat = q := rfl

@[simp] theorem finite_zero : (0 : Scalar).isFinite = true := rfl

theorem isNan_of_finite (hx : x.isFinite = true) : x.isNan = false := by
  cases x with
  | nan => cases hx
  | _ => rfl

theorem isInfinite_of_finite (hx : x.isFinite = true) : x.isInfinite = false := by
  cases x with
  | infinite s => cases hx
  | _ => rfl

theorem toRat_of_not_finite (hx : x.isFinite = false) : x.toRat = 0 := by
  cases x with
  | nan | infinite s => rfl
  | negZero | rat q => cases hx

theorem isZero_iff (hx : x.isFinite = true) : x.isZero = true ↔ x.toRat = 0 := by
  rw [isZero, hx, Bool.true_and, beq_iff_eq]

/-! ## Order -/

theorem lt_iff (hx : x.isFinite = true) (hy : y.isFinite = true) : x < y ↔ x.toRat < y.toRat := by
  show lt x y = true ↔ _
  cases x with
  | nan | infinite s => cases hx
  | negZero | rat p =>
    cases y with
    | nan | infinite s => cases hy
    | negZero | rat q => exact ⟨fun h => of_decide_eq_true h, fun h => decide_eq_true h⟩

theorem le_iff (hx : x.isFinite = true) (hy : y.isFinite = true) : x ≤ y ↔ x.toRat ≤ y.toRat := by
  have hlt : y < x ↔ y.toRat < x.toRat := lt_iff hy hx
  show le x y = true ↔ _
  rw [← not_lt, ← hlt, le, isNan_of_finite hx, isNan_of_finite hy]
  show (!lt y x) = true ↔ ¬ lt y x = true
  simp

theorem isExtent_iff : x.isExtent = true ↔ ∃ e : Rat, 0 < e ∧ x = rat e := by
  rw [isExtent, Bool.and_eq_true]
  constructor
  · rintro ⟨hx, hpos⟩
    have hpos' : (0 : Scalar).toRat < x.toRat := (lt_iff finite_zero hx).1 hpos
    cases x with
    | nan | infinite s => cases hx
    | negZero => exact absurd hpos' (lt_irrefl 0)
    | rat e => exact ⟨e, hpos', rfl⟩
  · rintro ⟨e, he, rfl⟩
    exact ⟨rfl, (lt_iff finite_zero rfl).2 he⟩

theorem max_finite (hx : x.isFinite = true) (hy : y.isFinite = true) :
    (x.max y).isFinite = true ∧ (x.max y).toRat = Max.max x.toRat y.toRat := by
  rw [max, isNan_of_finite hy, Bool.or_false]
  by_cases h : y < x
  · rw [if_pos (decide_eq_true h)]
    exact ⟨hx, (max_eq_left (le_of_lt ((lt_iff hy hx).1 h))).symm⟩
  · rw [if_neg (by simpa using h)]
    exact ⟨hy, (max_eq_right (not_lt.1 (mt (lt_iff hy hx).2 h))).symm⟩

theorem min_finite (hx : x.isFinite = true) (hy : y.isFinite = true) :
    (x.min y).isFinite = true ∧ (x.min y).toRat = Min.min x.toRat y.toRat := by
  rw [min, isNan_of_finite hx, if_neg Bool.false_ne_true]
  by_cases h : y < x
  · rw [if_pos h]
    exact ⟨hy, (min_eq_right (le_of_lt ((lt_iff hy hx).1 h))).symm⟩
  · rw [if_neg h]
    exact ⟨hx, (min_eq_left (not_lt.1 (mt (lt_iff hy hx).2 h))).symm⟩

theorem clamp_finite {lo hi : Scalar} (hx : x.isFinite = true) (hlo : lo.isFinite = true)
    (hhi : hi.isFinite = true) (hle : lo.toRat ≤ hi.toRat) :
    (x.clamp lo hi).isFinite = true ∧
      (x.clamp lo hi).toRat = Max.max lo.toRat (Min.min x.toRat hi.toRat) := by
  rw [clamp]
  by_cases hbelow : x < lo
  · have hval := (lt_iff hx hlo).1 hbelow
    rw [if_pos hbelow]
    exact ⟨hlo, (max_eq_left ((min_le_left _ _).trans hval.le)).symm⟩
  · have hval := not_lt.1 (mt (lt_iff hx hlo).2 hbelow)
    rw [if_neg hbelow, max_eq_right (le_min hval hle)]
    by_cases habove : hi < x
    · rw [if_pos habove]
      exact ⟨hhi, (min_eq_right ((lt_iff hhi hx).1 habove).le).symm⟩
    · rw [if_neg habove]
      exact ⟨hx, (min_eq_left (not_lt.1 (mt (lt_iff hhi hx).2 habove))).symm⟩

theorem nonNegative_finite (hx : x.isFinite = true) :
    x.nonNegative.isFinite = true ∧ x.nonNegative.toRat = Max.max x.toRat 0 := by
  rw [nonNegative]
  by_cases h : (0 : Scalar) < x
  · rw [if_pos ⟨hx, h⟩]
    exact ⟨hx, (max_eq_left (le_of_lt ((lt_iff finite_zero hx).1 h))).symm⟩
  · rw [if_neg (fun hboth => h hboth.2)]
    exact ⟨rfl, (max_eq_right (not_lt.1 (mt (lt_iff finite_zero hx).2 h))).symm⟩

theorem nonNegative_nonNegative (x : Scalar) : x.nonNegative.nonNegative = x.nonNegative := by
  by_cases h : x.isFinite = true ∧ (0 : Scalar) < x
  · rw [show x.nonNegative = x from if_pos h]
    exact if_pos h
  · rw [show x.nonNegative = 0 from if_neg h]
    rfl

/-- What counts of any reading is the rational it stands for, where that is above zero. -/
theorem nonNegative_reads (x : Scalar) :
    x.nonNegative.isFinite = true ∧ x.nonNegative.toRat = Max.max x.toRat 0 := by
  cases hx : x.isFinite with
  | true => exact nonNegative_finite hx
  | false =>
    rw [nonNegative, if_neg (by simp [hx]), toRat_of_not_finite hx, max_self]
    exact ⟨rfl, rfl⟩

/-! ## Sums and products -/

theorem neg_finite (hx : x.isFinite = true) : x.neg.isFinite = true ∧ x.neg.toRat = -x.toRat := by
  cases x with
  | nan | infinite s => cases hx
  | negZero => exact ⟨rfl, neg_zero.symm⟩
  | rat q =>
    by_cases hq : q = 0
    · rw [neg, if_pos hq, hq]
      exact ⟨rfl, neg_zero.symm⟩
    · rw [neg, if_neg hq]
      exact ⟨rfl, rfl⟩

theorem abs_finite (hx : x.isFinite = true) : x.abs.isFinite = true ∧ x.abs.toRat = |x.toRat| := by
  rw [abs]
  cases x with
  | nan | infinite s => cases hx
  | negZero => exact ⟨rfl, abs_zero.symm⟩
  | rat q =>
    by_cases hq : q < 0
    · obtain ⟨hneg, hval⟩ := neg_finite (x := rat q) rfl
      rw [isNegative, decide_eq_true hq, if_pos rfl, hval]
      exact ⟨hneg, (abs_of_neg hq).symm⟩
    · rw [isNegative, decide_eq_false hq, if_neg Bool.false_ne_true]
      exact ⟨rfl, (abs_of_nonneg (not_lt.1 hq)).symm⟩

theorem add_exact (hx : x.isFinite = true) (hy : y.isFinite = true) :
    (add .exact x y).isFinite = true ∧ (add .exact x y).toRat = x.toRat + y.toRat := by
  cases x with
  | nan | infinite s => cases hx
  | negZero =>
    cases y with
    | nan | infinite s => cases hy
    | negZero => exact ⟨rfl, (add_zero 0).symm⟩
    | rat q => exact ⟨rfl, rfl⟩
  | rat p =>
    cases y with
    | nan | infinite s => cases hy
    | negZero | rat q => exact ⟨rfl, rfl⟩

theorem sub_exact (hx : x.isFinite = true) (hy : y.isFinite = true) :
    (sub .exact x y).isFinite = true ∧ (sub .exact x y).toRat = x.toRat - y.toRat := by
  obtain ⟨hneg, hval⟩ := neg_finite hy
  obtain ⟨hfinite, hsum⟩ := add_exact hx hneg
  exact ⟨hfinite, by rw [sub, hsum, hval, sub_eq_add_neg]⟩

theorem toRat_zero (negative : Bool) :
    (zero negative).isFinite = true ∧ (zero negative).toRat = 0 := by
  cases negative <;> exact ⟨rfl, rfl⟩

theorem mul_finite (a : Arithmetic) (hx : x.isFinite = true) (hy : y.isFinite = true) :
    mul a x y =
      if (x.isZero || y.isZero) = true then .zero (x.isNegative != y.isNegative)
      else round a (x.toRat * y.toRat) := by
  rw [mul, isNan_of_finite hx, isNan_of_finite hy, isInfinite_of_finite hx, isInfinite_of_finite hy]
  rfl

theorem mul_exact (hx : x.isFinite = true) (hy : y.isFinite = true) :
    (mul .exact x y).isFinite = true ∧ (mul .exact x y).toRat = x.toRat * y.toRat := by
  rw [mul_finite .exact hx hy]
  by_cases h : (x.isZero || y.isZero) = true
  · rw [if_pos h]
    rw [Bool.or_eq_true, isZero_iff hx, isZero_iff hy] at h
    obtain ⟨hfinite, hval⟩ := toRat_zero (x.isNegative != y.isNegative)
    exact ⟨hfinite, hval.trans (mul_eq_zero.2 h).symm⟩
  · rw [if_neg h]
    exact ⟨rfl, rfl⟩

theorem multiple_exact (n : Nat) {e : Rat} (he : 0 ≤ e) :
    ((mul .exact (.rat n) (.rat e)).max 0).isFinite = true ∧
      ((mul .exact (.rat n) (.rat e)).max 0).toRat = n * e := by
  obtain ⟨hmul, hmulval⟩ := mul_exact (x := .rat n) (y := .rat e) rfl rfl
  obtain ⟨hmax, hmaxval⟩ := max_finite hmul finite_zero
  refine ⟨hmax, hmaxval.trans ?_⟩
  rw [hmulval]
  exact max_eq_left (mul_nonneg (Nat.cast_nonneg n) he)

theorem div_exact (hx : x.isFinite = true) (hy : y.isFinite = true) (hne : y.toRat ≠ 0) :
    (div .exact x y).isFinite = true ∧ (div .exact x y).toRat = x.toRat / y.toRat := by
  have hyzero : y.isZero = false := by
    rw [← Bool.not_eq_true, isZero_iff hy]
    exact hne
  rw [div, isNan_of_finite hx, isNan_of_finite hy, isInfinite_of_finite hx, isInfinite_of_finite hy,
    hyzero]
  simp only [Bool.or_false, Bool.false_eq_true, if_false]
  by_cases h : x.isZero = true
  · rw [if_pos h]
    obtain ⟨hfinite, hval⟩ := toRat_zero (x.isNegative != y.isNegative)
    exact ⟨hfinite, by rw [hval, (isZero_iff hx).1 h, zero_div]⟩
  · rw [if_neg h]
    exact ⟨rfl, rfl⟩

theorem mulAdd_exact (hx : x.isFinite = true) (hy : y.isFinite = true) (hz : z.isFinite = true) :
    (mulAdd .exact x y z).isFinite = true ∧
      (mulAdd .exact x y z).toRat = x.toRat * y.toRat + z.toRat := by
  obtain ⟨hmul, hval⟩ := mul_exact hx hy
  obtain ⟨hfinite, hsum⟩ := add_exact hmul hz
  exact ⟨hfinite, by rw [mulAdd, hsum, hval]⟩

/-! ## Whole numbers -/

theorem floor_finite (hx : x.isFinite = true) :
    x.floor.isFinite = true ∧ x.floor.toRat = ⌊x.toRat⌋ := by
  cases x with
  | nan | infinite s => cases hx
  | negZero => exact ⟨rfl, by simp [floor, toRat]⟩
  | rat q => exact ⟨rfl, rfl⟩

theorem rat_ceil_eq (q : Rat) : q.ceil = ⌈q⌉ := Rat.ceil_eq_neg_floor_neg q

theorem ceil_finite (hx : x.isFinite = true) :
    x.ceil.isFinite = true ∧ x.ceil.toRat = ⌈x.toRat⌉ := by
  cases x with
  | nan | infinite s => cases hx
  | negZero => exact ⟨rfl, by simp [ceil, toRat]⟩
  | rat q =>
    by_cases h : q < 0 ∧ q.ceil = 0
    · rw [ceil, if_pos h, toRat_rat, ← rat_ceil_eq, h.2]
      exact ⟨rfl, Int.cast_zero.symm⟩
    · rw [ceil, if_neg h, toRat_rat, toRat_rat, rat_ceil_eq]
      exact ⟨rfl, rfl⟩

theorem toNat_finite (limit : Nat) (hx : x.isFinite = true) :
    x.toNat limit = Min.min ⌊x.toRat⌋.toNat limit := by
  cases x with
  | nan | infinite s => cases hx
  | negZero => simp [toNat, toRat]
  | rat q => rfl

end Scalar

/-! ## The range of a geometry -/

/-- The range of items to keep rendered, worked out on rationals. -/
def neededRange (offset height extent : Rat) (count overscan : Nat) : IndexRange :=
  if count = 0 then .empty
  else
    let offset := min offset (max (count * extent - height) 0)
    let first := min ⌊offset / extent⌋.toNat maxIndex
    let last := min ⌈(offset + height) / extent⌉.toNat maxIndex
    let last := min (saturatingAdd maxIndex last overscan) (count - 1)
    .span (min (first - overscan) last) last

/-- Readings that are not finite and above zero count as zero, whether or not they have been looked
through before. -/
theorem visibleRange_sample (a : Arithmetic) (offset extent itemExtent : Scalar)
    (count overscan : Nat) :
    visibleRange a ⟨offset, extent⟩ itemExtent count overscan =
      visibleRange a (Geometry.sample offset extent) itemExtent count overscan := by
  simp only [visibleRange, Geometry.sample, Scalar.nonNegative_nonNegative]

/-- In exact arithmetic the range depends on nothing but the rationals read. -/
theorem visibleRange_exact {o v : Scalar} (ho : o.isFinite = true) (hv : v.isFinite = true)
    {e : Rat} (he : 0 < e) (count overscan : Nat) :
    visibleRange .exact (Geometry.sample o v) (.rat e) count overscan =
      .ok (neededRange (max o.toRat 0) (max v.toRat 0) e count overscan) := by
  have hextent : ¬ ¬ (0 : Scalar) < .rat e := not_not_intro ((Scalar.lt_iff rfl rfl).2 he)
  by_cases hc : count = 0
  · rw [visibleRange, neededRange, if_pos hc, if_pos hc]
  rw [visibleRange, neededRange, if_neg hc, if_neg hextent, if_neg hc]
  -- one operation of the computation after the other, with the rational that it gives
  obtain ⟨ho', hoval⟩ := Scalar.nonNegative_finite ho
  obtain ⟨hv', hvval⟩ := Scalar.nonNegative_finite hv
  obtain ⟨hneg, hnegval⟩ := Scalar.neg_finite hv'
  obtain ⟨hroom, hroomval⟩ := Scalar.mulAdd_exact (x := .rat count) (y := .rat e) rfl rfl hneg
  obtain ⟨hmax, hmaxval⟩ := Scalar.max_finite hroom Scalar.finite_zero
  obtain ⟨hoff, hoffval⟩ := Scalar.min_finite ho' hmax
  obtain ⟨hfirst, hfirstval⟩ := Scalar.div_exact hoff (y := .rat e) rfl he.ne'
  obtain ⟨hend, hendval⟩ := Scalar.add_exact hoff hv'
  obtain ⟨hlast, hlastval⟩ := Scalar.div_exact hend (y := .rat e) rfl he.ne'
  obtain ⟨hfloor, hfloorval⟩ := Scalar.floor_finite hfirst
  obtain ⟨hceil, hceilval⟩ := Scalar.ceil_finite hlast
  have hoffset : (o.nonNegative.min
      ((Scalar.mulAdd .exact (.rat count) (.rat e) v.nonNegative.neg).max 0)).toRat =
      min (max o.toRat 0) (max (count * e - max v.toRat 0) 0) := by
    rw [hoffval, hmaxval, hroomval, hnegval, hvval, hoval, sub_eq_add_neg]
    rfl
  simp only [Geometry.sample, Scalar.nonNegative_nonNegative, Scalar.ofNat_exact]
  rw [Scalar.toNat_finite maxIndex hfloor, Scalar.toNat_finite maxIndex hceil, hfloorval, hceilval,
    hfirstval, hlastval, hendval, hvval, hoffset, Int.floor_intCast, Int.floor_intCast]
  rfl

theorem visibleRange_reads (g : Geometry) {e : Rat} (he : 0 < e) (count overscan : Nat) :
    visibleRange .exact g (.rat e) count overscan =
      .ok (neededRange (max g.scrollOffset.toRat 0) (max g.viewportExtent.toRat 0) e count
        overscan) := by
  obtain ⟨hoffset, hoffsetval⟩ := Scalar.nonNegative_reads g.scrollOffset
  obtain ⟨hextent, hextentval⟩ := Scalar.nonNegative_reads g.viewportExtent
  rw [visibleRange_sample .exact g.scrollOffset g.viewportExtent, Geometry.sample,
    visibleRange_sample, visibleRange_exact hoffset hextent he, hoffsetval, hextentval,
    max_eq_left (le_max_right _ _), max_eq_left (le_max_right _ _)]

end ListWindow
