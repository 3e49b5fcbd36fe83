import ListWindow.Proofs.Exact
import ListWindow.Proofs.Invariant

/-!
Whole numbers. An arithmetic holds the whole numbers up to a bound if it keeps each of them as it is
(`Arithmetic.Holds`): exact arithmetic does so for every bound, and binary64 for `2 ^ 53 - 1`. As
long as all results are whole and within the bound, nothing is rounded and every operation gives
what it gives in exact arithmetic; so do the range of a geometry and the spacers around it when
items have the extent one.
-/
namespace ListWindow

namespace Binary64

variable {n : Nat}

theorem nearest_one (n : Nat) : nearest n 1 = n := by
  simp [nearest, Nat.mod_one]

theorem lastPlace_one (hn : n ≠ 0) (h : n < 2 ^ 53) : lastPlace n 1 = (n.log2 : Int) - 52 := by
  have hlog : n.log2 < 53 := (Nat.log2_lt hn).2 h
  have hone : Nat.log2 1 = 0 := by decide
  have hleading : ¬ n <<< 0 < 1 <<< n.log2 := by
    rw [Nat.shiftLeft_zero, Nat.one_shiftLeft, Nat.not_lt]
    exact Nat.log2_self_le hn
  have hdown : (-((n.log2 : Int) - ((0 : Nat) : Int))).toNat = 0 := by omega
  have hup : ((n.log2 : Int) - ((0 : Nat) : Int)).toNat = n.log2 := by omega
  simp only [lastPlace, hone]
  rw [hdown, hup, if_neg hleading]
  omega

theorem ofRatio_one (hn : n ≠ 0) (h : n < 2 ^ 53) : ofRatio n 1 = some (n : Rat) := by
  have hlog : n.log2 < 53 := (Nat.log2_lt hn).2 h
  have hplaces : (-((n.log2 : Int) - 52)).toNat = 52 - n.log2 := by omega
  have hnone : ((n.log2 : Int) - 52).toNat = 0 := by omega
  have hsignificand : significand n 1 = (n <<< (52 - n.log2), (n.log2 : Int) - 52) := by
    rw [significand, lastPlace_one hn h, hplaces, hnone, Nat.shiftLeft_zero, nearest_one]
  rw [ofRatio, hsignificand]
  dsimp only
  rw [if_neg (by omega), scale]
  congr 1
  split
  · have hshift : 52 - n.log2 = 0 := by omega
    rw [hnone, hshift]
    rfl
  · have hpow : ((2 ^ (52 - n.log2) : Nat) : Rat) ≠ 0 := by positivity
    rw [hplaces, Nat.shiftLeft_eq, Nat.one_shiftLeft, Rat.mkRat_eq_div]
    push_cast at hpow ⊢
    exact mul_div_cancel_right₀ _ hpow

end Binary64

/-- The whole numbers up to a bound are kept as they are. -/
def Arithmetic.Holds (a : Arithmetic) (bound : Nat) : Prop :=
  ∀ z : Int, z.natAbs ≤ bound → Scalar.round a z = .rat z

theorem Arithmetic.holds_exact (bound : Nat) : Arithmetic.exact.Holds bound :=
  fun _ _ => rfl

/-- Binary64 keeps what has 53 bits. -/
theorem Arithmetic.holds_binary64 : Arithmetic.binary64.Holds (2 ^ 53 - 1) := by
  intro z hz
  by_cases hzero : z = 0
  · subst hzero
    rfl
  · have hne : (z : Rat) ≠ 0 := Int.cast_ne_zero.2 hzero
    have habs : z.natAbs ≠ 0 := Int.natAbs_ne_zero.2 hzero
    have habs' : (z.natAbs : Rat) ≠ 0 := Nat.cast_ne_zero.2 habs
    have hcast : (z.natAbs : Rat) = |(z : Rat)| := by
      rw [← Int.cast_natCast, Int.natCast_natAbs, Int.cast_abs]
    rw [Scalar.round, if_neg hne, Rat.num_intCast, Rat.den_intCast,
      Binary64.ofRatio_one habs (by omega)]
    dsimp only
    rw [if_neg habs']
    by_cases hneg : (z : Rat) < 0
    · rw [if_pos hneg, hcast, abs_of_neg hneg, neg_neg]
    · rw [if_neg hneg, hcast, abs_of_nonneg (not_lt.1 hneg)]

theorem Arithmetic.holds (a : Arithmetic) : a.Holds (2 ^ 53 - 1) := by
  cases a with
  | exact => exact Arithmetic.holds_exact _
  | binary64 => exact Arithmetic.holds_binary64

namespace Scalar

/-- A finite scalar that stands for a whole number. -/
structure IsWhole (x : Scalar) (z : Int) : Prop where
  finite : x.isFinite = true
  value : x.toRat = z

variable {a : Arithmetic} {bound : Nat} {x y : Scalar} {p q : Int}

theorem isWhole_rat (z : Int) : (rat z).IsWhole z := ⟨rfl, rfl⟩

theorem isWhole_nat (n : Nat) : (rat n).IsWhole n := ⟨rfl, by simp⟩

theorem IsWhole.le_iff (hx : x.IsWhole p) (hy : y.IsWhole q) : x ≤ y ↔ p ≤ q := by
  rw [Scalar.le_iff hx.finite hy.finite, hx.value, hy.value, Int.cast_le]

theorem IsWhole.lt_iff (hx : x.IsWhole p) (hy : y.IsWhole q) : x < y ↔ p < q := by
  rw [Scalar.lt_iff hx.finite hy.finite, hx.value, hy.value, Int.cast_lt]

/-! ## Operations that round nothing -/

theorem IsWhole.neg (hx : x.IsWhole p) : x.neg.IsWhole (-p) := by
  obtain ⟨hfinite, hval⟩ := neg_finite hx.finite
  exact ⟨hfinite, by rw [hval, hx.value, Int.cast_neg]⟩

theorem IsWhole.max (hx : x.IsWhole p) (hy : y.IsWhole q) : (x.max y).IsWhole (Max.max p q) := by
  obtain ⟨hfinite, hval⟩ := max_finite hx.finite hy.finite
  exact ⟨hfinite, by rw [hval, hx.value, hy.value, Int.cast_max]⟩

theorem IsWhole.min (hx : x.IsWhole p) (hy : y.IsWhole q) : (x.min y).IsWhole (Min.min p q) := by
  obtain ⟨hfinite, hval⟩ := min_finite hx.finite hy.finite
  exact ⟨hfinite, by rw [hval, hx.value, hy.value, Int.cast_min]⟩

theorem IsWhole.clamp {lo hi : Scalar} {m n : Int} (hx : x.IsWhole p) (hlo : lo.IsWhole m)
    (hhi : hi.IsWhole n) (hle : m ≤ n) : (x.clamp lo hi).IsWhole (Max.max m (Min.min p n)) := by
  have hle' : lo.toRat ≤ hi.toRat := by
    rw [hlo.value, hhi.value]
    exact Int.cast_le.2 hle
  obtain ⟨hfinite, hval⟩ := clamp_finite hx.finite hlo.finite hhi.finite hle'
  exact ⟨hfinite, by rw [hval, hx.value, hlo.value, hhi.value, Int.cast_max, Int.cast_min]⟩

theorem IsWhole.nonNegative (hx : x.IsWhole p) : x.nonNegative.IsWhole (Max.max p 0) := by
  obtain ⟨hfinite, hval⟩ := nonNegative_finite hx.finite
  exact ⟨hfinite, by rw [hval, hx.value, Int.cast_max, Int.cast_zero]⟩

theorem IsWhole.zero : (0 : Scalar).IsWhole 0 := isWhole_nat 0

theorem IsWhole.one : (1 : Scalar).IsWhole 1 := isWhole_nat 1

/-! ## Operations that keep to the exact result -/

theorem ofNat_whole (ha : a.Holds bound) {n : Nat} (hn : n ≤ bound) : ofNat a n = rat n := by
  have hround := ha n (by simpa using hn)
  rwa [Int.cast_natCast] at hround

theorem ofInt_whole (ha : a.Holds bound) (hp : p.natAbs ≤ bound) : ofInt a p = rat p :=
  ha p hp

theorem add_whole (ha : a.Holds bound) (hx : x.IsWhole p) (hy : y.IsWhole q)
    (hbound : (p + q).natAbs ≤ bound) :
    add a x y = add .exact x y ∧ (add .exact x y).IsWhole (p + q) := by
  obtain ⟨hfinite, hval⟩ := add_exact hx.finite hy.finite
  rw [hx.value, hy.value, ← Int.cast_add] at hval
  refine ⟨?_, hfinite, hval⟩
  have hround : round a (x.toRat + y.toRat) = round .exact (x.toRat + y.toRat) := by
    rw [hx.value, hy.value, ← Int.cast_add]
    exact ha _ hbound
  have hxfinite := hx.finite
  have hyfinite := hy.finite
  cases x with
  | nan | infinite s => cases hxfinite
  | negZero =>
    cases y with
    | nan | infinite s => cases hyfinite
    | negZero => rfl
    | rat q => exact hround
  | rat p =>
    cases y with
    | nan | infinite s => cases hyfinite
    | negZero | rat q => exact hround

theorem sub_whole (ha : a.Holds bound) (hx : x.IsWhole p) (hy : y.IsWhole q)
    (hbound : (p - q).natAbs ≤ bound) :
    sub a x y = sub .exact x y ∧ (sub .exact x y).IsWhole (p - q) :=
  add_whole ha hx hy.neg hbound

theorem mul_whole (ha : a.Holds bound) (hx : x.IsWhole p) (hy : y.IsWhole q)
    (hbound : (p * q).natAbs ≤ bound) :
    mul a x y = mul .exact x y ∧ (mul .exact x y).IsWhole (p * q) := by
  obtain ⟨hfinite, hval⟩ := mul_exact hx.finite hy.finite
  rw [hx.value, hy.value, ← Int.cast_mul] at hval
  refine ⟨?_, hfinite, hval⟩
  have hround : round a (x.toRat * y.toRat) = round .exact (x.toRat * y.toRat) := by
    rw [hx.value, hy.value, ← Int.cast_mul]
    exact ha _ hbound
  rw [mul_finite a hx.finite hy.finite, mul_finite .exact hx.finite hy.finite, hround]

theorem div_one_whole (ha : a.Holds bound) (hx : x.IsWhole p) (hbound : p.natAbs ≤ bound) :
    div a x 1 = div .exact x 1 := by
  have hround : round a (x.toRat / 1) = round .exact (x.toRat / 1) := by
    rw [div_one, hx.value]
    exact ha _ hbound
  have hone : (1 : Scalar).toRat = 1 := Nat.cast_one
  rw [div, div, hone, hround]

end Scalar

/-! ## The range of a geometry and its spacers -/

variable {a : Arithmetic} {bound count : Nat}

/-- Items of the extent one: the range is the one of exact arithmetic. -/
theorem visibleRange_whole (ha : a.Holds bound) {offset height : Nat} {o v : Scalar}
    (ho : o.IsWhole offset) (hv : v.IsWhole height) (hcount : count ≤ bound)
    (hend : offset + height ≤ bound) (overscan : Nat) :
    visibleRange a ⟨o, v⟩ 1 count overscan = visibleRange .exact ⟨o, v⟩ 1 count overscan := by
  have ho' : o.nonNegative.IsWhole offset := by simpa using ho.nonNegative
  have hv' : v.nonNegative.IsWhole height := by simpa using hv.nonNegative
  have hcount' : Scalar.ofNat a count = .rat count := Scalar.ofNat_whole ha hcount
  obtain ⟨_, hcontent⟩ := Scalar.mul_whole (Arithmetic.holds_exact count)
    (Scalar.isWhole_nat count) Scalar.IsWhole.one (by simp)
  rw [mul_one] at hcontent
  -- one operation after the other, with the whole number that it gives
  obtain ⟨hroom, hroomwhole⟩ := Scalar.add_whole ha hcontent hv'.neg (by omega)
  have hoffset := ho'.min (hroomwhole.max Scalar.IsWhole.zero)
  obtain ⟨hend, hendwhole⟩ := Scalar.add_whole ha hoffset hv' (by omega)
  have hfirst := Scalar.div_one_whole ha hoffset (by omega)
  have hlast := Scalar.div_one_whole ha hendwhole (by omega)
  simp only [visibleRange, Scalar.mulAdd, Scalar.ofNat_exact, hcount', hroom, hend, hfirst, hlast]

theorem Spacers.around_whole (ha : a.Holds bound) (hcount : count ≤ bound) {r : IndexRange}
    (hr : r.Within count) : around a count 1 r = around .exact count 1 r := by
  have hmul : ∀ n ≤ count, Scalar.mul a (.ofNat a n) 1 = Scalar.mul .exact (.ofNat .exact n) 1 := by
    intro n hn
    rw [Scalar.ofNat_whole ha (hn.trans hcount), Scalar.ofNat_exact]
    exact (Scalar.mul_whole ha (Scalar.isWhole_nat n) Scalar.IsWhole.one (by omega)).1
  cases r with
  | empty => rfl
  | span first last =>
    obtain ⟨hfirst, hlast⟩ := hr
    rw [around, around, hmul first (by omega), hmul _ (Nat.sub_le _ _)]

theorem Window.totalExtent_whole {α ε : Type} {w : Window α ε} (ha : a.Holds bound)
    (hextent : w.itemExtent = 1) (hsize : w.items.size ≤ bound) :
    (w.totalExtent a).IsWhole w.items.size := by
  obtain ⟨hmul, htotal⟩ := Scalar.mul_whole ha (Scalar.isWhole_nat w.items.size)
    Scalar.IsWhole.one (by omega)
  rw [totalExtent, hextent, Scalar.ofNat_whole ha hsize, hmul]
  rwa [mul_one] at htotal

/-- A window onto items of the extent one is consistent in exact arithmetic too. -/
theorem Window.Consistent.exact {α ε : Type} {w : Window α ε} (h : w.Consistent a)
    (ha : a.Holds bound) (hextent : w.itemExtent = 1) (hsize : w.items.size ≤ bound) :
    w.Consistent .exact where
  extent := h.extent
  bounded := h.bounded
  range := h.range
  keys := h.keys
  spacers := by
    rw [h.spacers, hextent, Spacers.around_whole ha hsize h.range]
  drawn := h.drawn

end ListWindow
