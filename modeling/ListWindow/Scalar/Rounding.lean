/-!
Rounding of exact rationals to the binary64 format. `Binary64.nearest` divides to the nearest
natural number with halves going to the even neighbour, `Binary64.lastPlace` says how far down
the 53 significant bits of a ratio reach, and `Binary64.ofRatio` puts the two together. A ratio
that would need an exponent past the format has no value here: callers turn it into infinity.
-/
namespace ListWindow.Binary64

/-- The quotient `n / d` to the nearest natural number; a half goes to the even neighbour. -/
def nearest (n d : Nat) : Nat :=
  let q := n / d
  let r := n % d
  if 2 * r < d then q
  else if d < 2 * r then q + 1
  else q + q % 2

/-- Exponent of the last binary place that is kept of the positive ratio `n / d`: 53 significant
bits, and no place below `2 ^ -1074`. -/
def lastPlace (n d : Nat) : Int :=
  let guess : Int := n.log2 - d.log2
  let leading := if n <<< (-guess).toNat < d <<< guess.toNat then guess - 1 else guess
  max (leading - 52) (-1074)

/-- Significand and exponent of the binary64 number nearest to `n / d`, were exponents unbounded
above. -/
def significand (n d : Nat) : Nat × Int :=
  let e := lastPlace n d
  (nearest (n <<< (-e).toNat) (d <<< e.toNat), e)

/-- The exact value of `m * 2 ^ e`. -/
def scale (m : Nat) (e : Int) : Rat :=
  if 0 ≤ e then ((m <<< e.toNat : Nat) : Rat) else mkRat m (1 <<< (-e).toNat)

/-- The binary64 number nearest to the positive ratio `n / d`; `none` when it is past the largest
finite one. -/
def ofRatio (n d : Nat) : Option Rat :=
  let (m, e) := significand n d
  if 971 < e ∨ (e = 971 ∧ 1 <<< 53 ≤ m) then none else some (scale m e)

end ListWindow.Binary64
