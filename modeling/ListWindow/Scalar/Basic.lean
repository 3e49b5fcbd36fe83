import ListWindow.Scalar.Rounding

/-!
Scalars: positions and lengths along the scroll axis. A scalar is an exact rational, a negative
zero, an infinity, or no number at all. Every operation first works out the exact result and then
keeps it as its `Arithmetic` says: exactly, or rounded once to binary64. So one set of definitions
serves both the running program and statements in exact arithmetic.
-/
namespace ListWindow

/-- How the result of an operation is kept. -/
inductive Arithmetic where
  | exact
  | binary64
  deriving DecidableEq, Repr

/-- A position or a length along the scroll axis. -/
inductive Scalar where
  | nan
  | infinite (negative : Bool)
  | negZero
  | rat (value : Rat)
  deriving DecidableEq, Repr

namespace Scalar

instance : Inhabited Scalar := ⟨rat 0⟩

instance (n : Nat) : OfNat Scalar n := ⟨rat n⟩

def zero (negative : Bool) : Scalar := if negative then negZero else rat 0

/-- Neither infinite nor undefined. -/
def isFinite : Scalar → Bool
  | negZero | rat _ => true
  | _ => false

def isNan : Scalar → Bool
  | nan => true
  | _ => false

def isInfinite : Scalar → Bool
  | infinite _ => true
  | _ => false

/-- The rational a finite scalar stands for; zero for the others. -/
def toRat : Scalar → Rat
  | rat q => q
  | _ => 0

def isZero (x : Scalar) : Bool := x.isFinite && x.toRat == 0

def isNegative : Scalar → Bool
  | nan => false
  | infinite s => s
  | negZero => true
  | rat q => q < 0

/-- Keep an exact result. A binary64 result that vanishes keeps the sign of the exact one. -/
def round : Arithmetic → Rat → Scalar
  | .exact, q => rat q
  | .binary64, q =>
    if q = 0 then rat 0
    else
      match Binary64.ofRatio q.num.natAbs q.den with
      | none => infinite (q < 0)
      | some r => if r = 0 then zero (q < 0) else if q < 0 then rat (-r) else rat r

def ofNat (a : Arithmetic) (n : Nat) : Scalar := round a n

def ofInt (a : Arithmetic) (n : Int) : Scalar := round a n

def neg : Scalar → Scalar
  | nan => nan
  | infinite s => infinite !s
  | negZero => rat 0
  | rat q => if q = 0 then negZero else rat (-q)

def abs (x : Scalar) : Scalar := if x.isNegative then x.neg else x

/-- Sum. Opposite infinities have none, and two negative zeros make one. -/
def add (a : Arithmetic) : Scalar → Scalar → Scalar
  | nan, _ => nan
  | _, nan => nan
  | infinite s, infinite t => if s = t then infinite s else nan
  | infinite s, _ => infinite s
  | _, infinite t => infinite t
  | negZero, negZero => negZero
  | x, y => round a (x.toRat + y.toRat)

def sub (a : Arithmetic) (x y : Scalar) : Scalar := add a x y.neg

/-- Product. A zero times an infinity has none; a vanishing product has the product of the signs. -/
def mul (a : Arithmetic) (x y : Scalar) : Scalar :=
  let negative := x.isNegative != y.isNegative
  if x.isNan || y.isNan then nan
  else if x.isInfinite || y.isInfinite then
    if x.isZero || y.isZero then nan else infinite negative
  else if x.isZero || y.isZero then zero negative
  else round a (x.toRat * y.toRat)

def div (a : Arithmetic) (x y : Scalar) : Scalar :=
  let negative := x.isNegative != y.isNegative
  if x.isNan || y.isNan then nan
  else if x.isInfinite then
    if y.isInfinite then nan else infinite negative
  else if y.isInfinite then zero negative
  else if y.isZero then
    if x.isZero then nan else infinite negative
  else if x.isZero then zero negative
  else round a (x.toRat / y.toRat)

/-- `x * y + z`, rounded once. -/
def mulAdd (a : Arithmetic) (x y z : Scalar) : Scalar := add a (mul .exact x y) z

def floor : Scalar → Scalar
  | rat q => rat q.floor
  | x => x

/-- The smallest integer above or at a scalar; from below zero that may be negative zero. -/
def ceil : Scalar → Scalar
  | rat q => if q < 0 ∧ q.ceil = 0 then negZero else rat q.ceil
  | x => x

/-- Strictly below. Nothing is below or above an undefined scalar, and the zeros are equal. -/
def lt : Scalar → Scalar → Bool
  | nan, _ => false
  | _, nan => false
  | infinite s, infinite t => s && !t
  | infinite s, _ => s
  | _, infinite t => !t
  | x, y => x.toRat < y.toRat

def le (x y : Scalar) : Bool := !x.isNan && !y.isNan && !lt y x

instance : LT Scalar := ⟨fun x y => lt x y = true⟩

instance : LE Scalar := ⟨fun x y => le x y = true⟩

instance (x y : Scalar) : Decidable (x < y) := inferInstanceAs (Decidable (lt x y = true))

instance (x y : Scalar) : Decidable (x ≤ y) := inferInstanceAs (Decidable (le x y = true))

/-- The larger of two scalars, and the second of two that are equal, as the zeros of both signs are;
an undefined one gives way to the other. -/
def max (x y : Scalar) : Scalar :=
  if y < x || y.isNan then x else y

/-- The smaller of two scalars; an undefined one gives way to the other. -/
def min (x y : Scalar) : Scalar :=
  if x.isNan then y else if y < x then y else x

/-- Move a scalar into the interval from `lo` to `hi`. -/
def clamp (x lo hi : Scalar) : Scalar :=
  if x < lo then lo else if hi < x then hi else x

/-- A finite scalar above zero as it is, anything else as zero. -/
def nonNegative (x : Scalar) : Scalar :=
  if x.isFinite = true ∧ (0 : Scalar) < x then x else 0

/-- The whole part as a natural number, kept between zero and `limit`; zero when undefined. -/
def toNat (limit : Nat) : Scalar → Nat
  | nan => 0
  | infinite s => if s then 0 else limit
  | negZero => 0
  | rat q => Nat.min q.floor.toNat limit

end Scalar

end ListWindow
