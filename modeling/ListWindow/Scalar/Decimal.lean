import ListWindow.Scalar.Basic

/-!
Decimal texts of binary64 scalars: the fewest digits that read back as the same number, and of
those the nearest. `Scalar.plainText` writes them without an exponent, `Scalar.fullText` keeps a
`.0` on whole numbers and writes very large and very small ones with an exponent.

Sets of flags are written by their names; `Flags.text` writes the bits without a name in
hexadecimal.
-/
namespace ListWindow

/-- The decimal number `coefficient * 10 ^ exponent`. -/
structure Decimal where
  coefficient : Nat
  exponent : Int
  deriving DecidableEq, Repr

namespace Decimal

def powTen (e : Int) : Rat :=
  if 0 ≤ e then (Nat.pow 10 e.toNat : Rat) else mkRat 1 (Nat.pow 10 (-e).toNat)

/-- Exponent of the first decimal digit of a positive rational. -/
def leadingPlace (q : Rat) : Int :=
  let binary : Int := q.num.natAbs.log2 - q.den.log2
  let guess := (binary * 1233).fdiv 4096
  if powTen (guess + 1) ≤ q then guess + 1
  else if q < powTen guess then guess - 1
  else guess

/-- The open or closed interval of rationals that round to a positive binary64 number. It is
closed when the significand is even, since halves go to the even neighbour, and shorter below a
power of two. -/
structure Basin where
  low : Rat
  high : Rat
  closed : Bool

def Basin.of (q : Rat) : Basin :=
  let (m, e) := Binary64.significand q.num.natAbs q.den
  let half := Binary64.scale 1 (e - 1)
  { low := if m = 1 <<< 52 ∧ -1074 < e then q - half / 2 else q - half
    high := q + half
    closed := m % 2 == 0 }

def Basin.contains (b : Basin) (x : Rat) : Bool :=
  if b.closed then b.low ≤ x && x ≤ b.high else b.low < x && x < b.high

/-- The point of the decimal grid with step `10 ^ place` that is nearest to `q` among those that
read back as `q`; a tie goes up. -/
def onGrid? (b : Basin) (q : Rat) (place : Int) : Option Decimal :=
  let step := powTen place
  let below := (q / step).floor.toNat
  let low := (below : Rat) * step
  let high := low + step
  match b.contains low, b.contains high with
  | true, true => some ⟨if q - low < high - q then below else below + 1, place⟩
  | true, false => some ⟨below, place⟩
  | false, true => some ⟨below + 1, place⟩
  | false, false => none

/-- Search the grids from coarse to fine, `left` of them at most. -/
def search (b : Basin) (q : Rat) (place : Int) : Nat → Decimal
  | 0 => ⟨(q / powTen place).floor.toNat, place⟩
  | left + 1 => (onGrid? b q place).getD (search b q (place - 1) left)

/-- The shortest decimal that reads back as the positive binary64 number `q`. Seventeen digits are
always enough. -/
def shortest (q : Rat) : Decimal := search (.of q) q (leadingPlace q) 17

/-- Drop the zeros at the end of the coefficient. -/
def trim (d : Decimal) : Nat → Decimal
  | 0 => d
  | left + 1 =>
    if d.coefficient ≠ 0 ∧ d.coefficient % 10 = 0 then
      trim ⟨d.coefficient / 10, d.exponent + 1⟩ left
    else d

def digits (n : Nat) : List Char := Nat.toDigits 10 n

/-- All digits around a decimal point, no exponent. -/
def positional (d : Decimal) : List Char :=
  let ds := digits d.coefficient
  if 0 ≤ d.exponent then ds ++ List.replicate d.exponent.toNat '0'
  else
    let places := (-d.exponent).toNat
    if places < ds.length then
      ds.take (ds.length - places) ++ '.' :: ds.drop (ds.length - places)
    else '0' :: '.' :: (List.replicate (places - ds.length) '0' ++ ds)

/-- One digit before the point and a power of ten behind. -/
def scientific (d : Decimal) : List Char :=
  let ds := digits d.coefficient
  let power : Int := d.exponent + (ds.length - 1 : Nat)
  let fraction := if ds.length ≤ 1 then [] else '.' :: ds.drop 1
  ds.take 1 ++ fraction ++ 'e' :: (toString power).toList

end Decimal

namespace Scalar

def decimal (q : Rat) : Decimal := Decimal.trim (Decimal.shortest q.abs) 20

/-- The sign and the digits of a scalar, `whole` when every digit is to be written and `zero` the
digits of either zero. -/
def textWith (zeroText : String) (body : Rat → List Char) : Scalar → String
  | nan => "NaN"
  | infinite s => if s then "-inf" else "inf"
  | negZero => "-" ++ zeroText
  | rat q =>
    if q = 0 then zeroText
    else (if q < 0 then "-" else "") ++ String.ofList (body q)

/-- Shortest digits, never an exponent. -/
def plainText : Scalar → String := textWith "0" fun q => (decimal q).positional

/-- Magnitudes that `fullText` writes without an exponent: from `10 ^ -4` up to `10 ^ 16`. -/
def isOrdinary (q : Rat) : Bool := mkRat 1 10000 ≤ q.abs && q.abs < 10000000000000000

/-- Shortest digits, with `.0` on whole numbers and an exponent outside the ordinary range. -/
def fullText : Scalar → String := textWith "0.0" fun q =>
  let d := decimal q
  if isOrdinary q then
    if 0 ≤ d.exponent then d.positional ++ ['.', '0'] else d.positional
  else d.scientific

end Scalar

namespace Flags

def hex (bits : UInt8) : String := String.ofList (Nat.toDigits 16 bits.toNat)

/-- The names of the flags that are set, in the order given, then the bits without a name. -/
def text (names : List (UInt8 × String)) (bits : UInt8) : String :=
  let named := names.filter fun (flag, _) => bits &&& flag == flag
  let rest := named.foldl (fun left (flag, _) => left &&& ~~~flag) bits
  let parts := named.map (·.2) ++ (if rest = 0 then [] else ["0x" ++ hex rest])
  " | ".intercalate parts

end Flags

end ListWindow
