import ListWindow.Scalar.Basic

/-!
The 64-bit patterns of binary64: one sign bit, eleven exponent bits and 52 fraction bits. Every
pattern with all exponent bits set and a fraction stands for the one undefined scalar.
-/
namespace ListWindow.Scalar

def ofBits (bits : Nat) : Scalar :=
  let negative := (bits >>> 63) % 2 == 1
  let exponent : Nat := (bits >>> 52) % 2048
  let fraction := bits % (1 <<< 52)
  if exponent = 2047 then
    if fraction = 0 then infinite negative else nan
  else
    let magnitude :=
      if exponent = 0 then Binary64.scale fraction (-1074)
      else Binary64.scale ((1 <<< 52) + fraction) ((exponent : Int) - 1075)
    if magnitude = 0 then zero negative
    else if negative then rat (-magnitude) else rat magnitude

/-- The pattern of a positive ratio, without its sign: the exponent field counts up from the
subnormal numbers, and a full significand carries into it. -/
def magnitudeBits (n d : Nat) : Nat :=
  let (m, e) := Binary64.significand n d
  ((e + 1074).toNat <<< 52) + m

def signBit (negative : Bool) : Nat := if negative then 1 <<< 63 else 0

/-- The 64-bit pattern of a scalar that binary64 holds. -/
def toBits : Scalar → Nat
  | nan => 4095 <<< 51
  | infinite s => signBit s + (2047 <<< 52)
  | negZero => signBit true
  | rat q =>
    if q = 0 then 0
    else signBit (q < 0) + magnitudeBits q.num.natAbs q.den

end ListWindow.Scalar
