/-!
# Binary Floating-Point Numbers

The numbers of the 64-bit binary format, held by value: a sign, a whole significand and a power of
two.  A decimal numeral stands for the nearest such number, and the even significand decides a
tie; numerals beyond the largest number stand for infinity.
-/

namespace DialectSql.Number

/-- A 64-bit binary floating-point number. -/
inductive Binary64 where
  /-- The number `± significand · 2 ^ exponent`. -/
  | finite (negative : Bool) (significand : Nat) (exponent : Int)
  | infinite (negative : Bool)
  | notANumber
  deriving DecidableEq, Repr, Inhabited

namespace Binary64

/-- The least exponent of a finite number. -/
def leastExponent : Int := -1074

/-- The greatest exponent of a finite number. -/
def greatestExponent : Int := 971

/-- The significands of finite numbers lie below the 53rd power of two. -/
def significandBound : Nat := 0x20000000000000

/-- The least significand of a number that has all its bits: the 52nd power of two. -/
def leastFull : Nat := 0x10000000000000

/-- A power of a base; negative exponents count as zero. -/
def power (base : Nat) (exponent : Int) : Nat :=
  Nat.pow base exponent.toNat

/-- The quotient rounded to the nearest whole number, a tie going to the even one. -/
def roundQuotient (num den : Nat) : Nat :=
  let whole := num / den
  let rest := num % den
  if 2 * rest > den || (2 * rest == den && whole % 2 == 1) then whole + 1 else whole

/-- The numerator and the denominator of `num / den · 2 ^ (-exponent)`. -/
def scaleDown (num den : Nat) (exponent : Int) : Nat × Nat :=
  (num * power 2 (-exponent), den * power 2 exponent)

/-- The exponent that leaves 53 bits of the quotient before the binary point, or the least one. -/
def exponentOf (num den : Nat) : Int :=
  let estimate := max ((num.log2 : Int) - (den.log2 : Int) - 53) leastExponent
  let scaled := scaleDown num den estimate
  if scaled.1 / scaled.2 ≥ significandBound then estimate + 1 else estimate

/-- The number nearest to a positive quotient. -/
def ofQuotient (negative : Bool) (num den : Nat) : Binary64 :=
  let exponent := exponentOf num den
  let scaled := scaleDown num den exponent
  let significand := roundQuotient scaled.1 scaled.2
  let carried := significand == significandBound
  let exponent := if carried then exponent + 1 else exponent
  if exponent > greatestExponent then .infinite negative
  else .finite negative (if carried then leastFull else significand) exponent

/-- Beyond this power of ten every numeral stands for infinity or for zero. -/
def decimalReach : Int := 400

/-- The number nearest to `± significand · 10 ^ exponent`, a significand of the given count of
digits. -/
def ofDecimal (negative : Bool) (significand : Nat) (digits : Nat) (exponent : Int) : Binary64 :=
  if significand = 0 then .finite negative 0 0
  else if (digits : Int) + exponent > decimalReach then .infinite negative
  else if (digits : Int) + exponent < -decimalReach then .finite negative 0 0
  else ofQuotient negative (significand * power 10 exponent) (power 10 (-exponent))

/-- Whether the number is zero, of either sign. -/
def isZero : Binary64 → Bool
  | .finite _ significand _ => significand == 0
  | _ => false

/-- The whole part of a finite number, cut off toward zero. -/
def truncate? : Binary64 → Option Int
  | .finite negative significand exponent =>
    let whole := significand * power 2 exponent / power 2 (-exponent)
    some (if negative then -(whole : Int) else whole)
  | _ => none

/-- Whether a finite number has no fractional part. -/
def isWhole : Binary64 → Bool
  | .finite _ significand exponent => significand % power 2 (-exponent) == 0
  | _ => false

end Binary64

end DialectSql.Number
