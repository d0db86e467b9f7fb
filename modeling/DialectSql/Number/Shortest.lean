import DialectSql.Number.Binary64

/-!
# Shortest Decimals

The decimal text of a binary floating-point number: the fewest significant digits that read back
as the same number, and among those the nearest to it.  A number rounds to the wanted one exactly
when it lies in an interval around it, whose ends belong to it when the significand is even.  On
each decimal grid only the two neighbours of the number have to be tried.
-/

namespace DialectSql.Number

/-- The count of decimal digits of a number; zero has one. -/
def digitCount (n : Nat) : Nat :=
  (Nat.toDigits 10 n).length

/-- The position of the decimal point of a positive quotient: the power of ten just above it. -/
def pointOf (num den : Nat) : Int :=
  if den ≤ num then digitCount (num / den)
  else
    let inverse : Int := digitCount (den / num)
    if den ≤ num * Binary64.power 10 (inverse - 1) then 2 - inverse else 1 - inverse

/-- The decimal `significand · 10 ^ exponent`. -/
structure Decimal where
  significand : Nat
  exponent : Int
  deriving DecidableEq, Repr, Inhabited

namespace Decimal

/-- The same decimal without zeros at the end of its digits, as long as the bound allows. -/
def dropZeros : Nat → Decimal → Decimal
  | 0, d => d
  | bound + 1, d =>
    if d.significand ≠ 0 ∧ d.significand % 10 = 0 then
      dropZeros bound ⟨d.significand / 10, d.exponent + 1⟩
    else d

/-- The neighbour of a positive number on the grid of the given power of ten that rounds to it,
the nearer one if both do. -/
def onGrid? (significand : Nat) (exponent grid : Int) : Option Decimal :=
  let quarter := exponent - 2
  let unit := Binary64.power 2 quarter * Binary64.power 10 (-grid)
  let width := Binary64.power 10 grid * Binary64.power 2 (-quarter)
  let value := 4 * significand * unit
  let below :=
    if significand = Binary64.leastFull ∧ exponent > Binary64.leastExponent then 1 else 2
  let least := value - below * unit
  let greatest := value + 2 * unit
  let inside (x : Nat) : Bool :=
    if significand % 2 = 0 then least ≤ x && x ≤ greatest else least < x && x < greatest
  let floor := value / width
  let lowGap := value - floor * width
  let highGap := (floor + 1) * width - value
  match inside (floor * width), inside ((floor + 1) * width) with
  | true, true =>
    if lowGap < highGap || (lowGap == highGap && floor % 2 == 0) then some ⟨floor, grid⟩
    else some ⟨floor + 1, grid⟩
  | true, false => some ⟨floor, grid⟩
  | false, true => some ⟨floor + 1, grid⟩
  | false, false => none

/-- The first decimal found on grids that become finer by one digit at a time. -/
def search (significand : Nat) (exponent point : Int) : Nat → Nat → Decimal
  | 0, _ => ⟨0, 0⟩
  | tries + 1, digits =>
    match onGrid? significand exponent (point - digits) with
    | some found => found
    | none => search significand exponent point tries (digits + 1)

/-- The shortest decimal that rounds to the positive number `significand · 2 ^ exponent`; seventeen
digits always suffice. -/
def shortest (significand : Nat) (exponent : Int) : Decimal :=
  let point := pointOf (significand * Binary64.power 2 exponent) (Binary64.power 2 (-exponent))
  dropZeros 20 (search significand exponent point 17 1)

/-- Zeros in a row. -/
def zeros (count : Int) : String :=
  String.ofList (List.replicate count.toNat '0')

/-- A decimal in positional notation, always with a point and a digit on either side of it. -/
def positional (digits : List Char) (point : Int) : String :=
  if point ≤ 0 then "0." ++ zeros (-point) ++ String.ofList digits
  else if point < digits.length then
    String.ofList (digits.take point.toNat) ++ "." ++ String.ofList (digits.drop point.toNat)
  else String.ofList digits ++ zeros (point - digits.length) ++ ".0"

/-- A decimal in exponent notation; the exponent has a sign and at least two digits. -/
def scientific (digits : List Char) (point : Int) : String :=
  let exponent := point - 1
  let magnitude := exponent.natAbs
  let fraction := match digits.drop 1 with
    | [] => ""
    | rest => "." ++ String.ofList rest
  String.ofList (digits.take 1) ++ fraction ++ (if exponent < 0 then "e-" else "e+") ++
    (if magnitude < 10 then "0" else "") ++ Nat.repr magnitude

/-- The text of a decimal: positional from one ten-thousandth up to below 10 ^ 16. -/
def text (d : Decimal) : String :=
  let digits := Nat.toDigits 10 d.significand
  let point := d.exponent + digits.length
  if -4 < point ∧ point ≤ 16 then positional digits point else scientific digits point

end Decimal

namespace Binary64

/-- The text of a finite number; the names of the others are given by the caller. -/
def textWith (infinity notANumber : String) : Binary64 → String
  | .finite negative significand exponent =>
    (if negative then "-" else "") ++
      (if significand = 0 then "0.0" else (Decimal.shortest significand exponent).text)
  | .infinite negative => (if negative then "-" else "") ++ infinity
  | .notANumber => notANumber

/-- The text of a number where values are shown. -/
def display : Binary64 → String :=
  textWith "inf" "nan"

/-- The text of a number where values are written as JSON. -/
def literal : Binary64 → String :=
  textWith "Infinity" "NaN"

end Binary64

end DialectSql.Number
