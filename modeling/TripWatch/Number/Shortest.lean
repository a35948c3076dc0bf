import TripWatch.Number.Double

/-!
# Shortest decimals

The decimal text of a double has the fewest digits that read back as the same double, and of those
the one nearest to it. All tests are made in exact integer arithmetic on the interval of real
numbers that round to the double.

## Main definitions

* `Decimal` — a natural number of digits and a power of ten
* `Double.shortest` — the shortest decimal of a finite double's absolute value
* `Double.plainText` — digits without an exponent, as in `-0`, `33.95`, `0.0000001`
* `Double.jsonText` — with a fraction or an exponent, as in `1.0`, `1e-6`, `1e+21`
-/

namespace TripWatch

/-- The number `digits * 10 ^ power`. -/
structure Decimal where
  /-- All digits, read as one natural number. -/
  digits : Nat
  /-- The power of ten that the digits are multiplied by. -/
  power : Int
  deriving DecidableEq, Repr

namespace Decimal

/-- The digits as text. -/
def digitChars (d : Decimal) : List Char := Nat.toDigits 10 d.digits

/-- The same number without one trailing zero, if there is one. -/
def dropZero (d : Decimal) : Decimal :=
  if d.digits % 10 = 0 then ⟨d.digits / 10, d.power + 1⟩ else d

/-- The power of ten of the first digit. -/
def leading (d : Decimal) : Int := d.power + d.digitChars.length - 1

/-- Positional text: zeros fill up to the point on either side, and a number without a fraction has
no point. -/
def positional (d : Decimal) : List Char :=
  let cs := d.digitChars
  if 0 ≤ d.power then cs ++ List.replicate d.power.toNat '0'
  else
    let places := (-d.power).toNat
    let padded := List.replicate (places + 1 - cs.length) '0' ++ cs
    padded.take (padded.length - places) ++ '.' :: padded.drop (padded.length - places)

/-- Scientific text: one digit, the rest behind a point, and the exponent with its sign. -/
def scientific (d : Decimal) : List Char :=
  let fraction := match d.digitChars.drop 1 with
    | [] => []
    | rest => '.' :: rest
  let sign := if d.leading < 0 then '-' else '+'
  d.digitChars.take 1 ++ fraction ++ 'e' :: sign :: Nat.toDigits 10 d.leading.natAbs

end Decimal

namespace Double

/-- The number of digits before the point of a positive quotient; zero or less for a quotient
below one tenth, like the exponent of scientific notation plus one. -/
def wholeDigits (num den : Nat) : Int :=
  let guess : Int := ((num.log2 : Int) - den.log2 - 1) * 30103 / 100000
  let below (p : Int) : Bool := decide (num * Nat.pow 10 (-p).toNat < den * Nat.pow 10 p.toNat)
  if below guess then guess
  else if below (guess + 1) then guess + 1
  else if below (guess + 2) then guess + 2
  else guess + 3

/-- The decimal with `count` digits that rounds to the double, if one does: of the two neighbours
of the double on the grid of decimals with that many digits, the nearer one that lies in the
rounding interval. -/
def decimalWith? (d : Double) (count : Nat) : Option Decimal :=
  let m := d.significand
  let power : Int := wholeDigits d.ratio.1 d.ratio.2 - count
  let narrow := m = Nat.pow 2 52 ∧ Nat.pow 2 53 ≤ d.magnitude
  let unit := Nat.pow 2 (d.exponent - 2).toNat * Nat.pow 10 (-power).toNat
  let grid := Nat.pow 2 (2 - d.exponent).toNat * Nat.pow 10 power.toNat
  let value := 4 * m * unit
  let low := (if narrow then 4 * m - 1 else 4 * m - 2) * unit
  let high := (4 * m + 2) * unit
  let inside (c : Nat) : Bool :=
    if m % 2 = 0 then decide (low ≤ c * grid ∧ c * grid ≤ high)
    else decide (low < c * grid ∧ c * grid < high)
  let down := value / grid
  let up := down + 1
  let upNearer : Bool :=
    decide ((2 * down + 1) * grid < 2 * value ∨
      ((2 * down + 1) * grid = 2 * value ∧ down % 2 = 1))
  match inside down, inside up with
  | true, true => some ⟨if upNearer then up else down, power⟩
  | true, false => some ⟨down, power⟩
  | false, true => some ⟨up, power⟩
  | false, false => none

/-- The shortest decimal that reads back as the absolute value of a finite double. Seventeen digits
are always enough. -/
def shortest (d : Double) : Decimal :=
  if d.magnitude = 0 then ⟨0, 0⟩
  else match (List.range' 1 17).findSome? d.decimalWith? with
    | some decimal => decimal.dropZero
    | none => ⟨d.significand, 0⟩

/-- Text of the sign. -/
def signText (d : Double) : List Char := if d.isNegative then ['-'] else []

/-- Text of a double that is not finite. -/
def namedText (d : Double) : String :=
  if d.isNaN then "NaN" else if d.isNegative then "-inf" else "inf"

/-- Text without an exponent: as many digits as needed and no point for a whole number. -/
def plainText (d : Double) : String :=
  if d.isFinite then String.ofList (d.signText ++ d.shortest.positional) else d.namedText

/-- Text of a finite double in JSON: positional from `1e-5` up to below `1e16`, with `.0` for a
whole number, and scientific beyond. -/
def jsonChars (d : Double) : List Char :=
  let decimal := d.shortest
  let body :=
    if d.magnitude = 0 ∨ (-5 ≤ decimal.leading ∧ decimal.leading < 16) then
      if 0 ≤ decimal.power then decimal.positional ++ ['.', '0'] else decimal.positional
    else decimal.scientific
  d.signText ++ body

/-- Text with exactly `places` digits behind the point, rounded from the exact binary value; a tie
goes to the even digit. -/
def fixedText (places : Nat) (d : Double) : String :=
  if d.isFinite then
    let (num, den) := d.ratio
    let scaled := divNearestEven (num * Nat.pow 10 places) den
    let cs := Nat.toDigits 10 scaled
    let padded := List.replicate (places + 1 - cs.length) '0' ++ cs
    String.ofList (d.signText ++ padded.take (padded.length - places) ++
      '.' :: padded.drop (padded.length - places))
  else d.namedText

end Double

end TripWatch
