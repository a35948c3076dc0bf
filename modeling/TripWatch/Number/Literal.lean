import TripWatch.Number.Double

/-!
# Number literals

Reading numbers from text. A whole number is digits after a sign or none. A double is an optional
sign, then digits with at most one point and at least one digit, then an optional exponent; or one
of the names `inf`, `infinity`, `nan` in any case. Its value is correctly rounded.
-/

namespace TripWatch

/-- The value of a digit character. -/
def digitValue (c : Char) : Nat := c.toNat - '0'.toNat

/-- The value of a hexadecimal digit. -/
def hexValue? (c : Char) : Option Nat :=
  if c.isDigit then some (digitValue c)
  else if 'a' ≤ c ∧ c ≤ 'f' then some (c.toNat - 'a'.toNat + 10)
  else if 'A' ≤ c ∧ c ≤ 'F' then some (c.toNat - 'A'.toNat + 10)
  else none

/-- The number written by a run of digits. -/
def natOfDigits (cs : List Char) : Nat := cs.foldl (fun n c => n * 10 + digitValue c) 0

/-- Reads a natural number: digits, after a plus sign or none. -/
def natOfText? (cs : List Char) : Option Nat :=
  let digits := match cs with
    | '+' :: ds => ds
    | ds => ds
  if digits ≠ [] ∧ digits.all Char.isDigit then some (natOfDigits digits) else none

/-- Reads a whole number: digits after a sign or none. -/
def intOfText? : List Char → Option Int
  | '-' :: ds =>
    if ds ≠ [] ∧ ds.all Char.isDigit then some (-(natOfDigits ds : Int)) else none
  | cs => (natOfText? cs).map Int.ofNat

namespace Double

/-- The exponent part of a literal: nothing, or `e` with an optional sign and at least one digit. -/
def exponentOfChars? : List Char → Option Int
  | [] => some 0
  | e :: rest =>
    if e = 'e' ∨ e = 'E' then
      let (negative, digits) := match rest with
        | '-' :: ds => (true, ds)
        | '+' :: ds => (false, ds)
        | ds => (false, ds)
      if digits ≠ [] ∧ digits.all Char.isDigit then
        some (if negative then -(natOfDigits digits : Int) else natOfDigits digits)
      else none
    else none

/-- The value of a literal without its sign. -/
def unsignedOfChars? (negative : Bool) (cs : List Char) : Option Double :=
  let name := cs.map Char.toLower
  if name = "inf".toList ∨ name = "infinity".toList then some (infinity negative)
  else if name = "nan".toList then some (ofMagnitude negative namedNaN.magnitude)
  else
    let whole := cs.takeWhile Char.isDigit
    let (fraction, tail) := match cs.dropWhile Char.isDigit with
      | '.' :: rest => (rest.takeWhile Char.isDigit, rest.dropWhile Char.isDigit)
      | rest => ([], rest)
    if whole = [] ∧ fraction = [] then none
    else (exponentOfChars? tail).map fun power =>
      ofDecimal negative (natOfDigits (whole ++ fraction)) (power - fraction.length)

/-- Reads a double from text, if the text is a number literal. -/
def ofText? (s : String) : Option Double :=
  match s.toList with
  | '-' :: cs => unsignedOfChars? true cs
  | '+' :: cs => unsignedOfChars? false cs
  | cs => unsignedOfChars? false cs

end Double

end TripWatch
