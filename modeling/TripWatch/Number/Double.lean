/-!
# Doubles

A double is a 64-bit binary floating-point number, kept as its bit pattern, so that equality of
values, order and rounding are statements about natural numbers. Hardware arithmetic is used where
a formula is evaluated (`Double.add` and its companions, the trigonometric functions), and nowhere
else.

## Main definitions

* `Double` — the bit pattern; `Double.magnitude` is the pattern without its sign
* `Double.numericKey` — the integer by which two doubles that are not NaN compare as numbers, both
  zeros alike
* `Double.totalKey` — the integer of the total order: negative NaN, negative numbers, `-0.0`, `0.0`,
  positive numbers, NaN
* `Double.significand`, `Double.exponent` — the exact value `significand * 2 ^ exponent`
* `Double.ofRatio` — the double nearest to a quotient of natural numbers, ties to the even
  significand
-/

namespace TripWatch

/-- A 64-bit binary floating-point number, by its bit pattern. -/
structure Double where
  /-- Sign, eleven exponent bits and fifty-two fraction bits, from the top. -/
  bits : UInt64
  deriving DecidableEq, Inhabited

namespace Double

/-! ### Fields and classes -/

/-- Whether the sign bit is set. -/
def isNegative (d : Double) : Bool := decide (Nat.pow 2 63 ≤ d.bits.toNat)

/-- The bit pattern without its sign; it grows with the absolute value. -/
def magnitude (d : Double) : Nat := d.bits.toNat % Nat.pow 2 63

/-- The magnitude of both infinities. -/
def infinityMagnitude : Nat := 2047 * Nat.pow 2 52

/-- A double is not a number when its magnitude is beyond the infinities. -/
def isNaN (d : Double) : Bool := decide (infinityMagnitude < d.magnitude)

/-- A double is finite when its magnitude is below the infinities. -/
def isFinite (d : Double) : Bool := decide (d.magnitude < infinityMagnitude)

/-- The double with a given sign and magnitude. -/
def ofMagnitude (negative : Bool) (magnitude : Nat) : Double :=
  ⟨UInt64.ofNat (magnitude + if negative then Nat.pow 2 63 else 0)⟩

/-- Positive zero. -/
def zero : Double := ofMagnitude false 0

/-- The infinity of a given sign. -/
def infinity (negative : Bool) : Double := ofMagnitude negative infinityMagnitude

/-- The NaN that a text names: quiet and positive. -/
def namedNaN : Double := ofMagnitude false (infinityMagnitude + Nat.pow 2 51)

/-- The NaN that arithmetic produces: quiet, with the sign bit set, so it is first in the total
order. -/
def computedNaN : Double := ofMagnitude true (infinityMagnitude + Nat.pow 2 51)

/-! ### Order -/

/-- The place of a number on the line; both zeros have place 0. -/
def numericKey (d : Double) : Int :=
  if d.isNegative then -(d.magnitude : Int) else d.magnitude

/-- The place of a double in the total order; `-0.0` is just before `0.0`. -/
def totalKey (d : Double) : Int :=
  if d.isNegative then -(d.magnitude : Int) - 1 else d.magnitude

/-- Equality as numbers: a NaN equals nothing and the zeros are equal. -/
def sameNumber (a b : Double) : Bool :=
  !a.isNaN && !b.isNaN && a.numericKey == b.numericKey

instance : BEq Double := ⟨sameNumber⟩

/-- Order as numbers: false as soon as one side is a NaN. -/
protected def le (a b : Double) : Bool :=
  !a.isNaN && !b.isNaN && decide (a.numericKey ≤ b.numericKey)

/-- Strict order as numbers: false as soon as one side is a NaN. -/
protected def lt (a b : Double) : Bool :=
  !a.isNaN && !b.isNaN && decide (a.numericKey < b.numericKey)

instance : LE Double := ⟨fun a b => a.le b = true⟩
instance : LT Double := ⟨fun a b => a.lt b = true⟩
instance (a b : Double) : Decidable (a ≤ b) := inferInstanceAs (Decidable (a.le b = true))
instance (a b : Double) : Decidable (a < b) := inferInstanceAs (Decidable (a.lt b = true))

/-- The larger of two numbers; a NaN gives way to the other side. -/
protected def max (a b : Double) : Double :=
  if a.isNaN then b else if b.isNaN then a else if a < b then b else a

theorem sameNumber_self {d : Double} (h : d.isNaN = false) : (d == d) = true := by
  simp [BEq.beq, sameNumber, h]

/-! ### Hardware arithmetic -/

/-- The hardware number of a double. -/
def toFloat (d : Double) : Float := Float.ofBits d.bits

/-- The double of a hardware number that was computed. -/
def ofFloat (x : Float) : Double := if x.isNaN then computedNaN else ⟨x.toBits⟩

/-- An operation on two numbers. An operand that is a NaN is the result, the first one if both
are. -/
def lift₂ (op : Float → Float → Float) (a b : Double) : Double :=
  if a.isNaN then a else if b.isNaN then b else ofFloat (op a.toFloat b.toFloat)

/-- An operation on one number; a NaN stays as it is. -/
def lift (op : Float → Float) (a : Double) : Double :=
  if a.isNaN then a else ofFloat (op a.toFloat)

instance : Add Double := ⟨lift₂ (· + ·)⟩
instance : Sub Double := ⟨lift₂ (· - ·)⟩
instance : Mul Double := ⟨lift₂ (· * ·)⟩
instance : Div Double := ⟨lift₂ (· / ·)⟩

/-- The double with the other sign. -/
def negated (d : Double) : Double := ofMagnitude (!d.isNegative) d.magnitude

instance : Neg Double := ⟨negated⟩

/-- The square root. -/
def sqrt : Double → Double := lift Float.sqrt

/-- The sine of an angle in radians. -/
def sin : Double → Double := lift Float.sin

/-- The cosine of an angle in radians. -/
def cos : Double → Double := lift Float.cos

/-- The angle in radians with a given sine. -/
def asin : Double → Double := lift Float.asin

/-! ### Exact value and rounding -/

/-- The integer factor of the exact value of a finite double. -/
def significand (d : Double) : Nat :=
  let fraction := d.magnitude % Nat.pow 2 52
  if d.magnitude < Nat.pow 2 52 then fraction else fraction + Nat.pow 2 52

/-- The power of two in the exact value of a finite double. -/
def exponent (d : Double) : Int :=
  if d.magnitude < Nat.pow 2 52 then -1074 else (d.magnitude / Nat.pow 2 52 : Nat) - 1075

/-- The absolute value of a finite double is the quotient of these two. -/
def ratio (d : Double) : Nat × Nat :=
  (d.significand * Nat.pow 2 d.exponent.toNat, Nat.pow 2 (-d.exponent).toNat)

/-- The quotient rounded to the nearest integer, a half to the even neighbour. -/
def divNearestEven (num den : Nat) : Nat :=
  let q := num / den
  let r := num % den
  if 2 * r < den then q else if den < 2 * r then q + 1 else q + q % 2

/-- The magnitude nearest to `num / den`. The quotient lies in `[2 ^ k, 2 ^ (k + 1))`, where
neighbours are `2 ^ (k - 52)` apart, or `2 ^ (-1074)` apart near zero; a significand that rounds
up to the next power of two carries into the exponent by itself. -/
def magnitudeOfRatio (num den : Nat) : Nat :=
  if num = 0 then 0 else
    let guess : Int := (num.log2 : Int) - den.log2
    let small := num * Nat.pow 2 (-guess).toNat < den * Nat.pow 2 guess.toNat
    let k := if small then guess - 1 else guess
    let step := max (k - 52) (-1074)
    let m := divNearestEven (num * Nat.pow 2 (-step).toNat) (den * Nat.pow 2 step.toNat)
    min ((step + 1074).toNat * Nat.pow 2 52 + m) infinityMagnitude

/-- The double nearest to a quotient, with a given sign. -/
def ofRatio (negative : Bool) (num den : Nat) : Double :=
  ofMagnitude negative (magnitudeOfRatio num den)

/-- The double nearest to `digits * 10 ^ power`. Powers beyond the range of doubles are answered
without being computed. -/
def ofDecimal (negative : Bool) (digits : Nat) (power : Int) : Double :=
  let places : Int := digits.log2 * 3 / 10 + power
  if digits = 0 then ofMagnitude negative 0
  else if 320 < places then infinity negative
  else if places < -400 then ofMagnitude negative 0
  else ofRatio negative (digits * Nat.pow 10 power.toNat) (Nat.pow 10 (-power).toNat)

/-- The double nearest to an integer. -/
def ofInt (n : Int) : Double := ofRatio (decide (n < 0)) n.natAbs 1

instance (n : Nat) : OfNat Double n := ⟨ofRatio false n 1⟩

instance : OfScientific Double :=
  ⟨fun digits negativePower places =>
    ofDecimal false digits (if negativePower then -(places : Int) else places)⟩

/-- The product of two finite doubles, correctly rounded. -/
def mulFinite (a b : Double) : Double :=
  let (an, ad) := a.ratio
  let (bn, bd) := b.ratio
  ofRatio (a.isNegative != b.isNegative) (an * bn) (ad * bd)

/-- The quotient of two finite doubles, correctly rounded; the divisor is not zero. -/
def divFinite (a b : Double) : Double :=
  let (an, ad) := a.ratio
  let (bn, bd) := b.ratio
  ofRatio (a.isNegative != b.isNegative) (an * bd) (ad * bn)

end Double

end TripWatch
