/-!
# Percent encoding

Bytes as a percent sign and two hexadecimal digits, in the parts of addresses and in forms.

## Main definitions

* `Percent.encode` — a text with the bytes that do not pass a test encoded
* `Percent.decode?` — a text with all escapes decoded, if it is a text then; what only looks like an
  escape stays as it is
* `Percent.form` — names and values as a form
-/

namespace TripWatch.Percent

/-- A hexadecimal digit in upper case. -/
def upperHex (n : Nat) : Char := (Nat.digitChar n).toUpper

/-- A byte as an escape. -/
def escape (b : UInt8) : List Char := ['%', upperHex (b.toNat / 16), upperHex (b.toNat % 16)]

/-- The character of a byte of the ASCII range. -/
def charOfByte (b : UInt8) : Char := Char.ofNat b.toNat

/-- A text with the bytes that do not pass a test encoded; none beyond ASCII passes. -/
def encode (keep : Char → Bool) (s : String) : List Char :=
  s.toUTF8.toList.flatMap fun b =>
    if b < 128 && keep (charOfByte b) then [charOfByte b] else escape b

/-- The value of a hexadecimal digit. -/
def hexValue? (b : UInt8) : Option UInt8 :=
  if 48 ≤ b && b ≤ 57 then some (b - 48)
  else if 65 ≤ b && b ≤ 70 then some (b - 55)
  else if 97 ≤ b && b ≤ 102 then some (b - 87)
  else none

/-- The byte of an escape with two digits. -/
def escaped? (mark high low : UInt8) : Option UInt8 :=
  if mark = 37 then do return (← hexValue? high) * 16 + (← hexValue? low) else none

/-- Bytes with all escapes decoded. -/
def decodeBytes : List UInt8 → List UInt8
  | mark :: high :: low :: rest =>
    match escaped? mark high low with
    | some b => b :: decodeBytes rest
    | none => mark :: decodeBytes (high :: low :: rest)
  | bytes => bytes

/-- A text with all escapes decoded, if it is a text then. -/
def decode? (s : String) : Option String :=
  String.fromUTF8? (decodeBytes s.toUTF8.toList).toByteArray

/-! ### Forms -/

/-- Whether a character stands for itself in a form. -/
def isFormChar (c : Char) : Bool := c.isAlphanum || c == '*' || c == '-' || c == '.' || c == '_'

/-- A name or value in a form; a space is a plus sign. -/
def formText (s : String) : List Char :=
  (encode (fun c => isFormChar c || c == ' ') s).map fun c => if c = ' ' then '+' else c

/-- Names and values as a form. -/
def form (pairs : List (String × String)) : String :=
  "&".intercalate <| pairs.map fun (name, value) =>
    String.ofList (formText name ++ '=' :: formText value)

end TripWatch.Percent
