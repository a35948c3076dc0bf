import TripWatch.Json.Document
import TripWatch.Number.Literal

/-!
# Reading JSON text

From characters to a document. The reader never fails: what cannot be read is a fault inside the
document, and nothing is read behind the first fault.

## Main definitions

* `Json.scanText` — the characters of a string up to its closing quote
* `Json.scanNumber` — a number; `Json.scaleDecimal` gives its value
* `Json.Document.ofChars` — the first value of a text and what follows it
-/

namespace TripWatch.Json

/-- White space between JSON tokens. -/
def isBlank (c : Char) : Bool := c == ' ' || c == '\n' || c == '\t' || c == '\r'

/-- The text behind leading white space. -/
def skipBlank (cs : List Char) : List Char := cs.dropWhile isBlank

/-! ### Strings -/

/-- What stands next inside a string. -/
inductive TextUnit where
  /-- The closing quote. -/
  | close
  /-- A character, escaped or not. -/
  | char (c : Char)
  /-- An escaped half of a surrogate pair. -/
  | half (n : Nat)
  /-- A fault. -/
  | stop (f : Fault)

/-- The unit written as four hexadecimal digits. With fewer than four bytes left the text ends too
early, whatever the bytes are. -/
def hexUnit (cs : List Char) : TextUnit × List Char :=
  if (String.ofList (cs.take 4)).utf8ByteSize < 4 then (.stop .truncated, [])
  else match cs with
    | a :: b :: c :: d :: rest =>
      match hexValue? a, hexValue? b, hexValue? c, hexValue? d with
      | some a, some b, some c, some d =>
        let n := ((a * 16 + b) * 16 + c) * 16 + d
        (if 0xD800 ≤ n ∧ n < 0xE000 then .half n else .char (Char.ofNat n), rest)
      | _, _, _, _ => (.stop .malformed, [])
    | _ => (.stop .malformed, [])

/-- The unit behind a backslash. -/
def escapedUnit : List Char → TextUnit × List Char
  | [] => (.stop .truncated, [])
  | 'u' :: rest => hexUnit rest
  | '"' :: rest => (.char '"', rest)
  | '\\' :: rest => (.char '\\', rest)
  | '/' :: rest => (.char '/', rest)
  | 'b' :: rest => (.char (Char.ofNat 8), rest)
  | 'f' :: rest => (.char (Char.ofNat 12), rest)
  | 'n' :: rest => (.char '\n', rest)
  | 'r' :: rest => (.char '\r', rest)
  | 't' :: rest => (.char '\t', rest)
  | _ => (.stop .malformed, [])

/-- The next unit of a string. -/
def textUnit : List Char → TextUnit × List Char
  | [] => (.stop .truncated, [])
  | '"' :: rest => (.close, rest)
  | '\\' :: rest => escapedUnit rest
  | c :: rest => if c.toNat < 32 then (.stop .malformed, []) else (.char c, rest)

/-- A string scanned to its end, or the faults at which the scan stopped: for a reader that keeps
the string and for one that passes over it. -/
inductive Scan where
  | closed (s : Option String)
  | stopped (read skipped : Fault)

/-- Where a scan stands: the characters so far, the latest first, a leading surrogate that waits
for its other half, and whether an unpaired one was met. -/
structure ScanState where
  /-- The characters so far, the latest first. -/
  seen : List Char := []
  /-- A leading surrogate. -/
  leading : Option Nat := none
  /-- Whether an unpaired surrogate was met. -/
  unpaired : Bool := false

/-- The state after a character or half pair. -/
def ScanState.push (st : ScanState) : TextUnit → ScanState
  | .char c =>
    { seen := c :: st.seen, leading := none, unpaired := st.unpaired || st.leading.isSome }
  | .half n =>
    if n < 0xDC00 then
      { st with leading := some n, unpaired := st.unpaired || st.leading.isSome }
    else match st.leading with
      | some m =>
        { st with
          seen := Char.ofNat (0x10000 + (m - 0xD800) * 0x400 + (n - 0xDC00)) :: st.seen
          leading := none }
      | none => { st with unpaired := true }
  | _ => st

/-- Scans the characters of a string behind its opening quote. -/
def scanTextFrom : Nat → ScanState → List Char → Scan × List Char
  | 0, _, _ => (.stopped .truncated .truncated, [])
  | fuel + 1, st, cs =>
    match textUnit cs with
    | (.close, rest) =>
      if st.unpaired || st.leading.isSome then (.closed none, rest)
      else (.closed (some (String.ofList st.seen.reverse)), rest)
    | (.stop f, _) => (.stopped (if st.unpaired then .malformed else f) f, [])
    | (u, rest) => scanTextFrom fuel (st.push u) rest

/-- Scans a string behind its opening quote. Every unit is at least one character long. -/
def scanText (cs : List Char) : Scan × List Char := scanTextFrom (cs.length + 1) {} cs

/-! ### Numbers -/

/-- The largest unsigned word of 64 bits. -/
def maxWord : Nat := 0xFFFFFFFFFFFFFFFF

/-- Digits gathered into a word: what was gathered, and how many digits did not fit. -/
def gatherWhole : Nat → List Char → Nat × Nat
  | n, [] => (n, 0)
  | n, c :: rest =>
    if maxWord < n * 10 + digitValue c then (n, (c :: rest).length)
    else gatherWhole (n * 10 + digitValue c) rest

/-- Digits behind the point gathered into a word: what was gathered, and from how many digits; the
first digit that does not fit ends it. -/
def gatherFraction : Nat → List Char → Nat × Nat
  | n, [] => (n, 0)
  | n, c :: rest =>
    if maxWord < n * 10 + digitValue c then (n, 0)
    else
      let (m, used) := gatherFraction (n * 10 + digitValue c) rest
      (m, used + 1)

/-- The double `word * 10 ^ power`, by one rounded multiplication or division with a power of ten;
powers below `10 ^ -308` are divided off in steps. Nothing if it is beyond the doubles. -/
def scaleSteps : Nat → Double → Int → Option Double
  | 0, d, _ => some d
  | fuel + 1, d, power =>
    if power.natAbs ≤ 308 then
      let ten := Double.ofDecimal false 1 power.natAbs
      if 0 ≤ power then
        let product := d.mulFinite ten
        if product.isFinite then some product else none
      else some (d.divFinite ten)
    else if d.magnitude = 0 then some d
    else if 0 ≤ power then none
    else scaleSteps fuel (d.divFinite (Double.ofDecimal false 1 308)) (power + 308)

/-- The double `word * 10 ^ power`. Three divisions by `10 ^ 308` leave zero of any word. -/
def scaleDecimal (word : Nat) (power : Int) : Option Double :=
  scaleSteps 4 (Double.ofInt word) power

/-- A double of either sign as a number. -/
def numberOfDouble (negative : Bool) : Option Double → Number
  | none => .outOfRange
  | some d => .double (if negative then d.negated else d)

/-- The value of a number from its parts. Whole numbers that fit a word stay integers; a negative
one has to be negative and to fit a signed word. -/
def numberOfParts (negative : Bool) (whole : List Char) (fraction : List Char)
    (power : Option Int) : Number :=
  let (word, skipped) := gatherWhole 0 whole
  if fraction = [] ∧ power = none ∧ skipped = 0 then
    if negative then
      if word = 0 ∨ 0x8000000000000000 < word then .double (Double.ofInt (word : Int)).negated
      else .int (-(word : Int))
    else .int word
  else
    let (word, used) := gatherFraction word fraction
    numberOfDouble negative
      (scaleDecimal word ((skipped : Int) - used + power.getD 0))

/-- The fault where a digit is missing. -/
def digitFault : List Char → Fault
  | [] => .truncated
  | _ => .malformed

/-- The exponent behind a number, if there is one. -/
def scanExponent (cs : List Char) : Except Fault (Option Int) × List Char :=
  match cs with
  | e :: rest =>
    if e = 'e' ∨ e = 'E' then
      let (negative, rest) := match rest with
        | '-' :: rest => (true, rest)
        | '+' :: rest => (false, rest)
        | rest => (false, rest)
      let digits := rest.takeWhile Char.isDigit
      let after := rest.dropWhile Char.isDigit
      if digits = [] then (.error (digitFault after), [])
      else
        let n : Int := natOfDigits digits
        (.ok (some (if negative then -n else n)), after)
    else (.ok none, cs)
  | [] => (.ok none, [])

/-- The rest of a number behind its whole digits. -/
def scanTail (negative : Bool) (whole : List Char) (cs : List Char) :
    Except Fault Number × List Char :=
  match cs with
  | '.' :: rest =>
    let fraction := rest.takeWhile Char.isDigit
    let after := rest.dropWhile Char.isDigit
    if fraction = [] then (.error (digitFault after), [])
    else match scanExponent after with
      | (.ok power, after) => (.ok (numberOfParts negative whole fraction power), after)
      | (.error f, after) => (.error f, after)
  | _ => match scanExponent cs with
    | (.ok power, after) => (.ok (numberOfParts negative whole [] power), after)
    | (.error f, after) => (.error f, after)

/-- Scans a number behind its sign. A leading zero stands alone. -/
def scanUnsigned (negative : Bool) (cs : List Char) : Except Fault Number × List Char :=
  let whole := cs.takeWhile Char.isDigit
  let after := cs.dropWhile Char.isDigit
  match whole with
  | [] => (.error (digitFault after), [])
  | '0' :: _ :: _ => (.error .malformed, [])
  | _ => scanTail negative whole after

/-- Scans a number. -/
def scanNumber : List Char → Except Fault Number × List Char
  | '-' :: rest => scanUnsigned true rest
  | cs => scanUnsigned false cs

/-! ### Values -/

/-- Scans the rest of a name of which the first character is known. -/
def scanName (value : Document) (opening : Opening) : List Char → List Char → Document × List Char
  | [], cs => (value, cs)
  | _ :: _, [] => (.broken opening .truncated .truncated, [])
  | e :: expected, c :: cs =>
    if c = e then scanName value opening expected cs
    else (.broken opening .malformed .malformed, [])

/-- The level of nesting that can no longer be kept. -/
def depthLimit : Nat := 128

/-- Marks a list or object that is nested too deeply. -/
def markDepth (level : Nat) (d : Document) : Document :=
  if depthLimit ≤ level then .tooDeep d else d

/-- A document for a number that was scanned. A reader that passes over it takes one that ends too
early for malformed. -/
def documentOfNumber : Except Fault Number × List Char → Document × List Char
  | (.ok n, rest) => (.number n, rest)
  | (.error f, rest) => (.broken .other f .malformed, rest)

/-- A document for a string that was scanned. -/
def documentOfScan : Scan × List Char → Document × List Char
  | (.closed s, rest) => (.text s, rest)
  | (.stopped read skipped, rest) => (.broken .text read skipped, rest)

/-- How a list goes on behind an item. -/
inductive Next where
  | another (rest : List Char)
  | closed (rest : List Char)
  | cut (f : Fault)

/-- What follows an item or member: a comma, the closing character or a fault. -/
def nextAfter (close : Char) (cs : List Char) : Next :=
  match skipBlank cs with
  | [] => .cut .truncated
  | c :: rest => if c = ',' then .another rest else if c = close then .closed rest
    else .cut .malformed

mutual

/-- Reads a value at a level of nesting. Each call takes one unit of fuel. -/
def readValue : Nat → Nat → List Char → Document × List Char
  | 0, _, _ => (.fault .malformed, [])
  | fuel + 1, level, cs =>
    match skipBlank cs with
    | [] => (.fault .truncated, [])
    | '"' :: rest => documentOfScan (scanText rest)
    | '[' :: rest =>
      match skipBlank rest with
      | [] => (markDepth (level + 1) (.list [] (some .truncated)), [])
      | ']' :: rest => (markDepth (level + 1) (.list [] none), rest)
      | rest =>
        let (items, cut, rest) := readItems fuel (level + 1) rest
        (markDepth (level + 1) (.list items cut), rest)
    | '\x7b' :: rest =>
      match skipBlank rest with
      | '\x7d' :: rest => (markDepth (level + 1) (.record [] .closed), rest)
      | rest =>
        let (members, ending, rest) := readMembers fuel (level + 1) rest
        (markDepth (level + 1) (.record members ending), rest)
    | 'n' :: rest => scanName .null .null ['u', 'l', 'l'] rest
    | 't' :: rest => scanName (.bool true) .other ['r', 'u', 'e'] rest
    | 'f' :: rest => scanName (.bool false) .other ['a', 'l', 's', 'e'] rest
    | c :: rest =>
      if c = '-' ∨ c.isDigit then documentOfNumber (scanNumber (c :: rest))
      else (.broken .other .malformed .malformed, [])

/-- Reads the items of a list from one on. -/
def readItems : Nat → Nat → List Char → List Document × Option Fault × List Char
  | 0, _, _ => ([], some .malformed, [])
  | fuel + 1, level, cs =>
    let (item, rest) := readValue fuel level cs
    match nextAfter ']' rest with
    | .closed rest => ([item], none, rest)
    | .cut f => ([item], some f, [])
    | .another rest =>
      let (items, cut, rest) := readItems fuel level rest
      (item :: items, cut, rest)

/-- Reads the members of an object from one on. -/
def readMembers : Nat → Nat → List Char →
    List (Option String × Document) × Ending × List Char
  | 0, _, _ => ([], .cut .malformed, [])
  | fuel + 1, level, cs =>
    match skipBlank cs with
    | [] => ([], .keyless .truncated .truncated, [])
    | '"' :: rest =>
      match scanText rest with
      | (.stopped read skipped, _) => ([], .keyless read skipped, [])
      | (.closed key, rest) =>
        let (value, rest) := match skipBlank rest with
          | ':' :: rest => readValue fuel level rest
          | [] => (.fault .truncated, [])
          | _ => (.fault .malformed, [])
        match nextAfter '\x7d' rest with
        | .closed rest => ([(key, value)], .closed, rest)
        | .cut f => ([(key, value)], .cut f, [])
        | .another rest =>
          let (members, ending, rest) := readMembers fuel level rest
          ((key, value) :: members, ending, rest)
    | _ => ([], .keyless .malformed .malformed, [])

end

/-- The first value of a text and what follows it. -/
def Document.ofChars (cs : List Char) : Document × List Char :=
  readValue (2 * cs.length + 2) 0 cs

end TripWatch.Json
