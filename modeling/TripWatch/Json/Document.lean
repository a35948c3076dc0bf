import TripWatch.Number.Double

/-!
# JSON documents as read

What a text says, as far as it can be read. A fault stands in the document at the place where it
occurs, so a reader that goes through the document from left to right meets the first fault first,
and decides with the type that it expects whether a fault or a wrong type comes before the other.

## Main definitions

* `Json.Fault` — malformed text, text that ends too early, a value of the wrong shape
* `Json.Document` — a value with its faults
* `Json.Document.readFault` — the first fault for a reader that keeps what it reads
* `Json.Document.skipFault` — the first fault for a reader that passes over the value; it looks
  neither at the size of numbers, nor at unpaired surrogates, nor at the depth
-/

namespace TripWatch.Json

/-- Why a JSON text was refused. -/
inductive Fault where
  /-- The text is not JSON, or holds more than the value that was asked for. -/
  | malformed
  /-- The text ends before the value does. -/
  | truncated
  /-- The value is not of the type that was asked for. -/
  | mismatch
  deriving DecidableEq, Repr

/-- A number as read. -/
inductive Number where
  /-- An integer of at most 64 bits, signed if negative. -/
  | int (n : Int)
  /-- Any other number. -/
  | double (d : Double)
  /-- A number beyond the doubles. -/
  | outOfRange

/-- How the members of an object end. -/
inductive Ending where
  /-- With the closing brace. -/
  | closed
  /-- With a fault where a comma or the brace should stand. -/
  | cut (fault : Fault)
  /-- With something else where a key should stand: the fault for a reader of keys and for one that
  passes over the object. -/
  | keyless (read skipped : Fault)

/-- How a value that cannot be read begins. -/
inductive Opening where
  /-- There is no value. -/
  | nothing
  /-- Like a string. -/
  | text
  /-- Like `null`. -/
  | null
  /-- Like anything else. -/
  | other
  deriving DecidableEq, Repr

/-- A JSON value as far as it can be read. -/
inductive Document where
  | null
  | bool (b : Bool)
  | number (n : Number)
  /-- A string; it has no text if it holds an unpaired surrogate. -/
  | text (s : Option String)
  /-- A list, and the fault that stands where a comma or the bracket should. -/
  | list (items : List Document) (cut : Option Fault)
  /-- An object; a key has no text if it holds an unpaired surrogate. -/
  | record (members : List (Option String × Document)) (ending : Ending)
  /-- A list or object that is nested too deeply to be kept. -/
  | tooDeep (inner : Document)
  /-- A fault: for a reader that keeps the value and for one that passes over it. -/
  | broken (opening : Opening) (read skipped : Fault)
  deriving Inhabited

namespace Document

/-- There is no value, and every reader sees the same fault. -/
def fault (f : Fault) : Document := broken .nothing f f

/-- The fault of a number, if it is too large. -/
def numberFault : Number → Option Fault
  | .outOfRange => some .malformed
  | _ => none

mutual

/-- The first fault in a value that is kept whole. -/
def readFault : Document → Option Fault
  | null | bool _ => none
  | number n => numberFault n
  | text (some _) => none
  | text none => some .malformed
  | list items cut => (readFaultItems items).or cut
  | record members ending => (readFaultMembers members).or <|
      match ending with
      | .closed => none
      | .cut f => some f
      | .keyless read _ => some read
  | tooDeep _ => some .malformed
  | broken _ read _ => some read

/-- The first fault among items that are kept. -/
def readFaultItems : List Document → Option Fault
  | [] => none
  | d :: rest => (readFault d).or (readFaultItems rest)

/-- The first fault among members that are kept. -/
def readFaultMembers : List (Option String × Document) → Option Fault
  | [] => none
  | (none, _) :: _ => some .malformed
  | (some _, d) :: rest => (readFault d).or (readFaultMembers rest)

end

mutual

/-- The first fault in a value that is passed over. -/
def skipFault : Document → Option Fault
  | null | bool _ | number _ | text _ => none
  | list items cut => (skipFaultItems items).or cut
  | record members ending => (skipFaultMembers members).or <|
      match ending with
      | .closed => none
      | .cut f => some f
      | .keyless _ skipped => some skipped
  | tooDeep inner => skipFault inner
  | broken _ _ skipped => some skipped

/-- The first fault among items that are passed over. -/
def skipFaultItems : List Document → Option Fault
  | [] => none
  | d :: rest => (skipFault d).or (skipFaultItems rest)

/-- The first fault among members that are passed over. -/
def skipFaultMembers : List (Option String × Document) → Option Fault
  | [] => none
  | (_, d) :: rest => (skipFault d).or (skipFaultMembers rest)

end

/-- The fault of a reader that expects a value of another kind. Scalars are read to their end
before their kind is looked at; lists and objects are refused at once. -/
def wrongKind : Document → Fault
  | number n => (numberFault n).getD .mismatch
  | text none => .malformed
  | broken _ read _ => read
  | _ => .mismatch

end Document

end TripWatch.Json
