/-!
# Comma-separated records

Records of fields as bytes. A field may stand in quotes, where commas and line ends belong to it
and a quote is written twice; a quote inside an unquoted field is an ordinary byte. Lines end with a
line feed, a carriage return or both, and empty lines are no records.

## Main definitions

* `Csv.step` — what one byte does to what was read so far
* `Csv.records` — the records of a text, without a byte order mark in front of it
-/

namespace TripWatch.Csv

/-- Where in a record the next byte stands. -/
inductive Place where
  /-- In front of a record. -/
  | beforeRecord
  /-- In front of a field. -/
  | beforeField
  /-- In an unquoted field. -/
  | plain
  /-- In a quoted field. -/
  | quoted
  /-- Behind a quote in a quoted field. -/
  | afterQuote
  deriving DecidableEq, Repr

/-- What was read so far. -/
structure State where
  /-- Where the next byte stands. -/
  place : Place
  /-- The bytes of the field that is being read, the latest first. -/
  field : List UInt8
  /-- The fields of the record that is being read, the latest first. -/
  fields : List (List UInt8)
  /-- The records that are complete, the latest first. -/
  records : List (List (List UInt8))

/-- A comma. -/
def comma : UInt8 := 44

/-- A double quote. -/
def quote : UInt8 := 34

/-- Whether a byte ends a line. -/
def isLineEnd (b : UInt8) : Bool := b == 10 || b == 13

namespace State

/-- Nothing was read. -/
def start : State := ⟨.beforeRecord, [], [], []⟩

/-- One more byte of the field. -/
def push (s : State) (place : Place) (b : UInt8) : State :=
  { s with place := place, field := b :: s.field }

/-- The end of the field. -/
def endField (s : State) : State :=
  { s with place := .beforeField, field := [], fields := s.field.reverse :: s.fields }

/-- The end of the field and of the record. -/
def endRecord (s : State) : State :=
  ⟨.beforeRecord, [], [], (s.field.reverse :: s.fields).reverse :: s.records⟩

/-- A byte that is not special where it stands, or ends the field. -/
def unquoted (s : State) (b : UInt8) : State :=
  if b == comma then s.endField else if isLineEnd b then s.endRecord else s.push .plain b

/-- A byte in front of a field. -/
def begin (s : State) (b : UInt8) : State :=
  if b == quote then { s with place := .quoted } else s.unquoted b

/-- What one byte does. -/
def step (s : State) (b : UInt8) : State :=
  match s.place with
  | .beforeRecord => if isLineEnd b then s else s.begin b
  | .beforeField => s.begin b
  | .plain => s.unquoted b
  | .quoted => if b == quote then { s with place := .afterQuote } else s.push .quoted b
  | .afterQuote => if b == quote then s.push .quoted b else s.unquoted b

/-- All records once the text is over. A record that was begun ends with it. -/
def finish (s : State) : List (List (List UInt8)) :=
  (if s.place = .beforeRecord then s else s.endRecord).records.reverse

end State

/-- A text without a byte order mark. -/
def dropMark : List UInt8 → List UInt8
  | 0xEF :: 0xBB :: 0xBF :: rest => rest
  | bytes => bytes

/-- The records of a text. -/
def records (bytes : List UInt8) : List (List (List UInt8)) :=
  ((dropMark bytes).foldl State.step .start).finish

end TripWatch.Csv
