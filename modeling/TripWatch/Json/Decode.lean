import TripWatch.Json.Reader
import TripWatch.Json.Value

/-!
# Decoding JSON documents

Decoders go from a document to a value of a type, or to the first fault in the order of the text.
A record is read from an object, or from a list of its fields in their order.

## Main definitions

* `Json.Decoder` — from a document to a value or a fault
* `Json.FieldReader` — from the fields of a record to a value; fault and place are kept together, so
  of several faults the one that stands first in the text is reported
* `Json.Decoder.record`, `Json.Decoder.strictRecord`, `Json.Decoder.flattened` — records
* `Json.decode`, `Json.decodeFirst` — a whole text, and the first value of a text
-/

namespace TripWatch.Json

/-- A decoder of values of a type. -/
abbrev Decoder (α : Type) := Document → Except Fault α

namespace Decoder

/-! ### Scalars -/

/-- A string. -/
def text : Decoder String
  | .text (some s) => .ok s
  | d => .error d.wrongKind

/-- A truth value. -/
def bool : Decoder Bool
  | .bool b => .ok b
  | d => .error d.wrongKind

/-- An integer within bounds; a number with a fraction or exponent is none. -/
def intWithin (low high : Int) : Decoder Int
  | .number (.int n) => if low ≤ n ∧ n ≤ high then .ok n else .error .mismatch
  | d => .error d.wrongKind

/-- A signed word of 64 bits. -/
def word : Decoder Int64 := fun d =>
  (intWithin Int64.minValue.toInt Int64.maxValue.toInt d).map Int64.ofInt

/-- An unsigned word of 32 bits. -/
def unsigned32 : Decoder UInt32 := fun d =>
  (intWithin 0 0xFFFFFFFF d).map fun n => UInt32.ofNat n.toNat

/-- An unsigned word of 64 bits. -/
def unsigned64 : Decoder UInt64 := fun d =>
  (intWithin 0 0xFFFFFFFFFFFFFFFF d).map fun n => UInt64.ofNat n.toNat

/-- A number, whole or not. -/
def double : Decoder Double
  | .number (.int n) => .ok (Double.ofInt n)
  | .number (.double d) => .ok d
  | d => .error d.wrongKind

/-- A value read from a string by a further rule. -/
def textThat {α : Type} (read? : String → Option α) : Decoder α := fun d => do
  let s ← text d
  match read? s with
  | some a => .ok a
  | none => .error .mismatch

/-- A value that may be absent, written as `null`. What begins like `null` has to be that. -/
def optional {α : Type} (decoder : Decoder α) : Decoder (Option α)
  | .null => .ok none
  | .broken .null read _ => .error read
  | d => (decoder d).map some

/-! ### Lists and maps -/

/-- The items of a list, from left to right. -/
def items {α : Type} (decoder : Decoder α) : List Document → Except Fault (List α)
  | [] => .ok []
  | d :: rest => do
    let a ← decoder d
    let more ← items decoder rest
    .ok (a :: more)

/-- A list. -/
def list {α : Type} (decoder : Decoder α) : Decoder (List α)
  | .list docs cut => do
    let as ← items decoder docs
    match cut with
    | none => .ok as
    | some f => .error f
  | .tooDeep _ => .error .malformed
  | d => .error d.wrongKind

/-- The members of an object with freely chosen keys, from left to right. -/
def members {α : Type} (decoder : Decoder α) :
    List (Option String × Document) → Except Fault (List (String × α))
  | [] => .ok []
  | (none, _) :: _ => .error .malformed
  | (some k, d) :: rest => do
    let a ← decoder d
    let more ← members decoder rest
    .ok ((k, a) :: more)

/-- An object with freely chosen keys. -/
def map {α : Type} (decoder : Decoder α) : Decoder (List (String × α))
  | .record docs ending => do
    let as ← members decoder docs
    match ending with
    | .closed => .ok as
    | .cut f => .error f
    | .keyless read _ => .error read
  | .tooDeep _ => .error .malformed
  | d => .error d.wrongKind

/-- One of a set of names: a string, or an object with the name as its only key and `null` as its
value. Anything else is malformed by its first character. -/
def named {α : Type} (ofName? : String → Option α) : Decoder α
  | .text s => textThat ofName? (.text s)
  | .record ((key, value) :: more) ending => do
    let a ← textThat ofName? (.text key)
    match value with
    | .null => .ok ()
    | d => .error d.wrongKind
    match more, ending with
    | [], .closed => .ok a
    | [], .cut f => .error f
    | _, _ => .error .malformed
  | .record [] (.keyless read _) => .error read
  | .broken .text read _ | .broken .nothing read _ => .error read
  | _ => .error .malformed

end Decoder

/-! ### Records -/

/-- A fault at a place: the number of fields or items in front of it. -/
structure Placed where
  /-- How many fields or items stand in front of the fault. -/
  place : Nat
  /-- The fault. -/
  fault : Fault

/-- Of two faults the one that stands first; the first one given if they stand together. -/
def Placed.first (a b : Placed) : Placed := if b.place < a.place then b else a

/-- The fields of a record that is being read, and the fault of a field that is missing. -/
structure Fields where
  /-- Each field's name, if it can be read, with its value. -/
  members : List (Option String × Document)
  /-- What a missing field amounts to. -/
  missing : Placed

/-- The value of a field and its place: the first one of that name. -/
def Fields.find? (fields : Fields) (name : String) : Option (Nat × Document) :=
  go 0 fields.members
where
  /-- Looks from a place on. -/
  go (place : Nat) : List (Option String × Document) → Option (Nat × Document)
    | [] => none
    | (key, d) :: rest => if key = some name then some (place, d) else go (place + 1) rest

/-- A reading of a record's fields: the names that it takes, in order, and the value. -/
structure FieldReader (α : Type) where
  /-- The names of the fields, in order. -/
  names : List String
  /-- Reads the value. -/
  run : Fields → Except Placed α

namespace FieldReader

/-- Reads one field if it is there. -/
def read? {α : Type} (name : String) (decoder : Decoder α) (fields : Fields) :
    Except Placed (Option α) :=
  match fields.find? name with
  | none => .ok none
  | some (place, d) =>
    match decoder d with
    | .ok a => .ok (some a)
    | .error f => .error ⟨place, f⟩

/-- A field that has to be there. -/
def required {α : Type} (name : String) (decoder : Decoder α) : FieldReader α where
  names := [name]
  run fields := do
    match ← read? name decoder fields with
    | some a => .ok a
    | none => .error fields.missing

/-- A field with a value for its absence. -/
def withDefault {α : Type} (name : String) (default : α) (decoder : Decoder α) :
    FieldReader α where
  names := [name]
  run fields := do
    match ← read? name decoder fields with
    | some a => .ok a
    | none => .ok default

/-- A field that may be absent or `null`. -/
def optional {α : Type} (name : String) (decoder : Decoder α) : FieldReader (Option α) :=
  withDefault name none decoder.optional

/-- Nothing to read. -/
def pure {α : Type} (a : α) : FieldReader α where
  names := []
  run _ := .ok a

/-- A function from the first fields applied to the value of the next; of two faults the one that
stands first counts. -/
def seq {α β : Type} (f : FieldReader (α → β)) (x : FieldReader α) : FieldReader β where
  names := f.names ++ x.names
  run fields :=
    match f.run fields, x.run fields with
    | .ok g, .ok a => .ok (g a)
    | .error e, .ok _ => .error e
    | .ok _, .error e => .error e
    | .error e, .error e' => .error (e.first e')

instance : Functor FieldReader where
  map g x := { names := x.names, run := fun fields => (x.run fields).map g }

instance : Seq FieldReader where
  seq f x := seq f (x ())

end FieldReader

/-- What a record does with a field that it does not know. -/
inductive Unknown where
  /-- Passes over its value. -/
  | skipped
  /-- Refuses it at its name. -/
  | refused
  /-- Keeps its value for later, so that it has to be readable. -/
  | kept

/-- The fault of one field apart from its value as a known field: an unreadable name, a known name
for the second time, or what an unknown field is refused for. -/
def memberFault (names : List String) (unknown : Unknown) (earlier : List String) :
    Option String × Document → Option Fault
  | (none, _) => some .malformed
  | (some key, d) =>
    if key ∈ names then if key ∈ earlier then some .mismatch else none
    else match unknown with
      | .skipped => d.skipFault
      | .refused => some .mismatch
      | .kept => d.readFault

/-- The first fault among fields apart from the values of known fields, or the fault of the
ending. -/
def membersFault (names : List String) (unknown : Unknown) (ending : Ending) :
    Nat → List String → List (Option String × Document) → Option Placed
  | place, _, [] =>
    match ending with
    | .closed => none
    | .cut f => some ⟨place, f⟩
    | .keyless read _ => some ⟨place, read⟩
  | place, earlier, m :: rest =>
    match memberFault names unknown earlier m with
    | some f => some ⟨place, f⟩
    | none => membersFault names unknown ending (place + 1) (m.1.toList ++ earlier) rest

/-- A value or a fault, beside a further fault. -/
def settle {α : Type} (result : Except Placed α) : Option Placed → Except Fault α
  | none => result.mapError Placed.fault
  | some p =>
    match result with
    | .ok _ => .error p.fault
    | .error e => .error (e.first p).fault

/-- A record from an object. -/
def ofMembers {α : Type} (unknown : Unknown) (reader : FieldReader α)
    (members : List (Option String × Document)) (ending : Ending) : Except Fault α :=
  settle (reader.run ⟨members, ⟨members.length + 1, .mismatch⟩⟩)
    (membersFault reader.names unknown ending 0 [] members)

/-- A record from a list of its fields. More items than fields are malformed text. -/
def ofItems {α : Type} (reader : FieldReader α) (items : List Document) (cut : Option Fault) :
    Except Fault α :=
  let fields := (reader.names.zip items).map fun (name, d) => (some name, d)
  let count := items.length
  let surplus : Option Placed :=
    if reader.names.length < count then some ⟨reader.names.length, .malformed⟩
    else cut.map fun f => ⟨count, f⟩
  settle (reader.run ⟨fields, ⟨count + 1, .mismatch⟩⟩) surplus

/-- A record that treats unknown fields in a given way. -/
def Decoder.recordWith {α : Type} (unknown : Unknown) (reader : FieldReader α) : Decoder α
  | .record members ending => ofMembers unknown reader members ending
  | .list items cut => ofItems reader items cut
  | .tooDeep _ => .error .malformed
  | d => .error d.wrongKind

/-- A record that passes over unknown fields. -/
def Decoder.record {α : Type} (reader : FieldReader α) : Decoder α :=
  Decoder.recordWith .skipped reader

/-- A record that refuses unknown fields. -/
def Decoder.strictRecord {α : Type} (reader : FieldReader α) : Decoder α :=
  Decoder.recordWith .refused reader

/-- A record with a second record's fields among its own. Fields that are not its own are kept
until its end and then read, so their faults come last. It is read from an object only. -/
def Decoder.flattened {α β : Type} (outer : FieldReader (β → α)) (inner : FieldReader β) : Decoder α
  | .record members ending => do
    let make ← ofMembers .kept outer members ending
    let rest := members.filter fun m => m.1.all (· ∉ outer.names)
    let b ← ofMembers .skipped inner rest .closed
    .ok (make b)
  | .tooDeep _ => .error .malformed
  | d => .error d.wrongKind

/-- A record whose kind is told by a field: `kinds` gives the reader of each kind. The other
fields are kept until the end. -/
def Decoder.tagged {α : Type} (tag : String) (kinds : String → Option (FieldReader α)) : Decoder α
  | .record members ending => do
    let kind : FieldReader (FieldReader α) :=
      .required tag (Decoder.textThat kinds)
    let reader ← ofMembers .kept kind members ending
    ofMembers .skipped reader (members.filter (·.1 != some tag)) .closed
  | .list (first :: rest) cut => do
    let reader ← Decoder.textThat kinds first
    match (Document.readFaultItems rest).or cut with
    | some f => .error f
    | none =>
      match ofItems reader rest none with
      | .ok a => .ok a
      | .error _ => .error .mismatch
  | .list [] cut => .error (cut.getD .mismatch)
  | .tooDeep _ => .error .malformed
  | d => .error d.wrongKind

/-- A number, or the name of one that is not finite. -/
def Decoder.namedDouble : Decoder Double
  | .text (some "NaN") => .ok .namedNaN
  | .text (some "inf") => .ok (.infinity false)
  | .text (some "-inf") => .ok (.infinity true)
  | d => Decoder.double d

/-! ### Values of no particular type -/

mutual

/-- Any value, as it stands. -/
def Decoder.value : Document → Except Fault Json
  | .null => .ok .null
  | .bool b => .ok (.bool b)
  | .number (.int n) => .ok (.int n)
  | .number (.double d) => .ok (.double d)
  | .number .outOfRange => .error .malformed
  | .text (some s) => .ok (.text s)
  | .text none => .error .malformed
  | .list docs cut => do
    let items ← Decoder.values docs
    match cut with
    | none => .ok (.list items)
    | some f => .error f
  | .record docs ending => do
    let members ← Decoder.valueMembers docs
    match ending with
    | .closed => .ok (.record members)
    | .cut f => .error f
    | .keyless read _ => .error read
  | .tooDeep _ => .error .malformed
  | .broken _ read _ => .error read

/-- Any items. -/
def Decoder.values : List Document → Except Fault (List Json)
  | [] => .ok []
  | d :: rest => do
    let v ← Decoder.value d
    let more ← Decoder.values rest
    .ok (v :: more)

/-- Any members. -/
def Decoder.valueMembers : List (Option String × Document) → Except Fault (List (String × Json))
  | [] => .ok []
  | (none, _) :: _ => .error .malformed
  | (some k, d) :: rest => do
    let v ← Decoder.value d
    let more ← Decoder.valueMembers rest
    .ok ((k, v) :: more)

end

/-! ### Whole texts -/

/-- Decodes the first value of a text and leaves the rest unread. -/
def decodeFirst {α : Type} (decoder : Decoder α) (s : String) : Except Fault α :=
  decoder (Document.ofChars s.toList).1

/-- Decodes a text that holds one value and nothing else. -/
def decode {α : Type} (decoder : Decoder α) (s : String) : Except Fault α := do
  let (d, rest) := Document.ofChars s.toList
  let a ← decoder d
  if rest.all isBlank then .ok a else .error .malformed

end TripWatch.Json
