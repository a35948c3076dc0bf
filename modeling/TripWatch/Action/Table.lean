import TripWatch.Action.Basic
import TripWatch.Csv.Records
import TripWatch.Number.Literal
import TripWatch.Text.Quoted
import TripWatch.Text.Space

/-!
# Tables of actions

Actions are listed in a table whose first record names the columns, in any order and among others
that are passed over. Names and fields are read without the white space around them.

## Main definitions

* `ActionTable.parse` — the actions of a table, or the fault of its first faulty row
* `ActionTableFault` — what can be wrong
-/

namespace TripWatch

/-- Why there is no table of actions. -/
inductive ActionTableFault where
  /-- The file could not be read. -/
  | unreadable (reason : String)
  /-- A row has not as many fields as there are columns. -/
  | unequalLengths
  /-- A row is no text. -/
  | invalidText
  /-- A column is missing or stands twice, or a coordinate is no number. -/
  | malformedRow
  /-- There is no such interaction. -/
  | unknownInteraction (id interaction : String)
  deriving DecidableEq, Repr

/-- The wording of a fault. -/
def ActionTableFault.message : ActionTableFault → String
  | unreadable reason => "could not read segment actions: " ++ reason
  | unequalLengths | invalidText | malformedRow => "malformed segment action row"
  | unknownInteraction id interaction =>
    "segment action " ++ id ++ " has unknown interaction " ++ Text.quoted interaction

namespace ActionTable

/-- The columns of a table. -/
def columns : List String :=
  ["id", "start_lat", "start_lon", "end_lat", "end_lon", "interaction", "target"]

/-- The text of a field. -/
def fieldText? (bytes : List UInt8) : Option String :=
  (String.fromUTF8? bytes.toByteArray).map fun s => String.ofList (Text.trim s.toList)

/-- The texts of a record. -/
def texts? (record : List (List UInt8)) : Option (List String) := record.mapM fieldText?

/-- The value of the one column with a name. -/
def column? (header row : List String) (name : String) : Option String :=
  match (header.zip row).filter fun cell => cell.1 = name with
  | [(_, value)] => some value
  | _ => none

/-- The values of the columns: by name, or in their order if the header is no text. -/
def values? (header : Option (List String)) (row : List String) : Option (List String) :=
  match header with
  | some header => columns.mapM (column? header row)
  | none => some (row.take columns.length)

/-- The action of a row's values. -/
def ofValues : List String → Except ActionTableFault SegmentAction
  | [id, startLat, startLon, endLat, endLon, interaction, target] =>
    match Double.ofText? startLat, Double.ofText? startLon, Double.ofText? endLat,
        Double.ofText? endLon with
    | some startLat, some startLon, some endLat, some endLon =>
      match Interaction.ofKind? interaction target with
      | some i => .ok ⟨id, ⟨⟨startLat, startLon⟩, ⟨endLat, endLon⟩⟩, i⟩
      | none => .error (.unknownInteraction id interaction)
    | _, _, _, _ => .error .malformedRow
  | _ => .error .malformedRow

/-- The action of a row under a header of a given width. -/
def ofRow (width : Nat) (header : Option (List String)) (row : List (List UInt8)) :
    Except ActionTableFault SegmentAction :=
  if row.length ≠ width then .error .unequalLengths
  else
    match texts? row with
    | none => .error .invalidText
    | some row =>
      match values? header row with
      | none => .error .malformedRow
      | some values => ofValues values

/-- The actions of a table, in the order of its rows. -/
def parse (bytes : List UInt8) : Except ActionTableFault (List SegmentAction) :=
  match Csv.records bytes with
  | [] => .ok []
  | header :: rows => rows.mapM (ofRow header.length (texts? header))

/-- The actions in a file, if it exists. -/
def ofFile : Option (List UInt8) → Except ActionTableFault (List SegmentAction)
  | none => .error (.unreadable "No such file or directory (os error 2)")
  | some bytes => parse bytes

end ActionTable

end TripWatch
