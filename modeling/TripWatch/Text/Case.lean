import TripWatch.Text.CaseTable
import TripWatch.Text.Runs

/-!
# Upper and lower case

Case mapping of whole texts by the Unicode character database. A character may become several, and
a capital sigma is lowered by its place: `ς` at the end of a word and `σ` elsewhere.

## Main definitions

* `Text.lower` — the lower case of a text
* `Text.upperFirst` — a text with its first character raised
-/

namespace TripWatch.Text

/-- The character that a list of runs moves a character to. -/
def mapByRuns (runs : Array CaseRun) (c : Char) : Char :=
  match runs.find? (·.contains c.toNat) with
  | some run => Char.ofNat ((c.toNat : Int) + run.offset).toNat
  | none => c

/-- The characters that a character is mapped to. -/
def mapChar (special : Array (Nat × List Nat)) (runs : Array CaseRun) (c : Char) : List Char :=
  match special.find? (·.1 == c.toNat) with
  | some (_, cs) => cs.map Char.ofNat
  | none => [mapByRuns runs c]

/-- The lower case of a character, apart from its place in a word. -/
def lowerChar (c : Char) : List Char :=
  if c.toNat < 128 then [c.toLower] else mapChar lowerSpecial lowerRuns c

/-- The upper case of a character. -/
def upperChar (c : Char) : List Char :=
  if c.toNat < 128 then [c.toUpper] else mapChar upperSpecial upperRuns c

/-- Whether the first character that is not passed over is a cased letter. -/
def startsCased (cs : List Char) : Bool :=
  match cs.dropWhile (inRuns ignorableRuns) with
  | [] => false
  | c :: _ => inRuns casedRuns c

/-- Lowers a text; `before` holds the characters already passed, the latest first. -/
def lowerAfter (before : List Char) : List Char → List Char
  | [] => []
  | c :: rest =>
    let lowered :=
      if c = 'Σ' then [if startsCased before && !startsCased rest then 'ς' else 'σ']
      else lowerChar c
    lowered ++ lowerAfter (c :: before) rest

/-- The lower case of a text. -/
def lower (s : String) : String := String.ofList (lowerAfter [] s.toList)

/-- A text with its first character in upper case. -/
def upperFirst (s : String) : String :=
  match s.toList with
  | [] => ""
  | c :: rest => String.ofList (upperChar c ++ rest)

end TripWatch.Text
