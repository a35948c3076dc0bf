import TripWatch.Number.Shortest

/-!
# JSON values and their text

The values that this library writes. Numbers are integers or finite doubles; an object lists its
members in the order in which they are written.

## Main definitions

* `Json` — a value
* `Json.render` — its compact text
* `Json.ofOption` — absence is written as `null`
-/

namespace TripWatch

/-- A JSON value to be written. -/
inductive Json where
  | null
  | bool (b : Bool)
  | int (n : Int)
  | double (d : Double)
  | text (s : String)
  | list (items : List Json)
  | record (members : List (String × Json))
  deriving Inhabited

namespace Json

/-- A hexadecimal digit in lower case. -/
def hexDigit (n : Nat) : Char := Nat.digitChar n

/-- A character as it stands between the quotes of a JSON string: quotes, backslashes and controls
are escaped and all else is written as it is. -/
def escapeChar (c : Char) : List Char :=
  if c = '"' then ['\\', '"']
  else if c = '\\' then ['\\', '\\']
  else if c = '\n' then ['\\', 'n']
  else if c = '\r' then ['\\', 'r']
  else if c = '\t' then ['\\', 't']
  else if c.toNat = 8 then ['\\', 'b']
  else if c.toNat = 12 then ['\\', 'f']
  else if c.toNat < 32 then ['\\', 'u', '0', '0', hexDigit (c.toNat / 16), hexDigit (c.toNat % 16)]
  else [c]

/-- A text as a JSON string. -/
def quote (s : String) : List Char := '"' :: s.toList.flatMap escapeChar ++ ['"']

/-- The digits of an integer, with a sign if it is negative. -/
def intChars (n : Int) : List Char :=
  if n < 0 then '-' :: Nat.toDigits 10 n.natAbs else Nat.toDigits 10 n.natAbs

mutual

/-- The characters of a value. -/
def chars : Json → List Char
  | null => ['n', 'u', 'l', 'l']
  | bool true => ['t', 'r', 'u', 'e']
  | bool false => ['f', 'a', 'l', 's', 'e']
  | int n => intChars n
  | double d => if d.isFinite then d.jsonChars else ['n', 'u', 'l', 'l']
  | text s => quote s
  | list items => '[' :: itemsChars items
  | record members => '{' :: membersChars members

/-- The characters of list items and the closing bracket. -/
def itemsChars : List Json → List Char
  | [] => [']']
  | [v] => v.chars ++ [']']
  | v :: rest => v.chars ++ ',' :: itemsChars rest

/-- The characters of object members and the closing brace. -/
def membersChars : List (String × Json) → List Char
  | [] => ['\x7d']
  | [(k, v)] => quote k ++ ':' :: v.chars ++ ['\x7d']
  | (k, v) :: rest => quote k ++ ':' :: v.chars ++ ',' :: membersChars rest

end

/-- The compact text of a value. -/
def render (v : Json) : String := String.ofList v.chars

/-- Absence is written as `null`. -/
def ofOption {α : Type} (write : α → Json) : Option α → Json
  | none => null
  | some a => write a

/-- A list, item by item. -/
def ofList {α : Type} (write : α → Json) (items : List α) : Json := list (items.map write)

/-- An optional text. -/
def ofText? (s : Option String) : Json := ofOption text s

/-- A signed word as a number. -/
def ofWord (n : Int64) : Json := int n.toInt

/-- An optional signed word. -/
def ofWord? (n : Option Int64) : Json := ofOption ofWord n

/-- A number, or the name of one that is not finite. -/
def namedDouble (d : Double) : Json := if d.isFinite then double d else text d.namedText

/-- A natural number. -/
def ofNat (n : Nat) : Json := int n

end Json

end TripWatch
