import TripWatch.Number.Literal
import TripWatch.Text.Space
import TripWatch.Text.Word

/-!
# Patterns

Which texts are patterns that the value of a field can be compared with. A pattern is built from
characters, classes in square brackets, anchors, groups in round brackets, alternatives behind `|`
and repetitions by `*`, `+` and `?`:

    (GET|POST) [^?]*[[:digit:]]+$

A text is read one part at a time. Where a part can stand depends on what is open and on the mode,
which flags such as `(?x)` change up to the end of the group that they stand in.

Patterns know the characters of all scripts but none of their properties. So the kinds of character
such as digits and the edges of words exist in patterns of bytes only, and cases are taken as one
in those only. What can match bytes that are no text is not a pattern.

## Main definitions

* `Mode` — how a pattern is read from some place on
* `Reading`, `Reading.step?` — what is open, and the reading of one part
* `isPattern` — whether a text is a pattern
-/

namespace TripWatch.Log

/-- How a pattern is read from some place on. -/
structure Mode where
  /-- Whether the two cases of a letter are taken as one. -/
  caseless : Bool
  /-- Whether the pattern is one of bytes. -/
  bytes : Bool
  /-- Whether white space and remarks do not count. -/
  spaced : Bool

namespace Mode

/-- The mode that patterns begin with. -/
def usual : Mode := ⟨false, false, false⟩

/-- The text behind white space and remarks, or, inside a remark, behind its line. -/
def dropRemarks : Bool → List Char → List Char
  | _, [] => []
  | true, c :: cs => dropRemarks (c != '\n') cs
  | false, c :: cs =>
    if Text.isSpace c then dropRemarks false cs
    else if c = '#' then dropRemarks true cs
    else c :: cs

/-- The text from the next thing on that counts. -/
def skip (m : Mode) (cs : List Char) : List Char := if m.spaced then dropRemarks false cs else cs

/-- Whether characters can be given at all. -/
def takesChars (m : Mode) : Bool := !m.caseless || m.bytes

/-- The flags that there are, and the sign that turns off those behind it. -/
def flags : List Char := ['i', 'm', 's', 'U', 'u', 'R', 'x', '-']

/-- The mode that flags change a mode to. No flag may be given twice, and the sign has to turn off
something. -/
def changed? (m : Mode) (given : List Char) : Option Mode :=
  if given.all (· ∈ flags) && given.eraseDups == given && given.getLast? != some '-' then
    let on := given.takeWhile (· ≠ '-')
    let state (flag : Char) (old : Bool) := decide (flag ∈ on) || (old && decide (flag ∉ given))
    some ⟨state 'i' m.caseless, !state 'u' (!m.bytes), state 'x' m.spaced⟩
  else none

end Mode

/-! ### Characters -/

/-- What a character or an escape stands for. -/
inductive Sign where
  /-- A character. -/
  | char (c : Char)
  /-- A kind of character. -/
  | kind
  /-- A place between characters. -/
  | edge

/-- The characters that have a letter of their own behind a backslash. -/
def controls : List (Char × Char) :=
  [('a', '\x07'), ('f', '\x0c'), ('n', '\n'), ('r', '\r'), ('t', '\t'), ('v', '\x0b')]

/-- A character by the hexadecimal digits of its number, of which some are still to come. -/
def coded? (m : Mode) (number : Nat) : Nat → List Char → Option (Char × List Char)
  | 0, cs => if number.isValidChar then some (Char.ofNat number, cs) else none
  | n + 1, cs =>
    match m.skip cs with
    | [] => none
    | c :: rest => (hexValue? c).bind fun d => coded? m (number * 16 + d) n rest

/-- Reads an escape from behind its backslash. Of the letters only those with a meaning can be
escaped. -/
def escape? (m : Mode) : List Char → Option (Sign × List Char)
  | [] => none
  | c :: rest =>
    let char (p : Char × List Char) := if m.takesChars then some (Sign.char p.1, p.2) else none
    match c with
    | 'x' => (coded? m 0 2 rest).bind fun p => if m.bytes && 128 ≤ p.1.toNat then none else char p
    | 'u' => (coded? m 0 4 rest).bind char
    | 'U' => (coded? m 0 8 rest).bind char
    | 'A' | 'z' => some (.edge, rest)
    | 'b' | 'B' | '<' | '>' => if m.bytes then some (.edge, rest) else none
    | 'd' | 's' | 'w' => if m.bytes then some (.kind, rest) else none
    | c =>
      match controls.lookup c with
      | some control => char (control, rest)
      | none => if c.toNat < 128 && !c.isAlphanum then char (c, rest) else none

/-! ### Classes -/

/-- The classes that have a name. -/
def classNames : List String :=
  ["alnum", "alpha", "ascii", "blank", "cntrl", "digit", "graph", "lower", "print", "punct",
    "space", "upper", "word", "xdigit"]

/-- Reads a class by its name, from behind the opening bracket: whether it is turned round, and
what follows. -/
def namedClass? : List Char → Option (Bool × List Char)
  | ':' :: cs =>
    match (cs.dropWhile (· = '^')).span (· ≠ ':') with
    | (name, ':' :: ']' :: rest) =>
      let marks := cs.takeWhile (· = '^')
      if String.ofList name ∈ classNames && marks.length ≤ 1 then some (marks != [], rest) else none
    | _ => none
  | _ => none

/-- Reads a member of a class. In a pattern of bytes it has to be a byte that is a character. -/
def member? (m : Mode) (cs : List Char) : Option (Sign × List Char) :=
  let member := match cs with
    | [] => none
    | '\\' :: rest => escape? m rest
    | c :: rest => if m.takesChars then some (.char c, rest) else none
  member.filter fun p => match p.1 with
    | .char c => !m.bytes || c.toNat < 128
    | .kind => true
    | .edge => false

/-- The text behind a member of a class, or behind a range of members. A hyphen makes no range in
front of the closing bracket or of another hyphen. -/
def behindMembers? (m : Mode) (cs : List Char) : Option (List Char) := do
  let (first, rest) ← member? m cs
  match m.skip rest with
  | '-' :: behind =>
    match m.skip behind with
    | [] => none
    | ']' :: _ => return '-' :: behind
    | '-' :: _ => return '-' :: behind
    | behind =>
      match first, ← member? m behind with
      | .char low, (.char high, rest) => if low ≤ high then return rest else none
      | _, _ => none
  | rest => return rest

/-! ### Reading -/

/-- What has been read of the innermost class. -/
inductive Lead where
  /-- Nothing. -/
  | nothing
  /-- Hyphens. -/
  | hyphens
  /-- More than that. -/
  | members
  deriving DecidableEq

/-- Where a pattern is read. -/
inductive Place where
  /-- Outside all classes, behind something that can be repeated or not. -/
  | outside (repeatable : Bool)
  /-- In a class that stands in some others. -/
  | inside (outer : Nat) (lead : Lead)

/-- What is known of a pattern when its beginning has been read. -/
structure Reading where
  /-- The mode. -/
  mode : Mode
  /-- The modes around the open groups, from the innermost group on. -/
  groups : List Mode
  /-- The names of groups. -/
  names : List String
  /-- The place. -/
  place : Place

namespace Reading

/-- The reading of a pattern at its beginning. -/
def start : Reading := ⟨.usual, [], [], .outside false⟩

/-- The same reading at another place. -/
def moved (r : Reading) (place : Place) : Reading := { r with place }

/-- The reading inside a group that opens here. -/
def opened (r : Reading) (inner : Mode) : Reading :=
  { r with mode := inner, groups := r.mode :: r.groups, place := .outside false }

/-- Whether the pattern can end here. -/
def mayEnd (r : Reading) : Bool :=
  match r.place with
  | .outside _ => r.groups.isEmpty
  | .inside _ _ => false

/-- Whether a text can name a group: it begins with a letter or a low line, and no two groups have
one name. -/
def canName (r : Reading) (name : List Char) : Bool :=
  match name with
  | [] => false
  | c :: cs =>
    (c == '_' || (Text.isWord c && !c.isDigit)) &&
      cs.all (fun c => decide (c ∈ ['_', '.', '[', ']']) || Text.isWord c) &&
      decide (String.ofList name ∉ r.names)

/-- Reads a named group from behind the opening of its name. -/
def namedGroup? (r : Reading) (cs : List Char) : Option (Reading × List Char) :=
  match cs.span (· ≠ '>') with
  | (name, _ :: rest) =>
    if r.canName name then
      some ({ r with names := String.ofList name :: r.names }.opened r.mode, rest)
    else none
  | _ => none

/-- Reads what stands behind an opening round bracket: a group's name, its flags or nothing, or
flags that hold from here on. -/
def group? (r : Reading) (cs : List Char) : Option (Reading × List Char) :=
  match r.mode.skip cs with
  | '?' :: 'P' :: '<' :: rest => r.namedGroup? rest
  | '?' :: '<' :: rest => r.namedGroup? rest
  | '?' :: rest =>
    match rest.span fun c => c ≠ ':' ∧ c ≠ ')' with
    | (flags, ':' :: rest) => (r.mode.changed? flags).map fun m => (r.opened m, rest)
    | ([], _) => none
    | (flags, _ :: rest) =>
      (r.mode.changed? flags).map fun m => ({ r with mode := m }.moved (.outside false), rest)
    | _ => none
  | rest => some (r.opened r.mode, rest)

/-- Reads what stands behind an opening square bracket of a class in some others. -/
def class? (r : Reading) (outer : Nat) (cs : List Char) : Option (Reading × List Char) :=
  let inside := r.moved (.inside outer .nothing)
  match r.mode.skip cs with
  | '^' :: rest => if r.mode.bytes then none else some (inside, rest)
  | rest => some (inside, rest)

/-- Reads a part outside classes, which begins with a character. -/
def outside? (r : Reading) (repeatable : Bool) (c : Char) (rest : List Char) :
    Option (Reading × List Char) :=
  let whole := r.moved (.outside true)
  match c with
  | '(' => r.group? rest
  | ')' =>
    match r.groups with
    | [] => none
    | m :: groups => some ({ whole with mode := m, groups }, rest)
  | '|' => some (r.moved (.outside false), rest)
  | '[' => r.class? 0 rest
  | '\x7b' => none
  | '.' => if r.mode.bytes then none else some (whole, rest)
  | '^' => some (whole, rest)
  | '$' => some (whole, rest)
  | '\\' => (escape? r.mode rest).map fun p => (whole, p.2)
  | c =>
    if c ∈ ['*', '+', '?'] then
      if !repeatable then none
      else match rest with
      | '?' :: rest => some (whole, rest)
      | rest => some (whole, rest)
    else if r.mode.takesChars then some (whole, rest) else none

/-- Reads a part of a class in some others, which begins with a character. -/
def inside? (r : Reading) (outer : Nat) (lead : Lead) (c : Char) (rest : List Char) :
    Option (Reading × List Char) :=
  let on := r.moved (.inside outer .members)
  let members := (behindMembers? r.mode (c :: rest)).map fun rest => (on, rest)
  if c = '-' ∧ lead ≠ .members then
    if r.mode.takesChars then some (r.moved (.inside outer .hyphens), rest) else none
  else if c = ']' ∧ lead = .nothing then
    if r.mode.takesChars then some (on, rest) else none
  else match c, rest with
  | ']', rest =>
    match outer with
    | 0 => some (r.moved (.outside true), rest)
    | outer + 1 => some (r.moved (.inside outer .members), rest)
  | '[', rest =>
    match namedClass? rest with
    | some (turned, rest) =>
      if r.mode.takesChars && !(turned && r.mode.bytes) then some (on, rest) else none
    | none => r.class? (outer + 1) rest
  | '&', '&' :: rest => some (on, rest)
  | '-', '-' :: rest => some (on, rest)
  | '~', '~' :: rest => some (on, rest)
  | _, _ => members

/-- Reads a part, which begins with a character. -/
def step? (r : Reading) (c : Char) (rest : List Char) : Option (Reading × List Char) :=
  match r.place with
  | .outside repeatable => r.outside? repeatable c rest
  | .inside outer lead => r.inside? outer lead c rest

/-- Whether a text goes on to the end of a pattern, within a number of parts. -/
def completes : Nat → Reading → List Char → Bool
  | n, r, cs =>
    match r.mode.skip cs, n with
    | [], _ => r.mayEnd
    | _, 0 => false
    | c :: rest, n + 1 => (r.step? c rest).any fun p => completes n p.1 p.2

end Reading

/-- Whether a text is a pattern. Each part has a character at least, so that the text's length is
as many parts as there can be. -/
def isPattern (cs : List Char) : Bool := Reading.completes cs.length .start cs

end TripWatch.Log
