import TripWatch.Log.Event
import TripWatch.Log.Pattern
import TripWatch.Text.Space
import TripWatch.Text.Word

/-!
# Filters of the log

Which events are shown. A filter is written as directives between commas, each a limit of detail, a
target, or a target and its limit:

    info,trip_monitor::monitor=debug,hyper

A directive holds for all targets that its target begins. Of the directives that concern an event
the most particular one decides, and of two equally particular ones the later; where none does, the
event is not shown.

## Main definitions

* `Limit` — the most detailed reports that are shown
* `Directive`, `Directive.ofItem?` — what is said of some targets, and its reading
* `Filter`, `Filter.ofText?`, `Filter.shows` — all directives, their reading and what they show
* `Filter.configured` — the filter that a program is started with
-/

namespace TripWatch.Log

/-- The most detailed severity that is shown; nothing is, where there is none. -/
abbrev Limit := Option Severity

namespace Limit

/-- The names of limits, each in the place of its number. -/
def names : List (String × Limit) :=
  ("off", none) :: Severity.all.map fun s => (s.name, some s)

/-- Reads a limit: its number, or its name in upper or lower case. -/
def ofText? (cs : List Char) : Option Limit :=
  match natOfText? cs with
  | some n => names[n]?.map Prod.snd
  | none => (names.find? fun l => l.1.toList = cs.map Char.toLower).map Prod.snd

/-- Whether a limit lets a severity through. -/
def allows (limit : Limit) (s : Severity) : Bool := limit.any fun l => decide (s.detail ≤ l.detail)

end Limit

/-- A limit for the events of some targets. -/
structure Directive where
  /-- What the targets begin with; all targets if there is none. -/
  target : Option String
  /-- A field that the events have to have. -/
  field : Option String
  /-- The limit. -/
  limit : Limit
  deriving DecidableEq, Repr

namespace Directive

/-- Whether a directive is about an event. -/
def concerns (d : Directive) (e : Event) : Bool :=
  d.target.all (fun t => t.toList.isPrefixOf e.target.toList) &&
    d.field.all fun name => decide (name ∈ e.fieldNames)

/-- How particular a directive is: a longer target counts most, then having a field at all. -/
def weight (d : Directive) : Nat :=
  2 * d.target.elim 0 (fun t => t.utf8ByteSize + 1) + if d.field.isSome then 1 else 0

/-- Whether a directive is at least as particular as another. Of two fields the name that is later
in order is the more particular. -/
def overrides (d other : Directive) : Bool :=
  decide (other.weight < d.weight) ||
    (d.weight == other.weight && decide (other.field.getD "" ≤ d.field.getD ""))

/-- Whether a target may begin with a character. -/
def startsTarget (c : Char) : Bool := c == '-' || c == ':' || c == '_' || Text.isWord c

/-- The limit behind an equals sign, which is the widest one if nothing stands there. A directive
that is indented cannot have one. -/
def assigned? (indent : Nat) (cs : List Char) : Option Limit :=
  if indent ≠ 0 then none else if cs = [] then some (some .trace) else Limit.ofText? cs

/-- What stands in brackets. -/
inductive Scope where
  /-- Events with a field. -/
  | field (name : String)
  /-- Something inside which events happen, or a field's value; no event is reported so. -/
  | span

/-- Whether a field can be asked for: its value, where one is given behind an equals sign and
before another, is a number or a pattern. -/
def canAsk (field : List Char) : Bool :=
  match field.dropWhile (· ≠ '=') with
  | [] => true
  | _ :: rest =>
    let value := rest.takeWhile (· ≠ '=')
    (Double.ofText? (String.ofList value)).isSome || isPattern value

/-- Reads what stands in brackets, from behind the opening one. A field is counted off without the
indentation, but in the item with it. -/
def scope? (item : List Char) (indent : Nat) (cs : List Char) : Option (Scope × List Char) :=
  match cs.span fun c => c ≠ ']' ∧ c ≠ '\x7b' with
  | (_, ']' :: rest) => some (.span, rest)
  | (span, '\x7b' :: rest) =>
    match rest.span fun c => c ≠ '\x7d' with
    | ([], _) => none
    | (within, _ :: ']' :: after) =>
      let field := (item.drop (item.length - rest.length - indent)).take within.length
      if !canAsk field then none
      else if span = [] ∧ '=' ∉ field then some (.field (String.ofList field), after)
      else some (.span, after)
    | _ => none
  | _ => none

/-- Reads a directive with brackets, from behind the opening one. -/
def scoped? (item : List Char) (indent : Nat) (target : Option String) (cs : List Char) :
    Option (List Directive) := do
  let (scope, rest) ← scope? item indent cs
  let limit ← match rest with
    | '=' :: level => assigned? indent level
    | rest => if rest.all Text.isSpace then some (some .trace) else none
  match scope with
  | .field name => return if indent ≠ 0 then [] else [⟨target, some name, limit⟩]
  | .span => return []

/-- Reads a directive: those for events that it stands for, which is none if it is about something
else. White space counts as part of a target or a limit. -/
def ofItem? (item : List Char) : Option (List Directive) :=
  let body := Text.trimLeft item
  let indent := item.length - body.length
  match body.span fun c => c ≠ '=' ∧ c ≠ '[' with
  | ([], '[' :: rest) => scoped? item indent none rest
  | ([], _) => none
  | (c :: cs, rest) =>
    if !startsTarget c then none
    else match rest with
    | [] =>
      match Limit.ofText? item with
      | some limit => some [⟨none, none, limit⟩]
      | none => some [⟨some (String.ofList item), none, some .trace⟩]
    | '[' :: rest => scoped? item indent (some (String.ofList (c :: cs))) rest
    | _ :: level =>
      (assigned? indent level).map fun limit => [⟨some (String.ofList (c :: cs)), none, limit⟩]

end Directive

/-- Directives in the order in which they are given. -/
structure Filter where
  /-- The directives. -/
  directives : List Directive

namespace Filter

/-- Reads a filter. One directive that cannot be read spoils all of it. -/
def ofText? (s : String) : Option Filter :=
  let items := (s.toList.splitOn ',').filter (· ≠ [])
  (items.mapM Directive.ofItem?).map fun ds => ⟨ds.flatten⟩

/-- The filter with one limit for all. -/
def upTo (s : Severity) : Filter := ⟨[⟨none, none, some s⟩]⟩

/-- The directive that decides about an event. -/
def decisive? (f : Filter) (e : Event) : Option Directive :=
  f.directives.foldl
    (fun best d => if d.concerns e && best.all d.overrides then some d else best) none

/-- Whether an event is shown. -/
def shows (f : Filter) (e : Event) : Bool :=
  (f.decisive? e).any fun d => d.limit.allows e.severity

/-- The variable of the environment that holds the filter. -/
def variableName : String := "RUST_LOG"

/-- The filter given in the environment, or else one with a usual limit, and the complaint if what
is given cannot be read. -/
def configured (usual : Severity) (given : Option String) : Filter × List String :=
  match given with
  | none => (upTo usual, [])
  | some text =>
    match ofText? text with
    | some f => (f, [])
    | none =>
      (upTo usual,
        ["invalid " ++ variableName ++ ", falling back to level '" ++ usual.name ++ "'"])

end Filter

end TripWatch.Log
