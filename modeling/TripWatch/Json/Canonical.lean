import TripWatch.Json.Value

/-!
# Canonical JSON

Values whose members stand in the order of their names, so that equal values have equal texts, and
lists in the order of their items' canonical texts.

## Main definitions

* `Json.canonical` — a value with all members in order
* `Json.sorted` — a list in the order of the canonical texts of its items
-/

namespace TripWatch.Json

mutual

/-- A value with its members in the order of their names. -/
def canonical : Json → Json
  | list items => list (canonicalItems items)
  | record members => record ((canonicalMembers members).mergeSort fun a b => !decide (b.1 < a.1))
  | v => v

/-- Items with their members in order. -/
def canonicalItems : List Json → List Json
  | [] => []
  | v :: rest => canonical v :: canonicalItems rest

/-- Members whose values have their members in order. -/
def canonicalMembers : List (String × Json) → List (String × Json)
  | [] => []
  | (k, v) :: rest => (k, canonical v) :: canonicalMembers rest

end

/-- Items in the order of their canonical texts. -/
def sorted (items : List Json) : Json :=
  list (((items.map fun v => (v.canonical.render, v)).mergeSort
    fun a b => !decide (b.1 < a.1)).map Prod.snd)

/-- Texts in order. -/
def sortedTexts (texts : List String) : Json :=
  ofList text (texts.mergeSort fun a b => !decide (b < a))

end TripWatch.Json
