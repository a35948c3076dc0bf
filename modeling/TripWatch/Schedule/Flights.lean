/-!
# Single flight

The set of keys for which something is under way. A key is acquired by one holder at a time.

## Main definitions

* `Flights.acquire?`, `Flights.release`, `Flights.isInFlight` — taking a key, and giving it back
-/

namespace TripWatch

/-- The keys for which something is under way. -/
structure Flights where
  /-- The keys. -/
  keys : List String
  /-- No key stands twice. -/
  nodup : keys.Nodup

namespace Flights

/-- Nothing is under way. -/
def none : Flights := ⟨[], by simp⟩

instance : Inhabited Flights := ⟨none⟩

/-- Whether something is under way for a key. -/
def isInFlight (f : Flights) (key : String) : Bool := decide (key ∈ f.keys)

/-- Acquires a key unless it is held. -/
def acquire? (f : Flights) (key : String) : Option Flights :=
  if h : key ∈ f.keys then Option.none else some ⟨key :: f.keys, List.nodup_cons.2 ⟨h, f.nodup⟩⟩

/-- Releases a key. -/
def release (f : Flights) (key : String) : Flights where
  keys := f.keys.filter fun k => k != key
  nodup := f.nodup.sublist List.filter_sublist

theorem isInFlight_release (f : Flights) (key other : String) :
    (f.release key).isInFlight other = (other != key && f.isInFlight other) := by
  by_cases h : other = key <;> simp [isInFlight, release, h]

theorem acquire?_eq_none_iff (f : Flights) (key : String) :
    f.acquire? key = Option.none ↔ f.isInFlight key = true := by
  by_cases h : key ∈ f.keys <;> simp [acquire?, isInFlight, h]

end Flights

end TripWatch
