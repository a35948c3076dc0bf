import TripWatch.Store.Table
import TripWatch.Journey.Codec
import TripWatch.Trip.Codec

/-!
# The store

Trips, riders and journey states by key, and the operations that others may use on them. Each
operation may be out of order, in which case it reports why and changes nothing.

## Main definitions

* `Store` — the three tables; `Store.activeTripIds` lists what has to be checked
* `StoreOperation`, `Outage` — the operations and which of them fail
* `StoreFault` — why an operation failed
* `Store.toJson`, `Store.decoder` — the written form

## Main results

* `Store.get?_trips_putTrip` and its kin — what is read after a write
-/

namespace TripWatch

/-- What is stored. -/
structure Store where
  /-- Trips. -/
  trips : Table Trip
  /-- Riders. -/
  users : Table User
  /-- Journey states, by trip. -/
  states : Table JourneyState
  deriving Inhabited

/-- An operation on the store. -/
inductive StoreOperation where
  | getTrip
  | getUser
  | getJourneyState
  | replaceJourneyState
  | replaceTrip
  | activeTripIds
  | flush
  deriving DecidableEq, Repr

/-- The operation with a name. -/
def StoreOperation.ofName? : String → Option StoreOperation
  | "get_trip" => some getTrip
  | "get_user" => some getUser
  | "get_journey_state" => some getJourneyState
  | "replace_journey_state" => some replaceJourneyState
  | "replace_trip" => some replaceTrip
  | "active_trip_ids" => some activeTripIds
  | "flush" => some flush
  | _ => none

/-- Why an operation on the store failed. -/
inductive StoreFault where
  /-- The file could not be read or written. -/
  | file (reason : String)
  /-- The file does not hold a store. -/
  | content (fault : Json.Fault)
  deriving DecidableEq

/-- The wording of a fault. -/
def StoreFault.message : StoreFault → String
  | file reason => "store file i/o failed: " ++ reason
  | content _ => "store file is not valid json"

/-- Which operations fail, and why. -/
abbrev Outage := StoreOperation → Option StoreFault

/-- No operation fails. -/
def Outage.none : Outage := fun _ => Option.none

namespace Store

/-- The store without content. -/
def empty : Store := ⟨.empty, .empty, .empty⟩

/-- Stores a trip under its identifier. -/
def putTrip (s : Store) (t : Trip) : Store := { s with trips := s.trips.insert t.id t }

/-- Stores a rider under the identifier. -/
def putUser (s : Store) (u : User) : Store := { s with users := s.users.insert u.id u }

/-- Stores a journey state under its trip's identifier. -/
def putState (s : Store) (j : JourneyState) : Store :=
  { s with states := s.states.insert j.tripId j }

@[simp] theorem get?_trips_putTrip (s : Store) (t : Trip) (key : String) :
    (s.putTrip t).trips.get? key = if key = t.id then some t else s.trips.get? key :=
  Table.get?_insert ..

@[simp] theorem users_putTrip (s : Store) (t : Trip) : (s.putTrip t).users = s.users := rfl

@[simp] theorem states_putTrip (s : Store) (t : Trip) : (s.putTrip t).states = s.states := rfl

@[simp] theorem trips_putUser (s : Store) (u : User) : (s.putUser u).trips = s.trips := rfl

@[simp] theorem get?_users_putUser (s : Store) (u : User) (key : String) :
    (s.putUser u).users.get? key = if key = u.id then some u else s.users.get? key :=
  Table.get?_insert ..

@[simp] theorem states_putUser (s : Store) (u : User) : (s.putUser u).states = s.states := rfl

@[simp] theorem trips_putState (s : Store) (j : JourneyState) : (s.putState j).trips = s.trips :=
  rfl

@[simp] theorem users_putState (s : Store) (j : JourneyState) : (s.putState j).users = s.users :=
  rfl

@[simp] theorem get?_states_putState (s : Store) (j : JourneyState) (key : String) :
    (s.putState j).states.get? key = if key = j.tripId then some j else s.states.get? key :=
  Table.get?_insert ..

/-- The identifiers of all active trips, in order. -/
def activeTripIds (s : Store) : List String :=
  ((s.trips.values.filter Trip.isActive).map Trip.id).mergeSort fun a b => !decide (b < a)

/-- Writes a table as an object. -/
def tableToJson {α : Type} (write : α → Json) (t : Table α) : Json :=
  .record (t.entries.map fun (k, a) => (k, write a))

/-- Writes a store. -/
def toJson (s : Store) : Json :=
  .record [("trips", tableToJson Trip.toJson s.trips), ("users", tableToJson User.toJson s.users),
    ("journey_states", tableToJson JourneyState.toJson s.states)]

/-- Reads a table from an object; of several entries with one key the last one counts. -/
def tableDecoder {α : Type} (decoder : Json.Decoder α) : Json.Decoder (Table α) :=
  fun d => (Json.Decoder.map decoder d).map Table.ofList

/-- Reads a store. -/
def decoder : Json.Decoder Store := .record <|
  Store.mk <$> .withDefault "trips" .empty (tableDecoder Trip.decoder) <*>
    .withDefault "users" .empty (tableDecoder User.decoder) <*>
    .withDefault "journey_states" .empty (tableDecoder JourneyState.decoder)

/-- Reads a store from the text of a file. -/
def ofText (text : String) : Except StoreFault Store :=
  (Json.decode decoder text).mapError StoreFault.content

end Store

end TripWatch
