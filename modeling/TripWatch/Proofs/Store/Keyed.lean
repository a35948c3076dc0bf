import TripWatch.Store.Basic

/-!
# Stores that are keyed by identifiers

The operations of a store write each record under its own identifier, but a file may hold records
under any key. `Store.FiledFor` says of the records that are meant that they are where their
identifiers say, and whatever is written into such a store leaves it so, since it is written where
it belongs. What is meant differs: all records, trips and states, what is listed, or what stands
under a certain key.

## Main definitions

* `Edit` — a record that is written
* `Store.Same` — stores that hold the same under each key
* `Store.FiledFor` — the records that are meant stand under their own identifiers
* `Store.Keyed`, `Store.Filed`, `Store.TripsFiled`, `Store.ActiveFiled`, `Store.OwnAt` — what may be
  meant

## Main results

* `Store.FiledFor.mono` — what is filed for more is filed for less
* `Store.FiledFor.putTrip`, `Store.FiledFor.putUser`, `Store.FiledFor.putState`,
  `Store.FiledFor.apply` — writes keep it
-/

namespace TripWatch

/-- What holds of every entry of a table and of a new one holds of every entry afterwards. -/
theorem Table.forall_get?_insert {α : Type} {P : String → α → Prop} {t : Table α}
    (h : ∀ key a, t.get? key = some a → P key a) {key : String} {a : α} (ha : P key a) :
    ∀ key' a', (t.insert key a).get? key' = some a' → P key' a' := by
  intro key' a' ha'
  rw [get?_insert] at ha'
  split at ha'
  · rename_i heq
    cases ha'
    exact heq ▸ ha
  · exact h key' a' ha'

/-- What others may write. -/
inductive Edit where
  /-- A trip, new or in place of another version. -/
  | trip (t : Trip)
  /-- A rider. -/
  | user (u : User)
  /-- A journey state. -/
  | state (j : JourneyState)

/-- The store after an edit. -/
def Edit.apply (store : Store) : Edit → Store
  | .trip t => store.putTrip t
  | .user u => store.putUser u
  | .state j => store.putState j

namespace Store

/-- Two stores hold the same under each key. -/
structure Same (a b : Store) : Prop where
  /-- The same trips. -/
  trips : ∀ key, a.trips.get? key = b.trips.get? key
  /-- The same riders. -/
  users : ∀ key, a.users.get? key = b.users.get? key
  /-- The same journey states. -/
  states : ∀ key, a.states.get? key = b.states.get? key

/-- The records that are meant, each by its key and what it is, stand under their own
identifiers. -/
structure FiledFor (trip : String → Trip → Prop) (user : String → User → Prop)
    (state : String → JourneyState → Prop) (s : Store) : Prop where
  /-- A trip stands under its identifier. -/
  trips : ∀ key t, s.trips.get? key = some t → trip key t → t.id = key
  /-- A rider stands under the identifier. -/
  users : ∀ key u, s.users.get? key = some u → user key u → u.id = key
  /-- A state stands under its trip's identifier. -/
  states : ∀ key j, s.states.get? key = some j → state key j → j.tripId = key

/-- Each record stands under its own identifier. -/
abbrev Keyed (s : Store) : Prop :=
  s.FiledFor (fun _ _ => True) (fun _ _ => True) (fun _ _ => True)

/-- Trips and states stand under their own identifiers. Riders do not matter here. -/
abbrev Filed (s : Store) : Prop :=
  s.FiledFor (fun _ _ => True) (fun _ _ => False) (fun _ _ => True)

/-- Trips stand under their own identifiers. Riders and states do not matter here. -/
abbrev TripsFiled (s : Store) : Prop :=
  s.FiledFor (fun _ _ => True) (fun _ _ => False) (fun _ _ => False)

/-- Each active trip, and each state, stands under its own identifier. -/
abbrev ActiveFiled (s : Store) : Prop :=
  s.FiledFor (fun _ t => t.isActive = true) (fun _ _ => False) (fun _ _ => True)

/-- The trip and the state that stand under an identifier are its own. -/
abbrev OwnAt (s : Store) (id : String) : Prop :=
  s.FiledFor (fun key _ => key = id) (fun _ _ => False) (fun key _ => key = id)

section FiledFor

variable {trip trip' : String → Trip → Prop} {user user' : String → User → Prop}
  {state state' : String → JourneyState → Prop} {s : Store}

theorem filedFor_empty : empty.FiledFor trip user state := by
  constructor <;> intro key a h <;> cases h

theorem FiledFor.mono (h : s.FiledFor trip user state) (htrip : ∀ key t, trip' key t → trip key t)
    (huser : ∀ key u, user' key u → user key u) (hstate : ∀ key j, state' key j → state key j) :
    s.FiledFor trip' user' state' where
  trips key t ht hmeant := h.trips key t ht (htrip key t hmeant)
  users key u hu hmeant := h.users key u hu (huser key u hmeant)
  states key j hj hmeant := h.states key j hj (hstate key j hmeant)

theorem FiledFor.putTrip (h : s.FiledFor trip user state) (t : Trip) :
    (s.putTrip t).FiledFor trip user state :=
  { h with trips := Table.forall_get?_insert h.trips fun _ => rfl }

theorem FiledFor.putUser (h : s.FiledFor trip user state) (u : User) :
    (s.putUser u).FiledFor trip user state :=
  { h with users := Table.forall_get?_insert h.users fun _ => rfl }

theorem FiledFor.putState (h : s.FiledFor trip user state) (j : JourneyState) :
    (s.putState j).FiledFor trip user state :=
  { h with states := Table.forall_get?_insert h.states fun _ => rfl }

/-- **A write leaves everything in its place.** -/
theorem FiledFor.apply (h : s.FiledFor trip user state) (e : Edit) :
    (e.apply s).FiledFor trip user state := by
  cases e with
  | trip t => exact h.putTrip t
  | user u => exact h.putUser u
  | state j => exact h.putState j

end FiledFor

variable {s : Store}

theorem Keyed.filed (h : s.Keyed) : s.Filed :=
  h.mono (fun _ _ => id) (fun _ _ => False.elim) fun _ _ => id

theorem Filed.ownAt (h : s.Filed) (id : String) : s.OwnAt id :=
  h.mono (fun _ _ _ => trivial) (fun _ _ => False.elim) fun _ _ _ => trivial

end Store

end TripWatch
