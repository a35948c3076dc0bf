import TripWatch.Proofs.Check.Persistence
import TripWatch.Proofs.Schedule.Interleaving

/-!
# Whose records a cycle carries

A cycle takes the trip and the state that stand under the identifier it was started with, and writes
what it has found under the identifiers that stand in them. As long as these agree it reads and
writes the records of its own trip only. `Cycle.Stage.Owns` says so by stage. It holds at the
beginning, and where the store has the trip and the state of that one identifier in their places
(`Store.OwnAt`), no operation of the cycle and no reply of the planner breaks it. What others write
in the meantime does not either, since every write leaves a store filed.

## Main definitions

* `Cycle.Stage.Owns` — what a cycle carries is of a certain trip
* `Store.SameBut` — the records of all other trips are the same

## Main results

* `tripId_of_conclude` — a check leads to a state of the same trip
* `Cycle.Takes.forall_apply` — what writes leave, operations of a cycle leave
* `Cycle.Stage.Owns.resume`, `Cycle.Stage.Owns.takes` — the invariant, over a reply and over an
  operation
-/

namespace TripWatch

/-- A check leads to a state of the same trip. -/
theorem tripId_of_conclude {limit : Nat} {t : Trip} {state state' : JourneyState} {now : Instant}
    {reply : PlannerReply} {ns : List Notification}
    (h : conclude limit t state now reply = .ok (.checked state' ns)) :
    state'.tripId = state.tripId := by
  rw [conclude_eq] at h
  cases hfinding : Finding.ofReply limit reply with
  | error fault => simp [hfinding, Except.bind] at h
  | ok f =>
    simp only [hfinding, Except.bind] at h
    obtain ⟨-, hvalue⟩ :=
      Calculation.run?_eq_some_iff.mp (Finding.outcome_eq_checked_iff.mp h)
    rw [← Finding.tripId_record t now state f, hvalue]

/-- The records of all trips but one are the same, and riders are. -/
structure Store.SameBut (id : String) (a b : Store) : Prop where
  /-- The same trips, one apart. -/
  trips : ∀ key, key ≠ id → b.trips.get? key = a.trips.get? key
  /-- The same riders. -/
  users : b.users = a.users
  /-- The same journey states, that of one trip apart. -/
  states : ∀ key, key ≠ id → b.states.get? key = a.states.get? key

theorem Store.SameBut.refl (id : String) (store : Store) : SameBut id store store :=
  ⟨fun _ _ => rfl, rfl, fun _ _ => rfl⟩

namespace Cycle

/-- What a cycle carries is of a certain trip. -/
def Stage.Owns (id : String) : Stage → Prop
  | .readUser t | .readState t _ | .writeTrip t .. => t.id = id
  | .ask t _ state _ | .writeState t _ state _ => t.id = id ∧ state.tripId = id
  | .readTrip | .send .. | .finished _ => True

section Owns

variable {s : Setting} {store store' : Store} {stage stage' : Stage} {d : Option Deed} {id : String}

theorem owns_record {t : Trip} {u : User} {o : CheckOutcome} (ht : t.id = id)
    (ho : ∀ state ns, o = .checked state ns → state.tripId = id) : (record t u o).Owns id := by
  cases o with
  | skipped => trivial
  | checked state ns => exact ⟨ht, ho state ns rfl⟩

theorem owns_afterRead {t : Trip} {u : User} {previous : Option JourneyState}
    (ht : t.id = id) (hprevious : ∀ j, previous = some j → j.tripId = id) :
    (afterRead s t u previous).Owns id := by
  have hstate : (previous.getD (.new t.id)).tripId = id := by
    cases previous with
    | none => exact ht
    | some j => exact hprevious j rfl
  unfold afterRead prepare
  cases t.days.next? s.now.date with
  | none => exact ⟨ht, hstate⟩
  | some date => exact ⟨ht, (JourneyState.tripId_rollOver _ date).trans hstate⟩

/-- What the planner replies has no part in whose records they are. -/
theorem Stage.Owns.resume (h : stage.Owns id) (s : Setting) (r : PlannerReply) :
    (resume s r stage).Owns id := by
  cases stage with
  | ask t u state request =>
    simp only [Cycle.resume]
    cases hconclude : conclude s.limit t state s.now.instant r with
    | error fault => trivial
    | ok o =>
      refine owns_record h.1 fun state' ns ho => ?_
      subst ho
      exact (tripId_of_conclude hconclude).trans h.2
  | _ => exact h

/-- What any write leaves, the operations of a cycle leave. -/
theorem Takes.forall_apply {P : Store → Prop}
    (hP : ∀ store, P store → ∀ e : Edit, P (e.apply store))
    (htakes : Takes s store stage d stage' store') (h : P store) : P store' := by
  cases htakes with
  | writeState t u state ns => exact hP store h (.state state)
  | writeTrip t u state ns => exact hP store h (.trip t)
  | fails | skips | readTrip | readUser | readState | send | rests => exact h

/-- **An operation keeps to the records of the trip.** -/
theorem Stage.Owns.takes (h : stage.Owns s.tripId) (hown : store.OwnAt s.tripId)
    (htakes : Takes s store stage d stage' store') :
    stage'.Owns s.tripId ∧ Store.SameBut s.tripId store store' := by
  have hsame := Store.SameBut.refl s.tripId store
  cases htakes with
  | fails | skips | send => exact ⟨trivial, hsame⟩
  | rests => exact ⟨h, hsame⟩
  | readTrip t stored => exact ⟨hown.trips _ _ stored rfl, hsame⟩
  | readUser t u => exact ⟨h, hsame⟩
  | readState t u => exact ⟨owns_afterRead h fun j hj => hown.states _ j hj rfl, hsame⟩
  | writeState t u state ns =>
    refine ⟨?_, ?_⟩
    · rw [afterState_eq]
      cases hback : t.writeBack? state with
      | none => trivial
      | some t' =>
        obtain ⟨i, -, -, rfl⟩ := Trip.writeBack?_eq_some_iff.mp hback
        exact h.1
    · obtain ⟨-, hid⟩ : t.id = s.tripId ∧ state.tripId = s.tripId := h
      exact ⟨fun _ _ => rfl, rfl, fun key hkey => by simp [hid, hkey]⟩
  | writeTrip t u state ns =>
    have hid : t.id = s.tripId := h
    exact ⟨trivial, fun key hkey => by simp [hid, hkey], rfl, fun _ _ => rfl⟩

end Owns

end Cycle

end TripWatch
