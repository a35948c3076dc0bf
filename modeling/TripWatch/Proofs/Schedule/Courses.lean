import TripWatch.Proofs.Journey.Coherence
import TripWatch.Proofs.Schedule.SingleFlight

/-!
# The states that a schedule stores

A course of visits hands on by itself what is remembered of a trip. In a schedule this goes through
the store, while other checks are under way, riders edit their trips and operations fail. It comes
to the same: since a trip's checks come one after the other and read what was written last, each
write of a state is a visit more, and what is true of every course is true of every state that a
schedule has stored.

## Main results

* `Schedule.exists_visits` — a stored state is what is remembered after some course
* `Schedule.coherent_of_stored` — it is coherent
-/

namespace TripWatch

theorem InTurn.of_concat {deeds : List Deed} {d : Deed} (h : InTurn (deeds ++ [d])) :
    InTurn deeds where
  head e he := h.head e (List.mem_head?_append_of_mem_head? he)
  chain := (List.isChain_append.mp h.chain).1

theorem ReadsLatest.of_concat {initial : Option JourneyState} {deeds : List Deed} {d : Deed}
    (h : ReadsLatest initial (deeds ++ [d])) : ReadsLatest initial deeds := by
  intro before previous after heq
  exact h before previous (after ++ [d]) (by simp [heq])

/-- Deeds in turn that read what was written last are those of a course. -/
theorem exists_visits_of_deeds {deeds : List Deed} (hturn : InTurn deeds)
    (hreads : ReadsLatest none deeds) :
    ∃ visits, (remembered visits).map Prod.fst = latest none deeds := by
  induction deeds using List.reverseRecOn with
  | nil => exact ⟨[], rfl⟩
  | append_singleton deeds d ih =>
    obtain ⟨visits, hvisits⟩ := ih hturn.of_concat hreads.of_concat
    rw [latest_concat]
    cases d with
    | began | read | ended => exact ⟨visits, hvisits⟩
    | wrote state =>
      obtain ⟨before, previous, t, rfl, limit, planner, now, ns, hcheck⟩ := hturn.read_before
      have hprevious : previous = (remembered visits).map Prod.fst := by
        rw [hvisits, latest_concat]
        exact hreads before previous [.wrote state] (by simp)
      subst hprevious
      refine ⟨visits ++ [⟨t, now, limit, planner⟩], ?_⟩
      rw [remembered_concat, Visit.leave, Visit.check, hcheck]
      rfl

namespace Schedule

variable {store : Store} {id : String}

/-- **A state that a schedule stores is what is remembered after some course**, if the trip was
never checked before. -/
theorem exists_visits (hfiled : store.Filed) (hnew : store.states.get? id = none) (limit : Nat)
    (events : List Event) :
    ∃ visits, (remembered visits).map Prod.fst =
      ((start store limit).handleAll events).store.states.get? id := by
  have hfiles := files_handleAll hfiled limit events
  have hreads := hfiles.reads id
  rw [hfiles.states id, hnew]
  rw [hnew] at hreads
  exact exists_visits_of_deeds ((sound_handleAll store limit events).inTurn id) hreads

/-- **A state that a schedule stores is coherent.** -/
theorem coherent_of_stored (hfiled : store.Filed) (hnew : store.states.get? id = none)
    (limit : Nat) (events : List Event) {state : JourneyState}
    (h : ((start store limit).handleAll events).store.states.get? id = some state) :
    state.Coherent := by
  obtain ⟨visits, hvisits⟩ := exists_visits hfiled hnew limit events
  rw [h, ← stateAfter_none] at hvisits
  exact coherent_stateAfter (by simp) visits state hvisits

end Schedule

end TripWatch
