import Mathlib.Logic.Function.Iterate
import TripWatch.Proofs.Check.Persistence

/-!
# Cycles on a store that may fail

Any operation on the store may fail, and the first failure ends a cycle. A cycle that ends with a
fault would best have left nothing behind: then the next one starts from the same state, and tells
what this one could not. All faults but one are of this kind. The state is written before the trip
is, so when the trip cannot be written the state stands already, and what the check had to tell is
lost: `Strands`.

## The invariant

A cycle finds out step by step what `Due`, `Owned` and `Found` say of the store it began on, and
writes nothing before it has found a state. `Follows` says so by stage. Which operations fail is
arbitrary but fixed, since a cycle uses each operation once at most.

## Main definitions

* `Cycle.Strands` — a cycle that writes a state and then cannot write its trip
* `Cycle.Follows` — what a cycle alone on its store knows, by stage

## Main results

* `Cycle.Follows.step`, `Cycle.Follows.resume`, `Cycle.follows_run` — the invariant, over a step and
  over a cycle
* `Cycle.store_of_fault` — the store after a fault
* `Cycle.states_eq_iff_of_fault` — the headline: when a fault leaves all states as they were
-/

namespace TripWatch

namespace Cycle

/-- A cycle finds its trip, and the trip is due. -/
structure Due (s : Setting) (store : Store) (t : Trip) : Prop where
  /-- Trips can be read. -/
  getTrip : s.outage .getTrip = none
  /-- The trip is stored. -/
  trip : store.trips.get? s.tripId = some t
  /-- It is due. -/
  due : shouldSkip t s.now = false

/-- A cycle finds its trip and the trip's rider. -/
structure Owned (s : Setting) (store : Store) (t : Trip) (u : User) : Prop extends
    Due s store t where
  /-- Riders can be read. -/
  getUser : s.outage .getUser = none
  /-- The rider is stored. -/
  user : store.users.get? t.userId = some u

/-- A cycle finds a state that its check is completed with. -/
structure Found (s : Setting) (planner : PlanRequest → PlannerReply) (store : Store) (t : Trip)
    (u : User) (state : JourneyState) (ns : List Notification) : Prop extends
    Owned s store t u where
  /-- States can be read. -/
  getJourneyState : s.outage .getJourneyState = none
  /-- The check is completed. -/
  check : check s.limit planner t (store.states.get? s.tripId) s.now = .ok (.checked state ns)

/-- A cycle writes a state, and then the trip has to be written and cannot be. -/
structure Strands (s : Setting) (planner : PlanRequest → PlannerReply) (store : Store)
    (state : JourneyState) : Prop where
  /-- States can be written. -/
  replaceJourneyState : s.outage .replaceJourneyState = none
  /-- Trips cannot. -/
  replaceTrip : s.outage .replaceTrip ≠ none
  /-- The check of the stored trip is completed with another itinerary than the trip has. -/
  found : ∃ t u ns, Found s planner store t u state ns ∧ t.writeBack? state ≠ none

variable {s : Setting} {planner : PlanRequest → PlannerReply} {before : Store} {t : Trip} {u : User}
  {m : Moment}

/-- What a cycle alone on its store knows of the store it began on, by its stage. -/
def Follows (s : Setting) (planner : PlanRequest → PlannerReply) (before : Store) (m : Moment) :
    Prop :=
  match m.stage with
  | .readTrip => m.store = before
  | .readUser t => m.store = before ∧ Due s before t
  | .readState t u => m.store = before ∧ Owned s before t u
  | .ask t u state request => m.store = before ∧ Owned s before t u ∧
      s.outage .getJourneyState = none ∧
      prepare t (before.states.get? s.tripId) s.now = .asking state request
  | .writeState t u state ns => m.store = before ∧ Found s planner before t u state ns
  | .writeTrip t' u state ns => m.store = before.putState state ∧
      s.outage .replaceJourneyState = none ∧
      ∃ t, Found s planner before t u state ns ∧ t.writeBack? state = some t'
  | .send .. => True
  | .finished (.ok _) => True
  | .finished (.error _) => m.store = before ∧ (∀ state, ¬ Strands s planner before state) ∨
      ∃ state, m.store = before.putState state ∧ Strands s planner before state

/-! ### A step -/

/-- A fault before anything was written leaves the store as it was. -/
theorem follows_fail {fault : CheckFault} {sent : List Message}
    (h : ∀ state t u ns, ¬ Found s planner before t u state ns) :
    Follows s planner before ⟨fail fault, before, sent⟩ :=
  .inl ⟨rfl, fun state ⟨_, _, t, u, ns, hfound, _⟩ => h state t u ns hfound⟩

theorem follows_record {sent : List Message} (howned : Owned s before t u)
    (hread : s.outage .getJourneyState = none) {o : CheckOutcome}
    (hcheck : check s.limit planner t (before.states.get? s.tripId) s.now = .ok o) :
    Follows s planner before ⟨record t u o, before, sent⟩ := by
  cases o with
  | skipped => trivial
  | checked state ns => exact ⟨rfl, howned, hread, hcheck⟩

theorem check_of_settled (hdue : shouldSkip t s.now = false) {previous : Option JourneyState}
    {o : CheckOutcome} (h : prepare t previous s.now = .settled o) :
    check s.limit planner t previous s.now = .ok o := by
  simp [check, evaluate, hdue, h]

theorem check_of_asking (hdue : shouldSkip t s.now = false) {previous : Option JourneyState}
    {state : JourneyState} {request : PlanRequest}
    (h : prepare t previous s.now = .asking state request) :
    check s.limit planner t previous s.now =
      conclude s.limit t state s.now.instant (planner request) := by
  simp [check, evaluate, hdue, h]

/-- There is one trip, one rider and one check to a cycle. -/
theorem Due.trip_eq {t' : Trip} (h : Due s before t) (h' : Due s before t') : t' = t :=
  Option.some.inj (h'.trip.symm.trans h.trip)

theorem Follows.step (h : Follows s planner before m) : Follows s planner before (step s m) := by
  obtain ⟨stage, store, sent⟩ := m
  cases stage with
  | readTrip =>
    obtain rfl : store = before := h
    simp only [Cycle.step]
    cases hout : s.outage .getTrip with
    | some fault => exact follows_fail fun _ _ _ _ hf => by simp [hf.getTrip] at hout
    | none =>
      cases ht : store.trips.get? s.tripId with
      | none => exact follows_fail fun _ _ _ _ hf => by simp [hf.trip] at ht
      | some t =>
        simp only [afterTrip]
        cases hskip : shouldSkip t s.now with
        | true => trivial
        | false => exact ⟨rfl, hout, ht, hskip⟩
  | readUser t =>
    obtain ⟨rfl, hdue⟩ : store = before ∧ Due s before t := h
    simp only [Cycle.step]
    cases hout : s.outage .getUser with
    | some fault => exact follows_fail fun _ _ _ _ hf => by simp [hf.getUser] at hout
    | none =>
      cases hu : store.users.get? t.userId with
      | none =>
        refine follows_fail fun _ _ _ _ hf => ?_
        simp [hdue.trip_eq hf.toDue ▸ hf.user] at hu
      | some u => exact ⟨rfl, hdue, hout, hu⟩
  | readState t u =>
    obtain ⟨rfl, howned⟩ : store = before ∧ Owned s before t u := h
    simp only [Cycle.step]
    cases hout : s.outage .getJourneyState with
    | some fault => exact follows_fail fun _ _ _ _ hf => by simp [hf.getJourneyState] at hout
    | none =>
      simp only [afterRead]
      cases hprep : prepare t (store.states.get? s.tripId) s.now with
      | settled o => exact follows_record howned hout (check_of_settled howned.due hprep)
      | asking state request => exact ⟨rfl, howned, hout, hprep⟩
  | ask t u state request => exact h
  | writeState t u state ns =>
    obtain ⟨rfl, hfound⟩ : store = before ∧ Found s planner before t u state ns := h
    simp only [Cycle.step, afterState_eq]
    cases hout : s.outage .replaceJourneyState with
    | some fault =>
      exact .inl ⟨rfl, fun _ hs => by simp [hs.replaceJourneyState] at hout⟩
    | none =>
      cases hback : t.writeBack? state with
      | none => trivial
      | some t' => exact ⟨rfl, hout, t, hfound, hback⟩
  | writeTrip t' u state ns =>
    obtain ⟨hstore, hwrite, t, hfound, hback⟩ :
      store = before.putState state ∧ s.outage .replaceJourneyState = none ∧
        ∃ t, Found s planner before t u state ns ∧ t.writeBack? state = some t' := h
    simp only [Cycle.step]
    cases hout : s.outage .replaceTrip with
    | some fault =>
      exact .inr ⟨state, hstore, hwrite, by simp [hout], t, u, ns, hfound, by simp [hback]⟩
    | none => trivial
  | send t u state ns => trivial
  | finished result => exact h

/-- The planner replies to what a cycle asks it. -/
theorem Follows.resume (h : Follows s planner before m) {request : PlanRequest}
    (hrequest : request? m.stage = some request) :
    Follows s planner before { m with stage := resume s (planner request) m.stage } := by
  obtain ⟨stage, store, sent⟩ := m
  cases stage with
  | ask t u state request' =>
    obtain rfl : request' = request := Option.some.inj hrequest
    obtain ⟨rfl, howned, hread, hprep⟩ : store = before ∧ Owned s before t u ∧
      s.outage .getJourneyState = none ∧
      prepare t (before.states.get? s.tripId) s.now = .asking state request' := h
    have hcheck : check s.limit planner t _ s.now = _ := check_of_asking howned.due hprep
    simp only [Cycle.resume]
    cases hconclude : conclude s.limit t state s.now.instant (planner request') with
    | ok o => exact follows_record howned hread (hcheck.trans hconclude)
    | error fault =>
      refine follows_fail fun _ _ _ _ hf => ?_
      obtain rfl := howned.toDue.trip_eq hf.toDue
      cases hf.check.symm.trans (hcheck.trans hconclude)
  | _ => cases hrequest

/-! ### A cycle -/

theorem Follows.advance (h : Follows s planner before m) :
    Follows s planner before (advance s m) := by
  induction m using advance.induct s with
  | case1 m hrank =>
    rw [advance_of_rank_eq_zero hrank]
    exact h
  | case2 m hrank ih =>
    rw [advance_of_rank_ne_zero hrank]
    exact ih h.step

theorem follows_run (s : Setting) (planner : PlanRequest → PlannerReply) (before : Store) :
    Follows s planner before (run s planner before) := by
  have hfirst : Follows s planner before (Cycle.advance s ⟨.readTrip, before, []⟩) :=
    Follows.advance (show Follows s planner before ⟨.readTrip, before, []⟩ from rfl)
  simp only [run]
  cases hrequest : request? (Cycle.advance s ⟨.readTrip, before, []⟩).stage with
  | none => exact hfirst
  | some request => exact (hfirst.resume hrequest).advance

/-- **The store after a fault**: as it was, unless the cycle has stranded. -/
theorem store_of_fault {fault : CheckFault}
    (h : (checkAndPersist s planner before).2.2 = some (.error fault)) :
    (checkAndPersist s planner before).1 = before ∧ (∀ state, ¬ Strands s planner before state) ∨
      ∃ state, (checkAndPersist s planner before).1 = before.putState state ∧
        Strands s planner before state := by
  have hfollows := follows_run s planner before
  simp only [checkAndPersist] at h ⊢
  generalize run s planner before = m at h hfollows ⊢
  obtain ⟨stage, store, sent⟩ := m
  cases stage with
  | finished result =>
    obtain rfl : result = .error fault := Option.some.inj h
    exact hfollows
  | _ => cases h

/-- A cycle strands with one state only. -/
theorem Strands.state_eq {state state' : JourneyState} (h : Strands s planner before state)
    (h' : Strands s planner before state') : state' = state := by
  obtain ⟨-, -, t, u, ns, hfound, -⟩ := h
  obtain ⟨-, -, t', u', ns', hfound', -⟩ := h'
  obtain rfl := hfound.toDue.trip_eq hfound'.toDue
  cases hfound'.check.symm.trans hfound.check
  rfl

/-- **A fault leaves all states as they were** exactly if the cycle has not stranded, or with a
state that stood there already. Which operations fail is arbitrary, and so are the trip, the time
and the planner. -/
theorem states_eq_iff_of_fault {fault : CheckFault}
    (h : (checkAndPersist s planner before).2.2 = some (.error fault)) :
    (∀ key, (checkAndPersist s planner before).1.states.get? key = before.states.get? key) ↔
      ∀ state, Strands s planner before state →
        before.states.get? state.tripId = some state := by
  rcases store_of_fault h with ⟨hstore, hnone⟩ | ⟨state, hstore, hstrands⟩
  · rw [hstore]
    exact iff_of_true (fun _ => rfl) fun state hstate => absurd hstate (hnone state)
  · rw [hstore]
    constructor
    · intro hsame state' hstate'
      rw [hstrands.state_eq hstate', ← hsame]
      simp
    · intro hstood key
      rw [Store.get?_states_putState]
      split
      · rw [‹key = state.tripId›, hstood state hstrands]
      · rfl

/-! ### A fault, step by step

`advance` recurs on a rank and does not evaluate; steps do. -/

theorem step_of_rank_eq_zero (h : m.stage.rank = 0) : step s m = m := by
  obtain ⟨stage, store, sent⟩ := m
  cases stage with
  | ask | finished => rfl
  | readTrip | readUser | readState | writeState | writeTrip | send => cases h

/-- To advance is to take some number of steps. -/
theorem advance_eq_iterate {n : Nat} (h : ((step s)^[n] m).stage.rank = 0) :
    advance s m = (step s)^[n] m := by
  induction n generalizing m with
  | zero => exact advance_of_rank_eq_zero h
  | succ n ih =>
    rw [Function.iterate_succ_apply] at h ⊢
    by_cases hrank : m.stage.rank = 0
    · rw [step_of_rank_eq_zero hrank] at h ⊢
      exact ih h
    · rw [advance_of_rank_ne_zero hrank]
      exact ih h

theorem checkAndPersist_eq_iterate {store : Store} {n k : Nat} {request : PlanRequest} {m' : Moment}
    (hm : (step s)^[n] ⟨.readTrip, store, []⟩ = m) (hask : request? m.stage = some request)
    (hm' : (step s)^[k] { m with stage := resume s (planner request) m.stage } = m')
    (hend : m'.stage.rank = 0) :
    checkAndPersist s planner store = (m'.store, m'.sent, result? m'.stage) := by
  have hrank : m.stage.rank = 0 := by
    cases hstage : m.stage with
    | ask => rfl
    | _ => rw [hstage] at hask; cases hask
  have hfirst : advance s ⟨.readTrip, store, []⟩ = m := by
    rw [advance_eq_iterate (hm ▸ hrank), hm]
  simp only [checkAndPersist, run, hfirst, hask]
  rw [advance_eq_iterate (hm' ▸ hend), hm']

/-- Trips cannot be written. -/
def tripsLocked : Outage := fun operation =>
  if operation = .replaceTrip then some (.file "locked") else none

/-- Trips cannot be written, but the planner does not reply in time, so that is not noticed. -/
theorem states_eq_iff_of_fault_timeout :
    let s : Setting := ⟨"commute", Commute.monday 0, 200, tripsLocked, Sender.working⟩
    let planner := fun _ => PlannerReply.timeout
    let store := (Store.empty.putUser Commute.rider).putTrip Commute.trip
    (checkAndPersist s planner store).2.2 = some (.error (.plannerTimeout 200)) ∧
      ((∀ key, (checkAndPersist s planner store).1.states.get? key = store.states.get? key) ↔
        ∀ state, Strands s planner store state →
          store.states.get? state.tripId = some state) := by
  intro s planner store
  have h : (checkAndPersist s planner store).2.2 = some (.error (.plannerTimeout 200)) := by
    rw [checkAndPersist_eq_iterate (n := 3) (k := 0) rfl rfl rfl rfl]
    rfl
  exact ⟨h, states_eq_iff_of_fault h⟩

/-- **A fault need not leave all states as they were.** The planner does reply in time, with another
itinerary than the trip has. -/
theorem state_written_before_fault :
    ¬ ∀ (s : Setting) (planner : PlanRequest → PlannerReply) (store : Store) (fault : CheckFault),
      store.Keyed → (checkAndPersist s planner store).2.2 = some (.error fault) →
        ∀ key, (checkAndPersist s planner store).1.states.get? key = store.states.get? key := by
  intro hkept
  let s : Setting := ⟨"commute", Commute.monday 0, 200, tripsLocked, Sender.working⟩
  let planner := fun _ : PlanRequest => PlannerReply.response (.ofItinerary (Commute.bus 10))
  let store := (Store.empty.putUser Commute.rider).putTrip Commute.trip
  have hkeyed : store.Keyed := (Store.filedFor_empty.putUser _).putTrip _
  let request := PlanRequest.ofTrip Commute.trip (Commute.monday 0).date
  let opened := (JourneyState.new "commute").rollOver (Commute.monday 0).date
  let found := recordFound opened Commute.trip (Commute.monday 0).instant (Commute.bus 10)
  have hfits : found.Fits := by decide
  have hask : (step s)^[3] ⟨.readTrip, store, []⟩ =
      ⟨.ask Commute.trip Commute.rider opened request, store, []⟩ := rfl
  have hend : (step s)^[2] ⟨resume s (planner request)
      (.ask Commute.trip Commute.rider opened request), store, []⟩ =
        ⟨fail (.store (.file "locked")), store.putState found.value.1, []⟩ := by
    rw [resume, conclude_ofItinerary hfits]
    rfl
  have hrun := checkAndPersist_eq_iterate hask rfl hend rfl
  have hsame := hkept s planner store _ hkeyed (by rw [hrun]; rfl) "commute"
  rw [hrun] at hsame
  cases hsame

end Cycle

end TripWatch
