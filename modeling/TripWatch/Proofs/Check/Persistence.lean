import TripWatch.Check.Cycle
import TripWatch.Proofs.Check.Finding
import TripWatch.Proofs.Store.Keyed

/-!
# A cycle is a check, and what it writes

A cycle decides anew whether its trip is skipped, reads three records one after the other, asks the
planner in the middle and writes two tables at the end. On a store that nobody else changes and that
does not fail, all this comes to little: the result is that of the check of the stored trip with the
stored state, a missing trip or rider apart, and only a completed check leaves anything behind.

## The four ways through

Which way a cycle takes is settled by the trip and its rider before the planner is asked:
`advance_of_absent`, `advance_of_skipped`, `advance_of_ownerless` and `advance_of_due` run it up to
there. The last one goes on with `advance_outcome`, the writes at the end. What a cycle ends with is
proved from these alone. That the sender decides nothing but what is sent is proved step by step
instead (`step_sender`), since it needs neither a working store nor a case of the four.

## Main definitions

* `Store.recorded` — the store after a completed check
* `Trip.writeBack?` — what it writes of the trip, if anything
* `Cycle.asked?` — what a cycle asks the planner
* `Cycle.Recorded` — what a completed check may change
* `Cycle.Persists` — what a cycle has to do with a check

## Main results

* `Cycle.run_sender` — the sender decides nothing but what is sent
* `Cycle.run_of_due` — a cycle with trip and rider ends as its check does
* `Cycle.persists_checkAndPersist` — the headline
-/

namespace TripWatch

/-- The trip as a completed check of it writes it back: with the state's itinerary, if that is
another one than its own. -/
def Trip.writeBack? (t : Trip) (state : JourneyState) : Option Trip :=
  match state.matchingItinerary with
  | some i => if t.itinerary == some i then none else some { t with itinerary := some i }
  | none => none

/-- Only the itinerary is written over. -/
theorem Trip.writeBack?_eq_some_iff {t t' : Trip} {state : JourneyState} :
    t.writeBack? state = some t' ↔
      ∃ i, state.matchingItinerary = some i ∧ (t.itinerary == some i) = false ∧
        t' = { t with itinerary := some i } := by
  unfold writeBack?
  cases state.matchingItinerary with
  | none => simp
  | some i =>
    cases h : t.itinerary == some i with
    | true => simp [h]
    | false =>
      simp only [h, Bool.false_eq_true, if_false, Option.some.injEq, exists_eq_left', true_and]
      exact eq_comm

theorem Trip.writeBack?_eq_none_iff {t : Trip} {state : JourneyState} :
    t.writeBack? state = none ↔
      ∀ i, state.matchingItinerary = some i → (t.itinerary == some i) = true := by
  unfold writeBack?
  cases state.matchingItinerary with
  | none => simp
  | some i => cases h : t.itinerary == some i <;> simp [h]

/-- The store after a check of a trip was completed with a state. -/
def Store.recorded (store : Store) (t : Trip) (state : JourneyState) : Store :=
  match t.writeBack? state with
  | some t' => (store.putState state).putTrip t'
  | none => store.putState state

namespace Cycle

variable {s : Setting} {store : Store} {t : Trip} {u : User}

/-! ### Running the machine -/

theorem advance_of_rank_eq_zero {m : Moment} (h : m.stage.rank = 0) : advance s m = m := by
  rw [advance, dif_pos h]

theorem advance_of_rank_ne_zero {m : Moment} (h : m.stage.rank ≠ 0) :
    advance s m = advance s (step s m) := by
  rw [advance, dif_neg h]

theorem afterState_eq (t : Trip) (u : User) (state : JourneyState) (ns : List Notification) :
    afterState t u state ns =
      match t.writeBack? state with
      | some t' => .writeTrip t' u state ns
      | none => .send t u state ns := by
  unfold afterState Trip.writeBack?
  cases state.matchingItinerary with
  | none => rfl
  | some i => cases h : t.itinerary == some i <;> simp [h]

/-- What a cycle asks the planner, if it comes to that. -/
def asked? (s : Setting) (store : Store) : Option PlanRequest :=
  request? (advance s ⟨.readTrip, store, []⟩).stage

/-- Where a cycle ends that has come to a result. -/
def outcome (s : Setting) (t : Trip) (u : User) (store : Store) :
    Except CheckFault CheckOutcome → Moment
  | .error fault => ⟨fail fault, store, []⟩
  | .ok .skipped => ⟨.finished (.ok .skipped), store, []⟩
  | .ok (.checked state ns) =>
    ⟨.finished (.ok (.checked state ns)), store.recorded t state, (deliver s.sender u t ns).sent⟩

theorem advance_send (state : JourneyState) (ns : List Notification) (sent : List Message) :
    advance s ⟨.send t u state ns, store, sent⟩ =
      ⟨.finished (.ok (.checked state ns)), store, sent ++ (deliver s.sender u t ns).sent⟩ := by
  rw [advance_of_rank_ne_zero (by simp [Stage.rank])]
  exact advance_of_rank_eq_zero rfl

section Working

variable (hs : s.outage = .none)
include hs

/-- The writes at the end. The messages do not show the itinerary, so they are those of the trip as
it was read. -/
theorem advance_writeState (state : JourneyState) (ns : List Notification) :
    advance s ⟨.writeState t u state ns, store, []⟩ =
      outcome s t u store (.ok (.checked state ns)) := by
  rw [advance_of_rank_ne_zero (by simp [Stage.rank])]
  simp only [step, hs, Outage.none, afterState_eq, outcome, Store.recorded]
  cases hback : t.writeBack? state with
  | none => exact advance_send ..
  | some t' =>
    obtain ⟨i, -, -, rfl⟩ := Trip.writeBack?_eq_some_iff.mp hback
    rw [advance_of_rank_ne_zero (by simp [Stage.rank])]
    simp only [step, hs, Outage.none]
    exact advance_send ..

theorem advance_outcome (result : Except CheckFault CheckOutcome) :
    advance s ⟨match result with
        | .error fault => fail fault
        | .ok o => record t u o, store, []⟩ = outcome s t u store result := by
  cases result with
  | error fault => exact advance_of_rank_eq_zero rfl
  | ok o =>
    cases o with
    | skipped => exact advance_of_rank_eq_zero rfl
    | checked state ns => exact advance_writeState hs state ns

theorem advance_of_absent (ht : store.trips.get? s.tripId = none) :
    advance s ⟨.readTrip, store, []⟩ = ⟨fail (.tripNotFound s.tripId), store, []⟩ := by
  rw [advance_of_rank_ne_zero (by simp [Stage.rank])]
  simp only [step, hs, Outage.none, ht, afterTrip]
  exact advance_of_rank_eq_zero rfl

theorem advance_of_skipped (ht : store.trips.get? s.tripId = some t)
    (hskip : shouldSkip t s.now = true) :
    advance s ⟨.readTrip, store, []⟩ = ⟨.finished (.ok .skipped), store, []⟩ := by
  rw [advance_of_rank_ne_zero (by simp [Stage.rank])]
  simp only [step, hs, Outage.none, ht, afterTrip, if_pos hskip]
  exact advance_of_rank_eq_zero rfl

theorem advance_of_stored (ht : store.trips.get? s.tripId = some t)
    (hdue : shouldSkip t s.now = false) :
    advance s ⟨.readTrip, store, []⟩ = advance s ⟨.readUser t, store, []⟩ := by
  rw [advance_of_rank_ne_zero (by simp [Stage.rank])]
  simp [step, hs, Outage.none, ht, afterTrip, hdue]

theorem advance_of_ownerless (ht : store.trips.get? s.tripId = some t)
    (hdue : shouldSkip t s.now = false) (hu : store.users.get? t.userId = none) :
    advance s ⟨.readTrip, store, []⟩ = ⟨fail (.userNotFound t.id t.userId), store, []⟩ := by
  rw [advance_of_stored hs ht hdue, advance_of_rank_ne_zero (by simp [Stage.rank])]
  simp only [step, hs, Outage.none, hu]
  exact advance_of_rank_eq_zero rfl

theorem advance_of_due (ht : store.trips.get? s.tripId = some t)
    (hdue : shouldSkip t s.now = false) (hu : store.users.get? t.userId = some u) :
    advance s ⟨.readTrip, store, []⟩ =
      advance s ⟨afterRead s t u (store.states.get? s.tripId), store, []⟩ := by
  rw [advance_of_stored hs ht hdue, advance_of_rank_ne_zero (by simp [Stage.rank])]
  simp only [step, hs, Outage.none, hu]
  rw [advance_of_rank_ne_zero (by simp [Stage.rank])]
  simp only [step, hs, Outage.none]

/-! ### Whole cycles -/

omit hs in
theorem request?_outcome (result : Except CheckFault CheckOutcome) :
    request? (outcome s t u store result).stage = none := by
  cases result with
  | error fault => rfl
  | ok o => cases o <;> rfl

omit hs in
/-- A cycle that does not ask the planner ends where it stops. -/
theorem run_of_advance (planner : PlanRequest → PlannerReply) {m : Moment}
    (h : advance s ⟨.readTrip, store, []⟩ = m) (hm : request? m.stage = none) :
    run s planner store = m ∧ asked? s store = none := by
  simp only [run, asked?, h, hm, and_self]

/-- **A cycle with trip and rider ends as its check does**, and asks what its check asks. -/
theorem run_of_due (planner : PlanRequest → PlannerReply)
    (ht : store.trips.get? s.tripId = some t) (hdue : shouldSkip t s.now = false)
    (hu : store.users.get? t.userId = some u) :
    run s planner store =
        outcome s t u store (check s.limit planner t (store.states.get? s.tripId) s.now) ∧
      asked? s store = TripWatch.request? t (store.states.get? s.tripId) s.now := by
  have hadvance := advance_of_due hs ht hdue hu
  simp only [check, evaluate, TripWatch.request?, hdue, Bool.false_eq_true, if_false]
  unfold afterRead at hadvance
  cases hprep : prepare t (store.states.get? s.tripId) s.now with
  | settled o =>
    rw [hprep] at hadvance
    exact run_of_advance planner (hadvance.trans (advance_outcome hs (.ok o))) (request?_outcome _)
  | asking state request =>
    rw [hprep] at hadvance
    have hstop := hadvance.trans (advance_of_rank_eq_zero rfl)
    simp only [run, asked?, hstop, request?, resume, and_true]
    exact advance_outcome hs _

end Working

/-! ### Delivery

How messages are taken shows in what is sent and in nothing else, whatever fails in the store. -/

theorem step_sender (s : Setting) (sender : Sender) (m : Moment) (sent : List Message) :
    ∃ sent', step { s with sender := sender } { m with sent := sent } =
      { step s m with sent := sent' } := by
  obtain ⟨stage, store, _⟩ := m
  cases stage with
  | readTrip =>
    simp only [step]
    cases s.outage .getTrip <;> exact ⟨sent, rfl⟩
  | readUser t =>
    simp only [step]
    cases s.outage .getUser with
    | some fault => exact ⟨sent, rfl⟩
    | none => cases store.users.get? t.userId <;> exact ⟨sent, rfl⟩
  | readState t u =>
    simp only [step]
    cases s.outage .getJourneyState <;> exact ⟨sent, rfl⟩
  | writeState t u state ns =>
    simp only [step]
    cases s.outage .replaceJourneyState <;> exact ⟨sent, rfl⟩
  | writeTrip t u state ns =>
    simp only [step]
    cases s.outage .replaceTrip <;> exact ⟨sent, rfl⟩
  | send | ask | finished => exact ⟨_, rfl⟩

theorem advance_sender (s : Setting) (sender : Sender) (m : Moment) (sent : List Message) :
    ∃ sent', advance { s with sender := sender } { m with sent := sent } =
      { advance s m with sent := sent' } := by
  induction m using advance.induct s generalizing sent with
  | case1 m h =>
    refine ⟨sent, ?_⟩
    rw [advance_of_rank_eq_zero h]
    exact advance_of_rank_eq_zero h
  | case2 m h ih =>
    obtain ⟨sent₁, hstep⟩ := step_sender s sender m sent
    obtain ⟨sent₂, hrest⟩ := ih sent₁
    refine ⟨sent₂, ?_⟩
    rw [advance_of_rank_ne_zero h, ← hrest, ← hstep]
    exact advance_of_rank_ne_zero h

theorem run_sender (s : Setting) (sender : Sender) (planner : PlanRequest → PlannerReply)
    (store : Store) :
    ∃ sent, run { s with sender := sender } planner store = { run s planner store with sent } := by
  obtain ⟨sent, hfirst⟩ := advance_sender s sender ⟨.readTrip, store, []⟩ []
  simp only [run]
  rw [hfirst]
  generalize advance s ⟨.readTrip, store, []⟩ = m
  cases hrequest : request? m.stage with
  | none => exact ⟨sent, rfl⟩
  | some request => exact advance_sender s sender { m with stage := resume s _ m.stage } sent

/-! ### What a cycle has to do with a check -/

/-- What a completed check of a trip may change in a store: the trip's state, and the itinerary of
the trip. An itinerary that the trip has already, by value, is not written again. -/
structure Recorded (before after : Store) (t : Trip) (state : JourneyState) : Prop where
  /-- Riders stay as they are. -/
  users : after.users = before.users
  /-- The state is the trip's, and no other trip's state changes. -/
  states : ∀ key, after.states.get? key =
    if key = t.id then some state else before.states.get? key
  /-- Other trips stay as they are. -/
  others : ∀ key, key ≠ t.id → after.trips.get? key = before.trips.get? key
  /-- The trip has the state's itinerary, if that has one, and is as it was in all else. -/
  trip : ∃ t', after.trips.get? t.id = some t' ∧ t' = { t with itinerary := t'.itinerary } ∧
    match state.matchingItinerary with
    | some i => t'.itinerary = some i ∨ t'.itinerary = t.itinerary ∧ (t.itinerary == some i) = true
    | none => t'.itinerary = t.itinerary

theorem recorded_recorded {state : JourneyState} (ht : store.trips.get? t.id = some t)
    (hstate : state.tripId = t.id) : Recorded store (store.recorded t state) t state := by
  unfold Store.recorded
  cases hback : t.writeBack? state with
  | none =>
    have hsame := Trip.writeBack?_eq_none_iff.mp hback
    refine ⟨rfl, by simp [hstate], by simp, t, by simpa using ht, rfl, ?_⟩
    cases hi : state.matchingItinerary with
    | none => rfl
    | some i => exact .inr ⟨rfl, hsame i hi⟩
  | some t' =>
    obtain ⟨i, hi, -, rfl⟩ := Trip.writeBack?_eq_some_iff.mp hback
    refine ⟨rfl, by simp [hstate], fun key hkey => ?_, { t with itinerary := some i }, ?_, rfl, ?_⟩
    · simp [hkey]
    · simp
    · simp [hi]

/-- What a cycle has to do with the check of the stored trip with the stored state. -/
structure Persists (s : Setting) (planner : PlanRequest → PlannerReply) (before after : Store)
    (sent : List Message) (result : Option (Except CheckFault CheckOutcome)) : Prop where
  /-- A missing trip is a fault of its own. -/
  tripNotFound_iff : result = some (.error (.tripNotFound s.tripId)) ↔
    before.trips.get? s.tripId = none
  /-- A cycle is skipped when its check is. -/
  skipped_iff : ∀ t, before.trips.get? s.tripId = some t →
    (result = some (.ok .skipped) ↔
      check s.limit planner t (before.states.get? s.tripId) s.now = .ok .skipped)
  /-- If it is not, a missing rider is a fault of its own, -/
  userNotFound_iff : ∀ t, before.trips.get? s.tripId = some t →
    check s.limit planner t (before.states.get? s.tripId) s.now ≠ .ok .skipped →
    (result = some (.error (.userNotFound s.tripId t.userId)) ↔
      before.users.get? t.userId = none)
  /-- and the planner is not asked then. -/
  asked?_eq_none : ∀ t, before.trips.get? s.tripId = some t →
    before.users.get? t.userId = none → asked? s before = none
  /-- With trip and rider the result is that of the check, -/
  result_eq : ∀ t u, before.trips.get? s.tripId = some t → before.users.get? t.userId = some u →
    result = some (check s.limit planner t (before.states.get? s.tripId) s.now)
  /-- and the planner is asked what the check asks. -/
  asked?_eq : ∀ t u, before.trips.get? s.tripId = some t → before.users.get? t.userId = some u →
    asked? s before = TripWatch.request? t (before.states.get? s.tripId) s.now
  /-- A cycle that is skipped or fails changes nothing and sends nothing. -/
  unchanged : ∀ r, result = some r → (r = .ok .skipped ∨ ∃ fault, r = .error fault) →
    after = before ∧ sent = []
  /-- A completed one records its state and sends what its check has to tell. -/
  recorded : ∀ state ns, result = some (.ok (.checked state ns)) →
    ∃ t u, before.trips.get? s.tripId = some t ∧ before.users.get? t.userId = some u ∧
      Recorded before after t state ∧ sent = (deliver s.sender u t ns).sent
  /-- How messages are taken shows neither in the store nor in the result. -/
  delivery : ∀ sender, (checkAndPersist { s with sender := sender } planner before).1 = after ∧
    (checkAndPersist { s with sender := sender } planner before).2.2 = result

theorem result?_outcome (result : Except CheckFault CheckOutcome) :
    result? (outcome s t u store result).stage = some result := by
  cases result with
  | error fault => rfl
  | ok o => cases o <;> rfl

/-- A result that is no completed check leaves nothing behind. -/
theorem outcome_unchanged {result : Except CheckFault CheckOutcome}
    (h : result = .ok .skipped ∨ ∃ fault, result = .error fault) :
    (outcome s t u store result).store = store ∧ (outcome s t u store result).sent = [] := by
  rcases h with rfl | ⟨fault, rfl⟩ <;> exact ⟨rfl, rfl⟩

section Cases

variable (hs : s.outage = .none) (planner : PlanRequest → PlannerReply)
include hs

theorem checkAndPersist_of_absent (ht : store.trips.get? s.tripId = none) :
    checkAndPersist s planner store = (store, [], some (.error (.tripNotFound s.tripId))) := by
  obtain ⟨hrun, -⟩ := run_of_advance planner (advance_of_absent hs ht) rfl
  rw [checkAndPersist, hrun]
  rfl

theorem checkAndPersist_of_skipped (ht : store.trips.get? s.tripId = some t)
    (hskip : shouldSkip t s.now = true) :
    checkAndPersist s planner store = (store, [], some (.ok .skipped)) ∧
      asked? s store = none := by
  obtain ⟨hrun, hasked⟩ := run_of_advance planner (advance_of_skipped hs ht hskip) rfl
  exact ⟨by rw [checkAndPersist, hrun]; rfl, hasked⟩

theorem checkAndPersist_of_ownerless (ht : store.trips.get? s.tripId = some t)
    (hdue : shouldSkip t s.now = false) (hu : store.users.get? t.userId = none) :
    checkAndPersist s planner store =
        (store, [], some (.error (.userNotFound t.id t.userId))) ∧
      asked? s store = none := by
  obtain ⟨hrun, hasked⟩ := run_of_advance planner (advance_of_ownerless hs ht hdue hu) rfl
  exact ⟨by rw [checkAndPersist, hrun]; rfl, hasked⟩

theorem checkAndPersist_of_due (ht : store.trips.get? s.tripId = some t)
    (hdue : shouldSkip t s.now = false) (hu : store.users.get? t.userId = some u) :
    let result := check s.limit planner t (store.states.get? s.tripId) s.now
    checkAndPersist s planner store = ((outcome s t u store result).store,
        (outcome s t u store result).sent, some result) ∧
      asked? s store = TripWatch.request? t (store.states.get? s.tripId) s.now := by
  obtain ⟨hrun, hasked⟩ := run_of_due hs planner ht hdue hu
  exact ⟨by rw [checkAndPersist, hrun, result?_outcome], hasked⟩

end Cases

/-- The state of a completed check is the trip's. -/
theorem tripId_of_check {limit : Nat} {planner : PlanRequest → PlannerReply}
    {previous : Option JourneyState} {now : LocalTime} {state : JourneyState}
    {ns : List Notification} (hprev : ∀ j, previous = some j → j.tripId = t.id)
    (h : check limit planner t previous now = .ok (.checked state ns)) :
    state.tripId = t.id := by
  obtain ⟨-, f, -, hrec⟩ := check_eq_checked_iff.mp h
  obtain rfl : (f.record t now.instant _).value.1 = state :=
    congrArg Prod.fst (Calculation.run?_eq_some_iff.mp hrec).2
  rw [Finding.tripId_record, JourneyState.tripId_movedTo]
  cases previous with
  | none => rfl
  | some j => exact hprev j rfl

theorem delivery_checkAndPersist (s : Setting) (planner : PlanRequest → PlannerReply)
    (store : Store) (sender : Sender) :
    (checkAndPersist { s with sender := sender } planner store).1 =
        (checkAndPersist s planner store).1 ∧
      (checkAndPersist { s with sender := sender } planner store).2.2 =
        (checkAndPersist s planner store).2.2 := by
  obtain ⟨sent, hrun⟩ := run_sender s sender planner store
  simp only [checkAndPersist, hrun, and_self]

section Persists

variable (hs : s.outage = .none) (planner : PlanRequest → PlannerReply)
include hs

theorem persists_of_absent (ht : store.trips.get? s.tripId = none) :
    Persists s planner store (checkAndPersist s planner store).1
      (checkAndPersist s planner store).2.1 (checkAndPersist s planner store).2.2 := by
  have hdelivery := delivery_checkAndPersist s planner store
  rw [checkAndPersist_of_absent hs planner ht] at hdelivery ⊢
  constructor
  case delivery => exact hdelivery
  all_goals simp [ht]

variable (ht : store.trips.get? s.tripId = some t)
include ht

theorem persists_of_skipped (hskip : shouldSkip t s.now = true) :
    Persists s planner store (checkAndPersist s planner store).1
      (checkAndPersist s planner store).2.1 (checkAndPersist s planner store).2.2 := by
  have hdelivery := delivery_checkAndPersist s planner store
  obtain ⟨hrun, hasked⟩ := checkAndPersist_of_skipped hs planner ht hskip
  have hcheck : check s.limit planner t (store.states.get? s.tripId) s.now = .ok .skipped :=
    check_eq_skipped_iff.mpr hskip
  rw [hrun] at hdelivery ⊢
  constructor
  case delivery => exact hdelivery
  case result_eq =>
    intro t' u ht' _
    obtain rfl := Option.some.inj (ht.symm.trans ht')
    rw [hcheck]
  case asked?_eq =>
    intro t' u ht' _
    obtain rfl := Option.some.inj (ht.symm.trans ht')
    rw [hasked, TripWatch.request?, if_pos hskip]
  all_goals simp [ht, hcheck, hasked]

variable (hid : t.id = s.tripId) (hdue : shouldSkip t s.now = false)
include hid hdue

theorem persists_of_ownerless (hu : store.users.get? t.userId = none) :
    Persists s planner store (checkAndPersist s planner store).1
      (checkAndPersist s planner store).2.1 (checkAndPersist s planner store).2.2 := by
  have hdelivery := delivery_checkAndPersist s planner store
  obtain ⟨hrun, hasked⟩ := checkAndPersist_of_ownerless hs planner ht hdue hu
  have hcheck : check s.limit planner t (store.states.get? s.tripId) s.now ≠ .ok .skipped := by
    simp [check_eq_skipped_iff, hdue]
  have howner : ∀ t' u, store.trips.get? s.tripId = some t' →
      store.users.get? t'.userId ≠ some u := by
    intro t' u ht' hu'
    obtain rfl := Option.some.inj (ht.symm.trans ht')
    cases hu.symm.trans hu'
  rw [hrun] at hdelivery ⊢
  constructor
  case delivery => exact hdelivery
  case result_eq => exact fun t' u ht' hu' => absurd hu' (howner t' u ht')
  case asked?_eq => exact fun t' u ht' hu' => absurd hu' (howner t' u ht')
  all_goals simp [ht, hcheck, hasked, hu, hid]

theorem persists_of_due (hu : store.users.get? t.userId = some u)
    (hstate : ∀ j, store.states.get? s.tripId = some j → j.tripId = s.tripId) :
    Persists s planner store (checkAndPersist s planner store).1
      (checkAndPersist s planner store).2.1 (checkAndPersist s planner store).2.2 := by
  have hdelivery := delivery_checkAndPersist s planner store
  obtain ⟨hrun, hasked⟩ := checkAndPersist_of_due hs planner ht hdue hu
  have hcheck : check s.limit planner t (store.states.get? s.tripId) s.now ≠ .ok .skipped := by
    simp [check_eq_skipped_iff, hdue]
  -- A missing trip or rider is nothing that a check itself would report.
  have hother : ∀ fault, fault.isFromCheck = false →
      check s.limit planner t (store.states.get? s.tripId) s.now ≠ .error fault := by
    intro fault hfault heq
    exact absurd (isFromCheck_of_check heq) (by simp [hfault])
  rw [hrun] at hdelivery ⊢
  constructor
  case delivery => exact hdelivery
  case tripNotFound_iff => simp [ht, hother (.tripNotFound s.tripId) rfl]
  case userNotFound_iff => simp [ht, hu, hother (.userNotFound s.tripId t.userId) rfl]
  case result_eq =>
    intro t' u' ht' _
    obtain rfl := Option.some.inj (ht.symm.trans ht')
    rfl
  case asked?_eq =>
    intro t' u' ht' _
    obtain rfl := Option.some.inj (ht.symm.trans ht')
    exact hasked
  case unchanged =>
    intro r hr hquiet
    obtain rfl := Option.some.inj hr
    exact outcome_unchanged hquiet
  case recorded =>
    intro state ns hr
    have hchecked := Option.some.inj hr
    refine ⟨t, u, ht, hu, ?_, by rw [hchecked]; rfl⟩
    rw [hchecked]
    refine recorded_recorded (hid ▸ ht) (tripId_of_check (fun j hj => ?_) hchecked)
    rw [hid]
    exact hstate j hj
  all_goals simp [ht, hcheck, hu]

end Persists

/-- **A cycle is a check, and what it writes.** Of the store it is asked that it does not fail and
that each record stands under its own identifier; the planner and the sender may do what they
like. -/
theorem persists_checkAndPersist (s : Setting) (hs : s.outage = .none)
    (planner : PlanRequest → PlannerReply) {store : Store} (hkeyed : store.Keyed) :
    Persists s planner store (checkAndPersist s planner store).1
      (checkAndPersist s planner store).2.1 (checkAndPersist s planner store).2.2 := by
  cases ht : store.trips.get? s.tripId with
  | none => exact persists_of_absent hs planner ht
  | some t =>
    have hid : t.id = s.tripId := hkeyed.trips _ _ ht trivial
    cases hdue : shouldSkip t s.now with
    | true => exact persists_of_skipped hs planner ht hdue
    | false =>
      cases hu : store.users.get? t.userId with
      | none => exact persists_of_ownerless hs planner ht hid hdue hu
      | some u =>
        exact persists_of_due hs planner ht hid hdue hu fun j hj =>
          hkeyed.states _ _ hj trivial

/-- A rider's bus is ten minutes late. -/
theorem persists_checkAndPersist_late_bus :
    let s : Setting := ⟨"commute", Commute.monday 0, 200, .none, Sender.working⟩
    let planner := fun _ => PlannerReply.response (.ofItinerary (Commute.bus 10))
    let store := (Store.empty.putUser Commute.rider).putTrip Commute.trip
    s.outage = .none ∧ store.Keyed ∧
      Persists s planner store (checkAndPersist s planner store).1
        (checkAndPersist s planner store).2.1 (checkAndPersist s planner store).2.2 := by
  intro s planner store
  have hkeyed : store.Keyed := (Store.filedFor_empty.putUser _).putTrip _
  exact ⟨rfl, hkeyed, persists_checkAndPersist s rfl planner hkeyed⟩

end Cycle

end TripWatch
