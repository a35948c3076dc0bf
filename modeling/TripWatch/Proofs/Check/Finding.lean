import TripWatch.Proofs.Check.Ends

/-!
# What a check finds, apart from what it remembers

A check that is not skipped does two things that know little of each other. It *finds*: the next
date of the trip decides what the planner is asked, and the reply is an itinerary, a refusal or a
fault. Nothing remembered plays a part in that. Then it *records* the finding in the state, which it
has moved to the date. The planner plays no part in that. To record is to calculate, and a check
whose calculation does not come to its value breaks off without having recorded anything.

`evaluate_eq` cuts a check along this line. What holds over several checks is proved of
`Finding.record` alone, and a check is unfolded nowhere else.

## Main definitions

* `Finding`, `Finding.ofReply`, `findOn` — what a check finds, or the fault that ends it
* `Finding.record` — the state and the notifications that a finding leads to
* `Finding.outcome` — how a check with a finding ends
* `JourneyState.movedTo` — the state moved to the next date, if there is one

## Main results

* `evaluate_eq` — a check that is not skipped is a finding, recorded
* `check_eq_checked_iff` — what it takes for a check to be completed
* `isFromCheck_of_check` — which faults come of a check
* `Finding.status_record` and its kin — the fields of a recorded state
-/

namespace TripWatch

open Calculation

/-- What a check finds on the next date of a trip. -/
inductive Finding where
  /-- An itinerary. -/
  | itinerary (i : Itinerary)
  /-- That there is none, with the planner's reason if it gave one. -/
  | nothing (reason : Option Refusal)

namespace Finding

/-- The itinerary, if one was found. -/
def itinerary? : Finding → Option Itinerary
  | .itinerary i => some i
  | .nothing _ => none

/-- What a reply of the planner amounts to. -/
def ofReply (limit : Nat) : PlannerReply → Except CheckFault Finding
  | .response r =>
    match r.reason?.filter Refusal.isServiceFailure with
    | some reason => .error (.plannerFailure reason)
    | none =>
      match r.first? with
      | none => .ok (.nothing r.reason?)
      | some i => .ok (.itinerary i)
  | .fault fault => .error (.planner fault)
  | .timeout => .error (.plannerTimeout limit)

/-- The state and the notifications that a finding leads to. -/
def record (t : Trip) (now : Instant) (state : JourneyState) :
    Finding → Calculation (JourneyState × List Notification)
  | .itinerary i => recordFound state t now i
  | .nothing reason => return recordNotPossible state t now reason

/-- How a check with a finding ends. -/
def outcome (t : Trip) (now : Instant) (state : JourneyState) (f : Finding) :
    Except CheckFault CheckOutcome :=
  match (f.record t now state).run? with
  | none => .error .overflow
  | some r => .ok (.ofRecord r)

end Finding

/-- What a check finds on a date. Without a date the planner is not asked. -/
def findOn (limit : Nat) (planner : PlanRequest → PlannerReply) (t : Trip) :
    Option Date → Except CheckFault Finding
  | none => .ok (.nothing none)
  | some date => Finding.ofReply limit (planner (.ofTrip t date))

/-- The state moved to a date, if there is one. -/
def JourneyState.movedTo (s : JourneyState) : Option Date → JourneyState
  | none => s
  | some date => s.rollOver date

@[simp] theorem JourneyState.tripId_rollOver (s : JourneyState) (date : Date) :
    (s.rollOver date).tripId = s.tripId := by
  unfold rollOver; split <;> rfl

@[simp] theorem JourneyState.tripId_movedTo (s : JourneyState) (date : Option Date) :
    (s.movedTo date).tripId = s.tripId := by
  cases date <;> simp [movedTo]

theorem JourneyState.targetDate_rollOver (s : JourneyState) (date : Date) :
    (s.rollOver date).targetDate = some date := by
  unfold rollOver; split
  · assumption
  · rfl

/-- A state that stands on the date already is not moved. -/
theorem JourneyState.movedTo_eq_self {s : JourneyState} {date : Option Date}
    (h : ∀ d, date = some d → s.targetDate = some d) : s.movedTo date = s := by
  cases date with
  | none => rfl
  | some d => rw [movedTo, rollOver, if_pos (h d rfl)]

/-! ### A check as a recorded finding -/

theorem conclude_eq (limit : Nat) (t : Trip) (state : JourneyState) (now : Instant)
    (reply : PlannerReply) :
    conclude limit t state now reply =
      (Finding.ofReply limit reply).bind fun f => f.outcome t now state := by
  cases reply with
  | response r =>
    simp only [conclude, concludeResponse, Finding.ofReply]
    cases r.reason?.filter Refusal.isServiceFailure with
    | some reason => rfl
    | none => cases r.first? <;> rfl
  | fault f => rfl
  | timeout => rfl

/-- An itinerary that can be recorded is what a check comes to. -/
theorem conclude_ofItinerary {limit : Nat} {t : Trip} {state : JourneyState} {now : Instant}
    {i : Itinerary} (h : (recordFound state t now i).Fits) :
    conclude limit t state now (.response (.ofItinerary i)) =
      .ok (.ofRecord (recordFound state t now i).value) := by
  have hfinding : Finding.ofReply limit (.response (.ofItinerary i)) = .ok (.itinerary i) := rfl
  have hrun : ((Finding.itinerary i).record t now state).run? = _ := run?_of_fits h
  rw [conclude_eq, hfinding, Except.bind, Finding.outcome, hrun]
  rfl

/-- **A check that is not skipped is a finding, recorded.** What is remembered enters only the
second part, the planner only the first. -/
theorem evaluate_eq (limit : Nat) (planner : PlanRequest → PlannerReply) (t : Trip)
    (previous : Option JourneyState) (now : LocalTime) :
    evaluate limit planner t previous now =
      (findOn limit planner t (t.days.next? now.date)).bind fun f => f.outcome t now.instant
        ((previous.getD (.new t.id)).movedTo (t.days.next? now.date)) := by
  unfold evaluate prepare
  cases t.days.next? now.date with
  | none => rfl
  | some date => exact conclude_eq ..

theorem Finding.outcome_eq_checked_iff {t : Trip} {now : Instant} {state state' : JourneyState}
    {f : Finding} {ns : List Notification} :
    f.outcome t now state = .ok (.checked state' ns) ↔
      (f.record t now state).run? = some (state', ns) := by
  unfold outcome
  cases (f.record t now state).run? with
  | none => simp
  | some r => simp [CheckOutcome.ofRecord, Prod.ext_iff]

theorem Finding.outcome_of_fits {t : Trip} {now : Instant} {state : JourneyState} {f : Finding}
    (h : (f.record t now state).Fits) :
    f.outcome t now state = .ok (.ofRecord (f.record t now state).value) := by
  rw [outcome, run?_of_fits h]

theorem Finding.outcome_eq_overflow_iff {t : Trip} {now : Instant} {state : JourneyState}
    {f : Finding} : f.outcome t now state = .error .overflow ↔ ¬ (f.record t now state).Fits := by
  rw [← run?_eq_none_iff, outcome]
  cases (f.record t now state).run? <;> simp

theorem Finding.outcome_ne_skipped {t : Trip} {now : Instant} {state : JourneyState}
    {f : Finding} : f.outcome t now state ≠ .ok .skipped := by
  unfold outcome
  cases (f.record t now state).run? <;> simp [CheckOutcome.ofRecord]

theorem evaluate_ne_skipped {limit : Nat} {planner : PlanRequest → PlannerReply} {t : Trip}
    {previous : Option JourneyState} {now : LocalTime} :
    evaluate limit planner t previous now ≠ .ok .skipped := by
  rw [evaluate_eq]
  cases findOn limit planner t (t.days.next? now.date) with
  | error fault => simp [Except.bind]
  | ok f => exact Finding.outcome_ne_skipped

theorem check_eq_skipped_iff {limit : Nat} {planner : PlanRequest → PlannerReply} {t : Trip}
    {previous : Option JourneyState} {now : LocalTime} :
    check limit planner t previous now = .ok .skipped ↔ shouldSkip t now = true := by
  unfold check
  split
  · simp [*]
  · simp [*, evaluate_ne_skipped]

/-- A check is completed when it is not skipped, finds something and can calculate with it, and then
it leads to what the finding leads to. -/
theorem check_eq_checked_iff {limit : Nat} {planner : PlanRequest → PlannerReply} {t : Trip}
    {previous : Option JourneyState} {now : LocalTime} {state : JourneyState}
    {ns : List Notification} :
    check limit planner t previous now = .ok (.checked state ns) ↔
      shouldSkip t now = false ∧ ∃ f, findOn limit planner t (t.days.next? now.date) = .ok f ∧
        (f.record t now.instant
          ((previous.getD (.new t.id)).movedTo (t.days.next? now.date))).run? =
            some (state, ns) := by
  unfold check
  cases hskip : shouldSkip t now with
  | true => simp
  | false =>
    rw [evaluate_eq]
    cases findOn limit planner t (t.days.next? now.date) with
    | error fault => simp [Except.bind]
    | ok f => simp [Except.bind, Finding.outcome_eq_checked_iff]

/-- Whether a fault comes of a check itself: from the planner, or from its own calculation. -/
def CheckFault.isFromCheck : CheckFault → Bool
  | planner _ | plannerTimeout _ | plannerFailure _ | overflow => true
  | tripNotFound _ | userNotFound .. | store _ => false

namespace Finding

/-- A reply may amount to a fault, but it takes no calculation to see that. -/
theorem fault_of_ofReply {limit : Nat} {reply : PlannerReply} {fault : CheckFault}
    (h : ofReply limit reply = .error fault) : fault.isFromCheck = true ∧ fault ≠ .overflow := by
  cases reply with
  | response r =>
    simp only [ofReply] at h
    split at h
    · cases h
      exact ⟨rfl, nofun⟩
    · split at h <;> cases h
  | fault f =>
    cases h
    exact ⟨rfl, nofun⟩
  | timeout =>
    cases h
    exact ⟨rfl, nofun⟩

/-- What is found in a reply is the best itinerary of a response. -/
theorem response_of_ofReply {limit : Nat} {reply : PlannerReply} {f : Finding}
    (h : ofReply limit reply = .ok f) :
    ∃ r : PlanResponse, reply = .response r ∧ r.first? = f.itinerary? := by
  cases reply with
  | response r =>
    simp only [ofReply] at h
    split at h
    · cases h
    · split at h <;> cases h <;> exact ⟨r, rfl, ‹_›⟩
  | fault fault => cases h
  | timeout => cases h

theorem isFromCheck_of_outcome {t : Trip} {now : Instant} {state : JourneyState} {f : Finding}
    {fault : CheckFault} (h : f.outcome t now state = .error fault) :
    fault.isFromCheck = true := by
  unfold outcome at h
  split at h <;> cases h
  rfl

end Finding

/-- To find something takes no calculation. -/
theorem ne_overflow_of_findOn {limit : Nat} {planner : PlanRequest → PlannerReply} {t : Trip}
    {date? : Option Date} {fault : CheckFault} (h : findOn limit planner t date? = .error fault) :
    fault ≠ .overflow := by
  cases date? with
  | none => cases h
  | some date => exact (Finding.fault_of_ofReply h).2

theorem isFromCheck_of_conclude {limit : Nat} {t : Trip} {state : JourneyState} {now : Instant}
    {reply : PlannerReply} {fault : CheckFault}
    (h : conclude limit t state now reply = .error fault) : fault.isFromCheck = true := by
  rw [conclude_eq] at h
  cases hreply : Finding.ofReply limit reply with
  | error fault' =>
    rw [hreply] at h
    cases h
    exact (Finding.fault_of_ofReply hreply).1
  | ok f =>
    rw [hreply] at h
    exact Finding.isFromCheck_of_outcome h

/-- The faults of a check come from the planner or from its own calculation. -/
theorem isFromCheck_of_check {limit : Nat} {planner : PlanRequest → PlannerReply} {t : Trip}
    {previous : Option JourneyState} {now : LocalTime} {fault : CheckFault}
    (h : check limit planner t previous now = .error fault) : fault.isFromCheck = true := by
  unfold check evaluate at h
  split at h
  · cases h
  · split at h
    · cases h
    · exact isFromCheck_of_conclude h

/-! ### What is recorded

The comparison of times touches the baselines only, so every other field of a recorded state can be
read off from the finding and the state before. -/

/-- The state after an itinerary was found, by its fields. -/
theorem fst_recordFound (s : JourneyState) (t : Trip) (now : Instant) (i : Itinerary) :
    (recordFound s t now i).value.1 = { s with
      baselineDeparture := i.retold t.preferences .departure s.baselineDeparture
      baselineArrival := i.retold t.preferences .arrival s.baselineArrival
      scheduledDeparture := some i.scheduledDeparture.value
      scheduledArrival := some i.scheduledArrival.value
      matchingItinerary := some i
      status := some (.classify now (some i) t.days)
      lastChecked := some now
      lastNotifications := (recordFound s t now i).value.2.map Notification.kind } := by
  simp only [recordFound, compareItinerary, JourneyState.recordItinerary, value_bind, value_pure]
  rw [fst_compareTimes]

/-- An itinerary can be recorded if its times can be compared and its scheduled times be found. -/
theorem fits_recordFound {s : JourneyState} {t : Trip} {now : Instant} {i : Itinerary} :
    (recordFound s t now i).Fits ↔
      (compareTimes t.preferences s i).Fits ∧ ∀ kind, (i.scheduled kind).Fits := by
  rw [forall_kind_iff]
  simp only [recordFound, compareItinerary, JourneyState.recordItinerary, fits_bind, fits_pure,
    and_true]
  rfl

namespace Finding

variable (t : Trip) (now : Instant) (s : JourneyState) (f : Finding)

theorem value_record_nothing (reason : Option Refusal) :
    ((nothing reason).record t now s).value = recordNotPossible s t now reason := rfl

theorem value_record_itinerary (i : Itinerary) :
    ((itinerary i).record t now s).value = (recordFound s t now i).value := rfl

@[simp] theorem tripId_record : (f.record t now s).value.1.tripId = s.tripId := by
  cases f <;> simp [record, fst_recordFound, recordNotPossible]

@[simp] theorem targetDate_record : (f.record t now s).value.1.targetDate = s.targetDate := by
  cases f <;> simp [record, fst_recordFound, recordNotPossible]

@[simp] theorem status_record :
    (f.record t now s).value.1.status = some (.classify now f.itinerary? t.days) := by
  cases f <;> simp [record, fst_recordFound, recordNotPossible, itinerary?, TripStatus.classify]

@[simp] theorem lastChecked_record : (f.record t now s).value.1.lastChecked = some now := by
  cases f <;> simp [record, fst_recordFound, recordNotPossible]

/-- The itinerary of the state before is kept where none was found. -/
@[simp] theorem matchingItinerary_record :
    (f.record t now s).value.1.matchingItinerary = f.itinerary?.or s.matchingItinerary := by
  cases f <;> simp [record, fst_recordFound, recordNotPossible, itinerary?]

/-- The baseline that is left behind by a finding. -/
def retold (p : Preferences) (kind : DelayKind) (baseline : Option Instant) :
    Finding → Option Instant
  | .itinerary i => i.retold p kind baseline
  | .nothing _ => baseline

/-- **The baselines after a finding** are those that it is compared with, retold. -/
theorem baseline_record (kind : DelayKind) :
    (f.record t now s).value.1.baseline kind = f.retold t.preferences kind (s.baseline kind) := by
  cases f with
  | itinerary i =>
    rw [value_record_itinerary, fst_recordFound]
    cases kind <;> rfl
  | nothing reason => cases kind <;> rfl

end Finding

/-! ### A commute

A trip for the concrete cases that stand beside the theorems on checks. -/

namespace Commute

/-- Minutes are written as numerals. -/
instance neZero_sixty : @NeZero Nat Zero.ofOfNat0 60 := ⟨by decide⟩

/-- The trip: Monday to Friday at half past eight, with changes of five minutes told. -/
def trip : Trip where
  id := "commute"
  userId := "rider"
  name := none
  isActive := true
  origin := ⟨"Home", .zero, .zero, none⟩
  destination := ⟨"Office", .zero, .zero, none⟩
  time := "08:30"
  arriveBy := false
  modes := ["WALK", "TRANSIT"]
  days := .weekdays
  preferences := ⟨true, true, true, 5, 5⟩
  itinerary := none

/-- The rider, who gets short messages. -/
def rider : User := ⟨"rider", none, some "+1", "sms", .english⟩

/-- A Monday in universal time, some minutes after seven. -/
def monday (minutes : Fin 60) : LocalTime where
  instant := .ofNat (1718607600000 + minutes * 60000)
  date := ⟨19891, by decide, by decide⟩
  time := ⟨25200000 + minutes * 60000, by omega⟩

/-- A bus ride from 8:30 to 9:00 that is late by some minutes, with a notice. -/
def bus (late : Fin 60) : Itinerary where
  startTime := .ofNat (1718613000000 + late * 60000)
  endTime := .ofNat (1718614800000 + late * 60000)
  legs := [{
    mode := "BUS"
    isTransit := true
    route := some "10"
    routeId := none
    headsign := none
    origin := ⟨"Home", .zero, .zero, none⟩
    destination := ⟨"Office", .zero, .zero, none⟩
    startTime := .ofNat (1718613000000 + late * 60000)
    endTime := .ofNat (1718614800000 + late * 60000)
    departureDelay := .ofNat (late * 60)
    arrivalDelay := .ofNat (late * 60)
    isRealTime := true
    intermediateStops := []
    steps := []
    alerts := [⟨some "Detour", none, none, none⟩] }]

end Commute

end TripWatch
