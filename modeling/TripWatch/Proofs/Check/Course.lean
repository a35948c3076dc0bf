import Mathlib.Data.List.Induction
import TripWatch.Proofs.Check.Finding

/-!
# Courses of checks

What is remembered of a trip is handed from check to check. Between two checks the rider may edit
the trip, and time and the planner do as they like, so a check comes with its own version of all
three: a `Visit`. A course is a list of visits. One that is skipped, fails or breaks off leaves what
is remembered as it was; any other one records what it finds. So a course is a fold over findings,
which is `Visit.leave_eq`, and the proofs on courses start from there.

What a visit finds depends on the visit alone. Whether it can be recorded may depend on what is
remembered too, since baselines are calculated with. So the histories of a course (`history`) take
each visit together with the state that it goes on from.

## What is deliberately absent

The store. What is remembered is handed on here by the course itself; that a cycle reads and writes
just that is the business of the modules on cycles.

## Main definitions

* `Visit` — a check with all that comes to it from outside
* `Visit.date?`, `Visit.found?`, `Visit.finding?` — what it finds, and what of that it records
* `Visit.breaksOff`, `breakOffs` — where what is found cannot be calculated with
* `Visit.leave`, `remembered` — what is remembered after a visit and after a course
* `Visit.pass`, `stateAfter`, `tellings` — the same from any state on, and what each visit tells
* `history` — what the visits of a course come to, in order

## Main results

* `Visit.leave_eq` — a visit records its finding, or nothing
* `Visit.exists_date_of_finding?` — an itinerary is found on a date
* `exists_record_of_remembered` — which visit it was that recorded what is remembered
* `bind_stateAfter` — the same for a single field that visits write or leave alone
-/

namespace TripWatch

/-- A check of a trip with all that comes to it from outside. -/
structure Visit where
  /-- The trip as it stands at the time. -/
  trip : Trip
  /-- The time. -/
  now : LocalTime
  /-- How many milliseconds the planner may take. -/
  limit : Nat
  /-- How the planner replies. -/
  planner : PlanRequest → PlannerReply

namespace Visit

/-- The check of a visit, which goes on from a state. -/
def check (v : Visit) (previous : Option JourneyState) : Except CheckFault CheckOutcome :=
  TripWatch.check v.limit v.planner v.trip previous v.now

/-- What is remembered after a visit: the state and the notifications of its check if that was
completed, and what was remembered before if not. -/
def leave (last : Option (JourneyState × List Notification)) (v : Visit) :
    Option (JourneyState × List Notification) :=
  match v.check (last.map Prod.fst) with
  | .ok (.checked state ns) => some (state, ns)
  | .ok .skipped => last
  | .error _ => last

/-- The date that a visit is about. -/
def date? (v : Visit) : Option Date := v.trip.days.next? v.now.date

/-- What a visit finds, unless it is skipped or fails. -/
def found? (v : Visit) : Option Finding :=
  if shouldSkip v.trip v.now then none
  else match findOn v.limit v.planner v.trip v.date? with
    | .ok f => some f
    | .error _ => none

/-- The state in which a visit records: the remembered one or a new one, moved to the visit's
date. -/
def opened (v : Visit) (previous : Option JourneyState) : JourneyState :=
  (previous.getD (.new v.trip.id)).movedTo v.date?

/-- The state and the notifications that a finding of a visit leads to. -/
def record (v : Visit) (previous : Option JourneyState) (f : Finding) :
    Calculation (JourneyState × List Notification) :=
  f.record v.trip v.now.instant (v.opened previous)

/-- What a visit finds and records, unless it is skipped, fails or breaks off. -/
def finding? (v : Visit) (previous : Option JourneyState) : Option Finding :=
  v.found?.filter fun f => decide (v.record previous f).Fits

/-- Whether a visit breaks off: what it finds cannot be calculated with. -/
def breaksOff (v : Visit) (previous : Option JourneyState) : Bool :=
  v.found?.any fun f => !decide (v.record previous f).Fits

theorem check_eq (v : Visit) (previous : Option JourneyState) :
    v.check previous =
      if shouldSkip v.trip v.now then .ok .skipped
      else (findOn v.limit v.planner v.trip v.date?).bind fun f =>
        f.outcome v.trip v.now.instant (v.opened previous) := by
  unfold check TripWatch.check
  rw [evaluate_eq]
  rfl

/-- **A visit records its finding**, in the state that is remembered. -/
theorem leave_eq (last : Option (JourneyState × List Notification)) (v : Visit) :
    v.leave last = match v.finding? (last.map Prod.fst) with
      | some f => some (v.record (last.map Prod.fst) f).value
      | none => last := by
  unfold leave finding? found?
  rw [check_eq]
  cases shouldSkip v.trip v.now with
  | true => rfl
  | false =>
    simp only [Bool.false_eq_true, if_false]
    cases findOn v.limit v.planner v.trip v.date? with
    | error fault => rfl
    | ok f =>
      simp only [Except.bind, Option.filter_some]
      by_cases hfits : (v.record (last.map Prod.fst) f).Fits
      · simp only [Finding.outcome_of_fits hfits, hfits, decide_true, if_true]
        rfl
      · simp [Finding.outcome_eq_overflow_iff.mpr hfits, hfits]

theorem finding?_eq_some_iff {v : Visit} {previous : Option JourneyState} {f : Finding} :
    v.finding? previous = some f ↔ v.found? = some f ∧ (v.record previous f).Fits := by
  simp [finding?, Option.filter_eq_some_iff]

theorem finding?_eq (v : Visit) (previous : Option JourneyState) :
    v.finding? previous = if v.breaksOff previous then none else v.found? := by
  unfold finding? breaksOff
  cases v.found? with
  | none => rfl
  | some f => by_cases hfits : (v.record previous f).Fits <;> simp [Option.filter_some, hfits]

/-- A visit breaks off if its check does. -/
theorem breaksOff_iff {v : Visit} {previous : Option JourneyState} :
    v.breaksOff previous = true ↔ v.check previous = .error .overflow := by
  unfold breaksOff found?
  rw [check_eq]
  cases shouldSkip v.trip v.now with
  | true => simp
  | false =>
    simp only [Bool.false_eq_true, if_false]
    cases hfind : findOn v.limit v.planner v.trip v.date? with
    | error fault =>
      have hfault : fault ≠ .overflow := ne_overflow_of_findOn hfind
      simp [Except.bind, hfault]
    | ok f =>
      simp only [Option.any_some, Bool.not_eq_true', decide_eq_false_iff_not]
      exact Finding.outcome_eq_overflow_iff.symm

/-- Without a date the planner is not asked, so an itinerary is found on a date. -/
theorem exists_date_of_found? {v : Visit} {i : Itinerary}
    (h : v.found? = some (.itinerary i)) : ∃ date, v.date? = some date := by
  unfold found? at h
  cases hdate : v.date? with
  | some date => exact ⟨date, rfl⟩
  | none =>
    rw [hdate] at h
    simp only [findOn] at h
    split at h <;> cases h

theorem exists_date_of_finding? {v : Visit} {previous : Option JourneyState} {i : Itinerary}
    (h : v.finding? previous = some (.itinerary i)) : ∃ date, v.date? = some date :=
  exists_date_of_found? (finding?_eq_some_iff.mp h).1

end Visit

/-- What is remembered after a course of visits to a trip that was never checked before: the state
and the notifications of the latest completed check. -/
def remembered (visits : List Visit) : Option (JourneyState × List Notification) :=
  visits.foldl (fun last v => v.leave last) none

@[simp] theorem remembered_concat (visits : List Visit) (v : Visit) :
    remembered (visits ++ [v]) = v.leave (remembered visits) := by
  simp [remembered]

/-! ### Visit by visit

A course may also go on from a state that is there already. Then what a visit leaves and what it
tells are kept apart: a visit that records nothing leaves what was there, and tells nothing. -/

namespace Visit

variable {v : Visit} {previous : Option JourneyState}

/-- The state after a visit, and what the visit tells. -/
def pass (v : Visit) (previous : Option JourneyState) : Option JourneyState × List Notification :=
  match v.check previous with
  | .ok (.checked state ns) => (some state, ns)
  | .ok .skipped => (previous, [])
  | .error _ => (previous, [])

theorem pass_eq_leave (v : Visit) (previous : Option JourneyState) :
    v.pass previous =
      ((v.leave (previous.map (·, []))).map Prod.fst,
        ((v.leave (previous.map (·, []))).map Prod.snd).getD []) := by
  have hprevious : (previous.map (·, ([] : List Notification))).map Prod.fst = previous := by
    cases previous <;> rfl
  unfold pass leave
  rw [hprevious]
  rcases v.check previous with _ | _ | _
  · cases previous <;> rfl
  · cases previous <;> rfl
  · rfl

/-- A visit tells of its finding, or of nothing. -/
theorem pass_eq (v : Visit) (previous : Option JourneyState) :
    v.pass previous = match v.finding? previous with
      | some f => (some (v.record previous f).value.1, (v.record previous f).value.2)
      | none => (previous, []) := by
  have hprevious : (previous.map (·, ([] : List Notification))).map Prod.fst = previous := by
    cases previous <;> rfl
  rw [pass_eq_leave, leave_eq, hprevious]
  cases v.finding? previous with
  | some f => rfl
  | none => cases previous <;> rfl

theorem pass_of_finding {f : Finding} (h : v.finding? previous = some f) :
    v.pass previous = (some (v.record previous f).value.1, (v.record previous f).value.2) := by
  rw [pass_eq, h]

theorem pass_of_unfinished (h : v.finding? previous = none) : v.pass previous = (previous, []) := by
  rw [pass_eq, h]

end Visit

/-- The state after a course of visits that goes on from a state. -/
def stateAfter (previous : Option JourneyState) (visits : List Visit) : Option JourneyState :=
  visits.foldl (fun state v => (v.pass state).1) previous

/-- What is told at each visit of a course that goes on from a state. -/
def tellings (previous : Option JourneyState) : List Visit → List (List Notification)
  | [] => []
  | v :: rest => (v.pass previous).2 :: tellings (v.pass previous).1 rest

/-- At which visits of a course the check breaks off. -/
def breakOffs (previous : Option JourneyState) : List Visit → List Bool
  | [] => []
  | v :: rest => v.breaksOff previous :: breakOffs (v.pass previous).1 rest

/-- What the visits of a course come to, in order, each with the state that it goes on from. -/
def history {α : Type} (come? : Visit → Option JourneyState → Option α)
    (previous : Option JourneyState) : List Visit → List α
  | [] => []
  | v :: rest => (come? v previous).toList ++ history come? (v.pass previous).1 rest

@[simp] theorem stateAfter_nil (previous : Option JourneyState) :
    stateAfter previous [] = previous := rfl

@[simp] theorem stateAfter_cons (previous : Option JourneyState) (v : Visit) (rest : List Visit) :
    stateAfter previous (v :: rest) = stateAfter (v.pass previous).1 rest := rfl

theorem stateAfter_append (previous : Option JourneyState) (visits rest : List Visit) :
    stateAfter previous (visits ++ rest) = stateAfter (stateAfter previous visits) rest :=
  List.foldl_append

@[simp] theorem stateAfter_concat (previous : Option JourneyState) (visits : List Visit)
    (v : Visit) :
    stateAfter previous (visits ++ [v]) = (v.pass (stateAfter previous visits)).1 := by
  rw [stateAfter_append, stateAfter_cons, stateAfter_nil]

/-- A trip that was never checked before is left in the state that is remembered of it. -/
theorem stateAfter_none (visits : List Visit) :
    stateAfter none visits = (remembered visits).map Prod.fst := by
  induction visits using List.reverseRecOn with
  | nil => rfl
  | append_singleton visits v ih =>
    rw [stateAfter_concat, remembered_concat, ih, Visit.pass_eq, Visit.leave_eq]
    cases v.finding? ((remembered visits).map Prod.fst) <;> rfl

theorem breakOffs_take (previous : Option JourneyState) (visits : List Visit) (n : Nat) :
    breakOffs previous (visits.take n) = (breakOffs previous visits).take n := by
  induction visits generalizing previous n with
  | nil => simp [breakOffs]
  | cons v rest ih =>
    cases n with
    | zero => rfl
    | succ n => simp [breakOffs, ih]

/-! ### Histories -/

section History

variable {α : Type} (come? : Visit → Option JourneyState → Option α)

theorem history_append (previous : Option JourneyState) (visits rest : List Visit) :
    history come? previous (visits ++ rest) =
      history come? previous visits ++ history come? (stateAfter previous visits) rest := by
  induction visits generalizing previous with
  | nil => rfl
  | cons v visits ih =>
    simp only [List.cons_append, history, ih, List.append_assoc, stateAfter_cons]

theorem history_concat (previous : Option JourneyState) (visits : List Visit) (v : Visit) :
    history come? previous (visits ++ [v]) =
      history come? previous visits ++ (come? v (stateAfter previous visits)).toList := by
  rw [history_append]
  simp [history]

theorem map_history {β : Type} (g : α → β) (previous : Option JourneyState)
    (visits : List Visit) :
    (history come? previous visits).map g =
      history (fun v reached => (come? v reached).map g) previous visits := by
  induction visits generalizing previous with
  | nil => rfl
  | cons v rest ih =>
    rw [history, history, List.map_append, ih]
    cases come? v previous <;> rfl

/-- What a course comes to is what some visit of it comes to. -/
theorem exists_of_mem_history {previous : Option JourneyState} {visits : List Visit} {a : α}
    (h : a ∈ history come? previous visits) :
    ∃ v ∈ visits, ∃ reached, come? v reached = some a := by
  induction visits generalizing previous with
  | nil => cases h
  | cons v rest ih =>
    rw [history, List.mem_append, Option.mem_toList] at h
    rcases h with h | h
    · exact ⟨v, List.mem_cons_self, previous, h⟩
    · obtain ⟨w, hw, reached, ha⟩ := ih h
      exact ⟨w, List.mem_cons_of_mem v hw, reached, ha⟩

end History

/-- **What is remembered was recorded by the latest visit that recorded something.** -/
theorem exists_record_of_remembered {visits : List Visit} {s : JourneyState}
    {ns : List Notification} (h : remembered visits = some (s, ns)) :
    ∃ before v after f, visits = before ++ v :: after ∧
      v.finding? (stateAfter none before) = some f ∧
      history Visit.finding? (stateAfter none (before ++ [v])) after = [] ∧
      (v.record (stateAfter none before) f).run? = some (s, ns) := by
  induction visits using List.reverseRecOn with
  | nil => cases h
  | append_singleton visits v ih =>
    rw [remembered_concat, Visit.leave_eq, ← stateAfter_none] at h
    cases hfinding : v.finding? (stateAfter none visits) with
    | some f =>
      rw [hfinding] at h
      have hfits := (Visit.finding?_eq_some_iff.mp hfinding).2
      exact ⟨visits, v, [], f, rfl, hfinding, rfl, (Calculation.run?_of_fits hfits).trans h⟩
    | none =>
      rw [hfinding] at h
      obtain ⟨before, u, after, f, rfl, hf, hafter, hrec⟩ := ih h
      refine ⟨before, u, after ++ [v], f, by simp, hf, ?_, hrec⟩
      rw [history_concat, hafter, ← stateAfter_append, List.append_assoc, List.singleton_append,
        hfinding]
      rfl

/-- **A field of the state is what was written last**, if each visit writes it or leaves it. -/
theorem bind_stateAfter {α : Type} {field : JourneyState → Option α}
    {written? : Visit → Option JourneyState → Option α}
    (hpass : ∀ v previous,
      (v.pass previous).1.bind field = (written? v previous).or (previous.bind field))
    (previous : Option JourneyState) (visits : List Visit) :
    (stateAfter previous visits).bind field =
      (history written? previous visits).getLast?.or (previous.bind field) := by
  induction visits using List.reverseRecOn with
  | nil => rfl
  | append_singleton visits v ih =>
    rw [stateAfter_concat, hpass, ih, history_concat]
    cases written? v (stateAfter previous visits) with
    | none => simp
    | some a => simp

/-- A visit to the commute on Monday, some minutes after seven. -/
def Commute.visit (minutes : Fin 60) (reply : PlannerReply) : Visit :=
  ⟨trip, monday minutes, 200, fun _ => reply⟩

/-- The day after, some minutes after seven. -/
def Commute.tuesday : LocalTime where
  instant := .ofNat 1718694000000
  date := ⟨19892, by decide, by decide⟩
  time := ⟨25200000, by decide⟩

/-- A course of visits to it. A bus is found; there is no reply; the trip is one of Saturdays at
six, and skipped; and on weekdays again, with delays not to be told, there is no bus. -/
def Commute.course : List Visit :=
  let saturdays := { ActiveDays.never with saturday := true }
  [visit 0 (.response (.ofItinerary (bus 10))), visit 10 .timeout,
    { visit 20 .timeout with trip := { trip with time := "06:00", days := saturdays } },
    { visit 30 (.response .empty) with
      trip := { trip with preferences := ⟨true, false, true, 5, 5⟩ } }]

/-- What is remembered of the commute where a departure was told that lies so far before the one on
Monday that their distance is no word. -/
def Commute.toldLongAgo : JourneyState :=
  { JourneyState.new "commute" with
    targetDate := some (monday 0).date
    baselineDeparture := some (.ofInt (1718613000000 - 0x8000000000000000)) }

/-- A bus on Monday, and none on Tuesday. -/
def Commute.tuesdayWithout : List Visit :=
  [visit 0 (.response (.ofItinerary (bus 10))), { visit 0 (.response .empty) with now := tuesday }]

/-- A bus on Monday, and then another one in a response that reports a failure. -/
def Commute.failureWith : List Visit :=
  [visit 0 (.response (.ofItinerary (bus 10))),
    visit 20 (.response ⟨some [bus 20], some ⟨none, none, some "SYSTEM_ERROR"⟩⟩)]

end TripWatch
