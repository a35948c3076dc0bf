import TripWatch.Proofs.Check.Ends
import TripWatch.Proofs.Check.Spells
import TripWatch.Proofs.Trip.NextDate

/-!
# The date that a trip is checked for

A completed check moves the state to the next active date from the day on which it is made, and so
the date of the state is that of the latest completed check that had one. What the search for the
next date guarantees carries over to a whole course: if the days of the trip stay as they are and
clocks do not go back, the date does not go back, and it never lies beyond an active date that is
still to come.

The baselines belong to the date. A check whose state keeps the date compares with the baselines
that are there; one that sets another date, or the first one, compares with none.

## Main definitions

* `targetAfter` — the date after a course
* `KeepsDates` — what holds of the dates and baselines of a course

## Main results

* `targetAfter_eq` — the date is that of the latest completed visit that had one
* `Visit.baseline_pass` — the baselines that a visit goes on from
* `next_occurrence` — the headline
-/

namespace TripWatch

/-! ### The date of a state -/

theorem JourneyState.targetDate_movedTo (s : JourneyState) (date : Option Date) :
    (s.movedTo date).targetDate = date.or s.targetDate := by
  cases date with
  | none => rfl
  | some date => exact s.targetDate_rollOver date

/-- A completed visit with a date sets it; any other one leaves the one before. -/
theorem Visit.targetDate_pass (v : Visit) (previous : Option JourneyState) :
    (v.pass previous).1.bind JourneyState.targetDate =
      (v.target? previous).or (previous.bind JourneyState.targetDate) := by
  cases hfinding : v.finding? previous with
  | none => rw [pass_of_unfinished hfinding, target?_of_unfinished hfinding, Option.none_or]
  | some f =>
    rw [pass_of_finding hfinding, Option.bind_some, record, Finding.targetDate_record, opened,
      JourneyState.targetDate_movedTo, target?_of_finding hfinding]
    cases previous <;> rfl

/-- The date after a course of visits to a trip that was never checked before. -/
def targetAfter (visits : List Visit) : Option Date :=
  (stateAfter none visits).bind JourneyState.targetDate

/-- **The date is that of the latest completed visit that had one.** -/
theorem targetAfter_eq (visits : List Visit) :
    targetAfter visits = (history Visit.target? none visits).getLast? := by
  rw [targetAfter, bind_stateAfter Visit.targetDate_pass, Option.bind_none, Option.or_none]

/-- A date that a course sets for a trip with some days is the next one from the day of a visit. -/
theorem exists_isNext_of_mem_targets {days : ActiveDays} {previous : Option JourneyState}
    {visits : List Visit} (hdays : ∀ v ∈ visits, v.trip.days = days) {d : Date}
    (h : d ∈ history Visit.target? previous visits) : ∃ v ∈ visits, days.IsNext v.now.date d := by
  obtain ⟨v, hv, reached, htarget⟩ := exists_of_mem_history _ h
  obtain ⟨f, -, hdate⟩ := Option.bind_eq_some_iff.mp htarget
  rw [Visit.date?, hdays v hv] at hdate
  exact ⟨v, hv, ActiveDays.next?_eq_some_iff.mp hdate⟩

theorem exists_isNext_of_targetAfter {days : ActiveDays} {visits : List Visit}
    (hdays : ∀ v ∈ visits, v.trip.days = days) {d : Date} (h : targetAfter visits = some d) :
    ∃ v ∈ visits, days.IsNext v.now.date d := by
  rw [targetAfter_eq] at h
  exact exists_isNext_of_mem_targets hdays (List.mem_of_getLast? h)

/-! ### The baselines of a date -/

/-- The baselines are those of the state before if it keeps its date, and else there are none. -/
theorem JourneyState.baseline_movedTo (s : JourneyState) (date : Option Date) (kind : DelayKind) :
    (s.movedTo date).baseline kind =
      if (s.movedTo date).targetDate = s.targetDate then s.baseline kind else none := by
  cases date with
  | none => rw [movedTo, if_pos rfl]
  | some date =>
    rw [targetDate_movedTo, Option.some_or, movedTo, rollOver]
    by_cases hsame : s.targetDate = some date
    · rw [if_pos hsame, if_pos hsame.symm]
    · rw [if_neg hsame, if_neg (Ne.symm hsame)]
      cases kind <;> rfl

theorem Visit.baseline_opened (v : Visit) (previous : Option JourneyState) (kind : DelayKind) :
    (v.opened previous).baseline kind =
      if (v.opened previous).targetDate = previous.bind JourneyState.targetDate then
        previous.bind fun s => s.baseline kind
      else none := by
  rw [opened, JourneyState.baseline_movedTo]
  cases previous with
  | some s => rfl
  | none => cases kind <;> rfl

/-- **The baselines that a visit goes on from**: those before if the date stays, and none if it is
another one or the first. -/
theorem Visit.baseline_pass (v : Visit) (previous : Option JourneyState) (kind : DelayKind) :
    let kept :=
      if (v.pass previous).1.bind JourneyState.targetDate =
          previous.bind JourneyState.targetDate then
        previous.bind fun s => s.baseline kind
      else none
    ((v.pass previous).1.bind fun s => s.baseline kind) =
      match v.finding? previous with
      | some f => f.retold v.trip.preferences kind kept
      | none => kept := by
  intro kept
  cases hfinding : v.finding? previous with
  | none => simp only [kept, pass_of_unfinished hfinding, if_true]
  | some f =>
    simp only [kept, pass_of_finding hfinding, Option.bind_some, record, Finding.baseline_record,
      baseline_opened, Finding.targetDate_record]

/-! ### Courses -/

/-- What holds of the dates and baselines of a course of visits. -/
structure KeepsDates (days : ActiveDays) (visits : List Visit) : Prop where
  /-- A completed visit sets the next active date, if there is one. -/
  sets : ∀ before v after state ns d, visits = before ++ v :: after →
    v.check (stateAfter none before) = .ok (.checked state ns) →
    days.next? v.now.date = some d → state.targetDate = some d
  /-- The date does not go back, nor is it given up. -/
  forward : ∀ before after d, visits = before ++ after → targetAfter before = some d →
    ∃ d', targetAfter visits = some d' ∧ d ≤ d'
  /-- No visit leaves a date behind that lies beyond an active one from its day on. -/
  noneSkipped : ∀ before v after d a, visits = before ++ v :: after →
    targetAfter (before ++ [v]) = some d → days.isActiveOn a.weekday = true → v.now.date ≤ a →
    d ≤ a
  /-- A visit goes on from the baselines that are there if the date stays, and from none if it is
  another one or the first. -/
  baselines : ∀ before v after kind, visits = before ++ v :: after →
    let kept :=
      if targetAfter (before ++ [v]) = targetAfter before then
        (stateAfter none before).bind fun s => s.baseline kind
      else none
    ((stateAfter none (before ++ [v])).bind fun s => s.baseline kind) =
      match v.finding? (stateAfter none before) with
      | some f => f.retold v.trip.preferences kind kept
      | none => kept

section Courses

variable {days : ActiveDays} {visits before after : List Visit} {v : Visit} {d : Date}

theorem targetAfter_append (before after : List Visit) :
    targetAfter (before ++ after) =
      (history Visit.target? (stateAfter none before) after).getLast?.or (targetAfter before) := by
  rw [targetAfter_eq, targetAfter_eq, history_append, List.getLast?_append]

theorem targetAfter_forward (hdays : ∀ v ∈ before ++ after, v.trip.days = days)
    (hdates : (before ++ after).Pairwise fun v w => v.now.date ≤ w.now.date)
    (h : targetAfter before = some d) : ∃ d', targetAfter (before ++ after) = some d' ∧ d ≤ d' := by
  rw [targetAfter_append]
  cases hlater : (history Visit.target? (stateAfter none before) after).getLast? with
  | none => exact ⟨d, h, d.le_refl⟩
  | some d' =>
    obtain ⟨v, hv, hnext⟩ := exists_isNext_of_targetAfter
      (fun v hv => hdays v (List.mem_append_left _ hv)) h
    obtain ⟨w, hw, hnext'⟩ := exists_isNext_of_mem_targets
      (fun w hw => hdays w (List.mem_append_right _ hw)) (List.mem_of_getLast? hlater)
    have hle : v.now.date ≤ w.now.date := (List.pairwise_append.mp hdates).2.2 v hv w hw
    exact ⟨d', rfl, ActiveDays.next?_mono hle hnext.next? hnext'.next?⟩

/-- The date of a course does not lie beyond an active date that is still to come. -/
theorem targetAfter_le (hdays : ∀ v ∈ visits, v.trip.days = days)
    (h : targetAfter visits = some d) {a : Date} (hactive : days.isActiveOn a.weekday = true)
    (hcome : ∀ v ∈ visits, v.now.date ≤ a) : d ≤ a := by
  obtain ⟨v, hv, hnext⟩ := exists_isNext_of_targetAfter hdays h
  exact hnext.least a (hcome v hv) hactive

theorem keepsDates (hdays : ∀ v ∈ visits, v.trip.days = days)
    (hdates : visits.Pairwise fun v w => v.now.date ≤ w.now.date) : KeepsDates days visits where
  sets before v after state ns d hvisits hcheck hnext := by
    obtain ⟨hpass, f, hfinding⟩ := Visit.exists_finding_of_check hcheck
    have hdate : v.date? = some d := by
      rw [Visit.date?, hdays v (by simp [hvisits]), hnext]
    have htarget := v.targetDate_pass (stateAfter none before)
    rwa [hpass, Visit.target?_of_finding hfinding, Option.bind_some, hdate,
      Option.some_or] at htarget
  forward before after d hvisits h := by
    subst hvisits
    exact targetAfter_forward hdays hdates h
  noneSkipped before v after d a hvisits h hactive hcome := by
    have hparts : visits = (before ++ [v]) ++ after := by simp [hvisits]
    rw [hparts] at hdays hdates
    refine targetAfter_le (fun w hw => hdays w (List.mem_append_left _ hw)) h hactive ?_
    intro w hw
    rcases List.mem_append.mp hw with hw | hw
    · have hbefore := (List.pairwise_append.mp (List.pairwise_append.mp hdates).1).2.2
      exact Date.le_trans (hbefore w hw v (List.mem_singleton_self v)) hcome
    · exact List.mem_singleton.mp hw ▸ hcome
  baselines before v after kind _ := by
    simp only [targetAfter, stateAfter_concat]
    exact v.baseline_pass (stateAfter none before) kind

end Courses

/-! ### The headline -/

/-- **The next occurrence of a trip.** The search for an active date fails only if no day is active,
and what it finds is the earliest active date that is not before its start, at most six days away;
so it is monotone and idempotent. Over a course of visits to a trip whose days stay as they are,
while the local date does not go back, the date of the state keeps to that. -/
theorem next_occurrence (days : ActiveDays) :
    (∀ start : Date, (start.plusDays? 6).isSome →
        (days.next? start = none ↔ ∀ w, days.isActiveOn w = false) ∧
          ∀ d, days.next? start = some d ↔ days.IsNext start d) ∧
      (∀ start d, days.next? start = some d → d.dayNumber ≤ start.dayNumber + 6) ∧
      (∀ start start' d d', start ≤ start' → days.next? start = some d →
        days.next? start' = some d' → d ≤ d') ∧
      (∀ start d, days.next? start = some d → days.next? d = some d) ∧
      ∀ visits : List Visit, (∀ v ∈ visits, v.trip.days = days) →
        visits.Pairwise (fun v w => v.now.date ≤ w.now.date) → KeepsDates days visits := by
  refine ⟨fun start hweek => ⟨ActiveDays.next?_eq_none_iff hweek, fun d => ?_⟩, ?_, ?_, ?_, ?_⟩
  · exact ActiveDays.next?_eq_some_iff
  · intro start d h
    exact (ActiveDays.next?_eq_some_iff.mp h).le_six
  · intro start start' d d' hle h h'
    exact ActiveDays.next?_mono hle h h'
  · intro start d h
    exact ActiveDays.next?_next? h
  · intro visits hdays hdates
    exact keepsDates hdays hdates

/-- A late bus on Friday, no reply on Saturday, and no bus on Sunday: from then on the trip is
checked for Monday, and nothing has been told of it yet. -/
example :
    let friday : Date := ⟨19888, by decide, by decide⟩
    let saturday : Date := ⟨19889, by decide, by decide⟩
    let sunday : Date := ⟨19890, by decide, by decide⟩
    let monday : Date := ⟨19891, by decide, by decide⟩
    let on := fun date reply =>
      { Commute.visit 0 reply with now := { Commute.monday 0 with date := date } }
    let visits := [on friday (.response (.ofItinerary (Commute.bus 10))), on saturday .timeout,
      on sunday (.response .empty)]
    let told := fun n => (stateAfter none (visits.take n)).bind fun s => s.baseline .departure
    targetAfter (visits.take 2) = some friday ∧ (told 2).isSome ∧
      targetAfter visits = some monday ∧ told 3 = none := by
  decide

end TripWatch
