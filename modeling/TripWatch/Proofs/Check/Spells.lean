import TripWatch.Proofs.Check.Kinds
import TripWatch.Proofs.Journey.Provenance

/-!
# Spells without an itinerary

A trip for which nothing is found is told of as not possible, and then no more until it has been
possible again. What a check looks at for this is a single field, the status, which each completed
check writes and every other one leaves alone. So the status before a check is that of the latest
completed visit, and a visit without an itinerary is told exactly if it changes the status
(`told_of_check`).

The statuses with and without an itinerary are never the same. For a trip whose days stay as they
are there is one status only without an itinerary, so a spell is told at its first visit and at no
other: later visits that find nothing write the status that is there. Moves to another date do not
touch the status, and so neither end a spell nor begin one. If days are edited, the status without
an itinerary may change within a spell, and then it is told again; that is what `told_of_check` says
of those.

## Main definitions

* `Visit.status?`, `statusBefore` — the status that a visit records, and that of the latest one
* `IsSpell` — where nothing begins to be found, and how long that lasts

## Main results

* `status_stateAfter` — the status of the state is the one that was recorded last
* `tellings_of_known` — what is known already is not told again
* `told_not_possible` — the headline
-/

namespace TripWatch

namespace TripStatus

theorem isPossible_ofItinerary (now : Instant) (i : Itinerary) :
    (ofItinerary now i).isPossible = true := by
  unfold ofItinerary
  split <;> rfl

end TripStatus

/-! ### The status before -/

namespace Visit

variable {v : Visit} {previous : Option JourneyState}

/-- The status that a visit records, if it is completed. -/
def status? (v : Visit) (previous : Option JourneyState) : Option TripStatus :=
  (v.finding? previous).map fun f => .classify v.now.instant f.itinerary? v.trip.days

theorem status?_of_unfinished (h : v.finding? previous = none) : v.status? previous = none := by
  rw [status?, h, Option.map_none]

theorem status?_of_finding {f : Finding} (h : v.finding? previous = some f) :
    v.status? previous = some (.classify v.now.instant f.itinerary? v.trip.days) := by
  rw [status?, h, Option.map_some]

theorem status?_of_nothing {reason : Option Refusal}
    (h : v.finding? previous = some (.nothing reason)) :
    v.status? previous = some (.withoutItinerary v.trip.days) :=
  status?_of_finding h

end Visit

/-- The status that the latest completed visit recorded. -/
def statusBefore (before : List Visit) : Option TripStatus :=
  (history Visit.status? none before).getLast?

theorem statusBefore_concat (before : List Visit) (v : Visit) :
    statusBefore (before ++ [v]) =
      (v.status? (stateAfter none before)).or (statusBefore before) := by
  rw [statusBefore, history_concat]
  cases v.status? (stateAfter none before) with
  | none => simp [statusBefore]
  | some status => simp

/-- The status stays where a state is moved. -/
theorem JourneyState.status_movedTo (s : JourneyState) (date : Option Date) :
    (s.movedTo date).status = s.status := by
  cases date with
  | none => rfl
  | some date =>
    rw [movedTo, rollOver]
    split <;> rfl

theorem Visit.status_opened (v : Visit) (previous : Option JourneyState) :
    (v.opened previous).status = previous.bind JourneyState.status := by
  rw [opened, JourneyState.status_movedTo]
  cases previous <;> rfl

/-- A completed visit writes its status; any other one leaves the one before. -/
theorem Visit.status_pass (v : Visit) (previous : Option JourneyState) :
    (v.pass previous).1.bind JourneyState.status =
      (v.status? previous).or (previous.bind JourneyState.status) := by
  cases hfinding : v.finding? previous with
  | none => rw [pass_of_unfinished hfinding, status?_of_unfinished hfinding, Option.none_or]
  | some f =>
    rw [pass_of_finding hfinding, status?_of_finding hfinding, Option.bind_some, record,
      Finding.status_record, Option.some_or]

/-- **The status of the state is the one that was recorded last.** -/
theorem status_stateAfter (visits : List Visit) :
    (stateAfter none visits).bind JourneyState.status = statusBefore visits := by
  rw [bind_stateAfter Visit.status_pass, Option.bind_none, Option.or_none, statusBefore]

/-! ### One visit -/

section Visit

variable {v : Visit} {previous : Option JourneyState}

/-- What a visit tells that finds nothing. -/
theorem told_of_nothing {reason : Option Refusal}
    (h : v.finding? previous = some (.nothing reason)) :
    (v.pass previous).2 =
      if previous.bind JourneyState.status = some (.withoutItinerary v.trip.days) then []
      else [⟨.tripNotPossible, notPossibleText (.withoutItinerary v.trip.days)
        (v.opened previous).targetDate reason⟩] := by
  rw [Visit.pass_of_finding h, Visit.record, Finding.snd_record_nothing, Visit.status_opened]

/-- A visit that finds an itinerary does not tell that there is none. -/
theorem told_of_itinerary {i : Itinerary} (h : v.finding? previous = some (.itinerary i)) :
    ofKind .tripNotPossible (v.pass previous).2 = [] := by
  rw [Visit.pass_of_finding h, Visit.record, Finding.ofKind_record]
  rfl

theorem Visit.exists_finding_of_check {state : JourneyState} {ns : List Notification}
    (h : v.check previous = .ok (.checked state ns)) :
    v.pass previous = (some state, ns) ∧ ∃ f, v.finding? previous = some f := by
  have hpass : v.pass previous = (some state, ns) := by rw [pass, h]
  refine ⟨hpass, ?_⟩
  obtain ⟨hdue, f, hfind, hrecord⟩ := check_eq_checked_iff.mp h
  refine ⟨f, finding?_eq_some_iff.mpr ⟨by simp [found?, hdue, date?, hfind], ?_⟩⟩
  exact (Calculation.run?_eq_some_iff.mp hrecord).1

/-- A visit without an itinerary is told if it changes the status, and then nothing else is. -/
theorem told_of_check {before : List Visit} {state : JourneyState} {ns : List Notification}
    (h : v.check (stateAfter none before) = .ok (.checked state ns)) :
    state.status = v.status? (stateAfter none before) ∧
      ((∃ n ∈ ns, n.kind = .tripNotPossible) ↔
        v.obtained? (stateAfter none before) = none ∧ state.status ≠ statusBefore before) ∧
      ((∃ n ∈ ns, n.kind = .tripNotPossible) → ns.length = 1) := by
  obtain ⟨hpass, f, hfinding⟩ := Visit.exists_finding_of_check h
  have hstatus : state.status = v.status? (stateAfter none before) := by
    rw [Visit.pass_of_finding hfinding] at hpass
    obtain rfl := Option.some.inj (congrArg Prod.fst hpass)
    rw [Visit.record, Finding.status_record, Visit.status?_of_finding hfinding]
  have htold : (v.pass (stateAfter none before)).2 = ns := congrArg Prod.snd hpass
  cases f with
  | itinerary i =>
    obtain ⟨date, hdate⟩ := Visit.exists_date_of_finding? hfinding
    have hnone : ¬ ∃ n ∈ ns, n.kind = .tripNotPossible := by
      rw [← ofKind_ne_nil, ← htold, told_of_itinerary hfinding]
      exact not_not_intro rfl
    simp [hstatus, hnone, Visit.obtained?_of_itinerary hdate hfinding]
  | nothing reason =>
    rw [told_of_nothing hfinding, status_stateAfter] at htold
    rw [hstatus, Visit.status?_of_nothing hfinding, Visit.obtained?_of_nothing hfinding]
    by_cases hsame : statusBefore before = some (.withoutItinerary v.trip.days)
    · rw [if_pos hsame] at htold
      simp [← htold, hsame]
    · rw [if_neg hsame] at htold
      simp [← htold, Ne.symm hsame]

end Visit

/-! ### Spells -/

/-- Visits from one on that finds nothing, while the latest completed visit before, if there is one,
found an itinerary; until now none of them has obtained one. -/
structure IsSpell (before : List Visit) (first : Visit) (rest : List Visit) : Prop where
  /-- The first visit is completed without an itinerary. -/
  begins : ∃ reason, first.finding? (stateAfter none before) = some (.nothing reason)
  /-- The latest completed visit before was not. -/
  fresh : ∀ f, (history Visit.finding? none before).getLast? = some f → f.itinerary?.isSome
  /-- No visit obtains an itinerary, be it completed or not. -/
  lasts : history Visit.obtained? (stateAfter none (before ++ [first])) rest = []

/-- After a visit that found an itinerary the trip is possible. -/
theorem isPossible_of_statusBefore {before : List Visit} {status : TripStatus}
    (hlast : ∀ f, (history Visit.finding? none before).getLast? = some f → f.itinerary?.isSome)
    (h : statusBefore before = some status) : status.isPossible = true := by
  induction before using List.reverseRecOn with
  | nil => cases h
  | append_singleton before v ih =>
    rw [statusBefore_concat] at h
    rw [history_concat] at hlast
    cases hfinding : v.finding? (stateAfter none before) with
    | none =>
      rw [Visit.status?_of_unfinished hfinding, Option.none_or] at h
      exact ih (by simpa [hfinding] using hlast) h
    | some f =>
      have hsome : f.itinerary?.isSome := hlast f (by simp [hfinding])
      obtain ⟨i, hi⟩ := Option.isSome_iff_exists.mp hsome
      rw [Visit.status?_of_finding hfinding, Option.some_or, hi, Option.some.injEq] at h
      exact h ▸ TripStatus.isPossible_ofItinerary ..

/-- What is known already is not told again, as long as it stays so. -/
theorem tellings_of_known {days : ActiveDays} {previous : Option JourneyState}
    (hknown : previous.bind JourneyState.status = some (.withoutItinerary days))
    {rest : List Visit} (hdays : ∀ v ∈ rest, v.trip.days = days)
    (hnone : history Visit.obtained? previous rest = []) :
    tellings previous rest = List.replicate rest.length [] := by
  induction rest generalizing previous with
  | nil => rfl
  | cons v rest ih =>
    rw [List.forall_mem_cons] at hdays
    rw [history, List.append_eq_nil_iff, Option.toList_eq_nil_iff] at hnone
    have hpass : (v.pass previous).2 = [] ∧
        (v.pass previous).1.bind JourneyState.status = some (.withoutItinerary days) := by
      rw [Visit.status_pass]
      cases hfinding : v.finding? previous with
      | none =>
        rw [Visit.pass_of_unfinished hfinding, Visit.status?_of_unfinished hfinding]
        exact ⟨rfl, hknown⟩
      | some f =>
        cases f with
        | itinerary i =>
          obtain ⟨date, hdate⟩ := Visit.exists_date_of_finding? hfinding
          rw [Visit.obtained?_of_itinerary hdate hfinding] at hnone
          cases hnone.1
        | nothing reason =>
          rw [told_of_nothing hfinding, Visit.status?_of_nothing hfinding, hdays.1, if_pos hknown]
          exact ⟨rfl, rfl⟩
    rw [tellings, hpass.1, ih hpass.2 hdays.2 hnone.2, List.length_cons, List.replicate_succ]

/-- A spell of a trip with the same days throughout is told at its first visit, and at no other. -/
theorem tellings_of_spell {days : ActiveDays} {before : List Visit} {first : Visit}
    {rest : List Visit} (hdays : ∀ v ∈ first :: rest, v.trip.days = days)
    (h : IsSpell before first rest) :
    ∃ n : Notification, n.kind = .tripNotPossible ∧
      tellings (stateAfter none before) (first :: rest) = [n] :: List.replicate rest.length [] := by
  obtain ⟨reason, hfinding⟩ := h.begins
  rw [List.forall_mem_cons] at hdays
  have hnew : statusBefore before ≠ some (.withoutItinerary first.trip.days) := by
    intro hsame
    have hpossible := isPossible_of_statusBefore h.fresh hsame
    rw [TripStatus.isPossible_withoutItinerary] at hpossible
    cases hpossible
  have htold := told_of_nothing hfinding
  rw [status_stateAfter, if_neg hnew] at htold
  have hrest : tellings (first.pass (stateAfter none before)).1 rest =
      List.replicate rest.length [] := by
    refine tellings_of_known ?_ hdays.2 (stateAfter_concat none before first ▸ h.lasts)
    rw [Visit.status_pass, Visit.status?_of_nothing hfinding, hdays.1, Option.some_or]
  refine ⟨⟨.tripNotPossible, notPossibleText (.withoutItinerary first.trip.days)
    (first.opened (stateAfter none before)).targetDate reason⟩, rfl, ?_⟩
  rw [tellings, htold, hrest]

/-- **Not possible is said once per spell.** A completed visit tells it exactly if it obtained no
itinerary and records another status than the latest completed visit before; it then tells nothing
else. So a spell, if the days of the trip stay as they are in it, is told at its first visit and at
no other. -/
theorem told_not_possible :
    (∀ (before : List Visit) (v : Visit) (state : JourneyState) (ns : List Notification),
        v.check (stateAfter none before) = .ok (.checked state ns) →
        state.status = v.status? (stateAfter none before) ∧
          ((∃ n ∈ ns, n.kind = .tripNotPossible) ↔
            v.obtained? (stateAfter none before) = none ∧ state.status ≠ statusBefore before) ∧
          ((∃ n ∈ ns, n.kind = .tripNotPossible) → ns.length = 1)) ∧
      ∀ (days : ActiveDays) (before : List Visit) (first : Visit) (rest : List Visit),
        (∀ v ∈ first :: rest, v.trip.days = days) → IsSpell before first rest →
        ∃ n : Notification, n.kind = .tripNotPossible ∧
          tellings (stateAfter none before) (first :: rest) =
            [n] :: List.replicate rest.length [] := by
  constructor
  · intro before v state ns h
    exact told_of_check h
  · intro days before first rest hdays h
    exact tellings_of_spell hdays h

/-- After a bus there is none, then no reply, and no bus on Tuesday either. -/
theorem told_not_possible_until_tuesday :
    let before := [Commute.visit 0 (.response (.ofItinerary (Commute.bus 0)))]
    let first := Commute.visit 10 (.response .empty)
    let rest := [Commute.visit 20 .timeout, { first with now := Commute.tuesday }]
    (∀ v ∈ first :: rest, v.trip.days = .weekdays) ∧ IsSpell before first rest ∧
      ∃ n : Notification, n.kind = .tripNotPossible ∧
        tellings (stateAfter none before) (first :: rest) =
          [n] :: List.replicate rest.length [] := by
  refine ⟨by decide, ?spell, told_not_possible.2 .weekdays _ _ _ (by decide) ?spell⟩
  refine ⟨⟨none, rfl⟩, fun f hf => ?_, rfl⟩
  obtain rfl : .itinerary (Commute.bus 0) = f := Option.some.inj hf
  rfl

end TripWatch
