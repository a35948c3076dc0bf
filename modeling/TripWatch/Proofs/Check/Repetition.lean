import TripWatch.Proofs.Check.Finding

/-!
# A check that is repeated

A check that finds what the check before it found has nothing to say. Four comparisons have to agree
on that: alerts are compared with the itinerary before, the two times with baselines that move only
when they are told, legs with the itinerary before, and a status without itinerary with the status
before. Each of them is at rest after one step, from any state and for any thresholds, so the state
after a check is at rest as a whole: `Finding.record_record`.

## Main results

* `checkDelay_checkDelay` — a baseline that an estimated time was compared with stays
* `Finding.record_record` — a finding recorded a second time tells nothing
* `Finding.fits_record_record` — and it can be recorded
* `check_check` — a check repeated at another time on the same date tells nothing
-/

namespace TripWatch

open Calculation

/-! ### The four comparisons at rest -/

theorem unseenAlerts_self (alerts : List Alert) : unseenAlerts alerts alerts = [] := by
  simp [unseenAlerts]

theorem alertNotification?_self (i : Itinerary) : alertNotification? (some i) i = none := by
  simp [alertNotification?, unseenAlerts_self]

theorem shapeNotification?_self (i : Itinerary) : shapeNotification? (some i) i = none := by
  simp [shapeNotification?]

section CheckDelay

variable (kind : DelayKind) (current scheduled : Instant) (baseline : Option Instant)
  (threshold : UInt32)

/-- An estimated time that was compared with a baseline is at rest with the baseline that this left
behind. Either it became the baseline itself, or it was too near to the old one and still is. -/
theorem checkDelay_checkDelay :
    (checkDelay kind current scheduled
        (some (checkDelay kind current scheduled baseline threshold).value.2) threshold).value =
      (none, (checkDelay kind current scheduled baseline threshold).value.2) := by
  have hself : (current - current).abs = 0 := by rw [Int64.sub_self]; rfl
  by_cases h : (current - baseline.getD scheduled).abs = 0 ∨
      (current - baseline.getD scheduled).abs < (thresholdMillis threshold).value
  · simp only [value_checkDelay, if_pos h, Option.getD_some]
  · simp only [value_checkDelay, if_neg h, Option.getD_some, hself, true_or, if_true]

/-- The distance of an instant from itself fits. -/
theorem fits_self (a : Instant) :
    (WordOp.difference a a).Fits ∧ (WordOp.magnitude (a - a)).Fits := by
  rw [Int64.sub_self]
  refine ⟨?_, by decide⟩
  rw [WordOp.Fits, WordOp.exact, Int.sub_self]
  decide

/-- Where a first comparison fits, so does the second: it has the same distance, or none. -/
theorem fits_checkDelay_checkDelay
    (h : (checkDelay kind current scheduled baseline threshold).Fits) :
    (checkDelay kind current scheduled
      (some (checkDelay kind current scheduled baseline threshold).value.2) threshold).Fits := by
  rw [fits_checkDelay] at h
  rw [fits_checkDelay, checkDelay_checkDelay]
  refine ⟨?_, h.2.1, fun hsome => nomatch hsome⟩
  rcases snd_checkDelay kind current scheduled baseline threshold with hkept | htold
  · rw [hkept]
    exact h.1
  · rw [htold]
    exact fits_self current

end CheckDelay

section Itinerary

variable {p : Preferences} {s s' : JourneyState} {i : Itinerary}

/-- Times compared once more, in a state with the baselines that the first comparison left. -/
theorem compareTimes_compareTimes
    (hbaseline : ∀ kind, s'.baseline kind = i.retold p kind (s.baseline kind)) :
    (compareTimes p s' i).value = (s', []) := by
  cases honDelay : p.onDelay with
  | false => rw [compareTimes_of_not_onDelay honDelay, value_pure]
  | true =>
    have hagain : ∀ kind, ∃ told, s'.baseline kind = some told ∧
        (comparison p s' i kind).value = (none, told) := by
      intro kind
      have hkind := hbaseline kind
      rw [Itinerary.retold, if_pos honDelay] at hkind
      refine ⟨_, hkind, ?_⟩
      rw [comparison, value_bind, hkind, checkDelay_checkDelay]
    obtain ⟨departure, hdeparture, hsilent⟩ := hagain .departure
    obtain ⟨arrival, harrival, hsilent'⟩ := hagain .arrival
    rw [value_compareTimes honDelay, hsilent, hsilent']
    simp only [Option.toList_none, List.append_nil, ← hdeparture, ← harrival]
    rfl

theorem fits_compareTimes_compareTimes (hfits : (compareTimes p s i).Fits)
    (hbaseline : ∀ kind, s'.baseline kind = i.retold p kind (s.baseline kind)) :
    (compareTimes p s' i).Fits := by
  rw [fits_compareTimes] at hfits ⊢
  intro honDelay kind
  have hkind := hbaseline kind
  rw [Itinerary.retold, if_pos honDelay] at hkind
  have hfirst := hfits honDelay kind
  rw [comparison, fits_bind] at hfirst ⊢
  refine ⟨hfirst.1, ?_⟩
  rw [hkind]
  exact fits_checkDelay_checkDelay _ _ _ _ _ hfirst.2

theorem compareItinerary_again (hi : s.matchingItinerary = some i)
    (ht : (compareTimes p s i).value = (s, [])) :
    (compareItinerary p s i).value = (s, []) := by
  simp [compareItinerary, hi, ht, alertNotification?_self, shapeNotification?_self]

end Itinerary

/-! ### Recording again -/

/-- The baselines of a state in which an itinerary was recorded are those that it left behind. -/
theorem baseline_recordFound (s : JourneyState) (t : Trip) (now : Instant) (i : Itinerary)
    (kind : DelayKind) :
    (recordFound s t now i).value.1.baseline kind =
      i.retold t.preferences kind (s.baseline kind) :=
  Finding.baseline_record t now s (.itinerary i) kind

/-- **A finding recorded a second time tells nothing**, and changes nothing but the time of the
check, the status at that time and the list of what was told. -/
theorem Finding.record_record (t : Trip) (now now' : Instant) (s : JourneyState) (f : Finding) :
    (f.record t now' (f.record t now s).value.1).value =
      ({ (f.record t now s).value.1 with
          lastChecked := some now'
          status := some (.classify now' f.itinerary? t.days)
          lastNotifications := [] }, []) := by
  cases f with
  | itinerary i =>
    have hfields := fst_recordFound s t now i
    have hrest : (compareItinerary t.preferences (recordFound s t now i).value.1 i).value =
        ((recordFound s t now i).value.1, []) :=
      compareItinerary_again (by rw [hfields])
        (compareTimes_compareTimes (baseline_recordFound s t now i))
    simp only [record, itinerary?]
    rw [recordFound, value_bind, hrest]
    rw [hfields]
    rfl
  | nothing reason =>
    simp [record, itinerary?, recordNotPossible, TripStatus.classify]

/-- What can be recorded once can be recorded again. -/
theorem Finding.fits_record_record {t : Trip} {now : Instant} {s : JourneyState} {f : Finding}
    (h : (f.record t now s).Fits) (now' : Instant) :
    (f.record t now' (f.record t now s).value.1).Fits := by
  cases f with
  | itinerary i =>
    rw [record, fits_recordFound] at h ⊢
    exact ⟨fits_compareTimes_compareTimes h.1 (baseline_recordFound s t now i), h.2⟩
  | nothing reason => exact fits_pure _

/-! ### Checking again -/

/-- **A check repeated on the same date tells nothing.** Whatever was remembered before, once a
check has been completed, a second one that goes on from its state and gets the same reply finds the
same, tells nothing, and leaves all as it is but the time of the check, the status at that time and
the list of what was told. -/
theorem check_check {limit : Nat} {planner planner' : PlanRequest → PlannerReply} {t : Trip}
    {previous : Option JourneyState} {now now' : LocalTime} {state : JourneyState}
    {ns : List Notification}
    (first : check limit planner t previous now = .ok (.checked state ns))
    (sameDate : t.days.next? now'.date = t.days.next? now.date)
    (sameReply : ∀ date, t.days.next? now.date = some date →
      planner' (.ofTrip t date) = planner (.ofTrip t date))
    (due : shouldSkip t now' = false) :
    ∃ f, findOn limit planner t (t.days.next? now.date) = .ok f ∧
      state.status = some (.classify now.instant f.itinerary? t.days) ∧
      check limit planner' t (some state) now' = .ok (.checked
        { state with
          lastChecked := some now'.instant
          status := some (.classify now'.instant f.itinerary? t.days)
          lastNotifications := [] } []) := by
  obtain ⟨-, f, hfind, hrec⟩ := check_eq_checked_iff.mp first
  obtain ⟨hfits, hvalue⟩ := run?_eq_some_iff.mp hrec
  obtain rfl : (f.record t now.instant _).value.1 = state := congrArg Prod.fst hvalue
  refine ⟨f, hfind, Finding.status_record .., check_eq_checked_iff.mpr ⟨due, f, ?_, ?_⟩⟩
  · rw [sameDate, ← hfind]
    cases hdate : t.days.next? now.date with
    | none => rfl
    | some date => rw [findOn, findOn, sameReply date hdate]
  · rw [sameDate, Option.getD_some, JourneyState.movedTo_eq_self]
    · rw [run?_of_fits (Finding.fits_record_record hfits _), Finding.record_record]
    · intro date hdate
      rw [Finding.targetDate_record, hdate, JourneyState.movedTo, JourneyState.targetDate_rollOver]

/-- A bus ten minutes late with a notice is told of at seven, and not again twenty minutes later. -/
theorem check_check_late_bus :
    let planner : PlanRequest → PlannerReply := fun _ => .response (.ofItinerary (Commute.bus 10))
    let first := ((Finding.itinerary (Commute.bus 10)).record Commute.trip
      (Commute.monday 0).instant
      ((JourneyState.new "commute").rollOver (Commute.monday 0).date)).value
    check 200 planner Commute.trip none (Commute.monday 0) = .ok (.checked first.1 first.2) ∧
      first.2.map Notification.kind = [.alert, .departureDelay, .arrivalDelay] ∧
      ∃ f, findOn 200 planner Commute.trip (some (Commute.monday 0).date) = .ok f ∧
        first.1.status = some (.classify (Commute.monday 0).instant f.itinerary? .weekdays) ∧
        check 200 planner Commute.trip (some first.1) (Commute.monday 20) = .ok (.checked
          { first.1 with
            lastChecked := some (Commute.monday 20).instant
            status := some (.classify (Commute.monday 20).instant f.itinerary? .weekdays)
            lastNotifications := [] } []) := by
  intro planner first
  have hfirst : check 200 planner Commute.trip none (Commute.monday 0) =
      .ok (.checked first.1 first.2) :=
    check_eq_checked_iff.mpr ⟨by decide, .itinerary (Commute.bus 10), rfl, run?_of_fits (by decide)⟩
  exact ⟨hfirst, by decide, check_check hfirst rfl (fun _ _ => rfl) (by decide)⟩

end TripWatch
