import TripWatch.Check.Evaluation

/-!
# The two ends of a trip

Departure and arrival are compared in the same way, each with its own times, baseline and threshold.
Here these are functions of the end, so that what holds of both is said once.

## Main definitions

* `Itinerary.estimated`, `Itinerary.scheduled`, `JourneyState.baseline`, `Preferences.threshold` —
  what is compared at an end
* `comparison` — the comparison of an end with what is remembered
* `Itinerary.retold` — the baseline that a comparison leaves behind

## Main results

* `value_checkDelay`, `fits_checkDelay` — what one comparison comes to, and when
* `value_compareTimes` — what is told of both ends, and the baselines afterwards
* `fst_compareTimes` — the baselines after a comparison, and nothing else changed
* `fits_compareTimes` — both ends can be compared if each can
-/

namespace TripWatch

open Calculation

/-! ### One comparison -/

section CheckDelay

variable (kind : DelayKind) (current scheduled : Instant) (baseline : Option Instant)
  (threshold : UInt32)

theorem value_checkDelay :
    (checkDelay kind current scheduled baseline threshold).value =
      if (current - baseline.getD scheduled).abs = 0 ∨
          (current - baseline.getD scheduled).abs < (thresholdMillis threshold).value then
        (none, baseline.getD scheduled)
      else (some (delayNotification kind current scheduled).value, current) := by
  simp only [checkDelay, value_bind, value_ite]
  rfl

/-- The baseline that is left behind is the one that was compared with, or the estimated time. -/
theorem snd_checkDelay :
    (checkDelay kind current scheduled baseline threshold).value.2 = baseline.getD scheduled ∨
      (checkDelay kind current scheduled baseline threshold).value.2 = current := by
  rw [value_checkDelay]
  split
  · exact .inl rfl
  · exact .inr rfl

theorem isSome_checkDelay :
    (checkDelay kind current scheduled baseline threshold).value.1.isSome ↔
      ¬ ((current - baseline.getD scheduled).abs = 0 ∨
        (current - baseline.getD scheduled).abs < (thresholdMillis threshold).value) := by
  rw [value_checkDelay]
  split
  next h => simp [h]
  next h => simp [h]

/-- A comparison fits if the distance from the baseline does, and where that is told, what is said
of it. -/
theorem fits_checkDelay :
    (checkDelay kind current scheduled baseline threshold).Fits ↔
      ((WordOp.difference current (baseline.getD scheduled)).Fits ∧
        (WordOp.magnitude (current - baseline.getD scheduled)).Fits) ∧
        (thresholdMillis threshold).Fits ∧
        ((checkDelay kind current scheduled baseline threshold).value.1.isSome →
          (delayNotification kind current scheduled).Fits) := by
  rw [isSome_checkDelay, and_assoc]
  simp only [checkDelay, fits_bind, fits_perform, value_perform, WordOp.word_difference,
    WordOp.word_magnitude]
  refine and_congr_right fun _ => and_congr_right fun _ => and_congr_right fun _ => ?_
  by_cases h : (current - baseline.getD scheduled).abs = 0 ∨
      (current - baseline.getD scheduled).abs < (thresholdMillis threshold).value
  · simp [h]
  · simp [h]

end CheckDelay

/-! ### Ends -/

/-- The estimated time of an end. -/
def Itinerary.estimated (i : Itinerary) : DelayKind → Instant
  | .departure => i.startTime
  | .arrival => i.endTime

/-- The scheduled time of an end. -/
def Itinerary.scheduled (i : Itinerary) : DelayKind → Calculation Instant
  | .departure => i.scheduledDeparture
  | .arrival => i.scheduledArrival

/-- The time of an end that the rider was last told. -/
def JourneyState.baseline (s : JourneyState) : DelayKind → Option Instant
  | .departure => s.baselineDeparture
  | .arrival => s.baselineArrival

/-- From how many minutes on a change of an end counts. -/
def Preferences.threshold (p : Preferences) : DelayKind → UInt32
  | .departure => p.departureThreshold
  | .arrival => p.arrivalThreshold

/-- What holds of both ends. -/
theorem forall_kind_iff {P : DelayKind → Prop} :
    (∀ kind, P kind) ↔ P .departure ∧ P .arrival where
  mp h := ⟨h .departure, h .arrival⟩
  mpr h
    | .departure => h.1
    | .arrival => h.2

/-- The comparison of an end of an itinerary with what is remembered. -/
def comparison (p : Preferences) (s : JourneyState) (i : Itinerary) (kind : DelayKind) :
    Calculation (Option Notification × Instant) := do
  let scheduled ← i.scheduled kind
  checkDelay kind (i.estimated kind) scheduled (s.baseline kind) (p.threshold kind)

/-- The baseline that is left behind where an itinerary is found: it is compared with the estimated
time if the rider wants to hear of delays. -/
def Itinerary.retold (i : Itinerary) (p : Preferences) (kind : DelayKind)
    (baseline : Option Instant) : Option Instant :=
  if p.onDelay then
    some (checkDelay kind (i.estimated kind) (i.scheduled kind).value baseline
      (p.threshold kind)).value.2
  else baseline

section Compare

variable {p : Preferences} {s : JourneyState} {i : Itinerary}

theorem compareTimes_of_not_onDelay (h : p.onDelay = false) (s : JourneyState) (i : Itinerary) :
    compareTimes p s i = pure (s, []) := by
  simp [compareTimes, h]

/-- What is told of both ends, and the baselines afterwards. -/
theorem value_compareTimes (h : p.onDelay = true) (s : JourneyState) (i : Itinerary) :
    (compareTimes p s i).value =
      ({ s with
          baselineDeparture := some (comparison p s i .departure).value.2
          baselineArrival := some (comparison p s i .arrival).value.2 },
        (comparison p s i .departure).value.1.toList ++
          (comparison p s i .arrival).value.1.toList) := by
  rw [compareTimes, if_pos h]
  rfl

theorem fst_compareTimes (p : Preferences) (s : JourneyState) (i : Itinerary) :
    (compareTimes p s i).value.1 = { s with
      baselineDeparture := i.retold p .departure s.baselineDeparture
      baselineArrival := i.retold p .arrival s.baselineArrival } := by
  cases h : p.onDelay with
  | false => simp [compareTimes_of_not_onDelay h, Itinerary.retold, h]
  | true =>
    rw [value_compareTimes h, Itinerary.retold, Itinerary.retold, if_pos h, if_pos h]
    rfl

/-- Both ends can be compared if each can. -/
theorem fits_compareTimes :
    (compareTimes p s i).Fits ↔ (p.onDelay = true → ∀ kind, (comparison p s i kind).Fits) := by
  rw [forall_kind_iff, compareTimes]
  split
  next h =>
    simp only [h, comparison, fits_bind, fits_pure, and_true, true_imp_iff, and_assoc]
    rfl
  next h => simp [h]

end Compare

end TripWatch
