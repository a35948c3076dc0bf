import TripWatch.Proofs.Check.Hysteresis
import TripWatch.Proofs.Journey.Target

/-!
# What a check calculates

The times of an itinerary and its delays are what the planner says, baselines are what the store
holds, and none of these is looked at before it is calculated with. So a check may break off
(`Visit.check_eq_overflow_iff`).

## When it does not

A check calculates only where an itinerary is found. Then scheduled times are taken from estimated
ones and delays, and where delays are told, estimated times are compared with baselines, and with
scheduled times if the rider is told (`Itinerary.Calculable`). A baseline is a number from an
earlier check, so it is not enough that each reply of the planner is harmless for itself.

## Modest times

Where all replies have modest times and delays, so have the baselines that are left behind, and no
check of a course breaks off (`Visit.ne_overflow_of_isModest`). The bounds leave room for millions
of years.

## Main definitions

* `Itinerary.delay?`, `Delayable` — the delay at an end, and a time that it can be taken from
* `Itinerary.Calculable` — what is calculated with an itinerary fits
* `Itinerary.IsModest`, `JourneyState.IsModest`, `Visit.IsModest` — modest times

## Main results

* `fits_withoutDelay` — when a delay can be taken from a time
* `fits_recordFound_iff` — when an itinerary can be recorded
* `Visit.check_eq_overflow_iff` — exactly when a check breaks off
* `Itinerary.IsModest.retold_le` — baselines stay modest
* `Visit.ne_overflow_of_isModest` — courses with modest times
-/

namespace TripWatch

open Calculation

/-! ### Scheduled times -/

/-- A time and a delay in seconds of which the time without the delay can be found. -/
def Delayable (time : Instant) (delay : Int64) : Prop :=
  IsWord (delay.toInt * 1000) ∧ IsWord (time.toInt - delay.toInt * 1000)

/-- **Taking a delay from a time** fits exactly if the numbers do. -/
theorem fits_withoutDelay {time : Instant} {delay : Int64} :
    (time.withoutDelay delay).Fits ↔ Delayable time delay := by
  simp only [Instant.withoutDelay, fits_bind, fits_perform, value_perform, WordOp.word_product]
  refine and_congr_right fun h => ?_
  have hmul : (delay * 1000).toInt = delay.toInt * 1000 := WordOp.toInt_mul h
  rw [WordOp.Fits, WordOp.exact, hmul]

theorem Delayable.toInt_withoutDelay {time : Instant} {delay : Int64} (h : Delayable time delay) :
    (time.withoutDelay delay).value.toInt = time.toInt - delay.toInt * 1000 := by
  have hmul : (delay * 1000).toInt = delay.toInt * 1000 := WordOp.toInt_mul h.1
  change (time - delay * 1000).toInt = _
  rw [WordOp.toInt_sub (by rw [hmul]; exact h.2), hmul]

namespace Itinerary

/-- The delay at an end, in seconds; there is none without legs. -/
def delay? (i : Itinerary) : DelayKind → Option Int64
  | .departure => i.legs.head?.map Leg.departureDelay
  | .arrival => i.legs.getLast?.map Leg.arrivalDelay

theorem scheduled_eq (i : Itinerary) (kind : DelayKind) : i.scheduled kind =
    match i.delay? kind with
    | none => return i.estimated kind
    | some delay => (i.estimated kind).withoutDelay delay := by
  cases kind with
  | departure =>
    rw [delay?, scheduled, scheduledDeparture]
    cases i.legs.head? <;> rfl
  | arrival =>
    rw [delay?, scheduled, scheduledArrival]
    cases i.legs.getLast? <;> rfl

/-- The scheduled time of each end can be found. -/
def Schedulable (i : Itinerary) : Prop :=
  ∀ kind, ∀ delay ∈ i.delay? kind, Delayable (i.estimated kind) delay

theorem fits_scheduled {i : Itinerary} {kind : DelayKind} :
    (i.scheduled kind).Fits ↔ ∀ delay ∈ i.delay? kind, Delayable (i.estimated kind) delay := by
  rw [scheduled_eq]
  cases i.delay? kind with
  | none => simp
  | some delay => simpa using fits_withoutDelay

end Itinerary

/-! ### Itineraries -/

/-- What is calculated with an itinerary fits: its scheduled times, and where delays are told the
comparisons with what is remembered. -/
structure Itinerary.Calculable (i : Itinerary) (p : Preferences) (s : JourneyState) : Prop where
  schedulable : i.Schedulable
  near_reference : p.onDelay = true → ∀ kind,
    Comparable (i.estimated kind) ((s.baseline kind).getD (i.scheduled kind).value)
  near_scheduled : p.onDelay = true → ∀ kind,
    (comparison p s i kind).value.1.isSome → Comparable (i.estimated kind) (i.scheduled kind).value

/-- **An itinerary can be recorded** exactly if it can be calculated with. -/
theorem fits_recordFound_iff {s : JourneyState} {t : Trip} {now : Instant} {i : Itinerary} :
    (recordFound s t now i).Fits ↔ i.Calculable t.preferences s := by
  simp only [fits_recordFound, fits_compareTimes, comparison, fits_bind, fits_checkDelay_iff,
    Itinerary.fits_scheduled]
  constructor
  · rintro ⟨htimes, hschedulable⟩
    exact ⟨hschedulable, fun hp kind => (htimes hp kind).2.1, fun hp kind => (htimes hp kind).2.2⟩
  · intro h
    exact ⟨fun hp kind => ⟨h.schedulable kind, h.near_reference hp kind, h.near_scheduled hp kind⟩,
      h.schedulable⟩

/-- **A check breaks off** exactly if it finds an itinerary that cannot be calculated with. -/
theorem Visit.check_eq_overflow_iff {v : Visit} {previous : Option JourneyState} :
    v.check previous = .error .overflow ↔
      ∃ i, v.found? = some (.itinerary i) ∧
        ¬ i.Calculable v.trip.preferences (v.opened previous) := by
  have hfits : ∀ i, (v.record previous (.itinerary i)).Fits ↔
      i.Calculable v.trip.preferences (v.opened previous) := fun i => fits_recordFound_iff
  simp only [← breaksOff_iff, breaksOff, Option.any_eq_true, Bool.not_eq_true',
    decide_eq_false_iff_not]
  constructor
  · rintro ⟨f, hf, hbreaks⟩
    cases f with
    | itinerary i => exact ⟨i, hf, (hfits i).not.mp hbreaks⟩
    | nothing reason => exact absurd (fits_pure _) hbreaks
  · rintro ⟨i, hi, hbreaks⟩
    exact ⟨_, hi, (hfits i).not.mpr hbreaks⟩

/-! ### Modest times -/

namespace Itinerary

/-- Times and delays are not too far from zero. -/
def IsModest (i : Itinerary) : Prop :=
  ∀ kind, |(i.estimated kind).toInt| ≤ 2 ^ 61 ∧
    ∀ delay ∈ i.delay? kind, |delay.toInt * 1000| ≤ 2 ^ 61

variable {i : Itinerary}

theorem IsModest.schedulable (h : i.IsModest) : i.Schedulable := by
  intro kind delay hdelay
  have htime := abs_le.mp (h kind).1
  have hoffset := abs_le.mp ((h kind).2 delay hdelay)
  constructor <;> constructor <;> omega

theorem IsModest.scheduled_le (h : i.IsModest) (kind : DelayKind) :
    |(i.scheduled kind).value.toInt| ≤ 2 ^ 62 := by
  have htime := abs_le.mp (h kind).1
  rw [scheduled_eq, abs_le]
  cases hdelay : i.delay? kind with
  | none =>
    simp only [value_pure]
    omega
  | some delay =>
    have hoffset := abs_le.mp ((h kind).2 delay hdelay)
    simp only [(h.schedulable kind delay hdelay).toInt_withoutDelay]
    omega

end Itinerary

/-- Baselines are not too far from zero. A baseline may be a scheduled time, hence the wider
bound. -/
def JourneyState.IsModest (s : JourneyState) : Prop :=
  ∀ kind, ∀ told ∈ s.baseline kind, |told.toInt| ≤ 2 ^ 62

theorem comparable_of_le {a b : Instant} (ha : |a.toInt| ≤ 2 ^ 61) (hb : |b.toInt| ≤ 2 ^ 62) :
    Comparable a b := by
  rw [abs_le] at ha hb
  rw [Comparable, abs_lt]
  constructor <;> omega

section Modest

variable {i : Itinerary} {s : JourneyState} {previous : Option JourneyState}

theorem reference_le (hi : i.IsModest) {kind : DelayKind} {baseline : Option Instant}
    (hbaseline : ∀ told ∈ baseline, |told.toInt| ≤ 2 ^ 62) :
    |(baseline.getD (i.scheduled kind).value).toInt| ≤ 2 ^ 62 := by
  cases baseline with
  | none => exact hi.scheduled_le kind
  | some told => exact hbaseline told rfl

theorem Itinerary.IsModest.calculable (hi : i.IsModest) (hs : s.IsModest) (p : Preferences) :
    i.Calculable p s where
  schedulable := hi.schedulable
  near_reference _ kind := comparable_of_le (hi kind).1 (reference_le hi (hs kind))
  near_scheduled _ kind _ := comparable_of_le (hi kind).1 (hi.scheduled_le kind)

/-- **Baselines stay modest**: what is told is an estimated time, and what is not told leaves the
baseline or a scheduled time. -/
theorem Itinerary.IsModest.retold_le (hi : i.IsModest) (p : Preferences) {kind : DelayKind}
    {baseline : Option Instant} (hbaseline : ∀ told ∈ baseline, |told.toInt| ≤ 2 ^ 62) :
    ∀ told ∈ i.retold p kind baseline, |told.toInt| ≤ 2 ^ 62 := by
  intro told htold
  rw [retold] at htold
  split at htold
  · obtain rfl := Option.some.inj htold
    rcases snd_checkDelay kind (i.estimated kind) (i.scheduled kind).value baseline
      (p.threshold kind) with hsnd | hsnd
    · rw [hsnd]
      exact reference_le hi hbaseline
    · rw [hsnd]
      exact le_trans (hi kind).1 (by norm_num)
  · exact hbaseline told htold

namespace Visit

variable {v : Visit} {visits : List Visit}

/-- A visit finds nothing with times far from zero. -/
def IsModest (v : Visit) : Prop := ∀ i, v.found? = some (.itinerary i) → i.IsModest

theorem isModest_opened (v : Visit) (h : ∀ s ∈ previous, s.IsModest) :
    (v.opened previous).IsModest := by
  intro kind told htold
  rw [baseline_opened] at htold
  split at htold
  · obtain ⟨s, hs, htold⟩ := Option.bind_eq_some_iff.mp htold
    exact h s hs kind told htold
  · exact absurd htold (Option.not_mem_none told)

theorem isModest_pass (hv : v.IsModest) (h : ∀ s ∈ previous, s.IsModest) :
    ∀ s ∈ (v.pass previous).1, s.IsModest := by
  have hopened := v.isModest_opened h
  cases hfinding : v.finding? previous with
  | none =>
    rw [pass_of_unfinished hfinding]
    exact h
  | some f =>
    rw [pass_of_finding hfinding]
    intro s hs kind
    obtain rfl := Option.some.inj hs
    rw [record, Finding.baseline_record]
    cases f with
    | nothing reason => exact hopened kind
    | itinerary i =>
      exact (hv i (finding?_eq_some_iff.mp hfinding).1).retold_le _ (hopened kind)

theorem isModest_stateAfter (hvisits : ∀ v ∈ visits, v.IsModest)
    (h : ∀ s ∈ previous, s.IsModest) : ∀ s ∈ stateAfter previous visits, s.IsModest := by
  induction visits generalizing previous with
  | nil => exact h
  | cons v rest ih =>
    rw [List.forall_mem_cons] at hvisits
    exact ih hvisits.2 (isModest_pass hvisits.1 h)

/-- **No check of a course breaks off** if what is found is modest. -/
theorem ne_overflow_of_isModest {before : List Visit}
    (hvisits : ∀ w ∈ before ++ [v], w.IsModest) (h : ∀ s ∈ previous, s.IsModest) :
    v.check (stateAfter previous before) ≠ .error .overflow := by
  have hbefore : ∀ s ∈ stateAfter previous before, s.IsModest :=
    isModest_stateAfter (fun w hw => hvisits w (by simp [hw])) h
  rw [Ne, check_eq_overflow_iff]
  rintro ⟨i, hi, hbreaks⟩
  exact hbreaks ((hvisits v (by simp) i hi).calculable (v.isModest_opened hbefore) _)

end Visit

end Modest

end TripWatch
