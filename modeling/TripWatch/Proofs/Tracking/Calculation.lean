import TripWatch.Proofs.Check.Calculation
import TripWatch.Proofs.Itinerary.Numeric
import TripWatch.Proofs.Tracking.Alighting
import TripWatch.Proofs.Tracking.Progress

/-!
# What an answer to a traveler calculates

A position comes with a time of its own, and that time and the times of a leg are calculated with as
they are, up to the wording of the instruction. Where that does not fit there is no answer
(`Locator.fits_result_iff`).

## When it does

Most answers calculate nothing but how far the history goes back, and that stops at the first
instant: written as a calculation it is the same, and fits in any case
(`Journey.positionCalculation`, `Journey.staleCalculation`). Only two instructions do more. A
traveler who waits is told the scheduled departure, how far off it is and how late the vehicle is
(`Leg.Awaitable`). A traveler who has just boarded is told how long the ride is (`Leg.IsSummed`).

Times that are far off are not refused anywhere, so a check may break off and an answer be missing.
At the end both are put together: `word_arithmetic` says when that is so, and `leaves_words` has a
check and an answer.

## Main definitions

* `Journey.positionCalculation`, `Journey.staleCalculation` — how far back, as a calculation
* `activeRide?` — the leg that a traveler is on, if it is ridden
* `Leg.Answerable` — what is told on such a leg fits

## Main results

* `Journey.fits_staleCalculation` — whether a journey is over can always be calculated
* `fits_ride_iff` — when a traveler on a leg that is ridden can be told something
* `Locator.fits_result_iff` — exactly when there is an answer
* `Locator.fits_result_of_isModest` — itineraries with modest times
* `word_arithmetic` — the headline, for checks and answers
-/

namespace TripWatch

open Calculation

/-! ### How far back -/

/-- An instant is before another one if it is before the instant of which the span is taken, as far
as there are instants. -/
theorem isBefore_eq_clamped (t now : Instant) :
    Journey.isBefore t now = decide (t < (WordOp.clampedDifference now 600000).word) := by
  have hspan : (600000 : Int64).toInt = Journey.historySpan := rfl
  have hlimit : Int64.maxValue.toInt = 2 ^ 63 - 1 := rfl
  have hword : (WordOp.clampedDifference now 600000).word.toInt =
      max (now.toInt - Journey.historySpan) Int64.minValue.toInt := by
    have hnow := now.toInt_lt
    rw [WordOp.word, WordOp.toInt_ofIntClamp, hspan, min_eq_left]
    rw [Journey.historySpan, hlimit]
    omega
  rw [Journey.isBefore, ← hword]
  exact decide_eq_decide.mpr Int64.lt_iff_toInt_lt.symm

namespace Journey

/-- Takes in a position. -/
def positionCalculation (j : Journey) (p : Position) : Calculation Journey := do
  let recent := shorten (j.history ++ [p])
  let cutoff ← perform (.clampedDifference p.timestamp 600000)
  return { j with history := recent.dropWhile fun q => decide (q.timestamp < cutoff) }

/-- Whether the journey is over. -/
def staleCalculation (j : Journey) (now : Instant) : Calculation Bool := do
  let cutoff ← perform (.clampedDifference now 600000)
  return (j.history.getLast?.all fun p => decide (p.timestamp < cutoff)) ||
    decide (j.itinerary.endTime < cutoff)

theorem value_positionCalculation (j : Journey) (p : Position) :
    (j.positionCalculation p).value = j.addPosition p := by
  simp only [positionCalculation, addPosition, isBefore_eq_clamped]
  rfl

theorem value_staleCalculation (j : Journey) (now : Instant) :
    (j.staleCalculation now).value = j.isStale now := by
  simp only [staleCalculation, isStale, isBefore_eq_clamped]
  rfl

theorem fits_positionCalculation (j : Journey) (p : Position) :
    (j.positionCalculation p).Fits := by
  simp [positionCalculation, WordOp.fits_clampedDifference]

/-- **Whether a journey is over can always be calculated.** -/
theorem fits_staleCalculation (j : Journey) (now : Instant) : (j.staleCalculation now).Fits := by
  simp [staleCalculation, WordOp.fits_clampedDifference]

end Journey

/-! ### Waiting -/

section Wording

variable {locale : Locale}

/-- The wording of the instruction to wait fits if the time until the scheduled departure and the
distance of the expected one from it do. -/
theorem Wait.fits_render {w : Wait} :
    (w.render locale).Fits ↔ IsWord (w.scheduledDeparture.toInt - w.now.toInt) ∧
      Comparable w.expectedDeparture w.scheduledDeparture := by
  rw [← fits_distance_iff]
  simp only [render, minutesUntilDeparture, status, fits_bind, fits_perform, fits_pure, and_true]
  rfl

/-- Nothing is calculated on a leg along streets. -/
theorem fits_wording_street (leg : Leg) (isFinal : Bool) (cursor : Cursor) (here : Coordinates)
    (s : GuideSettings) :
    (Instruction.wording (some (streetInstruction leg isFinal cursor here s).1) locale).Fits := by
  rw [streetInstruction]
  split_ifs
  · cases locale <;> exact fits_pure _
  · cases leg.steps[cursor.step]? <;> exact fits_pure _

end Wording

/-! ### Legs -/

/-- The leg that a traveler is on, if it is ridden. -/
def activeRide? (i : Itinerary) (now : Instant) : Option Leg :=
  ((activeLeg? i.legs now).bind fun index => i.legs[index]?).filter Leg.isTransit

/-- The leg's ride is told with how long it is. -/
def Leg.IsSummed (l : Leg) (here : Coordinates) (now : Instant) (s : GuideSettings) : Prop :=
  ∃ duration stops place,
    (rideInstruction? l here now s).value = some (.rideSummary duration stops place)

/-- What a traveler is told who waits at the beginning of a leg fits: the scheduled departure, how
far off it is, and how late the vehicle is. -/
structure Leg.Awaitable (l : Leg) (now : Instant) : Prop where
  delayable : Delayable l.startTime l.departureDelay
  ahead : IsWord (l.startTime.toInt - l.departureDelay.toInt * 1000 - now.toInt)
  late : |l.departureDelay.toInt * 1000| < 2 ^ 63

/-- What a traveler is told on a leg that is ridden fits: what there is to wait for, and how long
the ride is. -/
structure Leg.Answerable (l : Leg) (here : Coordinates) (now : Instant) (s : GuideSettings) :
    Prop where
  awaitable : now < l.startTime → l.Awaitable now
  summed : l.IsSummed here now s → IsWord (l.endTime.toInt - l.startTime.toInt)

section Ride

variable {leg : Leg} {here : Coordinates} {now : Instant} {s : GuideSettings} {locale : Locale}

/-- The instruction to wait, with its wording. -/
theorem fits_await_iff :
    (leg.scheduledStart >>= fun scheduled =>
        Wait.render ⟨leg.routeLabel, scheduled, leg.startTime, now, s.zone⟩ locale).Fits ↔
      leg.Awaitable now := by
  rw [fits_bind, Leg.scheduledStart, fits_withoutDelay, Wait.fits_render, Comparable]
  constructor
  · rintro ⟨hdelay, hahead, hlate⟩
    rw [hdelay.toInt_withoutDelay] at hahead hlate
    exact ⟨hdelay, hahead, by rwa [sub_sub_cancel] at hlate⟩
  · rintro ⟨hdelay, hahead, hlate⟩
    rw [hdelay.toInt_withoutDelay, sub_sub_cancel]
    exact ⟨hdelay, hahead, hlate⟩

/-- Of what is said at a stop, only how long the ride is takes a calculation. -/
theorem fits_rideInstructionAt {nearest : Nat} :
    (rideInstructionAt leg nearest).Fits ↔
      ((∃ duration stops place,
          (rideInstructionAt leg nearest).value = some (.rideSummary duration stops place)) →
        IsWord (leg.endTime.toInt - leg.startTime.toInt)) := by
  simp only [rideInstructionAt]
  split_ifs <;> simp [Leg.fits_durationSecs]

theorem fits_wording_rideInstructionAt {nearest : Nat} :
    (Instruction.wording (rideInstructionAt leg nearest).value locale).Fits := by
  simp only [rideInstructionAt]
  split_ifs <;> exact fits_pure _

/-- **The instruction on a leg that is ridden**, with its wording. -/
theorem fits_ride_iff :
    (rideInstruction? leg here now s >>= fun told? => Instruction.wording told? locale).Fits ↔
      leg.Answerable here now s := by
  unfold rideInstruction?
  split_ifs with hwait hnear
  · have hsummed : ¬ leg.IsSummed here now s := by simp [Leg.IsSummed, rideInstruction?, hwait]
    refine fits_await_iff.trans ⟨fun h => ⟨fun _ => h, fun hsum => absurd hsum hsummed⟩, ?_⟩
    exact fun h => h.awaitable hwait
  · have hsummed : ¬ leg.IsSummed here now s := by
      simp [Leg.IsSummed, rideInstruction?, hwait, hnear]
    exact iff_of_true (by simp [Instruction.wording, Instruction.render])
      ⟨fun h => absurd h hwait, fun hsum => absurd hsum hsummed⟩
  · cases hnearest : nearestIndex? (leg.stops.map here.distance) with
    | none =>
      have hsummed : ¬ leg.IsSummed here now s := by
        simp [Leg.IsSummed, rideInstruction?, hwait, hnear, hnearest]
      exact iff_of_true (by simp [Instruction.wording])
        ⟨fun h => absurd h hwait, fun hsum => absurd hsum hsummed⟩
    | some nearest =>
      have hsummed : leg.IsSummed here now s ↔ ∃ duration stops place,
          (rideInstructionAt leg nearest).value = some (.rideSummary duration stops place) := by
        simp [Leg.IsSummed, rideInstruction?, hwait, hnear, hnearest]
      rw [fits_bind, and_iff_left fits_wording_rideInstructionAt, fits_rideInstructionAt,
        ← hsummed]
      exact ⟨fun h => ⟨fun hlt => absurd hlt hwait, h⟩, fun h => h.summed⟩

/-- **What a traveler is told**, with its wording. -/
theorem fits_guide_iff (i : Itinerary) (cursor : Cursor) (here : Coordinates) (now : Instant)
    (s : GuideSettings) (locale : Locale) :
    ((guide i cursor here now s).1 >>= fun told? => Instruction.wording told? locale).Fits ↔
      ∀ leg ∈ activeRide? i now, leg.Answerable here now s := by
  unfold guide activeRide?
  cases activeLeg? i.legs now with
  | none => simp [Instruction.wording]
  | some index =>
    simp only [Option.bind_some]
    cases i.legs[index]? with
    | none => simp [Instruction.wording]
    | some leg =>
      cases htransit : leg.isTransit with
      | true => simp only [htransit, if_true, fits_ride_iff]; simp [htransit]
      | false => simp [htransit, fits_wording_street]

end Ride

/-! ### Answers -/

namespace Locator

variable {l : Locator} {j : Journey} {p : Position} {locale : Locale}

theorem itinerary_fireOnMovement (l : Locator) (j : Journey) :
    (l.fireOnMovement j).2.itinerary = j.itinerary := by
  rw [fireOnMovement_eq]

/-- **An answer comes to its value** exactly if the leg that the traveler is on is not ridden or can
be answered for. -/
theorem fits_result_iff :
    (l.locate j p locale).result.Fits ↔
      ∀ leg ∈ activeRide? j.itinerary p.timestamp,
        leg.Answerable p.coordinates p.timestamp l.settings := by
  have hitinerary : (l.fireOnMovement (j.addPosition p)).2.itinerary = j.itinerary :=
    itinerary_fireOnMovement l (j.addPosition p)
  rw [← hitinerary, ← fits_guide_iff _ (l.fireOnMovement (j.addPosition p)).2.cursor _ _ _ locale]
  simp only [locate, fits_bind, fits_pure, and_true]

end Locator

/-! ### Modest times -/

/-- The times and the delay of a leg are not too far from zero. -/
structure Leg.IsModest (l : Leg) : Prop where
  start_le : |l.startTime.toInt| ≤ 2 ^ 61
  end_le : |l.endTime.toInt| ≤ 2 ^ 61
  delay_le : |l.departureDelay.toInt * 1000| ≤ 2 ^ 61

theorem Leg.IsModest.answerable {l : Leg} (h : l.IsModest) {now : Instant}
    (hnow : |now.toInt| ≤ 2 ^ 61) (here : Coordinates) (s : GuideSettings) :
    l.Answerable here now s := by
  obtain ⟨hstart, hend, hdelay⟩ := h
  rw [abs_le] at hstart hend hdelay hnow
  have hlate : |l.departureDelay.toInt * 1000| < 2 ^ 63 := abs_lt.mpr (by omega)
  refine ⟨fun _ => ⟨⟨?_, ?_⟩, ?_, hlate⟩, fun _ => ?_⟩ <;> rw [IsWord] <;> omega

/-- Legs that are equal by value have the same times. -/
theorem Leg.IsModest.of_beq {l l' : Leg} (h : l'.IsModest) (hsame : (l == l') = true) :
    l.IsModest := by
  change instBEqLeg.beq l l' = true at hsame
  simp only [instBEqLeg.beq, Bool.and_eq_true, beq_iff_eq] at hsame
  obtain ⟨-, -, -, -, -, -, -, hstart, hend, hdelay, -⟩ := hsame
  exact ⟨hstart ▸ h.start_le, hend ▸ h.end_le, hdelay ▸ h.delay_le⟩

theorem isModest_legs_of_beq {i i' : Itinerary} (hsame : (i == i') = true)
    (h : ∀ leg ∈ i'.legs, leg.IsModest) : ∀ leg ∈ i.legs, leg.IsModest := by
  change instBEqItinerary.beq i i' = true at hsame
  simp only [instBEqItinerary.beq, Bool.and_eq_true, beq_iff_eq] at hsame
  exact forall_of_beq (fun _ _ hleg hmodest => hmodest.of_beq hleg) hsame.2.2 h

theorem mem_legs_of_activeRide? {i : Itinerary} {now : Instant} {leg : Leg}
    (h : activeRide? i now = some leg) : leg ∈ i.legs := by
  obtain ⟨hleg, -⟩ := Option.filter_eq_some_iff.mp h
  obtain ⟨index, -, hindex⟩ := Option.bind_eq_some_iff.mp hleg
  exact List.mem_of_getElem? hindex

/-- **Answers are given** on an itinerary with modest times, at modest times. -/
theorem Locator.fits_result_of_isModest {l : Locator} {j : Journey} {p : Position}
    {locale : Locale} (hlegs : ∀ leg ∈ j.itinerary.legs, leg.IsModest)
    (htime : |p.timestamp.toInt| ≤ 2 ^ 61) : (l.locate j p locale).result.Fits :=
  fits_result_iff.mpr fun leg hleg =>
    (hlegs leg (mem_legs_of_activeRide? hleg)).answerable htime _ _

/-! ### Checks and answers -/

/-- **When the arithmetic of checks and answers stays within words.** A check, anywhere in a course,
breaks off exactly if it finds an itinerary that cannot be calculated with: the delay at each end is
taken from the estimated time, and where delays are told, the estimated time is compared with the
baseline, or the scheduled time if there is none, and if it is told also with the scheduled time. An
answer is missing exactly if the traveler is on a leg that is ridden where what is said of waiting
or of the length of the ride cannot be calculated. How far the history goes back and whether a
journey is over can always be calculated, since that stops at the first instant. Where times and
delays are modest no check of a course breaks off, baselines included, and no answer is missing. -/
theorem word_arithmetic (previous : Option JourneyState) (before : List Visit) (v : Visit)
    (l : Locator) (j : Journey) (p : Position) (locale : Locale) (now : Instant) :
    (v.check (stateAfter previous before) = .error .overflow ↔
      ∃ i, v.found? = some (.itinerary i) ∧
        ¬ i.Calculable v.trip.preferences (v.opened (stateAfter previous before))) ∧
    ((l.locate j p locale).result.run? = none ↔
      ∃ leg ∈ activeRide? j.itinerary p.timestamp,
        ¬ leg.Answerable p.coordinates p.timestamp l.settings) ∧
    ((j.positionCalculation p).value = j.addPosition p ∧ (j.positionCalculation p).Fits) ∧
    ((j.staleCalculation now).value = j.isStale now ∧ (j.staleCalculation now).Fits) ∧
    ((∀ s ∈ previous, s.IsModest) → (∀ w ∈ before ++ [v], w.IsModest) →
      v.check (stateAfter previous before) ≠ .error .overflow) ∧
    ((∀ leg ∈ j.itinerary.legs, leg.IsModest) → |p.timestamp.toInt| ≤ 2 ^ 61 →
      (l.locate j p locale).result.run? ≠ none) := by
  refine ⟨Visit.check_eq_overflow_iff, ?_,
    ⟨j.value_positionCalculation p, j.fits_positionCalculation p⟩,
    ⟨j.value_staleCalculation now, j.fits_staleCalculation now⟩,
    fun hprevious hvisits => Visit.ne_overflow_of_isModest hvisits hprevious,
    fun hlegs htime hnone => ?_⟩
  · rw [run?_eq_none_iff, Locator.fits_result_iff]
    push Not
    rfl
  · exact run?_eq_none_iff.mp hnone (Locator.fits_result_of_isModest hlegs htime)

/-- Travelers in universal time, without actions on the way. -/
def Commute.locator : Locator := ⟨⟨.standard, .zero, .zero, ⟨"UTC", .fixed 0⟩⟩, []⟩

/-- The commute with a late bus, checked twice, and a traveler who waits for it. -/
theorem word_arithmetic_commute :
    let found := Commute.visit 0 (.response (.ofItinerary (Commute.bus 10)))
    let journey := Journey.new "commute" "rider" (Commute.bus 10)
    let here : Position := ⟨.zero, .zero, (Commute.monday 0).instant⟩
    (∀ w ∈ [found, found], w.IsModest) ∧ found.check (stateAfter none [found]) ≠ .error .overflow ∧
      (∀ leg ∈ journey.itinerary.legs, leg.IsModest) ∧
      (Commute.locator.locate journey here .english).result.run? ≠ none := by
  intro found journey here
  have hmodest : found.IsModest := by
    intro i hi
    have hfound : findOn found.limit found.planner found.trip found.date? =
        .ok (.itinerary (Commute.bus 10)) := rfl
    simp only [Visit.found?, hfound, Option.ite_none_left_eq_some, Option.some.injEq,
      Finding.itinerary.injEq] at hi
    obtain rfl := hi.2
    intro kind
    cases kind with
    | departure => exact ⟨by decide, fun delay h => Option.some.inj h ▸ by decide⟩
    | arrival => exact ⟨by decide, fun delay h => Option.some.inj h ▸ by decide⟩
  have hall : ∀ w ∈ [found, found], w.IsModest := by simp [hmodest]
  have hlegs : ∀ leg ∈ journey.itinerary.legs, leg.IsModest := by
    intro leg hleg
    obtain rfl := List.mem_singleton.mp hleg
    exact ⟨by decide, by decide, by decide⟩
  obtain ⟨-, -, -, -, hcheck, hanswer⟩ := word_arithmetic none [found] found Commute.locator
    journey here .english (Commute.monday 0).instant
  exact ⟨hall, hcheck (by simp) hall, hlegs, hanswer hlegs (by decide)⟩

/-- **The arithmetic of checks and answers may leave words.** The distance of a baseline that is far
off is no word: the check breaks off, nothing is recorded and nothing is told. The time until a
departure is none at the first of all instants, and there is no answer. -/
theorem leaves_words :
    let v := Commute.visit 0 (.response (.ofItinerary (Commute.bus 0)))
    let journey := Journey.new "commute" "rider" (Commute.bus 0)
    let here : Position := ⟨.zero, .zero, Int64.minValue⟩
    v.check (some Commute.toldLongAgo) = .error .overflow ∧
      v.pass (some Commute.toldLongAgo) = (some Commute.toldLongAgo, []) ∧
      (Commute.locator.locate journey here .english).result.run? = none := by
  intro v journey here
  have hbreaks : v.breaksOff (some Commute.toldLongAgo) = true := by decide
  exact ⟨Visit.breaksOff_iff.mp hbreaks,
    Visit.pass_of_unfinished (by rw [Visit.finding?_eq, hbreaks, if_pos rfl]), by decide⟩

end TripWatch
