import Mathlib.Data.List.Basic
import TripWatch.Proofs.Geo.Nearest
import TripWatch.Tracking.Guide

/-!
# Prompts to alight

A rider is told to leave the vehicle in stages: soon, at the next stop, here. Which stage it is
depends on the stop that is nearest, counted from the end of the leg, and on the alighting radius,
which comes first. So on the way from stop to stop the stages come in this order, however many stops
there are: with three stops or fewer a rider who boards is at once told to prepare, and with four or
more the ride is summed up first and then nothing is said for a while.

## Counting from the end

The stage is found by a subtraction from the number of stops. It does not go below zero because the
nearest stop is one of them (`nearestIndex?_eq_some_iff`), and so every statement here is about an
index `k` with `k + 1`, `k + 2` or `k + 3` stops instead of a difference.

## Main definitions

* `Leg.stopDistance`, `Leg.IsNearestStop` — the nearest stop, the earlier one of two at a tie
* `alightingUrgency` — the stages in order
* `Leg.Escalates` — what is told on the way from stop to stop
* `Leg.endless` — a ride whose length cannot be calculated

## Main results

* `nearestIndex?_eq_some_iff` — the nearest index is that of the first least distance
* `rideInstruction?_of_isNearestStop` — outside the alighting radius the nearest stop decides
* `alighting_prompts` — the headline
-/

namespace TripWatch

/-! ### The index of the nearest stop -/

/-- The first item at the least distance, by its index. -/
theorem firstLeast_iff_getElem? {α : Type} {distance : α → Double} {items : List α} {a : α} :
    FirstLeast distance items a ↔ ∃ k : Nat, items[k]? = some a ∧
      (∀ j b, j < k → items[j]? = some b → (distance a).Precedes (distance b)) ∧
      ∀ j b, k < j → items[j]? = some b → ¬ (distance b).Precedes (distance a) := by
  constructor
  · rintro ⟨before, after, rfl, hbefore, hafter⟩
    refine ⟨before.length, by simp, fun j b hj hb => ?_, fun j b hj hb => ?_⟩
    · rw [List.getElem?_append_left hj] at hb
      exact hbefore b (List.mem_of_getElem? hb)
    · rw [List.getElem?_append_right (by omega), List.getElem?_cons, if_neg (by omega)] at hb
      exact hafter b (List.mem_of_getElem? hb)
  · rintro ⟨k, hk, hbefore, hafter⟩
    obtain ⟨hlt, rfl⟩ := List.getElem?_eq_some_iff.mp hk
    refine ⟨items.take k, items.drop (k + 1), by simp, fun b hb => ?_, fun b hb => ?_⟩
    · obtain ⟨j, hj, rfl⟩ := List.mem_take_iff_getElem.mp hb
      exact hbefore j _ (by omega) (List.getElem?_eq_getElem (by omega))
    · obtain ⟨j, hj, rfl⟩ := List.mem_drop_iff_getElem.mp hb
      exact hafter (k + 1 + j) _ (by omega) (List.getElem?_eq_getElem (by omega))

/-- The nearest index is that of the first least distance. -/
theorem nearestIndex?_eq_some_iff {distances : List Double} {k : Nat} :
    nearestIndex? distances = some k ↔ ∃ d, distances[k]? = some d ∧
      (∀ j e, j < k → distances[j]? = some e → d.Precedes e) ∧
      ∀ j e, k < j → distances[j]? = some e → ¬ e.Precedes d := by
  have hitem : ∀ (j : Nat) (item : Double × Nat), distances.zipIdx[j]? = some item ↔
      distances[j]? = some item.1 ∧ item.2 = j := by
    rintro j ⟨e, i⟩
    cases hd : distances[j]? <;> simp [List.getElem?_zipIdx, hd, eq_comm]
  rw [nearestIndex?, Option.map_eq_some_iff]
  simp only [nearestBy?_eq_some_iff, firstLeast_iff_getElem?, hitem]
  constructor
  · rintro ⟨⟨d, i⟩, ⟨k', ⟨hd, rfl⟩, hbefore, hafter⟩, rfl⟩
    exact ⟨d, hd, fun j e hj he => hbefore j (e, j) hj ⟨he, rfl⟩,
      fun j e hj he => hafter j (e, j) hj ⟨he, rfl⟩⟩
  · rintro ⟨d, hd, hbefore, hafter⟩
    exact ⟨(d, k), ⟨k, ⟨hd, rfl⟩, fun j item hj h => hbefore j item.1 hj h.1,
      fun j item hj h => hafter j item.1 hj h.1⟩, rfl⟩

namespace Leg

/-- How long a leg is can be calculated if the span of its times is a word. -/
theorem fits_durationSecs {l : Leg} :
    l.durationSecs.Fits ↔ IsWord (l.endTime.toInt - l.startTime.toInt) := by
  simp only [durationSecs, Calculation.fits_bind, Calculation.fits_perform, Calculation.fits_pure,
    and_true]
  rfl

variable {leg : Leg} {here : Coordinates} {k k' : Fin leg.stops.length}

theorem length_stops (leg : Leg) : leg.stops.length = leg.intermediateStops.length + 2 := by
  simp [stops]

/-- How far a stop is from a place. -/
def stopDistance (leg : Leg) (here : Coordinates) (k : Fin leg.stops.length) : Double :=
  here.distance leg.stops[k]

/-- A stop is the nearest one to a place: no stop is nearer, and those before it are farther. -/
structure IsNearestStop (leg : Leg) (here : Coordinates) (k : Fin leg.stops.length) : Prop where
  /-- Earlier stops are farther. -/
  before : ∀ j, j < k → (leg.stopDistance here k).Precedes (leg.stopDistance here j)
  /-- Later stops are not nearer. -/
  after : ∀ j, k < j → ¬ (leg.stopDistance here j).Precedes (leg.stopDistance here k)

theorem isNearestStop_iff :
    leg.IsNearestStop here k ↔ nearestIndex? (leg.stops.map here.distance) = some k.val := by
  have hstop : ∀ (j : Fin leg.stops.length),
      (leg.stops.map here.distance)[j.val]? = some (leg.stopDistance here j) := fun j => by
    simp [stopDistance]
  rw [nearestIndex?_eq_some_iff]
  constructor
  · intro h
    refine ⟨_, hstop k, fun j e hj he => ?_, fun j e hj he => ?_⟩
    · have hlt : j < leg.stops.length := by omega
      rw [hstop ⟨j, hlt⟩, Option.some.injEq] at he
      exact he ▸ h.before ⟨j, hlt⟩ hj
    · have hlt : j < leg.stops.length := by
        simpa using (List.getElem?_eq_some_iff.mp he).1
      rw [hstop ⟨j, hlt⟩, Option.some.injEq] at he
      exact he ▸ h.after ⟨j, hlt⟩ hj
  · rintro ⟨d, hd, hbefore, hafter⟩
    rw [hstop k, Option.some.injEq] at hd
    subst hd
    exact ⟨fun j hj => hbefore j _ hj (hstop j), fun j hj => hafter j _ hj (hstop j)⟩

/-- A stop that is nearer than every other one is the nearest. -/
theorem isNearestStop_of_forall_ne
    (h : ∀ j, j ≠ k → (leg.stopDistance here k).Precedes (leg.stopDistance here j)) :
    leg.IsNearestStop here k :=
  ⟨fun j hj => h j (Fin.ne_of_lt hj), fun j hj => (h j (Fin.ne_of_gt hj)).not_precedes⟩

/-- Every place has one nearest stop. -/
theorem existsUnique_isNearestStop (leg : Leg) (here : Coordinates) :
    ∃! k, leg.IsNearestStop here k := by
  have hsome : nearestIndex? (leg.stops.map here.distance) ≠ none := by
    simp [nearestIndex?, nearestBy?_eq_none_iff, stops]
  obtain ⟨k, hk⟩ := Option.ne_none_iff_exists'.mp hsome
  have hlt : k < leg.stops.length := by
    obtain ⟨d, hd, -⟩ := nearestIndex?_eq_some_iff.mp hk
    simpa using (List.getElem?_eq_some_iff.mp hd).1
  refine ⟨⟨k, hlt⟩, isNearestStop_iff.mpr hk, fun k' hk' => Fin.ext ?_⟩
  exact Option.some.inj ((isNearestStop_iff.mp hk').symm.trans hk)

end Leg

/-! ### What the nearest stop decides -/

/-- How urgent it is to leave the vehicle. At first there is nothing to say, or the ride is summed
up; then it is soon, then the next stop, then here. -/
def alightingUrgency : Option Instruction → Nat
  | some (.getOff .soon _) => 1
  | some (.getOff .nextStop _) => 2
  | some (.getOff .here _) => 3
  | _ => 0

section Prompts

variable {leg : Leg} {here : Coordinates} {now : Instant} {s : GuideSettings}
  {k : Fin leg.stops.length}

/-- Within the alighting radius the rider is told to get off. -/
theorem rideInstruction?_of_within (hstart : leg.startTime ≤ now)
    (hwithin : here.distance leg.destination.coordinates ≤ s.radii.upcoming) :
    rideInstruction? leg here now s = pure (some (.getOff .here leg.destination.name)) := by
  rw [rideInstruction?, if_neg (Int64.not_lt.mpr hstart), if_pos hwithin]

/-- **Outside the alighting radius the nearest stop decides.** -/
theorem rideInstruction?_of_isNearestStop (hstart : leg.startTime ≤ now)
    (hwithin : ¬ here.distance leg.destination.coordinates ≤ s.radii.upcoming)
    (hk : leg.IsNearestStop here k) :
    rideInstruction? leg here now s = rideInstructionAt leg k := by
  rw [rideInstruction?, if_neg (Int64.not_lt.mpr hstart), if_neg hwithin,
    Leg.isNearestStop_iff.mp hk]

/-- At the last stop but one, or nearest to the last without being there. -/
theorem rideInstructionAt_nextStop {k : Nat} (h : leg.stops.length ≤ k + 2) :
    rideInstructionAt leg k = pure (some (.getOff .nextStop leg.destination.name)) :=
  if_pos (by omega)

theorem rideInstructionAt_soon {k : Nat} (h : k + 3 = leg.stops.length) :
    rideInstructionAt leg k = pure (some (.getOff .soon leg.destination.name)) := by
  rw [rideInstructionAt, if_neg (by omega), if_pos (by omega)]

theorem rideInstructionAt_boarding (h : 3 < leg.stops.length) :
    rideInstructionAt leg 0 = leg.durationSecs >>= fun duration =>
      pure (some (.rideSummary duration leg.intermediateStops.length leg.destination.name)) := by
  rw [rideInstructionAt, if_neg (by omega), if_neg (by omega), if_pos rfl]

theorem rideInstructionAt_between {k : Nat} (hpos : 0 < k) (h : k + 3 < leg.stops.length) :
    rideInstructionAt leg k = pure none := by
  rw [rideInstructionAt, if_neg (by omega), if_neg (by omega), if_neg (by omega)]

/-- The urgency is told by the stops that are left. -/
theorem alightingUrgency_rideInstructionAt (leg : Leg) (k : Nat) :
    alightingUrgency (rideInstructionAt leg k).value =
      if leg.stops.length ≤ k + 2 then 2 else if leg.stops.length = k + 3 then 1 else 0 := by
  split_ifs with hnext hsoon
  · rw [rideInstructionAt_nextStop hnext]
    rfl
  · rw [rideInstructionAt_soon hsoon.symm]
    rfl
  · rcases Nat.eq_zero_or_pos k with rfl | hpos
    · rw [rideInstructionAt_boarding (by omega)]
      rfl
    · rw [rideInstructionAt_between hpos (by omega)]
      rfl

/-- The urgency does not drop from one stop to a later one. -/
theorem alightingUrgency_mono (leg : Leg) {k k' : Nat} (hle : k ≤ k') :
    alightingUrgency (rideInstructionAt leg k).value ≤
      alightingUrgency (rideInstructionAt leg k').value := by
  rw [alightingUrgency_rideInstructionAt, alightingUrgency_rideInstructionAt]
  split_ifs <;> omega

/-- On the leg that a traveler rides, guidance is about the stops, and the cursor rests. -/
theorem guide_of_isTransit {i : Itinerary} {index : Nat} (cursor : Cursor)
    (hactive : activeLeg? i.legs now = some index) (hleg : i.legs[index]? = some leg)
    (htransit : leg.isTransit = true) :
    guide i cursor here now s = (rideInstruction? leg here now s, cursor) := by
  simp [guide, hactive, hleg, htransit]

end Prompts

/-! ### From stop to stop -/

/-- What is told at each stop of a leg, and no place within the alighting radius but the last. -/
structure Leg.Escalates (leg : Leg)
    (told : Fin leg.stops.length → Calculation (Option Instruction)) : Prop where
  /-- At the last stop: here. -/
  here : ∀ k, k.val + 1 = leg.stops.length →
    (told k).run? = some (some (.getOff .here leg.destination.name))
  /-- At the stop before it: the next one. -/
  nextStop : ∀ k, k.val + 2 = leg.stops.length →
    (told k).run? = some (some (.getOff .nextStop leg.destination.name))
  /-- At the one before that: soon. -/
  soon : ∀ k, k.val + 3 = leg.stops.length →
    (told k).run? = some (some (.getOff .soon leg.destination.name))
  /-- At the first stop, if there are at least four: the ride in minutes and stops, the alighting
  stop included. It is summed up exactly if how long it is can be calculated. -/
  boarding : ∀ k, k.val = 0 → 4 ≤ leg.stops.length →
    (told k).run? = leg.durationSecs.run?.map fun duration =>
      some (.rideSummary duration leg.intermediateStops.length leg.destination.name)
  /-- The wording of that. -/
  wording : ∀ k, k.val = 0 → 4 ≤ leg.stops.length →
    let minutes (duration : Int64) := toString (max duration.toInt 0 / 60)
    let stops := toString (leg.intermediateStops.length + 1)
    (told k >>= fun told? => Instruction.wording told? .english).run? =
      leg.durationSecs.run?.map (fun duration =>
        "Ride " ++ minutes duration ++ " min / " ++ stops ++ " stops to " ++
          leg.destination.name) ∧
    (told k >>= fun told? => Instruction.wording told? .spanish).run? =
      leg.durationSecs.run?.map fun duration =>
        "Viaje " ++ minutes duration ++ " min / " ++ stops ++ " paradas hasta " ++
          leg.destination.name
  /-- Between: nothing. -/
  between : ∀ k, 0 < k.val → k.val + 3 < leg.stops.length → (told k).run? = some none

theorem Leg.escalates {leg : Leg} {now : Instant} {s : GuideSettings}
    {p : Fin leg.stops.length → Coordinates} (hstart : leg.startTime ≤ now)
    (hnear : ∀ k, leg.IsNearestStop (p k) k)
    (hwithin : ∀ k, (p k).distance leg.destination.coordinates ≤ s.radii.upcoming ↔
      k.val + 1 = leg.stops.length) :
    leg.Escalates fun k => rideInstruction? leg (p k) now s := by
  have hstop : ∀ k : Fin leg.stops.length, k.val + 1 < leg.stops.length →
      rideInstruction? leg (p k) now s = rideInstructionAt leg k := fun k hk =>
    rideInstruction?_of_isNearestStop hstart (mt (hwithin k).mp (by omega)) (hnear k)
  have hboarding : ∀ k : Fin leg.stops.length, k.val = 0 → 4 ≤ leg.stops.length →
      rideInstruction? leg (p k) now s = leg.durationSecs >>= fun duration => pure (some
        (.rideSummary duration leg.intermediateStops.length leg.destination.name)) :=
    fun k hk hfour =>
      (hstop k (by omega)).trans (hk ▸ rideInstructionAt_boarding (Nat.lt_of_succ_le hfour))
  constructor
  case here =>
    intro k hk
    rw [rideInstruction?_of_within hstart ((hwithin k).mpr hk), Calculation.run?_pure]
  case nextStop =>
    intro k hk
    rw [hstop k (by omega), rideInstructionAt_nextStop (by omega), Calculation.run?_pure]
  case soon =>
    intro k hk
    rw [hstop k (by omega), rideInstructionAt_soon hk, Calculation.run?_pure]
  case boarding =>
    intro k hk hfour
    rw [hboarding k hk hfour]
    exact Calculation.run?_eq_map (by simp) rfl
  case wording =>
    intro k hk hfour
    rw [hboarding k hk hfour]
    exact ⟨Calculation.run?_eq_map (by simp [Instruction.wording, Instruction.render]) rfl,
      Calculation.run?_eq_map (by simp [Instruction.wording, Instruction.render]) rfl⟩
  case between =>
    intro k hpos hk
    rw [hstop k (by omega), rideInstructionAt_between hpos hk, Calculation.run?_pure]

/-- **Prompts to alight escalate** on a leg with any number of stops, once it has begun. The stops
are those between and one at either end, and from stop to stop the prompts are those of
`Leg.Escalates`. At any place within the alighting radius it is here; outside of it the urgency does
not drop from a place to another one whose nearest stop, the earlier one at a tie, is not an earlier
one. How long the ride is can be calculated exactly if the span of its times is a word. On the leg
that is ridden this is what guidance says. -/
theorem alighting_prompts (leg : Leg) (s : GuideSettings) :
    leg.stops.length = leg.intermediateStops.length + 2 ∧
      (∀ (now : Instant) (p : Fin leg.stops.length → Coordinates), leg.startTime ≤ now →
        (∀ k j, j ≠ k → (leg.stopDistance (p k) k).Precedes (leg.stopDistance (p k) j)) →
        (∀ k, (p k).distance leg.destination.coordinates ≤ s.radii.upcoming ↔
          k.val + 1 = leg.stops.length) →
        leg.Escalates fun k => rideInstruction? leg (p k) now s) ∧
      (∀ (now : Instant) (here : Coordinates), leg.startTime ≤ now →
        here.distance leg.destination.coordinates ≤ s.radii.upcoming →
        (rideInstruction? leg here now s).run? =
          some (some (.getOff .here leg.destination.name))) ∧
      (∀ here, ∃! k, leg.IsNearestStop here k) ∧
      (∀ (now now' : Instant) (here here' : Coordinates) (k k' : Fin leg.stops.length),
        leg.startTime ≤ now → leg.startTime ≤ now' →
        ¬ here.distance leg.destination.coordinates ≤ s.radii.upcoming →
        ¬ here'.distance leg.destination.coordinates ≤ s.radii.upcoming →
        leg.IsNearestStop here k → leg.IsNearestStop here' k' → k ≤ k' →
        alightingUrgency (rideInstruction? leg here now s).value ≤
          alightingUrgency (rideInstruction? leg here' now' s).value) ∧
      (leg.durationSecs.Fits ↔ IsWord (leg.endTime.toInt - leg.startTime.toInt)) ∧
      ∀ (i : Itinerary) (cursor : Cursor) (here : Coordinates) (now : Instant) (index : Nat),
        activeLeg? i.legs now = some index → i.legs[index]? = some leg → leg.isTransit = true →
        guide i cursor here now s = (rideInstruction? leg here now s, cursor) := by
  refine ⟨leg.length_stops, fun now p hstart hnear hwithin => ?_,
    fun now here hstart hwithin => ?_, leg.existsUnique_isNearestStop, ?_, Leg.fits_durationSecs,
    fun i cursor here now index hactive hleg htransit => ?_⟩
  · exact Leg.escalates hstart (fun k => Leg.isNearestStop_of_forall_ne (hnear k)) hwithin
  · rw [rideInstruction?_of_within hstart hwithin, Calculation.run?_pure]
  · intro now now' here here' k k' hstart hstart' hout hout' hk hk' hle
    rw [rideInstruction?_of_isNearestStop hstart hout hk,
      rideInstruction?_of_isNearestStop hstart' hout' hk']
    exact alightingUrgency_mono leg hle
  · exact guide_of_isTransit cursor hactive hleg htransit

/-- A ride past two stops that takes all the time there is. -/
def Leg.endless : Leg :=
  { (default : Leg) with
    startTime := Int64.minValue
    endTime := Int64.maxValue
    intermediateStops := [default, default] }

/-- **A ride need not be summed up.** The length of this one is no word, so there is nothing to tell
a rider who boards. -/
theorem rideSummary_missing :
    4 ≤ Leg.endless.stops.length ∧
      ∀ (here : Coordinates) (now : Instant) (s : GuideSettings) (k : Fin Leg.endless.stops.length),
        k.val = 0 → ¬ here.distance Leg.endless.destination.coordinates ≤ s.radii.upcoming →
        Leg.endless.IsNearestStop here k →
        (rideInstruction? Leg.endless here now s).run? = none := by
  refine ⟨by decide, fun here now s k hk hout hnearest => ?_⟩
  have hstart : Leg.endless.startTime ≤ now := Int64.minValue_le now
  rw [rideInstruction?_of_isNearestStop hstart hout hnearest, hk]
  decide

end TripWatch
