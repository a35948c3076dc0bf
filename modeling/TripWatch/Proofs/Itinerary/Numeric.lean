import TripWatch.Itinerary.Codec
import TripWatch.Proofs.Json.Numeric

/-!
# Itineraries without a NaN

A NaN is not equal to itself, so an itinerary with one in it is not equal to itself by value, and
would pass for another one whenever it is compared. No such itinerary is ever read: the doubles in
it are read from digits.

## Main definitions

* `Itinerary.IsNumeric` — all doubles of an itinerary are numbers

## Main results

* `Itinerary.IsNumeric.beq_self` — then it is equal to itself by value
* `Itinerary.isNumeric_of_decode` — an itinerary that is read is such a one
-/

namespace TripWatch

/-- The numbers of a place are numbers. -/
structure Place.IsNumeric (p : Place) : Prop where
  /-- To the north. -/
  lat : p.lat.isNaN = false
  /-- To the east. -/
  lon : p.lon.isNaN = false

/-- The numbers of a step are numbers. -/
structure Step.IsNumeric (s : Step) : Prop where
  /-- The length. -/
  distance : s.distance.isNaN = false
  /-- To the north. -/
  lat : s.lat.isNaN = false
  /-- To the east. -/
  lon : s.lon.isNaN = false

/-- The numbers of a leg are numbers. -/
structure Leg.IsNumeric (l : Leg) : Prop where
  /-- Those of its beginning. -/
  origin : l.origin.IsNumeric
  /-- Those of its end. -/
  destination : l.destination.IsNumeric
  /-- Those of the stops between. -/
  stops : ∀ p ∈ l.intermediateStops, p.IsNumeric
  /-- Those of the steps. -/
  steps : ∀ s ∈ l.steps, s.IsNumeric

/-- The numbers of an itinerary are numbers. -/
def Itinerary.IsNumeric (i : Itinerary) : Prop := ∀ l ∈ i.legs, l.IsNumeric

/-! ### Equality by value -/

theorem beq_self_of_forall {α : Type} [BEq α] {items : List α} (h : ∀ a ∈ items, (a == a) = true) :
    (items == items) = true := by
  induction items with
  | nil => rfl
  | cons a rest ih =>
    obtain ⟨ha, hrest⟩ := List.forall_mem_cons.mp h
    rw [List.cons_beq_cons, ha, ih hrest, Bool.and_self]

/-- What holds of the items of a list holds of those that are equal to them by value. -/
theorem forall_of_beq {α : Type} [BEq α] {P : α → Prop} {items items' : List α}
    (hP : ∀ a b, (a == b) = true → P b → P a) (h : (items == items') = true)
    (hall : ∀ b ∈ items', P b) : ∀ a ∈ items, P a := by
  induction items generalizing items' with
  | nil => simp
  | cons a rest ih =>
    cases items' with
    | nil => cases h
    | cons b rest' =>
      rw [List.cons_beq_cons, Bool.and_eq_true] at h
      obtain ⟨hb, hrest⟩ := List.forall_mem_cons.mp hall
      exact List.forall_mem_cons.mpr ⟨hP a b h.1 hb, ih h.2 hrest⟩

theorem Place.IsNumeric.beq_self {p : Place} (h : p.IsNumeric) : (p == p) = true := by
  have hlat : (p.lat == p.lat) = true := Double.sameNumber_self h.lat
  have hlon : (p.lon == p.lon) = true := Double.sameNumber_self h.lon
  change instBEqPlace.beq p p = true
  simp [instBEqPlace.beq, hlat, hlon]

theorem Step.IsNumeric.beq_self {s : Step} (h : s.IsNumeric) : (s == s) = true := by
  have hdistance : (s.distance == s.distance) = true := Double.sameNumber_self h.distance
  have hlat : (s.lat == s.lat) = true := Double.sameNumber_self h.lat
  have hlon : (s.lon == s.lon) = true := Double.sameNumber_self h.lon
  change instBEqStep.beq s s = true
  simp [instBEqStep.beq, hdistance, hlat, hlon]

theorem Leg.IsNumeric.beq_self {l : Leg} (h : l.IsNumeric) : (l == l) = true := by
  have hstops := beq_self_of_forall fun p hp => (h.stops p hp).beq_self
  have hsteps := beq_self_of_forall fun s hs => (h.steps s hs).beq_self
  change instBEqLeg.beq l l = true
  simp [instBEqLeg.beq, h.origin.beq_self, h.destination.beq_self, hstops, hsteps]

/-- **An itinerary is equal to itself by value**, if its numbers are numbers. -/
theorem Itinerary.IsNumeric.beq_self {i : Itinerary} (h : i.IsNumeric) : (i == i) = true := by
  have hlegs := beq_self_of_forall fun l hl => (h l hl).beq_self
  change instBEqItinerary.beq i i = true
  simp [instBEqItinerary.beq, hlegs]

/-! ### Itineraries that are read -/

open Json FieldReader

theorem Place.yields_decoder : Place.decoder.Yields Place.IsNumeric := by
  refine .record <| .seq (yields_any _) <| .seq (.required Decoder.yields_double) <|
    .seq (.required Decoder.yields_double) <| .map <| (yields_any _).mono ?_
  intros
  constructor <;> assumption

theorem Step.yields_decoder : Step.decoder.Yields Step.IsNumeric := by
  refine .record <| .seq (.required Decoder.yields_double) <|
    .seq (.required Decoder.yields_double) <| .seq (yields_any _) <| .seq (yields_any _) <|
    .seq (yields_any _) <| .map <| Yields.mono (.withDefault Decoder.yields_double rfl) ?_
  intros
  constructor <;> assumption

theorem Leg.yields_decoder : Leg.decoder.Yields Leg.IsNumeric := by
  refine .record <| .seq (yields_any _) <|
    .seq (.withDefault Step.yields_decoder.list (by simp)) <|
    .seq (.withDefault Place.yields_decoder.list (by simp)) <| .seq (yields_any _) <|
    .seq (yields_any _) <| .seq (yields_any _) <| .seq (yields_any _) <| .seq (yields_any _) <|
    .seq (.required Place.yields_decoder) <| .seq (.required Place.yields_decoder) <|
    .seq (yields_any _) <| .seq (yields_any _) <| .seq (yields_any _) <| .seq (yields_any _) <|
    .map <| (yields_any _).mono ?_
  intros
  constructor <;> assumption

theorem Itinerary.yields_decoder : Itinerary.decoder.Yields Itinerary.IsNumeric := by
  refine .record <| .seq (.required Leg.yields_decoder.list) <| .seq (yields_any _) <|
    .map <| (yields_any _).mono ?_
  exact fun _ _ _ _ _ hlegs => hlegs

/-- **An itinerary that is read has no NaN in it.** -/
theorem Itinerary.isNumeric_of_decode {text : String} {i : Itinerary}
    (h : decode Itinerary.decoder text = .ok i) : i.IsNumeric :=
  Itinerary.yields_decoder.of_decode h

end TripWatch
