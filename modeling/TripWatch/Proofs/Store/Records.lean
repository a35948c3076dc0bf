import TripWatch.Proofs.Calendar.WrittenDates
import TripWatch.Proofs.Json.Decoding
import TripWatch.Store.Basic

/-!
# Records that are written and read back

What becomes of each kind of record when it is written and read back: `reread?`. Most of a record
comes back as it was, words, texts, dates, and fields that are absent or have their default, and
preferences that stand among the fields of a trip. Only a double may fail to come back, or come back
as another one, and then the same is true of every record with that double.

## Main definitions

* `Double.reread?`, `Place.reread?`, `Step.reread?`, `Leg.reread?`, `Itinerary.reread?`,
  `Trip.reread?`, `JourneyState.reread?` — what is read back
* `Json.doubles` — the doubles that are written in a value

## Main results

* `Trip.toOption_decoder`, `JourneyState.toOption_decoder`, `User.toOption_decoder` — that is what
  is read back
* `Trip.reread?_eq_self`, `JourneyState.reread?_eq_self` — with doubles that come back all does
-/

namespace TripWatch

open Json Json.FieldReader

/-! ### Values without doubles -/

theorem Locale.toOption_decoder (l : Locale) :
    (Locale.decoder l.toJson.document).toOption = some l :=
  congrArg some l.ofTag_tag

theorem TripStatus.toOption_decoder (s : TripStatus) :
    (TripStatus.decoder s.toJson.document).toOption = some s :=
  toOption_named s.ofName?_name

theorem NotificationKind.toOption_decoder (k : NotificationKind) :
    (NotificationKind.decoder k.toJson.document).toOption = some k :=
  toOption_named k.ofName?_name

theorem Date.toOption_decoder (d : Date) : (Date.decoder d.toJson.document).toOption = some d := by
  rw [toJson, document, decoder, Decoder.textThat, Decoder.text]
  dsimp only [bind, Except.bind]
  rw [d.ofText?_text]
  rfl

theorem Alert.toOption_decoder (a : Alert) :
    (Alert.decoder a.toJson.document).toOption = some a :=
  toOption_record
    (Reads.map _ (.withDefault (toOption_text? a.header))
      |>.seq (.withDefault (toOption_text? a.description))
      |>.seq (.withDefault (toOption_text? a.url))
      |>.seq (.withDefault (toOption_word? a.effectiveStart)))
    rfl (by decide)

theorem ActiveDays.toOption_decoder (days : ActiveDays) :
    (ActiveDays.decoder days.toJson.document).toOption = some days :=
  toOption_record
    (Reads.map _ (.withDefault (toOption_bool days.monday))
      |>.seq (.withDefault (toOption_bool days.tuesday))
      |>.seq (.withDefault (toOption_bool days.wednesday))
      |>.seq (.withDefault (toOption_bool days.thursday))
      |>.seq (.withDefault (toOption_bool days.friday))
      |>.seq (.withDefault (toOption_bool days.saturday))
      |>.seq (.withDefault (toOption_bool days.sunday)))
    rfl (by decide)

theorem User.toOption_decoder (u : User) : (User.decoder u.toJson.document).toOption = some u :=
  toOption_record
    (Reads.map _ (.required (toOption_text u.id))
      |>.seq (.withDefault (toOption_text? u.email))
      |>.seq (.withDefault (toOption_text? u.phoneNumber))
      |>.seq (.withDefault (toOption_text u.channel))
      |>.seq (.withDefault u.locale.toOption_decoder))
    rfl (by decide)

/-- The preferences are read from their fields, wherever these stand. -/
theorem Preferences.reads_reader (p : Preferences) :
    Preferences.reader.Reads p.members (some p) :=
  Reads.map _ (.withDefault (toOption_bool p.onAlert))
    |>.seq (.withDefault (toOption_bool p.onDelay))
    |>.seq (.withDefault (toOption_bool p.onItineraryChange))
    |>.seq (.withDefault (toOption_unsigned32 p.departureThreshold))
    |>.seq (.withDefault (toOption_unsigned32 p.arrivalThreshold))

theorem Preferences.readFault_members (p : Preferences) :
    ∀ m ∈ p.members, m.2.document.readFault = none := by
  have hword : ∀ n : UInt32, (ofNat n.toNat).document.readFault = none := by
    intro n
    have hlt := n.toNat_lt
    exact readFault_int (by omega) (by omega)
  intro m hm
  simp only [members, List.mem_cons, List.not_mem_nil, or_false] at hm
  rcases hm with rfl | rfl | rfl | rfl | rfl
  · rfl
  · rfl
  · rfl
  · exact hword p.departureThreshold
  · exact hword p.arrivalThreshold

theorem Preferences.toOption_decoder (p : Preferences) :
    (Preferences.decoder p.toJson.document).toOption = some p :=
  toOption_record p.reads_reader rfl (by decide)

/-! ### Values with doubles -/

/-- A double that is read back. -/
def Double.reread? (d : Double) : Option Double :=
  (Decoder.double (Json.double d).document).toOption

/-- A place that is read back. -/
def Place.reread? (p : Place) : Option Place := do
  let lat ← p.lat.reread?
  let lon ← p.lon.reread?
  some { p with lat := lat, lon := lon }

/-- A step that is read back. -/
def Step.reread? (s : Step) : Option Step := do
  let distance ← s.distance.reread?
  let lat ← s.lat.reread?
  let lon ← s.lon.reread?
  some { s with distance := distance, lat := lat, lon := lon }

/-- A leg that is read back. -/
def Leg.reread? (l : Leg) : Option Leg := do
  let origin ← l.origin.reread?
  let destination ← l.destination.reread?
  let stops ← l.intermediateStops.mapM Place.reread?
  let steps ← l.steps.mapM Step.reread?
  some { l with
    origin := origin
    destination := destination
    intermediateStops := stops
    steps := steps }

/-- An itinerary that is read back. -/
def Itinerary.reread? (i : Itinerary) : Option Itinerary := do
  let legs ← i.legs.mapM Leg.reread?
  some { i with legs := legs }

/-- A trip that is read back. -/
def Trip.reread? (t : Trip) : Option Trip := do
  let origin ← t.origin.reread?
  let destination ← t.destination.reread?
  let itinerary ← t.itinerary.mapM Itinerary.reread?
  some { t with origin := origin, destination := destination, itinerary := itinerary }

/-- A journey state that is read back. -/
def JourneyState.reread? (s : JourneyState) : Option JourneyState := do
  let itinerary ← s.matchingItinerary.mapM Itinerary.reread?
  some { s with matchingItinerary := itinerary }

theorem Double.toOption_decoder (d : Double) :
    (Decoder.double (Json.double d).document).toOption = d.reread? :=
  rfl

theorem Place.toOption_decoder (p : Place) :
    (Place.decoder p.toJson.document).toOption = p.reread? := by
  refine (toOption_record
    (Reads.map _ (.required (toOption_text p.name))
      |>.seq (.required p.lat.toOption_decoder)
      |>.seq (.required p.lon.toOption_decoder)
      |>.seq (.withDefault (toOption_text? p.stopId)))
    rfl (by decide)).trans ?_
  unfold reread?
  cases p.lat.reread? <;> cases p.lon.reread? <;> rfl

theorem Step.toOption_decoder (s : Step) :
    (Step.decoder s.toJson.document).toOption = s.reread? := by
  refine (toOption_record
    (Reads.map _ (.withDefault s.distance.toOption_decoder)
      |>.seq (.required (toOption_text s.relativeDirection))
      |>.seq (.required (toOption_text s.absoluteDirection))
      |>.seq (.required (toOption_text s.streetName))
      |>.seq (.required s.lat.toOption_decoder)
      |>.seq (.required s.lon.toOption_decoder))
    rfl (by decide)).trans ?_
  unfold reread?
  cases s.distance.reread? <;> cases s.lat.reread? <;> cases s.lon.reread? <;> rfl

theorem Leg.toOption_decoder (l : Leg) : (Leg.decoder l.toJson.document).toOption = l.reread? := by
  have halerts : (Decoder.list Alert.decoder (ofList Alert.toJson l.alerts).document).toOption =
      some l.alerts := by
    rw [toOption_list Alert.toOption_decoder, mapM_eq_some fun _ _ => rfl]
  refine (toOption_record
    (Reads.map _ (.required (toOption_text l.mode))
      |>.seq (.withDefault (toOption_bool l.isTransit))
      |>.seq (.withDefault (toOption_text? l.route))
      |>.seq (.withDefault (toOption_text? l.routeId))
      |>.seq (.withDefault (toOption_text? l.headsign))
      |>.seq (.required l.origin.toOption_decoder)
      |>.seq (.required l.destination.toOption_decoder)
      |>.seq (.required (toOption_word l.startTime))
      |>.seq (.required (toOption_word l.endTime))
      |>.seq (.withDefault (toOption_word l.departureDelay))
      |>.seq (.withDefault (toOption_word l.arrivalDelay))
      |>.seq (.withDefault (toOption_bool l.isRealTime))
      |>.seq (.withDefault (toOption_list Place.toOption_decoder l.intermediateStops))
      |>.seq (.withDefault (toOption_list Step.toOption_decoder l.steps))
      |>.seq (.withDefault halerts))
    rfl (by decide)).trans ?_
  unfold reread?
  cases l.origin.reread? <;> cases l.destination.reread? <;>
    cases l.intermediateStops.mapM Place.reread? <;> cases l.steps.mapM Step.reread? <;> rfl

theorem Itinerary.toOption_decoder (i : Itinerary) :
    (Itinerary.decoder i.toJson.document).toOption = i.reread? := by
  refine (toOption_record
    (Reads.map _ (.required (toOption_word i.startTime))
      |>.seq (.required (toOption_word i.endTime))
      |>.seq (.required (toOption_list Leg.toOption_decoder i.legs)))
    rfl (by decide)).trans ?_
  unfold reread?
  cases i.legs.mapM Leg.reread? <;> rfl

theorem Itinerary.toOption_decoder? (i : Option Itinerary) :
    (Decoder.optional Itinerary.decoder (ofOption Itinerary.toJson i).document).toOption =
      i.mapM Itinerary.reread? :=
  toOption_optional Itinerary.toOption_decoder (fun _ => trivial) i

/-- **A trip is read back, with its preferences among its fields.** -/
theorem Trip.toOption_decoder (t : Trip) :
    (Trip.decoder t.toJson.document).toOption = t.reread? := by
  have hmodes : (Decoder.list Decoder.text (ofList text t.modes).document).toOption =
      some t.modes := by
    rw [toOption_list toOption_text, mapM_eq_some fun _ _ => rfl]
  refine (toOption_flattened
    (Reads.map _ (.required (toOption_text t.id))
      |>.seq (.required (toOption_text t.userId))
      |>.seq (.withDefault (toOption_text? t.name))
      |>.seq (.withDefault (toOption_bool t.isActive))
      |>.seq (.required t.origin.toOption_decoder)
      |>.seq (.required t.destination.toOption_decoder)
      |>.seq (.required (toOption_text t.time))
      |>.seq (.withDefault (toOption_bool t.arriveBy))
      |>.seq (.withDefault hmodes)
      |>.seq (.required t.days.toOption_decoder)
      |>.seq (.withDefault (Itinerary.toOption_decoder? t.itinerary)))
    rfl t.preferences.reads_reader (by decide) t.preferences.readFault_members).trans ?_
  unfold reread?
  cases t.origin.reread? <;> cases t.destination.reread? <;>
    cases t.itinerary.mapM Itinerary.reread? <;> rfl

theorem JourneyState.toOption_decoder (s : JourneyState) :
    (JourneyState.decoder s.toJson.document).toOption = s.reread? := by
  have hdate : (Decoder.optional Date.decoder (ofOption Date.toJson s.targetDate).document).toOption
      = some s.targetDate := by
    rw [toOption_optional Date.toOption_decoder fun _ => trivial]
    cases s.targetDate <;> rfl
  have hstatus : (Decoder.optional TripStatus.decoder
      (ofOption TripStatus.toJson s.status).document).toOption = some s.status := by
    rw [toOption_optional TripStatus.toOption_decoder fun _ => trivial]
    cases s.status <;> rfl
  have hkinds : (Decoder.list NotificationKind.decoder
      (ofList NotificationKind.toJson s.lastNotifications).document).toOption =
        some s.lastNotifications := by
    rw [toOption_list NotificationKind.toOption_decoder, mapM_eq_some fun _ _ => rfl]
  refine (toOption_record
    (Reads.map _ (.required (toOption_text s.tripId))
      |>.seq (.withDefault (toOption_word? s.baselineArrival))
      |>.seq (.withDefault (toOption_word? s.baselineDeparture))
      |>.seq (.withDefault (toOption_word? s.scheduledArrival))
      |>.seq (.withDefault (toOption_word? s.scheduledDeparture))
      |>.seq (.withDefault (toOption_word? s.lastChecked))
      |>.seq (.withDefault (Itinerary.toOption_decoder? s.matchingItinerary))
      |>.seq (.withDefault hdate)
      |>.seq (.withDefault hstatus)
      |>.seq (.withDefault hkinds))
    rfl (by decide)).trans ?_
  unfold reread?
  cases s.matchingItinerary.mapM Itinerary.reread? <;> rfl

/-! ### Doubles that come back -/

mutual

/-- The doubles that are written in a value. -/
def Json.doubles : Json → List Double
  | .double d => [d]
  | .list items => itemDoubles items
  | .record members => memberDoubles members
  | .null | .bool _ | .int _ | .text _ => []

/-- The doubles that are written in items. -/
def Json.itemDoubles : List Json → List Double
  | [] => []
  | v :: rest => v.doubles ++ itemDoubles rest

/-- The doubles that are written in members. -/
def Json.memberDoubles : List (String × Json) → List Double
  | [] => []
  | (_, v) :: rest => v.doubles ++ memberDoubles rest

end

/-- All doubles that are written in a value come back. -/
def Json.Returns (v : Json) : Prop := ∀ d ∈ v.doubles, d.reread? = some d

theorem Double.reread?_eq_self {d : Double} (hfinite : d.isFinite = true) (h : d.Returns) :
    d.reread? = some d := by
  rw [reread?, document, if_pos hfinite, h]
  rfl

namespace Json.Returns

theorem double {d : Double} (h : (Json.double d).Returns) : d.reread? = some d :=
  h d (by simp [doubles])

theorem member {members : List (String × Json)} (h : (Json.record members).Returns)
    {m : String × Json} (hm : m ∈ members) : m.2.Returns := by
  intro d hd
  refine h d ?_
  rw [doubles]
  clear h
  induction members with
  | nil => cases hm
  | cons first members ih =>
    obtain ⟨k, v⟩ := first
    rw [memberDoubles]
    rcases List.mem_cons.mp hm with rfl | hmem
    · exact List.mem_append_left _ hd
    · exact List.mem_append_right _ (ih hmem)

theorem item {α : Type} {write : α → Json} {items : List α} (h : (ofList write items).Returns)
    {a : α} (ha : a ∈ items) : (write a).Returns := by
  intro d hd
  refine h d ?_
  rw [ofList, doubles]
  clear h
  induction items with
  | nil => cases ha
  | cons first items ih =>
    rw [List.map_cons, itemDoubles]
    rcases List.mem_cons.mp ha with rfl | hmem
    · exact List.mem_append_left _ hd
    · exact List.mem_append_right _ (ih hmem)

end Json.Returns

theorem Place.reread?_eq_self {p : Place} (h : p.toJson.Returns) : p.reread? = some p := by
  have hlat := (h.member (m := ("lat", .double p.lat)) (by simp)).double
  have hlon := (h.member (m := ("lon", .double p.lon)) (by simp)).double
  rw [reread?, hlat, hlon]
  rfl

theorem Step.reread?_eq_self {s : Step} (h : s.toJson.Returns) : s.reread? = some s := by
  have hdistance := (h.member (m := ("distance", .double s.distance)) (by simp)).double
  have hlat := (h.member (m := ("lat", .double s.lat)) (by simp)).double
  have hlon := (h.member (m := ("lon", .double s.lon)) (by simp)).double
  rw [reread?, hdistance, hlat, hlon]
  rfl

theorem Leg.reread?_eq_self {l : Leg} (h : l.toJson.Returns) : l.reread? = some l := by
  have horigin : l.origin.reread? = some l.origin :=
    Place.reread?_eq_self (h.member (m := ("from", l.origin.toJson)) (by simp))
  have hdestination : l.destination.reread? = some l.destination :=
    Place.reread?_eq_self (h.member (m := ("to", l.destination.toJson)) (by simp))
  have hstops := h.member (m := ("intermediateStops", ofList Place.toJson l.intermediateStops))
    (by simp)
  have hsteps := h.member (m := ("steps", ofList Step.toJson l.steps)) (by simp)
  rw [reread?, horigin, hdestination,
    mapM_eq_some fun _ hstop => Place.reread?_eq_self (hstops.item hstop),
    mapM_eq_some fun _ hstep => Step.reread?_eq_self (hsteps.item hstep)]
  rfl

theorem Itinerary.reread?_eq_self {i : Itinerary} (h : i.toJson.Returns) :
    i.reread? = some i := by
  have hlegs := h.member (m := ("legs", ofList Leg.toJson i.legs)) (by simp)
  rw [reread?, mapM_eq_some fun _ hleg => Leg.reread?_eq_self (hlegs.item hleg)]
  rfl

theorem Itinerary.mapM_reread? {i : Option Itinerary}
    (h : (ofOption Itinerary.toJson i).Returns) : i.mapM Itinerary.reread? = some i := by
  cases i with
  | none => rfl
  | some i =>
    rw [ofOption] at h
    rw [Option.mapM_some, Itinerary.reread?_eq_self h]
    rfl

/-- **A trip all of whose doubles come back comes back as it was.** -/
theorem Trip.reread?_eq_self {t : Trip} (h : t.toJson.Returns) : t.reread? = some t := by
  have horigin : t.origin.reread? = some t.origin :=
    Place.reread?_eq_self (h.member (m := ("from", t.origin.toJson)) (by simp))
  have hdestination : t.destination.reread? = some t.destination :=
    Place.reread?_eq_self (h.member (m := ("to", t.destination.toJson)) (by simp))
  have hitinerary :=
    h.member (m := ("itinerary", .ofOption Itinerary.toJson t.itinerary)) (by simp)
  rw [reread?, horigin, hdestination, Itinerary.mapM_reread? hitinerary]
  rfl

/-- **A journey state all of whose doubles come back comes back as it was.** -/
theorem JourneyState.reread?_eq_self {s : JourneyState} (h : s.toJson.Returns) :
    s.reread? = some s := by
  have hitinerary :=
    h.member (m := ("matching_itinerary", .ofOption Itinerary.toJson s.matchingItinerary))
      (by simp)
  rw [reread?, Itinerary.mapM_reread? hitinerary]
  rfl

/-! ### What always comes back -/

/-- A trip that comes back is the same trip, and as active as before. -/
theorem Trip.id_isActive_of_reread? {t t' : Trip} (h : t.reread? = some t') :
    t'.id = t.id ∧ t'.isActive = t.isActive := by
  simp only [reread?, Option.bind_eq_bind, Option.bind_eq_some_iff] at h
  obtain ⟨origin, -, destination, -, itinerary, -, heq⟩ := h
  obtain rfl := Option.some.inj heq
  exact ⟨rfl, rfl⟩

/-- A journey state that comes back is of the same trip. -/
theorem JourneyState.tripId_of_reread? {s s' : JourneyState} (h : s.reread? = some s') :
    s'.tripId = s.tripId := by
  simp only [reread?, Option.bind_eq_bind, Option.bind_eq_some_iff] at h
  obtain ⟨itinerary, -, heq⟩ := h
  obtain rfl := Option.some.inj heq
  rfl

/-! ### Depth -/

theorem Place.isWithin_toJson (p : Place) : p.toJson.IsWithin 1 := by
  simp [toJson]

theorem Step.isWithin_toJson (s : Step) : s.toJson.IsWithin 1 := by
  simp [toJson]

theorem Alert.isWithin_toJson (a : Alert) : a.toJson.IsWithin 1 := by
  simp [toJson]

theorem ActiveDays.isWithin_toJson (days : ActiveDays) : days.toJson.IsWithin 1 := by
  simp [toJson]

theorem User.isWithin_toJson (u : User) : u.toJson.IsWithin 1 := by
  simp [toJson, Locale.toJson]

theorem Leg.isWithin_toJson (l : Leg) : l.toJson.IsWithin 3 := by
  have horigin := l.origin.isWithin_toJson.mono (Nat.le_succ 1)
  have hdestination := l.destination.isWithin_toJson.mono (Nat.le_succ 1)
  have hstops := isWithin_ofList Place.isWithin_toJson l.intermediateStops
  have hsteps := isWithin_ofList Step.isWithin_toJson l.steps
  have halerts := isWithin_ofList Alert.isWithin_toJson l.alerts
  simp [toJson, horigin, hdestination, hstops, hsteps, halerts]

theorem Itinerary.isWithin_toJson (i : Itinerary) : i.toJson.IsWithin 5 := by
  have hlegs := isWithin_ofList Leg.isWithin_toJson i.legs
  simp [toJson, hlegs]

theorem Trip.isWithin_toJson (t : Trip) : t.toJson.IsWithin 6 := by
  have horigin := t.origin.isWithin_toJson.mono (k := 5) (by decide)
  have hdestination := t.destination.isWithin_toJson.mono (k := 5) (by decide)
  have hdays := t.days.isWithin_toJson.mono (k := 5) (by decide)
  have hmodes := (isWithin_ofList (isWithin_text 0) t.modes).mono (k := 5) (by decide)
  have hitinerary := isWithin_ofOption Itinerary.isWithin_toJson t.itinerary
  simp [toJson, Preferences.members, horigin, hdestination, hdays, hmodes, hitinerary]

theorem Preferences.isWithin_toJson (p : Preferences) : p.toJson.IsWithin 1 := by
  simp [toJson, members]

theorem Locale.isWithin_toJson (depth : Nat) (l : Locale) : l.toJson.IsWithin depth :=
  isWithin_text depth l.tag

theorem Date.isWithin_toJson (depth : Nat) (d : Date) : d.toJson.IsWithin depth :=
  isWithin_text depth d.text

theorem TripStatus.isWithin_toJson (depth : Nat) (s : TripStatus) : s.toJson.IsWithin depth :=
  isWithin_text depth s.name

theorem NotificationKind.isWithin_toJson (depth : Nat) (k : NotificationKind) :
    k.toJson.IsWithin depth :=
  isWithin_text depth k.name

theorem JourneyState.isWithin_toJson (s : JourneyState) : s.toJson.IsWithin 6 := by
  have hdate := isWithin_ofOption (Date.isWithin_toJson 5) s.targetDate
  have hstatus := isWithin_ofOption (TripStatus.isWithin_toJson 5) s.status
  have hkinds := (isWithin_ofList (NotificationKind.isWithin_toJson 0) s.lastNotifications).mono
    (k := 5) (by decide)
  have hitinerary := isWithin_ofOption Itinerary.isWithin_toJson s.matchingItinerary
  simp [toJson, toJsonWith, hdate, hstatus, hkinds, hitinerary]

end TripWatch
