import TripWatch.Proofs.Check.Course

/-!
# Coherent journey states

Nine fields of a journey state may be absent, and three ways through a check write some of them
each: a trip without an active day, a date without an itinerary, and an itinerary. A move to another
date clears some and keeps others. `JourneyState.Coherent` says which fields go together. It holds
of a new state, a move to a date keeps it, and so does whatever is recorded; hence it holds after
every course of visits, with the trip's days and preferences edited in between.

The status of a state that was moved but in which nothing was recorded yet is still that of the
itinerary before, so the status is part of the invariant and not only of what is recorded.

## Main definitions

* `JourneyState.Coherent` — which fields go together
* `Finding.kinds` — what a finding may be told as, in order

## Main results

* `JourneyState.Coherent.rollOver`, `JourneyState.Coherent.record` — what keeps a state coherent
* `Finding.kinds_record` — nothing is told twice
* `coherent_of_remembered` — the headline
-/

namespace TripWatch

open Calculation

/-- Which fields of a journey state go together. -/
structure JourneyState.Coherent (s : JourneyState) : Prop where
  /-- The scheduled times are those that the itinerary comes to, or there are none. -/
  scheduled : s.scheduledDeparture = none ∧ s.scheduledArrival = none ∨
    ∃ i departure arrival, s.matchingItinerary = some i ∧
      i.scheduledDeparture.run? = some departure ∧ i.scheduledArrival.run? = some arrival ∧
      s.scheduledDeparture = some departure ∧ s.scheduledArrival = some arrival
  /-- There are both baselines or none, and only where there is a date with scheduled times. -/
  baselines : s.baselineDeparture = none ∧ s.baselineArrival = none ∨
    s.baselineDeparture.isSome ∧ s.baselineArrival.isSome ∧ s.scheduledDeparture.isSome ∧
      s.scheduledArrival.isSome ∧ s.targetDate.isSome
  /-- A trip that can be made has a date and an itinerary, and the status is the one that the
  itinerary had at the last check. -/
  possible : ∀ status, s.status = some status → status.isPossible = true →
    ∃ i now, s.matchingItinerary = some i ∧ s.targetDate.isSome ∧ s.lastChecked = some now ∧
      status = .ofItinerary now i

theorem TripStatus.isPossible_withoutItinerary (days : ActiveDays) :
    (withoutItinerary days).isPossible = false := by
  unfold withoutItinerary
  split <;> rfl

namespace JourneyState

variable {s : JourneyState}

theorem coherent_new (tripId : String) : (new tripId).Coherent where
  scheduled := .inl ⟨rfl, rfl⟩
  baselines := .inl ⟨rfl, rfl⟩
  possible status hstatus := by cases hstatus

theorem Coherent.rollOver (h : s.Coherent) (date : Date) : (s.rollOver date).Coherent := by
  unfold JourneyState.rollOver
  split
  · exact h
  · refine ⟨.inl ⟨rfl, rfl⟩, .inl ⟨rfl, rfl⟩, fun status hstatus hpossible => ?_⟩
    obtain ⟨i, now, hi, -, hnow, heq⟩ := h.possible status hstatus hpossible
    exact ⟨i, now, hi, rfl, hnow, heq⟩

theorem Coherent.movedTo (h : s.Coherent) (date : Option Date) : (s.movedTo date).Coherent := by
  cases date with
  | none => exact h
  | some date => exact h.rollOver date

/-! ### Recording -/

/-- An itinerary leaves a baseline behind, or the one before. -/
theorem isSome_retold (i : Itinerary) (p : Preferences) :
    (∀ kind baseline, (i.retold p kind baseline).isSome) ∨
      ∀ kind baseline, i.retold p kind baseline = baseline := by
  unfold Itinerary.retold
  cases p.onDelay with
  | false => exact .inr fun _ _ => rfl
  | true => exact .inl fun _ _ => rfl

theorem Coherent.recordNotPossible (h : s.Coherent) (t : Trip) (now : Instant)
    (reason : Option Refusal) : (recordNotPossible s t now reason).1.Coherent where
  scheduled := h.scheduled
  baselines := h.baselines
  possible status hstatus hpossible := by
    obtain rfl : TripStatus.withoutItinerary t.days = status := Option.some.inj hstatus
    rw [TripStatus.isPossible_withoutItinerary] at hpossible
    cases hpossible

theorem Coherent.recordFound (h : s.Coherent) {t : Trip} {now : Instant} {i : Itinerary}
    (hfits : (recordFound s t now i).Fits) (hdate : s.targetDate.isSome) :
    (recordFound s t now i).value.1.Coherent := by
  have hscheduled := (fits_recordFound.mp hfits).2
  rw [fst_recordFound]
  refine ⟨.inr ⟨i, _, _, rfl, Calculation.run?_of_fits (hscheduled .departure),
    Calculation.run?_of_fits (hscheduled .arrival), rfl, rfl⟩, ?_, fun status hstatus _ => ?_⟩
  · rcases isSome_retold i t.preferences with hretold | hkept
    · exact .inr ⟨hretold .departure _, hretold .arrival _, rfl, rfl, hdate⟩
    · simp only [hkept]
      -- Old baselines stay with the new scheduled times, which are present in any case.
      rcases h.baselines with hnone | ⟨hdeparture, harrival, -⟩
      · exact .inl hnone
      · exact .inr ⟨hdeparture, harrival, rfl, rfl, hdate⟩
  · exact ⟨i, now, rfl, hdate, rfl, (Option.some.inj hstatus).symm⟩

/-- **What is recorded leaves a state coherent.** An itinerary needs a date to be recorded on. -/
theorem Coherent.record (h : s.Coherent) {t : Trip} {now : Instant} {f : Finding}
    (hfits : (f.record t now s).Fits) (hdate : ∀ i, f = .itinerary i → s.targetDate.isSome) :
    (f.record t now s).value.1.Coherent := by
  cases f with
  | itinerary i => exact h.recordFound hfits (hdate i rfl)
  | nothing reason => exact h.recordNotPossible t now reason

end JourneyState

/-! ### What is told -/

namespace Finding

/-- What a finding may be told as, in order. -/
def kinds : Finding → List NotificationKind
  | .itinerary _ => [.alert, .departureDelay, .arrivalDelay, .itineraryChanged]
  | .nothing _ => [.tripNotPossible]

theorem nodup_kinds (f : Finding) : f.kinds.Nodup := by
  cases f <;> simp [kinds]

theorem sublist_of_kind {n : Option Notification} {k : NotificationKind}
    (h : ∀ a, n = some a → a.kind = k) : (n.toList.map Notification.kind).Sublist [k] := by
  cases n with
  | none => exact List.nil_sublist _
  | some a => simp [h a rfl]

theorem kind_of_alertNotification? {previous : Option Itinerary} {i : Itinerary}
    {n : Notification} (h : alertNotification? previous i = some n) : n.kind = .alert := by
  simp only [alertNotification?] at h
  split at h <;> cases h
  rfl

theorem kind_of_shapeNotification? {previous : Option Itinerary} {i : Itinerary}
    {n : Notification} (h : shapeNotification? previous i = some n) :
    n.kind = .itineraryChanged := by
  unfold shapeNotification? at h
  split at h
  · cases h
  · split at h <;> cases h
    rfl

theorem kind_of_comparison {p : Preferences} {s : JourneyState} {i : Itinerary} {kind : DelayKind}
    {n : Notification} (h : (comparison p s i kind).value.1 = some n) :
    n.kind = kind.notificationKind := by
  rw [comparison, value_bind, value_checkDelay] at h
  split at h <;> cases h
  rfl

theorem kinds_compareTimes (p : Preferences) (s : JourneyState) (i : Itinerary) :
    ((compareTimes p s i).value.2.map Notification.kind).Sublist
      [.departureDelay, .arrivalDelay] := by
  cases h : p.onDelay with
  | false =>
    rw [compareTimes_of_not_onDelay h]
    exact List.nil_sublist _
  | true =>
    rw [value_compareTimes h, List.map_append]
    exact (sublist_of_kind fun _ hn => kind_of_comparison hn).append
      (sublist_of_kind fun _ hn => kind_of_comparison hn)

theorem kinds_compareItinerary (p : Preferences) (s : JourneyState) (i : Itinerary) :
    ((compareItinerary p s i).value.2.map Notification.kind).Sublist
      [.alert, .departureDelay, .arrivalDelay, .itineraryChanged] := by
  have halert : ((if p.onAlert then (alertNotification? s.matchingItinerary i).toList
      else []).map Notification.kind).Sublist [.alert] := by
    split
    · exact sublist_of_kind fun _ hn => kind_of_alertNotification? hn
    · exact List.nil_sublist _
  have hshape : ((if p.onItineraryChange then (shapeNotification? s.matchingItinerary i).toList
      else []).map Notification.kind).Sublist [.itineraryChanged] := by
    split
    · exact sublist_of_kind fun _ hn => kind_of_shapeNotification? hn
    · exact List.nil_sublist _
  simp only [compareItinerary, value_bind, value_pure, List.map_append]
  exact (halert.append (kinds_compareTimes p s i)).append hshape

/-- **Nothing is told twice**, and everything in its order. -/
theorem kinds_record (t : Trip) (now : Instant) (s : JourneyState) (f : Finding) :
    ((f.record t now s).value.2.map Notification.kind).Sublist f.kinds := by
  cases f with
  | itinerary i => exact kinds_compareItinerary t.preferences s i
  | nothing reason =>
    simp only [value_record_nothing, recordNotPossible, kinds]
    split
    · exact List.nil_sublist _
    · exact List.Sublist.refl _

@[simp] theorem lastNotifications_record (t : Trip) (now : Instant) (s : JourneyState)
    (f : Finding) :
    (f.record t now s).value.1.lastNotifications =
      (f.record t now s).value.2.map Notification.kind := by
  cases f <;> simp [record, fst_recordFound, recordNotPossible]

end Finding

/-! ### Courses -/

theorem Visit.coherent_opened {previous : Option JourneyState} (v : Visit)
    (h : ∀ s ∈ previous, s.Coherent) : (v.opened previous).Coherent := by
  cases previous with
  | none => exact (JourneyState.coherent_new v.trip.id).movedTo v.date?
  | some s => exact (h s rfl).movedTo v.date?

/-- A visit leaves a coherent state. -/
theorem Visit.coherent_pass {previous : Option JourneyState} (v : Visit)
    (h : ∀ s ∈ previous, s.Coherent) : ∀ s ∈ (v.pass previous).1, s.Coherent := by
  intro s hs
  cases hfinding : v.finding? previous with
  | none =>
    rw [pass_of_unfinished hfinding] at hs
    exact h s hs
  | some f =>
    rw [pass_of_finding hfinding] at hs
    obtain rfl := Option.some.inj hs
    have hfits := (finding?_eq_some_iff.mp hfinding).2
    refine (v.coherent_opened h).record hfits fun i hi => ?_
    obtain ⟨date, hdate⟩ := exists_date_of_finding? (hi ▸ hfinding)
    rw [opened, hdate, JourneyState.movedTo, JourneyState.targetDate_rollOver]
    rfl

theorem coherent_stateAfter {previous : Option JourneyState} (h : ∀ s ∈ previous, s.Coherent)
    (visits : List Visit) : ∀ s ∈ stateAfter previous visits, s.Coherent := by
  induction visits generalizing previous with
  | nil => exact h
  | cons v rest ih => exact ih (v.coherent_pass h)

/-- **What is remembered is coherent**, whatever the visits were: the fields go together, there is a
status and a time of the last check, and the kinds that are listed are those of what the latest
completed check told, none of them twice. -/
theorem coherent_of_remembered {visits : List Visit} {s : JourneyState} {ns : List Notification}
    (h : remembered visits = some (s, ns)) :
    s.Coherent ∧ s.status.isSome ∧ s.lastChecked.isSome ∧
      s.lastNotifications = ns.map Notification.kind ∧ (ns.map Notification.kind).Nodup := by
  have hkept : stateAfter none visits = some s := by
    rw [stateAfter_none, h]
    rfl
  have hnone : ∀ s ∈ (none : Option JourneyState), s.Coherent := fun _ hs => nomatch hs
  have hcoherent : s.Coherent := coherent_stateAfter hnone visits s hkept
  obtain ⟨before, v, after, f, -, -, -, hrecord⟩ := exists_record_of_remembered h
  have hvalue := (run?_eq_some_iff.mp hrecord).2
  obtain rfl : (f.record v.trip v.now.instant _).value.1 = s := congrArg Prod.fst hvalue
  obtain rfl : (f.record v.trip v.now.instant _).value.2 = ns := congrArg Prod.snd hvalue
  refine ⟨hcoherent, ?_, ?_, Finding.lastNotifications_record .., ?_⟩
  · rw [Finding.status_record]
    rfl
  · rw [Finding.lastChecked_record]
    rfl
  · exact (Finding.kinds_record ..).nodup f.nodup_kinds

/-- A late bus; then no reply, a trip of Saturdays at six and so skipped, and on weekdays again,
with delays not to be told, no bus at all. -/
theorem coherent_of_remembered_no_bus :
    ∃ s ns, remembered Commute.course = some (s, ns) ∧ s.status = some .nextTripNotPossible ∧
      s.matchingItinerary = some (Commute.bus 10) ∧
      s.Coherent ∧ s.status.isSome ∧ s.lastChecked.isSome ∧
      s.lastNotifications = ns.map Notification.kind ∧ (ns.map Notification.kind).Nodup := by
  have h : remembered Commute.course = some (_, _) := rfl
  exact ⟨_, _, h, rfl, rfl, coherent_of_remembered h⟩

end TripWatch
