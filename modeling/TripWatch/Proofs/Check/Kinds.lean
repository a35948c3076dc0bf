import TripWatch.Proofs.Journey.Coherence

/-!
# What is told, kind by kind

The notifications of a check are made in one go and put into one list, but no two of them are of one
kind, and none depends on another. So the list can be read by kinds: of each kind it has what
`Finding.notice?` says, which looks at the finding and at the state before and at nothing else that
was told. Theorems about one kind start from `ofKind_record` and leave the list alone.

## Main definitions

* `ofKind` — the notifications of a kind
* `itineraryNotice?`, `Finding.notice?` — the notification of a kind that a finding leads to

## Main results

* `ofKind_record` — what is told is, kind by kind, what the finding leads to
* `snd_record_nothing` — what is told where there is no itinerary
-/

namespace TripWatch

/-- The notifications of a kind. -/
def ofKind (kind : NotificationKind) (ns : List Notification) : List Notification :=
  ns.filter fun n => n.kind = kind

theorem ofKind_ne_nil {kind : NotificationKind} {ns : List Notification} :
    ofKind kind ns ≠ [] ↔ ∃ n ∈ ns, n.kind = kind := by
  simp [ofKind, List.filter_eq_nil_iff]

theorem ofKind_append (kind : NotificationKind) (ns ns' : List Notification) :
    ofKind kind (ns ++ ns') = ofKind kind ns ++ ofKind kind ns' := List.filter_append ..

theorem ofKind_toList_self {kind : NotificationKind} {n : Option Notification}
    (h : ∀ a, n = some a → a.kind = kind) : ofKind kind n.toList = n.toList := by
  cases n with
  | none => rfl
  | some a => simp [ofKind, h a rfl]

theorem ofKind_toList_of_ne {kind kind' : NotificationKind} {n : Option Notification}
    (h : ∀ a, n = some a → a.kind = kind') (hne : kind' ≠ kind) : ofKind kind n.toList = [] := by
  cases n with
  | none => rfl
  | some a => simp [ofKind, h a rfl, hne]

/-- The notification of a kind that an itinerary leads to. -/
def itineraryNotice? (p : Preferences) (s : JourneyState) (i : Itinerary) :
    NotificationKind → Option Notification
  | .alert => if p.onAlert then alertNotification? s.matchingItinerary i else none
  | .departureDelay => if p.onDelay then (comparison p s i .departure).value.1 else none
  | .arrivalDelay => if p.onDelay then (comparison p s i .arrival).value.1 else none
  | .itineraryChanged =>
    if p.onItineraryChange then shapeNotification? s.matchingItinerary i else none
  | .tripNotPossible => none

theorem kind_of_itineraryNotice? {p : Preferences} {s : JourneyState} {i : Itinerary}
    {kind : NotificationKind} {n : Notification} (h : itineraryNotice? p s i kind = some n) :
    n.kind = kind := by
  cases kind <;> simp only [itineraryNotice?, Option.ite_none_right_eq_some, reduceCtorEq] at h
  case alert => exact Finding.kind_of_alertNotification? h.2
  case departureDelay => exact Finding.kind_of_comparison h.2
  case arrivalDelay => exact Finding.kind_of_comparison h.2
  case itineraryChanged => exact Finding.kind_of_shapeNotification? h.2

/-- The list of what an itinerary leads to, one kind after the other. -/
theorem snd_compareItinerary (p : Preferences) (s : JourneyState) (i : Itinerary) :
    (compareItinerary p s i).value.2 =
      (itineraryNotice? p s i .alert).toList ++ (itineraryNotice? p s i .departureDelay).toList ++
        (itineraryNotice? p s i .arrivalDelay).toList ++
        (itineraryNotice? p s i .itineraryChanged).toList := by
  cases h : p.onDelay with
  | false =>
    simp [compareItinerary, compareTimes_of_not_onDelay h, itineraryNotice?, h,
      apply_ite Option.toList]
  | true =>
    simp [compareItinerary, value_compareTimes h, itineraryNotice?, h, apply_ite Option.toList]

theorem ofKind_compareItinerary (p : Preferences) (s : JourneyState) (i : Itinerary)
    (kind : NotificationKind) :
    ofKind kind (compareItinerary p s i).value.2 = (itineraryNotice? p s i kind).toList := by
  have hself : ofKind kind (itineraryNotice? p s i kind).toList =
      (itineraryNotice? p s i kind).toList :=
    ofKind_toList_self fun _ h => kind_of_itineraryNotice? h
  have hother : ∀ k, k ≠ kind → ofKind kind (itineraryNotice? p s i k).toList = [] :=
    fun k => ofKind_toList_of_ne fun _ h => kind_of_itineraryNotice? h
  rw [snd_compareItinerary, ofKind_append, ofKind_append, ofKind_append]
  cases kind with
  | tripNotPossible =>
    have hnone : itineraryNotice? p s i .tripNotPossible = none := rfl
    simp [hother, hnone]
  | _ => simp [hself, hother]

namespace Finding

/-- What is told where there is no itinerary: the kind is told alone, unless the status was the same
before. -/
theorem snd_record_nothing (t : Trip) (now : Instant) (s : JourneyState) (reason : Option Refusal) :
    ((nothing reason).record t now s).value.2 =
      if s.status = some (.withoutItinerary t.days) then []
      else [⟨.tripNotPossible,
        notPossibleText (.withoutItinerary t.days) s.targetDate reason⟩] := rfl

/-- The notification of a kind that a finding leads to. -/
def notice? (t : Trip) (s : JourneyState) : Finding → NotificationKind → Option Notification
  | .itinerary i, kind => itineraryNotice? t.preferences s i kind
  | .nothing reason, .tripNotPossible =>
    if s.status = some (.withoutItinerary t.days) then none
    else some ⟨.tripNotPossible,
      notPossibleText (.withoutItinerary t.days) s.targetDate reason⟩
  | .nothing _, _ => none

/-- **What is told is, kind by kind, what the finding leads to.** -/
theorem ofKind_record (t : Trip) (now : Instant) (s : JourneyState) (f : Finding)
    (kind : NotificationKind) :
    ofKind kind (f.record t now s).value.2 = (f.notice? t s kind).toList := by
  cases f with
  | itinerary i => exact ofKind_compareItinerary t.preferences s i kind
  | nothing reason =>
    rw [snd_record_nothing]
    by_cases h : s.status = some (.withoutItinerary t.days)
    · cases kind <;> simp [h, ofKind, notice?]
    · cases kind <;> simp [h, ofKind, notice?]

end Finding

end TripWatch
