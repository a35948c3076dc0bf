import TripWatch.Proofs.Check.Kinds

/-!
# What preferences decide

The three comparisons of a check share a state and a list, yet a preference decides only about its
own notifications. This is a statement about two courses: the same visits, at the same times and
with the same replies, once with some preferences and once with others. Their states may differ in
the baselines and in the list of what was told, since telling a delay moves a baseline; nothing else
depends on those two, and each baseline only on the preferences that govern its own delays.

`JourneyState.Alike` is what the two courses keep. It is not plain equality of the other fields:
that a baseline agrees where its preferences do has to be carried along, because the next delay is
measured from it.

## Checks that break off

There is one way out. Delays are calculated only where they are wanted, and a check whose
calculation does not fit breaks off with all that it had to say. So the two courses keep together as
long as the same checks break off in both, which they do in any case if the preferences on delays
agree (`told_of_preferences`). Where delays are wanted in one course only, they may part
(`preferences_part`).

## Main definitions

* `Visit.preferring` — a visit with other preferences
* `Preferences.Wants`, `Preferences.AgreesOn` — the preferences that govern a kind
* `JourneyState.Alike` — states of the same course with two preferences

## Main results

* `JourneyState.Alike.record` — recording the same finding keeps states alike
* `notice?_preferring` — a kind is told alike where its preferences agree
* `breakOffs_preferring` — the same checks break off where preferences on delays agree
* `told_of_preferences` — the headline
-/

namespace TripWatch

/-- A visit to the trip with other preferences. -/
def Visit.preferring (p : Preferences) (v : Visit) : Visit :=
  { v with trip := { v.trip with preferences := p } }

namespace Preferences

/-- Whether a kind is wanted. That a trip is not possible is always told. -/
def Wants (p : Preferences) : NotificationKind → Prop
  | .alert => p.onAlert = true
  | .departureDelay | .arrivalDelay => p.onDelay = true
  | .itineraryChanged => p.onItineraryChange = true
  | .tripNotPossible => True

/-- The preferences that govern a kind are the same. -/
def AgreesOn (p q : Preferences) : NotificationKind → Prop
  | .alert => p.onAlert = q.onAlert
  | .departureDelay => p.onDelay = q.onDelay ∧ p.departureThreshold = q.departureThreshold
  | .arrivalDelay => p.onDelay = q.onDelay ∧ p.arrivalThreshold = q.arrivalThreshold
  | .itineraryChanged => p.onItineraryChange = q.onItineraryChange
  | .tripNotPossible => True

end Preferences

/-- The preferences that govern the delays of an end are the same. -/
theorem Preferences.agreesOn_delay_iff {p q : Preferences} {kind : DelayKind} :
    p.AgreesOn q kind.notificationKind ↔
      p.onDelay = q.onDelay ∧ p.threshold kind = q.threshold kind := by
  cases kind <;> rfl

/-- States of the same course with two preferences. -/
structure JourneyState.Alike (p q : Preferences) (s s' : JourneyState) : Prop where
  /-- They agree in every field but the baselines and the list of what was told. -/
  rest : s' = { s with
    baselineDeparture := s'.baselineDeparture
    baselineArrival := s'.baselineArrival
    lastNotifications := s'.lastNotifications }
  /-- The time of an end that was told agrees where the preferences on it do. -/
  baseline : ∀ kind : DelayKind, p.AgreesOn q kind.notificationKind →
    s'.baseline kind = s.baseline kind

/-! ### The states -/

namespace JourneyState.Alike

variable {p q : Preferences} {s s' : JourneyState}

theorem refl (s : JourneyState) : Alike p q s s := ⟨rfl, fun _ _ => rfl⟩

theorem rollOver (h : Alike p q s s') (date : Date) :
    Alike p q (s.rollOver date) (s'.rollOver date) := by
  have htarget : s'.targetDate = s.targetDate := by rw [h.rest]
  unfold JourneyState.rollOver
  rw [htarget]
  split
  · exact h
  · exact ⟨by rw [h.rest], fun kind _ => by cases kind <;> rfl⟩

theorem movedTo (h : Alike p q s s') (date : Option Date) :
    Alike p q (s.movedTo date) (s'.movedTo date) := by
  cases date with
  | none => exact h
  | some date => exact h.rollOver date

theorem retold (h : Alike p q s s') (i : Itinerary) {kind : DelayKind}
    (hagree : p.AgreesOn q kind.notificationKind) :
    i.retold q kind (s'.baseline kind) = i.retold p kind (s.baseline kind) := by
  obtain ⟨hon, hthreshold⟩ := Preferences.agreesOn_delay_iff.mp hagree
  rw [Itinerary.retold, Itinerary.retold, h.baseline kind hagree, hon, hthreshold]

theorem comparison (h : Alike p q s s') (i : Itinerary) {kind : DelayKind}
    (hagree : p.AgreesOn q kind.notificationKind) :
    comparison p s i kind = comparison q s' i kind := by
  rw [TripWatch.comparison, TripWatch.comparison, h.baseline kind hagree,
    (Preferences.agreesOn_delay_iff.mp hagree).2]

theorem recordFound (h : Alike p q s s') (t : Trip) (now : Instant) (i : Itinerary) :
    Alike p q (recordFound s { t with preferences := p } now i).value.1
      (recordFound s' { t with preferences := q } now i).value.1 := by
  rw [fst_recordFound, fst_recordFound]
  refine ⟨by rw [h.rest], fun kind hagree => ?_⟩
  cases kind with
  | departure => exact h.retold i hagree
  | arrival => exact h.retold i hagree

theorem recordNotPossible (h : Alike p q s s') (t : Trip) (now : Instant)
    (reason : Option Refusal) :
    Alike p q (recordNotPossible s { t with preferences := p } now reason).1
      (recordNotPossible s' { t with preferences := q } now reason).1 :=
  ⟨by simp only [TripWatch.recordNotPossible]; rw [h.rest],
    fun kind hagree => by
      cases kind with
      | departure => exact h.baseline .departure hagree
      | arrival => exact h.baseline .arrival hagree⟩

/-- **Recording the same finding keeps states alike.** -/
theorem record (h : Alike p q s s') (t : Trip) (now : Instant) (f : Finding) :
    Alike p q (f.record { t with preferences := p } now s).value.1
      (f.record { t with preferences := q } now s').value.1 := by
  cases f with
  | itinerary i => exact h.recordFound t now i
  | nothing reason => exact h.recordNotPossible t now reason

/-- Where the preferences on delays agree, the same findings can be recorded. -/
theorem fits_record_iff (h : Alike p q s s')
    (hagree : ∀ kind : DelayKind, p.AgreesOn q kind.notificationKind) (t : Trip) (now : Instant)
    (f : Finding) :
    (f.record { t with preferences := p } now s).Fits ↔
      (f.record { t with preferences := q } now s').Fits := by
  cases f with
  | nothing reason => exact iff_of_true (Calculation.fits_pure _) (Calculation.fits_pure _)
  | itinerary i =>
    have hon : p.onDelay = q.onDelay := (hagree .departure).1
    simp only [Finding.record, fits_recordFound, fits_compareTimes, hon,
      fun kind => h.comparison i (hagree kind)]

end JourneyState.Alike

/-! ### What is told -/

section Telling

variable {p q : Preferences} {s s' : JourneyState} {kind : NotificationKind}

theorem itineraryNotice?_of_alike (h : s.Alike p q s') (hagree : p.AgreesOn q kind)
    (i : Itinerary) : itineraryNotice? p s i kind = itineraryNotice? q s' i kind := by
  have hmatching : s'.matchingItinerary = s.matchingItinerary := by rw [h.rest]
  cases kind with
  | alert =>
    have hon : p.onAlert = q.onAlert := hagree
    simp only [itineraryNotice?, hon, hmatching]
  | departureDelay =>
    have hcomparison : comparison p s i .departure = comparison q s' i .departure :=
      h.comparison i hagree
    simp only [itineraryNotice?, hcomparison, hagree.1]
  | arrivalDelay =>
    have hcomparison : comparison p s i .arrival = comparison q s' i .arrival :=
      h.comparison i hagree
    simp only [itineraryNotice?, hcomparison, hagree.1]
  | itineraryChanged =>
    have hon : p.onItineraryChange = q.onItineraryChange := hagree
    simp only [itineraryNotice?, hon, hmatching]
  | tripNotPossible => rfl

/-- **A kind is told alike where its preferences agree.** -/
theorem notice?_preferring (h : s.Alike p q s') (hagree : p.AgreesOn q kind) (t : Trip)
    (f : Finding) :
    f.notice? { t with preferences := p } s kind =
      f.notice? { t with preferences := q } s' kind := by
  cases f with
  | itinerary i => exact itineraryNotice?_of_alike h hagree i
  | nothing reason =>
    have hstatus : s'.status = s.status := by rw [h.rest]
    have htarget : s'.targetDate = s.targetDate := by rw [h.rest]
    cases kind with
    | tripNotPossible => simp only [Finding.notice?, hstatus, htarget]
    | _ => rfl

/-- A kind that is not wanted is not told. -/
theorem notice?_of_not_wants {t : Trip} (h : ¬ t.preferences.Wants kind) (s : JourneyState)
    (f : Finding) : f.notice? t s kind = none := by
  cases f with
  | itinerary i => cases kind <;> simp_all [Finding.notice?, itineraryNotice?, Preferences.Wants]
  | nothing reason => cases kind <;> simp_all [Finding.notice?, Preferences.Wants]

end Telling

/-! ### Two courses -/

namespace Visit

variable {p q : Preferences} {previous previous' : Option JourneyState}

/-- Preferences play no part in what is found. -/
theorem found?_preferring (p : Preferences) (v : Visit) :
    (v.preferring p).found? = v.found? := rfl

theorem opened_preferring (h : Option.Rel (JourneyState.Alike p q) previous previous')
    (v : Visit) :
    ((v.preferring p).opened previous).Alike p q ((v.preferring q).opened previous') := by
  cases h with
  | none => exact (JourneyState.Alike.refl _).movedTo v.date?
  | some h => exact h.movedTo v.date?

/-- Two visits that break off alike record the same finding. -/
theorem finding?_preferring {v : Visit}
    (heq : (v.preferring p).breaksOff previous = (v.preferring q).breaksOff previous') :
    (v.preferring p).finding? previous = (v.preferring q).finding? previous' := by
  rw [finding?_eq, finding?_eq, heq, found?_preferring, found?_preferring]

/-- Where the preferences on delays agree, a visit breaks off with both or with neither. -/
theorem breaksOff_preferring (h : Option.Rel (JourneyState.Alike p q) previous previous')
    (hagree : ∀ kind : DelayKind, p.AgreesOn q kind.notificationKind) (v : Visit) :
    (v.preferring p).breaksOff previous = (v.preferring q).breaksOff previous' := by
  have hfits : ∀ f, ((v.preferring p).record previous f).Fits ↔
      ((v.preferring q).record previous' f).Fits :=
    (v.opened_preferring h).fits_record_iff hagree v.trip v.now.instant
  simp only [breaksOff, found?_preferring, hfits]

/-- A visit keeps states alike, unless it breaks off with one of the preferences only. -/
theorem alike_pass (h : Option.Rel (JourneyState.Alike p q) previous previous') {v : Visit}
    (heq : (v.preferring p).breaksOff previous = (v.preferring q).breaksOff previous') :
    Option.Rel (JourneyState.Alike p q) ((v.preferring p).pass previous).1
      ((v.preferring q).pass previous').1 := by
  rw [pass_eq, pass_eq, finding?_preferring heq]
  cases (v.preferring q).finding? previous' with
  | none => exact h
  | some f => exact .some ((v.opened_preferring h).record v.trip v.now.instant f)

/-- It tells the same then of a kind on whose preferences both agree. -/
theorem ofKind_pass (h : Option.Rel (JourneyState.Alike p q) previous previous')
    {kind : NotificationKind} (hagree : p.AgreesOn q kind) {v : Visit}
    (heq : (v.preferring p).breaksOff previous = (v.preferring q).breaksOff previous') :
    ofKind kind ((v.preferring p).pass previous).2 =
      ofKind kind ((v.preferring q).pass previous').2 := by
  rw [pass_eq, pass_eq, finding?_preferring heq]
  cases (v.preferring q).finding? previous' with
  | none => rfl
  | some f =>
    simp only [record, Finding.ofKind_record]
    exact congrArg Option.toList (notice?_preferring (v.opened_preferring h) hagree v.trip f)

theorem ofKind_pass_of_not_wants {v : Visit} {kind : NotificationKind}
    (h : ¬ v.trip.preferences.Wants kind) (previous : Option JourneyState) :
    ofKind kind (v.pass previous).2 = [] := by
  rw [pass_eq]
  cases v.finding? previous with
  | none => rfl
  | some f => simp only [record, Finding.ofKind_record, notice?_of_not_wants h, Option.toList_none]

end Visit

section Courses

variable {p q : Preferences} {previous previous' : Option JourneyState}

theorem alike_refl (start : Option JourneyState) :
    Option.Rel (JourneyState.Alike p q) start start := by
  cases start with
  | none => exact .none
  | some s => exact .some (.refl s)

/-- When the trip was last checked is a field in which states that are alike agree. -/
theorem lastChecked_eq_of_alike (h : Option.Rel (JourneyState.Alike p q) previous previous') :
    previous'.bind JourneyState.lastChecked = previous.bind JourneyState.lastChecked := by
  cases h with
  | none => rfl
  | some h => rw [Option.bind_some, Option.bind_some, h.rest]

theorem alike_stateAfter (h : Option.Rel (JourneyState.Alike p q) previous previous')
    {visits : List Visit}
    (heq : breakOffs previous (visits.map (Visit.preferring p)) =
      breakOffs previous' (visits.map (Visit.preferring q))) :
    Option.Rel (JourneyState.Alike p q) (stateAfter previous (visits.map (Visit.preferring p)))
      (stateAfter previous' (visits.map (Visit.preferring q))) := by
  induction visits generalizing previous previous' with
  | nil => exact h
  | cons v rest ih =>
    obtain ⟨hfirst, hrest⟩ := List.cons_eq_cons.mp heq
    exact ih (Visit.alike_pass h hfirst) hrest

theorem ofKind_tellings {kind : NotificationKind} (hagree : p.AgreesOn q kind)
    (h : Option.Rel (JourneyState.Alike p q) previous previous') {visits : List Visit}
    (heq : breakOffs previous (visits.map (Visit.preferring p)) =
      breakOffs previous' (visits.map (Visit.preferring q))) :
    (tellings previous (visits.map (Visit.preferring p))).map (ofKind kind) =
      (tellings previous' (visits.map (Visit.preferring q))).map (ofKind kind) := by
  induction visits generalizing previous previous' with
  | nil => rfl
  | cons v rest ih =>
    obtain ⟨hfirst, hrest⟩ := List.cons_eq_cons.mp heq
    simp only [List.map_cons, tellings]
    rw [Visit.ofKind_pass h hagree hfirst, ih (Visit.alike_pass h hfirst) hrest]

theorem ofKind_tellings_of_not_wants {kind : NotificationKind} (h : ¬ p.Wants kind)
    (previous : Option JourneyState) (visits : List Visit) :
    ∀ told ∈ tellings previous (visits.map (Visit.preferring p)), ofKind kind told = [] := by
  induction visits generalizing previous with
  | nil => simp [tellings]
  | cons v rest ih =>
    simp only [List.map_cons, tellings, List.forall_mem_cons]
    exact ⟨Visit.ofKind_pass_of_not_wants (v := v.preferring p) h previous, ih _⟩

/-- **The same checks break off where the preferences on delays agree.** -/
theorem breakOffs_preferring (hagree : ∀ kind : DelayKind, p.AgreesOn q kind.notificationKind)
    (h : Option.Rel (JourneyState.Alike p q) previous previous') (visits : List Visit) :
    breakOffs previous (visits.map (Visit.preferring p)) =
      breakOffs previous' (visits.map (Visit.preferring q)) := by
  induction visits generalizing previous previous' with
  | nil => rfl
  | cons v rest ih =>
    have hfirst := Visit.breaksOff_preferring h hagree v
    simp only [List.map_cons, breakOffs]
    rw [hfirst, ih (Visit.alike_pass h hfirst)]

end Courses

/-- **Each preference governs only its own notifications.** Take the same visits with two
preferences, from the same state on, and let the same checks break off in both. After any number of
visits the states agree but in the baselines and in the list of what was told, and in a baseline too
where the preferences on it agree; and visit for visit the same is told of each kind on whose
preferences both agree. Where the preferences on both delays agree, the same checks do break off.
And whatever breaks off, a kind that is not wanted is never told. -/
theorem told_of_preferences (p q : Preferences) (start : Option JourneyState)
    (visits : List Visit) :
    let visits₁ := visits.map (Visit.preferring p)
    let visits₂ := visits.map (Visit.preferring q)
    (breakOffs start visits₁ = breakOffs start visits₂ →
      (∀ n, Option.Rel (JourneyState.Alike p q) (stateAfter start (visits₁.take n))
          (stateAfter start (visits₂.take n))) ∧
        ∀ kind, p.AgreesOn q kind →
          (tellings start visits₁).map (ofKind kind) =
            (tellings start visits₂).map (ofKind kind)) ∧
      ((∀ kind : DelayKind, p.AgreesOn q kind.notificationKind) →
        breakOffs start visits₁ = breakOffs start visits₂) ∧
      ∀ kind, ¬ p.Wants kind → ∀ told ∈ tellings start visits₁, ∀ n ∈ told, n.kind ≠ kind := by
  intro visits₁ visits₂
  refine ⟨fun heq => ⟨fun n => ?_, fun kind hagree => ?_⟩, fun hagree => ?_,
    fun kind hunwanted told htold n hn hkind => ?_⟩
  · -- A part of the course breaks off where the whole of it does.
    have hpart := congrArg (List.take n) heq
    rw [← breakOffs_take, ← breakOffs_take, ← List.map_take, ← List.map_take] at hpart
    rw [← List.map_take, ← List.map_take]
    exact alike_stateAfter (alike_refl start) hpart
  · exact ofKind_tellings hagree (alike_refl start) heq
  · exact breakOffs_preferring hagree (alike_refl start) visits
  · have hnone := ofKind_tellings_of_not_wants hunwanted start visits told htold
    exact ofKind_ne_nil.mpr ⟨n, hn, hkind⟩ hnone

/-- A late bus and no bus, with delays and without them. -/
theorem told_of_preferences_late_bus :
    let visits := [Commute.visit 0 (.response (.ofItinerary (Commute.bus 10))),
      Commute.visit 20 (.response .empty)]
    let p : Preferences := ⟨true, true, true, 5, 5⟩
    let q : Preferences := ⟨true, false, true, 5, 5⟩
    breakOffs none (visits.map (Visit.preferring p)) =
        breakOffs none (visits.map (Visit.preferring q)) ∧
      Option.Rel (JourneyState.Alike p q) (stateAfter none (visits.map (Visit.preferring p)))
        (stateAfter none (visits.map (Visit.preferring q))) ∧
      (tellings none (visits.map (Visit.preferring p))).map (List.map Notification.kind) =
        [[.alert, .departureDelay, .arrivalDelay], [.tripNotPossible]] ∧
      ∀ told ∈ tellings none (visits.map (Visit.preferring q)), ∀ n ∈ told,
        n.kind ≠ .departureDelay := by
  intro visits p q
  have hsame : breakOffs none (visits.map (Visit.preferring p)) =
      breakOffs none (visits.map (Visit.preferring q)) := by decide
  obtain ⟨halike, -⟩ := (told_of_preferences p q none visits).1 hsame
  have hunwanted := (told_of_preferences q p none visits).2.2 .departureDelay Bool.false_ne_true
  exact ⟨hsame, halike 2, by decide, hunwanted⟩

/-- **Preferences on delays may part two courses.** A departure was told that lies too far off to
calculate with. Where delays are wanted the check breaks off, and where they are not it is
completed. -/
theorem preferences_part :
    ¬ ∀ (p q : Preferences) (start : Option JourneyState) (visits : List Visit),
      Option.Rel (JourneyState.Alike p q) (stateAfter start (visits.map (Visit.preferring p)))
        (stateAfter start (visits.map (Visit.preferring q))) := by
  intro h
  have hchecked := lastChecked_eq_of_alike <|
    h ⟨true, true, true, 5, 5⟩ ⟨true, false, true, 5, 5⟩ (some Commute.toldLongAgo)
      [Commute.visit 0 (.response (.ofItinerary (Commute.bus 0)))]
  revert hchecked
  decide

end TripWatch
