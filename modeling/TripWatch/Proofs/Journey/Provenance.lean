import TripWatch.Proofs.Check.Course

/-!
# Where an itinerary comes from

A journey state shows an itinerary beside a date, and one would like to read them together: the
itinerary is the latest one that the planner returned for the date. It need not be. A move to
another date keeps the itinerary until one is found there, since alerts and legs are compared with
it; and an itinerary in a response that reports a failure of the service is not taken at all.
`not_forItsDate` has a course for each.

What holds is `matching_of_remembered`. The itinerary is the one that was obtained last, for
whatever date. It is for the state's date as long as no visit since was about another one, and the
state shows whether that is so: the first such visit clears the scheduled times.

## Main definitions

* `Visit.returned?`, `Visit.obtained?` — what the planner returns to a visit, and what a completed
  visit takes of it
* `Visit.target?` — the date that a completed visit is about
* `latestOn` — the latest itinerary for a date
* `ForItsDate` — the reading that not every course allows

## Main results

* `Visit.obtained?_eq` — what is obtained is what is found
* `origin_of_remembered` — the visit that the itinerary came from, and what has happened since
* `matching_of_remembered` — the headline
-/

namespace TripWatch

/-- What a check asks the planner does not depend on what is remembered. -/
theorem request?_eq (t : Trip) (previous : Option JourneyState) (now : LocalTime) :
    request? t previous now =
      if shouldSkip t now then none else (t.days.next? now.date).map (.ofTrip t) := by
  unfold request? prepare
  cases t.days.next? now.date <;> rfl

namespace Visit

/-- The request of a visit and the best itinerary that the planner returns to it. -/
def returned? (v : Visit) : Option (PlanRequest × Itinerary) :=
  match request? v.trip none v.now with
  | none => none
  | some request =>
    match v.planner request with
    | .response response => response.first?.map fun i => (request, i)
    | .fault _ | .timeout => none

/-- What is returned to a visit that is completed. -/
def obtained? (v : Visit) (previous : Option JourneyState) : Option (PlanRequest × Itinerary) :=
  (v.finding? previous).bind fun _ => v.returned?

/-- The date that a visit sets, if it is completed and there is one. -/
def target? (v : Visit) (previous : Option JourneyState) : Option Date :=
  (v.finding? previous).bind fun _ => v.date?

variable {v : Visit} {previous : Option JourneyState}

/-- What is returned to a visit is what it finds, where it finds something. -/
theorem returned?_of_found? {f : Finding} (h : v.found? = some f) :
    v.returned? = match v.date?, f with
      | some date, .itinerary i => some (.ofTrip v.trip date, i)
      | _, _ => none := by
  unfold found? at h
  unfold returned?
  rw [request?_eq, ← date?]
  cases hskip : shouldSkip v.trip v.now with
  | true => simp [hskip] at h
  | false =>
    simp only [hskip, Bool.false_eq_true, if_false] at h ⊢
    cases hdate : v.date? with
    | none => rfl
    | some date =>
      simp only [hdate, Option.map_some, findOn] at h ⊢
      cases hfinding : Finding.ofReply v.limit (v.planner (.ofTrip v.trip date)) with
      | error fault => simp [hfinding] at h
      | ok found =>
        rw [hfinding] at h
        obtain rfl := Option.some.inj h
        obtain ⟨r, hreply, hfirst⟩ := Finding.response_of_ofReply hfinding
        simp only [hreply, hfirst]
        cases found <;> rfl

/-- **What is obtained is what is found and recorded.** -/
theorem obtained?_eq (v : Visit) (previous : Option JourneyState) :
    v.obtained? previous = match v.date?, v.finding? previous with
      | some date, some (.itinerary i) => some (.ofTrip v.trip date, i)
      | _, _ => none := by
  cases hfinding : v.finding? previous with
  | none => rw [obtained?, hfinding]; cases v.date? <;> rfl
  | some f =>
    rw [obtained?, hfinding, Option.bind_some,
      returned?_of_found? (finding?_eq_some_iff.mp hfinding).1]
    cases v.date? <;> cases f <;> rfl

theorem obtained?_of_itinerary {i : Itinerary} {date : Date} (hdate : v.date? = some date)
    (h : v.finding? previous = some (.itinerary i)) :
    v.obtained? previous = some (.ofTrip v.trip date, i) := by
  rw [obtained?_eq, hdate, h]

theorem obtained?_of_nothing {reason : Option Refusal}
    (h : v.finding? previous = some (.nothing reason)) : v.obtained? previous = none := by
  rw [obtained?_eq, h]
  cases v.date? <;> rfl

theorem obtained?_of_unfinished (h : v.finding? previous = none) :
    v.obtained? previous = none := by
  rw [obtained?, h]
  rfl

theorem target?_of_unfinished (h : v.finding? previous = none) : v.target? previous = none := by
  rw [target?, h]
  rfl

theorem target?_of_finding {f : Finding} (h : v.finding? previous = some f) :
    v.target? previous = v.date? := by
  rw [target?, h]
  rfl

end Visit

/-! ### The itinerary and its date -/

/-- The latest itinerary for a date, among requests and what came of them in order. -/
def latestOn (date : Date) (entries : List (PlanRequest × Itinerary)) : Option Itinerary :=
  ((entries.filter fun e => e.1.date = date).getLast?).map Prod.snd

theorem latestOn_concat (date : Date) (entries : List (PlanRequest × Itinerary))
    (e : PlanRequest × Itinerary) :
    latestOn date (entries ++ [e]) =
      if e.1.date = date then some e.2 else latestOn date entries := by
  by_cases h : e.1.date = date <;> simp [latestOn, h]

/-- After a course, the itinerary is the latest one that the planner returned for the date. -/
def ForItsDate (visits : List Visit) : Prop :=
  ∀ s ns i date, remembered visits = some (s, ns) → s.matchingItinerary = some i →
    s.targetDate = some date → latestOn date (visits.filterMap Visit.returned?) = some i

/-- Where the itinerary of a state came from: a visit that obtained it for a date, after which none
was obtained. The scheduled times are present as long as no completed visit was about another date,
and until then the state stands on that date. -/
structure Origin (visits : List Visit) (s : JourneyState) (i : Itinerary) (request : PlanRequest)
    (before : List Visit) (v : Visit) (since : List Visit) : Prop where
  /-- The visit is one of the course. -/
  parts : visits = before ++ v :: since
  /-- It obtained the itinerary. -/
  obtained : v.obtained? (stateAfter none before) = some (request, i)
  /-- Nothing was obtained since. -/
  last : history Visit.obtained? (stateAfter none (before ++ [v])) since = []
  /-- The scheduled times are present as long as no visit was about another date. -/
  scheduled : s.scheduledDeparture.isSome ↔
    ∀ d ∈ history Visit.target? (stateAfter none (before ++ [v])) since, d = request.date
  /-- Until then the state stands on the date of the request. -/
  date : (∀ d ∈ history Visit.target? (stateAfter none (before ++ [v])) since, d = request.date) →
    s.targetDate = some request.date

section Step

variable {visits before since : List Visit} {s : JourneyState} {i : Itinerary}
  {request : PlanRequest} {u v : Visit}

/-- A visit that obtains an itinerary is where it comes from. -/
theorem Origin.of_itinerary (hfinding : v.finding? (stateAfter none visits) = some (.itinerary i)) :
    ∃ request, Origin (visits ++ [v]) (v.record (stateAfter none visits) (.itinerary i)).value.1 i
      request visits v [] := by
  obtain ⟨date, hdate⟩ := Visit.exists_date_of_finding? hfinding
  refine ⟨.ofTrip v.trip date, rfl, Visit.obtained?_of_itinerary hdate hfinding, rfl, ?_,
    fun _ => ?_⟩
  · rw [Visit.record, Finding.value_record_itinerary, fst_recordFound]
    simp [history]
  · rw [Visit.record, Finding.targetDate_record, Visit.opened, hdate]
    exact JourneyState.targetDate_rollOver ..

/-- What the visits since the origin come to, with one more visit. -/
theorem Origin.history_concat (h : Origin visits s i request before u since) {α : Type}
    (come? : Visit → Option JourneyState → Option α) (v : Visit) :
    history come? (stateAfter none (before ++ [u])) (since ++ [v]) =
      history come? (stateAfter none (before ++ [u])) since ++
        (come? v (stateAfter none visits)).toList := by
  rw [TripWatch.history_concat, ← stateAfter_append, h.parts, List.append_assoc,
    List.singleton_append]

/-- A visit that records nothing changes nothing. -/
theorem Origin.of_unfinished (h : Origin visits s i request before u since)
    (hfinding : v.finding? (stateAfter none visits) = none) :
    Origin (visits ++ [v]) s i request before u (since ++ [v]) := by
  have htargets : history Visit.target? (stateAfter none (before ++ [u])) (since ++ [v]) =
      history Visit.target? (stateAfter none (before ++ [u])) since := by
    rw [h.history_concat, Visit.target?_of_unfinished hfinding, Option.toList_none, List.append_nil]
  refine ⟨by simp [h.parts], h.obtained, ?_, ?_, ?_⟩
  · rw [h.history_concat, h.last, Visit.obtained?_of_unfinished hfinding]
    rfl
  · rw [htargets]
    exact h.scheduled
  · rw [htargets]
    exact h.date

/-- A state that has to move has no scheduled times afterwards. -/
theorem scheduledDeparture_movedTo {date : Date} (h : s.targetDate ≠ some date) :
    (s.movedTo (some date)).scheduledDeparture = none := by
  rw [JourneyState.movedTo, JourneyState.rollOver, if_neg h]

/-- The scheduled times outlast a move exactly if the state stood on the date already. -/
theorem Origin.scheduled_movedTo (h : Origin visits s i request before u since)
    (date? : Option Date) :
    (s.movedTo date?).scheduledDeparture.isSome ↔
      (∀ d ∈ history Visit.target? (stateAfter none (before ++ [u])) since, d = request.date) ∧
        ∀ d ∈ date?, d = request.date := by
  cases date? with
  | none => simpa [JourneyState.movedTo] using h.scheduled
  | some other =>
    simp only [Option.mem_some_iff, forall_eq']
    by_cases htarget : s.targetDate = some other
    · rw [JourneyState.movedTo_eq_self fun d hd => hd ▸ htarget, h.scheduled]
      refine ⟨fun hsince => ⟨hsince, ?_⟩, And.left⟩
      exact Option.some.inj (htarget.symm.trans (h.date hsince))
    · rw [scheduledDeparture_movedTo htarget]
      constructor
      · intro hsome
        cases hsome
      · rintro ⟨hsince, rfl⟩
        exact absurd (h.date hsince) htarget

/-- A visit that finds nothing moves the state to its date, and does no more to the date and the
scheduled times. -/
theorem Origin.of_nothing (h : Origin visits s i request before u since)
    {reason : Option Refusal}
    (hfinding : v.finding? (stateAfter none visits) = some (.nothing reason)) :
    Origin (visits ++ [v]) (recordNotPossible (s.movedTo v.date?) v.trip v.now.instant reason).1
      i request before u (since ++ [v]) := by
  have htargets : (∀ d ∈ history Visit.target? (stateAfter none (before ++ [u])) (since ++ [v]),
      d = request.date) ↔
      (∀ d ∈ history Visit.target? (stateAfter none (before ++ [u])) since, d = request.date) ∧
        ∀ d ∈ v.date?, d = request.date := by
    simp only [h.history_concat, Visit.target?_of_finding hfinding, List.forall_mem_append,
      Option.mem_toList, Option.mem_def]
  refine ⟨by simp [h.parts], h.obtained, ?_, ?_, fun hsince => ?_⟩
  · rw [h.history_concat, h.last, Visit.obtained?_of_nothing hfinding]
    rfl
  · rw [htargets]
    exact h.scheduled_movedTo v.date?
  · obtain ⟨hsince, hlast⟩ := htargets.mp hsince
    change (s.movedTo v.date?).targetDate = some request.date
    cases hv : v.date? with
    | none => exact h.date hsince
    | some other =>
      rw [JourneyState.movedTo, JourneyState.targetDate_rollOver, hlast other hv]

end Step

/-- The itinerary stays where a state is moved. -/
theorem JourneyState.matchingItinerary_movedTo (s : JourneyState) (date : Option Date) :
    (s.movedTo date).matchingItinerary = s.matchingItinerary := by
  cases date with
  | none => rfl
  | some date =>
    rw [movedTo, rollOver]
    split <;> rfl

/-- **Where the itinerary comes from.** -/
theorem origin_of_remembered {visits : List Visit} {s : JourneyState} {ns : List Notification}
    {i : Itinerary} (h : remembered visits = some (s, ns)) (hi : s.matchingItinerary = some i) :
    ∃ request before v since, Origin visits s i request before v since := by
  induction visits using List.reverseRecOn generalizing s ns with
  | nil => cases h
  | append_singleton visits v ih =>
    rw [remembered_concat, Visit.leave_eq, ← stateAfter_none] at h
    cases hfinding : v.finding? (stateAfter none visits) with
    | none =>
      rw [hfinding] at h
      obtain ⟨request, before, u, since, horigin⟩ := ih h hi
      exact ⟨request, before, u, since ++ [v], horigin.of_unfinished hfinding⟩
    | some f =>
      rw [hfinding] at h
      obtain rfl : (v.record (stateAfter none visits) f).value.1 = s :=
        congrArg Prod.fst (Option.some.inj h)
      cases f with
      | itinerary j =>
        obtain rfl : j = i := by simpa [Visit.record, Finding.itinerary?] using hi
        obtain ⟨request, horigin⟩ := Origin.of_itinerary hfinding
        exact ⟨request, visits, v, [], horigin⟩
      | nothing reason =>
        rw [Visit.record, Finding.matchingItinerary_record, Finding.itinerary?, Option.none_or,
          Visit.opened, JourneyState.matchingItinerary_movedTo] at hi
        -- A new state has no itinerary, so something was remembered.
        cases hlast : remembered visits with
        | none => simp [stateAfter_none, hlast, JourneyState.new] at hi
        | some p =>
          rw [stateAfter_none, hlast] at hi
          obtain ⟨request, before, u, since, horigin⟩ := ih hlast hi
          refine ⟨request, before, u, since ++ [v], ?_⟩
          have hstate : (stateAfter none visits).getD (.new v.trip.id) = p.1 := by
            rw [stateAfter_none, hlast]
            rfl
          rw [Visit.record, Finding.value_record_nothing, Visit.opened, hstate]
          exact horigin.of_nothing hfinding

/-- **The itinerary of a state is the one that was obtained last**, for whatever date. As long as no
completed visit was about another date since, and the scheduled times are present exactly that long,
the itinerary is for the state's date; and if it is, it is the latest one obtained for it. -/
theorem matching_of_remembered {visits : List Visit} {s : JourneyState} {ns : List Notification}
    {i : Itinerary} {date : Date} (h : remembered visits = some (s, ns))
    (hi : s.matchingItinerary = some i) (hdate : s.targetDate = some date) :
    ∃ before v since request, visits = before ++ v :: since ∧
      v.obtained? (stateAfter none before) = some (request, i) ∧
      let reached := stateAfter none (before ++ [v])
      history Visit.obtained? reached since = [] ∧
      (s.scheduledDeparture.isSome ↔
        ∀ d ∈ history Visit.target? reached since, d = request.date) ∧
      ((∀ d ∈ history Visit.target? reached since, d = request.date) → request.date = date) ∧
      (request.date = date → latestOn date (history Visit.obtained? none visits) = some i) := by
  obtain ⟨request, before, v, since, rfl, hv, hlast, hscheduled, hstays⟩ :=
    origin_of_remembered h hi
  refine ⟨before, v, since, request, rfl, hv, hlast, hscheduled, fun hsince => ?_, fun heq => ?_⟩
  · exact Option.some.inj ((hstays hsince).symm.trans hdate)
  · have hentries : history Visit.obtained? none (before ++ v :: since) =
        history Visit.obtained? none before ++ [(request, i)] := by
      rw [List.append_cons, history_append, hlast, List.append_nil, TripWatch.history_concat, hv]
      rfl
    rw [hentries, latestOn_concat, if_pos heq]

/-- A bus is found on Monday, and nothing after that, with the planner not replying in between. -/
theorem matching_of_remembered_monday :
    ∃ s ns, remembered Commute.course = some (s, ns) ∧
      s.matchingItinerary = some (Commute.bus 10) ∧
      s.targetDate = some (Commute.monday 0).date ∧
      ∃ before v since request, Commute.course = before ++ v :: since ∧
        v.obtained? (stateAfter none before) = some (request, Commute.bus 10) ∧
        let reached := stateAfter none (before ++ [v])
        history Visit.obtained? reached since = [] ∧
        (s.scheduledDeparture.isSome ↔
          ∀ d ∈ history Visit.target? reached since, d = request.date) ∧
        ((∀ d ∈ history Visit.target? reached since, d = request.date) →
          request.date = (Commute.monday 0).date) ∧
        (request.date = (Commute.monday 0).date →
          latestOn (Commute.monday 0).date (history Visit.obtained? none Commute.course) =
            some (Commute.bus 10)) := by
  have h : remembered Commute.course = some (_, _) := rfl
  exact ⟨_, _, h, rfl, rfl, matching_of_remembered h rfl rfl⟩

/-- **The itinerary need not be for the date**: on a date without an itinerary that of the date
before is kept, and a response that reports a failure is not taken. -/
theorem not_forItsDate :
    ¬ ForItsDate Commute.tuesdayWithout ∧ ¬ ForItsDate Commute.failureWith := by
  constructor
  · intro hlatest
    have h : remembered Commute.tuesdayWithout = some (_, _) := rfl
    have hnone : latestOn Commute.tuesday.date
        (Commute.tuesdayWithout.filterMap Visit.returned?) = none := rfl
    have := hlatest _ _ (Commute.bus 10) Commute.tuesday.date h rfl rfl
    rw [hnone] at this
    cases this
  · intro hlatest
    have h : remembered Commute.failureWith = some (_, _) := rfl
    have hother : latestOn (Commute.monday 0).date
        (Commute.failureWith.filterMap Visit.returned?) = some (Commute.bus 20) := rfl
    have := hlatest _ _ (Commute.bus 10) (Commute.monday 0).date h rfl rfl
    rw [hother] at this
    exact absurd (congrArg Itinerary.startTime (Option.some.inj this)) (by decide)

end TripWatch
