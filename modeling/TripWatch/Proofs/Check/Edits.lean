import TripWatch.Proofs.Check.Persistence

/-!
# A check among edits

A cycle waits for the planner, and for its store, and others go on in the meantime. Here a run is a
list of events: the cycle takes an operation, the planner replies, or somebody else writes a record.
Nothing is said about the order, so every schedule is a run, and `exists_handleAll_eq_run` finds
among them the cycle that nobody disturbs.

A rider who stores the trip anew during a check would expect to find it as it was stored, the
itinerary apart. That is so in most runs and not in all: the check writes back the whole trip that
it read, over whatever the rider has changed since. `sameButItinerary_iff` says when, and
`pause_undone` is a rider who pauses a trip and finds it active.

## The invariant

From its read on a cycle carries the trip it read (`Stage.Carries`), and by its stage one can tell
whether it has written the trip back, and as what (`Stage.written?`). So what stands in the store
after an edit is the edit, or what the cycle has written since: `Stands`, which no event but another
edit of the trip can break.

## Main definitions

* `Cycle.Event` — what may happen, with what others may write
* `Cycle.Moment.handle`, `Cycle.Moment.handleAll` — one event and many
* `Trip.SameButItinerary` — agreement of two versions of a trip
* `Cycle.writtenBack?` — what a cycle with a certain result has written back

## Main results

* `Cycle.Stands.handle`, `Cycle.Stands.handleAll` — the invariant, over an event and over a run
* `Cycle.get?_trips_after_edit` — the trip that is stored in the end
* `Cycle.sameButItinerary_iff` — when an edit outlasts a check
-/

namespace TripWatch

/-- Two versions of a trip agree in all but the itinerary. -/
def Trip.SameButItinerary (a b : Trip) : Prop :=
  { a with itinerary := none } = { b with itinerary := none }

namespace Cycle

/-- What may happen while a cycle is under way. -/
inductive Event where
  /-- The cycle takes its next operation. -/
  | proceed
  /-- The planner replies. -/
  | reply (r : PlannerReply)
  /-- Somebody else writes a record. -/
  | edit (e : Edit)

/-- Whether an event is somebody else's write of a certain trip. -/
def Event.Rewrites (tripId : String) (e : Event) : Prop :=
  ∃ t, e = .edit (.trip t) ∧ t.id = tripId

namespace Moment

/-- Before the first operation of a cycle. -/
def start (store : Store) : Moment := ⟨.readTrip, store, []⟩

/-- The moment after an event. A reply that the cycle does not wait for is lost. -/
def handle (s : Setting) (m : Moment) : Event → Moment
  | .proceed => step s m
  | .reply r => { m with stage := resume s r m.stage }
  | .edit e => { m with store := e.apply m.store }

/-- The moment after some events. -/
def handleAll (s : Setting) (m : Moment) (events : List Event) : Moment :=
  events.foldl (handle s) m

theorem handleAll_cons (s : Setting) (m : Moment) (e : Event) (events : List Event) :
    m.handleAll s (e :: events) = (m.handle s e).handleAll s events := rfl

theorem handleAll_append (s : Setting) (m : Moment) (before after : List Event) :
    m.handleAll s (before ++ after) = (m.handleAll s before).handleAll s after :=
  List.foldl_append

end Moment

/-! ### The cycle that nobody disturbs -/

/-- Advancing is to proceed some number of times. -/
theorem exists_replicate_eq_advance (s : Setting) (m : Moment) :
    ∃ n, m.handleAll s (List.replicate n .proceed) = advance s m := by
  induction m using advance.induct s with
  | case1 m h =>
    refine ⟨0, ?_⟩
    rw [advance_of_rank_eq_zero h]
    rfl
  | case2 m h ih =>
    obtain ⟨n, hn⟩ := ih
    refine ⟨n + 1, ?_⟩
    rw [advance_of_rank_ne_zero h, ← hn]
    rfl

/-- A cycle on a store that nobody else changes is a run without edits. -/
theorem exists_handleAll_eq_run (s : Setting) (planner : PlanRequest → PlannerReply)
    (store : Store) :
    ∃ events : List Event, (∀ e, .edit e ∉ events) ∧
      (Moment.start store).handleAll s events = run s planner store := by
  obtain ⟨n, hn⟩ := exists_replicate_eq_advance s (.start store)
  simp only [run]
  rw [Moment.start] at hn ⊢
  generalize advance s ⟨.readTrip, store, []⟩ = m at hn ⊢
  cases request? m.stage with
  | none => exact ⟨List.replicate n .proceed, by simp, hn⟩
  | some request =>
    obtain ⟨k, hk⟩ := exists_replicate_eq_advance s (m.handle s (.reply (planner request)))
    refine ⟨List.replicate n .proceed ++ .reply (planner request) :: List.replicate k .proceed,
      by simp, ?_⟩
    rw [Moment.handleAll_append, hn, Moment.handleAll_cons, hk]
    rfl

/-! ### What a cycle carries -/

/-- What a cycle with a certain result has written back of the trip it read. -/
def writtenBack? (t : Trip) : Except CheckFault CheckOutcome → Option Trip
  | .ok (.checked state _) => t.writeBack? state
  | .ok .skipped => none
  | .error _ => none

theorem sameButItinerary_writtenBack? {t back v : Trip} {result : Except CheckFault CheckOutcome}
    (h : writtenBack? t result = some back) :
    back.SameButItinerary v ↔ t.SameButItinerary v := by
  rcases result with fault | (_ | ⟨state, ns⟩)
  · cases h
  · cases h
  · obtain ⟨i, -, -, rfl⟩ := Trip.writeBack?_eq_some_iff.mp h
    exact Iff.rfl

namespace Stage

/-- A trip was read and is what the cycle works with. -/
def Carries (t : Trip) : Stage → Prop
  | .readTrip => False
  | .readUser t' => t' = t
  | .readState t' _ => t' = t
  | .ask t' .. => t' = t
  | .writeState t' .. => t' = t
  | .writeTrip t' _ state _ => t.writeBack? state = some t'
  | .send .. => True
  | .finished _ => True

/-- What has been written back of the trip that was read. -/
def written? (t : Trip) : Stage → Option Trip
  | .send _ _ state _ => t.writeBack? state
  | .finished result => writtenBack? t result
  | _ => none

/-- Whether all writes are done. -/
def hasWritten : Stage → Bool
  | .send .. | .finished _ => true
  | _ => false

theorem written?_eq_none {t : Trip} {stage : Stage} (h : stage.hasWritten = false) :
    stage.written? t = none := by
  cases stage <;> first | rfl | cases h

end Stage

variable {s : Setting} {t v : Trip} {m : Moment}

@[simp] theorem carries_record (u : User) (o : CheckOutcome) : (record t u o).Carries t := by
  cases o <;> simp [record, Stage.Carries]

@[simp] theorem written?_record (u : User) (o : CheckOutcome) :
    (record t u o).written? t = none := by
  cases o <;> rfl

@[simp] theorem carries_afterRead (u : User) (previous : Option JourneyState) :
    (afterRead s t u previous).Carries t := by
  unfold afterRead
  cases prepare t previous s.now with
  | settled o => exact carries_record u o
  | asking state request => exact rfl

@[simp] theorem written?_afterRead (u : User) (previous : Option JourneyState) :
    (afterRead s t u previous).written? t = none := by
  unfold afterRead
  cases prepare t previous s.now with
  | settled o => exact written?_record u o
  | asking state request => rfl

/-! ### What stands in the store -/

/-- The cycle carries a trip, and since another version of the trip was stored nobody but the cycle
has written over it. -/
structure Stands (s : Setting) (t v : Trip) (m : Moment) : Prop where
  /-- The trip that was read. -/
  carries : m.stage.Carries t
  /-- The other version, or what has been written back. -/
  stored : m.store.trips.get? s.tripId = some ((m.stage.written? t).getD v)

theorem get?_trips_apply {key : String} {store : Store} {e : Edit}
    (h : ¬ Event.Rewrites key (.edit e)) :
    (e.apply store).trips.get? key = store.trips.get? key := by
  cases e with
  | trip t =>
    have hkey : key ≠ t.id := fun heq => h ⟨t, rfl, heq.symm⟩
    simp [Edit.apply, hkey]
  | user u => rfl
  | state j => rfl

theorem Stands.of_unwritten {stage : Stage} {store : Store} {sent : List Message}
    (hcarries : stage.Carries t) (hwritten : stage.written? t = none)
    (hstored : store.trips.get? s.tripId = some v) : Stands s t v ⟨stage, store, sent⟩ :=
  ⟨hcarries, by rw [hwritten]; exact hstored⟩

theorem Stands.step (hid : t.id = s.tripId) (h : Stands s t v m) : Stands s t v (step s m) := by
  obtain ⟨stage, store, sent⟩ := m
  obtain ⟨hcarries, hstored⟩ := h
  cases stage with
  | readTrip => exact hcarries.elim
  | readUser t' =>
    obtain rfl : t' = t := hcarries
    simp only [Cycle.step]
    cases s.outage .getUser with
    | some fault => exact .of_unwritten trivial rfl hstored
    | none =>
      cases store.users.get? t'.userId with
      | none => exact .of_unwritten trivial rfl hstored
      | some u => exact .of_unwritten rfl rfl hstored
  | readState t' u =>
    obtain rfl : t' = t := hcarries
    simp only [Cycle.step]
    cases s.outage .getJourneyState with
    | some fault => exact .of_unwritten trivial rfl hstored
    | none => exact .of_unwritten (carries_afterRead ..) (written?_afterRead ..) hstored
  | ask t' u state request => exact ⟨hcarries, hstored⟩
  | writeState t' u state ns =>
    obtain rfl : t' = t := hcarries
    simp only [Cycle.step, afterState_eq]
    cases s.outage .replaceJourneyState with
    | some fault => exact .of_unwritten trivial rfl hstored
    | none =>
      cases hback : t'.writeBack? state with
      | none => exact .of_unwritten trivial hback hstored
      | some back => exact .of_unwritten hback rfl hstored
  | writeTrip t' u state ns =>
    have hback : t.writeBack? state = some t' := hcarries
    simp only [Cycle.step]
    cases s.outage .replaceTrip with
    | some fault => exact .of_unwritten trivial rfl hstored
    | none =>
      obtain ⟨i, -, -, rfl⟩ := Trip.writeBack?_eq_some_iff.mp hback
      exact ⟨trivial, by simp [Stage.written?, hback, hid]⟩
  | send t' u state ns => exact ⟨trivial, hstored⟩
  | finished result => exact ⟨trivial, hstored⟩

theorem Stands.resume (reply : PlannerReply) (h : Stands s t v m) :
    Stands s t v { m with stage := resume s reply m.stage } := by
  obtain ⟨stage, store, sent⟩ := m
  obtain ⟨hcarries, hstored⟩ := h
  cases stage with
  | ask t' u state request =>
    obtain rfl : t' = t := hcarries
    simp only [Cycle.resume]
    cases conclude s.limit t' state s.now.instant reply with
    | error fault => exact .of_unwritten trivial rfl hstored
    | ok o => exact .of_unwritten (carries_record u o) (written?_record u o) hstored
  | _ => exact ⟨hcarries, hstored⟩

theorem Stands.handle (hid : t.id = s.tripId) (h : Stands s t v m) {e : Event}
    (he : ¬ e.Rewrites s.tripId) : Stands s t v (m.handle s e) := by
  cases e with
  | proceed => exact h.step hid
  | reply r => exact h.resume r
  | edit e => exact ⟨h.carries, (get?_trips_apply he).trans h.stored⟩

theorem Stands.edit (h : Stands s t v m) (hopen : m.stage.hasWritten = false) {v' : Trip}
    (hv : v'.id = s.tripId) : Stands s t v' (m.handle s (.edit (.trip v'))) :=
  .of_unwritten h.carries (Stage.written?_eq_none hopen) (by simp [Edit.apply, hv])

/-! ### After the last write -/

theorem hasWritten_handle (e : Event) (h : m.stage.hasWritten = true) :
    (m.handle s e).stage.hasWritten = true := by
  obtain ⟨stage, store, sent⟩ := m
  cases e with
  | edit e => exact h
  | proceed | reply r => cases stage <;> first | rfl | cases h

theorem get?_trips_handle (e : Event) (h : m.stage.hasWritten = true)
    (he : ¬ e.Rewrites s.tripId) :
    (m.handle s e).store.trips.get? s.tripId = m.store.trips.get? s.tripId := by
  obtain ⟨stage, store, sent⟩ := m
  cases e with
  | edit e => exact get?_trips_apply he
  | proceed => cases stage <;> first | rfl | cases h
  | reply r => rfl

/-! ### Runs -/

theorem Stands.handleAll (hid : t.id = s.tripId) (h : Stands s t v m) {events : List Event}
    (hevents : ∀ e ∈ events, ¬ e.Rewrites s.tripId) : Stands s t v (m.handleAll s events) := by
  induction events generalizing m with
  | nil => exact h
  | cons e events ih =>
    rw [List.forall_mem_cons] at hevents
    exact ih (h.handle hid hevents.1) hevents.2

theorem get?_trips_handleAll (h : m.stage.hasWritten = true) {events : List Event}
    (hevents : ∀ e ∈ events, ¬ e.Rewrites s.tripId) :
    (m.handleAll s events).store.trips.get? s.tripId = m.store.trips.get? s.tripId := by
  induction events generalizing m with
  | nil => rfl
  | cons e events ih =>
    rw [List.forall_mem_cons] at hevents
    rw [Moment.handleAll_cons, ih (hasWritten_handle e h) hevents.2,
      get?_trips_handle e h hevents.1]

/-- Whatever others write, a cycle that has read a trip carries it on until all writes are done. -/
theorem hasWritten_or_stands (hid : t.id = s.tripId) (events : List Event)
    (h : m.stage.hasWritten = true ∨ ∃ v, Stands s t v m) :
    (m.handleAll s events).stage.hasWritten = true ∨ ∃ v, Stands s t v (m.handleAll s events) := by
  induction events generalizing m with
  | nil => exact h
  | cons e events ih =>
    refine ih ?_
    rcases h with h | ⟨v, h⟩
    · exact .inl (hasWritten_handle e h)
    · by_cases he : e.Rewrites s.tripId
      · obtain ⟨v', rfl, hv⟩ := he
        cases hopen : m.stage.hasWritten with
        | true => exact .inl (hasWritten_handle _ hopen)
        | false => exact .inr ⟨v', h.edit hopen hv⟩
      · exact .inr ⟨v, h.handle hid he⟩

/-- The first operation reads the trip, or ends the cycle. -/
theorem hasWritten_or_stands_start {store : Store} (ht : store.trips.get? s.tripId = some t) :
    ((Moment.start store).handle s .proceed).stage.hasWritten = true ∨
      ∃ v, Stands s t v ((Moment.start store).handle s .proceed) := by
  simp only [Moment.handle, Moment.start, step, ht, afterTrip]
  cases s.outage .getTrip with
  | some fault => exact .inl rfl
  | none =>
    cases shouldSkip t s.now with
    | true => exact .inl rfl
    | false => exact .inr ⟨t, .of_unwritten rfl rfl ht⟩

theorem result?_eq_some {stage : Stage} {result : Except CheckFault CheckOutcome}
    (h : result? stage = some result) : stage = .finished result := by
  cases stage <;> cases h
  rfl

section EditDuringCheck

variable {store : Store} {before after : List Event} {result : Except CheckFault CheckOutcome}

/-- The trip that is stored once a cycle and an edit of its trip are both done: the edit, unless the
cycle wrote the trip back later. -/
theorem get?_trips_after_edit (ht : store.trips.get? s.tripId = some t) (hid : t.id = s.tripId)
    (hv : v.id = s.tripId) (hafter : ∀ e ∈ after, ¬ e.Rewrites s.tripId)
    (hend : result? ((Moment.start store).handleAll s
      (.proceed :: before ++ .edit (.trip v) :: after)).stage = some result) :
    ((Moment.start store).handleAll s
        (.proceed :: before ++ .edit (.trip v) :: after)).store.trips.get? s.tripId =
      some (if ((Moment.start store).handleAll s (.proceed :: before)).stage.hasWritten then v
        else (writtenBack? t result).getD v) := by
  have hbefore := hasWritten_or_stands hid before (hasWritten_or_stands_start ht)
  rw [← Moment.handleAll_cons] at hbefore
  rw [Moment.handleAll_append, Moment.handleAll_cons] at hend ⊢
  generalize (Moment.start store).handleAll s (.proceed :: before) = m at hbefore hend ⊢
  cases hwritten : m.stage.hasWritten with
  | true =>
    rw [get?_trips_handleAll (hasWritten_handle _ hwritten) hafter]
    simp [Moment.handle, Edit.apply, hv]
  | false =>
    obtain ⟨v', hstands⟩ := hbefore.resolve_left (by simp [hwritten])
    have hlast : Stands s t v _ := (hstands.edit hwritten hv).handleAll hid hafter
    rw [hlast.stored, result?_eq_some hend]
    rfl

/-- **An edit outlasts a check** exactly if it comes after the check's last write, or the check does
not write the trip back, or the edit changed no more than the itinerary of the version that the
check had read. The events may be any; the edit is the last one of its trip. -/
theorem sameButItinerary_iff (ht : store.trips.get? s.tripId = some t) (hid : t.id = s.tripId)
    (hv : v.id = s.tripId) (hafter : ∀ e ∈ after, ¬ e.Rewrites s.tripId)
    (hend : result? ((Moment.start store).handleAll s
      (.proceed :: before ++ .edit (.trip v) :: after)).stage = some result) :
    ∃ final, ((Moment.start store).handleAll s
        (.proceed :: before ++ .edit (.trip v) :: after)).store.trips.get? s.tripId = some final ∧
      (final.SameButItinerary v ↔
        ((Moment.start store).handleAll s (.proceed :: before)).stage.hasWritten = true ∨
          writtenBack? t result = none ∨ t.SameButItinerary v) := by
  refine ⟨_, get?_trips_after_edit ht hid hv hafter hend, ?_⟩
  cases ((Moment.start store).handleAll s (.proceed :: before)).stage.hasWritten with
  | true => simp [Trip.SameButItinerary]
  | false =>
    cases hback : writtenBack? t result with
    | none => simp [Trip.SameButItinerary]
    | some back =>
      simpa using sameButItinerary_writtenBack? hback

/-- A rider pauses a trip while the planner is asked, and the planner does not reply in time. -/
theorem sameButItinerary_iff_timeout :
    let s : Setting := ⟨"commute", Commute.monday 0, 200, .none, Sender.working⟩
    let store := (Store.empty.putUser Commute.rider).putTrip Commute.trip
    let paused := { Commute.trip with isActive := false }
    let result : Except CheckFault CheckOutcome := .error (.plannerTimeout 200)
    let before := [Event.proceed, .proceed]
    let after := [Event.reply .timeout]
    store.trips.get? s.tripId = some Commute.trip ∧ Commute.trip.id = s.tripId ∧
      paused.id = s.tripId ∧ (∀ e ∈ after, ¬ e.Rewrites s.tripId) ∧
      result? ((Moment.start store).handleAll s
        (.proceed :: before ++ .edit (.trip paused) :: after)).stage = some result ∧
      ∃ final, ((Moment.start store).handleAll s
          (.proceed :: before ++ .edit (.trip paused) :: after)).store.trips.get? s.tripId =
            some final ∧
        (final.SameButItinerary paused ↔
          ((Moment.start store).handleAll s (.proceed :: before)).stage.hasWritten = true ∨
            writtenBack? Commute.trip result = none ∨ Commute.trip.SameButItinerary paused) := by
  intro s store paused result before after
  have hafter : ∀ e ∈ after, ¬ e.Rewrites s.tripId := by simp [after, Event.Rewrites]
  exact ⟨rfl, rfl, rfl, hafter, rfl, sameButItinerary_iff rfl rfl rfl hafter rfl⟩

end EditDuringCheck

/-- The planner does reply in time, and the paused trip is active again: an edit during a check may
be undone in more than the itinerary. -/
theorem pause_undone :
    ¬ ∀ (s : Setting) (store : Store) (t v : Trip) (before after : List Event)
        (result : Except CheckFault CheckOutcome), store.Keyed →
      store.trips.get? s.tripId = some t → v.id = s.tripId →
      result? ((Moment.start store).handleAll s (.proceed :: before)).stage = none →
      (∀ e ∈ after, ¬ e.Rewrites s.tripId) →
      result? ((Moment.start store).handleAll s
        (.proceed :: before ++ .edit (.trip v) :: after)).stage = some result →
      ∃ final, ((Moment.start store).handleAll s
          (.proceed :: before ++ .edit (.trip v) :: after)).store.trips.get? s.tripId =
            some final ∧
        final.SameButItinerary v := by
  intro hkept
  have hkeyed : ((Store.empty.putUser Commute.rider).putTrip Commute.trip).Keyed :=
    (Store.filedFor_empty.putUser _).putTrip _
  obtain ⟨final, hfinal, hsame⟩ := hkept
    ⟨"commute", Commute.monday 0, 200, .none, Sender.working⟩ _ Commute.trip
    { Commute.trip with isActive := false } [.proceed, .proceed]
    [.reply (.response (.ofItinerary (Commute.bus 10))), .proceed, .proceed, .proceed] _ hkeyed
    rfl rfl rfl (by simp [Event.Rewrites]) rfl
  have hactive : final.isActive = true := by
    cases hfinal
    rfl
  rw [show final.isActive = false from congrArg Trip.isActive hsame] at hactive
  cases hactive

end Cycle

end TripWatch
