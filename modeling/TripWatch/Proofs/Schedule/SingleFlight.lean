import TripWatch.Proofs.Check.Course
import TripWatch.Proofs.Check.Ownership
import TripWatch.Proofs.Schedule.Turns

/-!
# Single flight

A check reads its trip's state at its beginning and writes another one near its end, with the
planner in between, and nothing locks the state meanwhile. What keeps two checks of a trip from
overwriting each other is that there is one at most, in every run. `singleFlight` puts together what
this means for the flights, the ticks and the states that are read.

A state is written under the identifier that stands in it, and read under that of the trip in the
list. Only on a store where these agree, `Store.Filed`, does a check read what the one before it has
written. All that is ever written leaves a store so, but a file may hold another one, and then a
check may start from the same state over and over: `not_readsLatest`.

## Main definitions

* `Tick.Counts` — what a tick returns
* `ReadsLatest` — whatever is read is what was written last
* `Schedule.Files` — the invariant
* `SingleFlight` — what single flight means

## Main results

* `Schedule.handle_reach`, `Schedule.counts_handleAll` — a tick reaches a trip, and what it returns
* `Schedule.Files.move`, `Schedule.files_handleAll` — the invariant, over an event and over a run
* `singleFlight` — the headline
-/

namespace TripWatch

/-! ### Ticks -/

/-- A tick has gone some way through its list, in order, and counts the trips that were free. -/
structure Tick.Counts (tick : Tick) : Prop where
  /-- The trips reached are the first ones of the list. -/
  inOrder : tick.reached.map Prod.fst = tick.listed.take tick.reached.length
  /-- One check was started for each trip that was free. -/
  started : tick.started = tick.reached.countP fun r => !r.2

theorem Tick.Counts.next {tick : Tick} (h : tick.Counts) {id : String}
    (hid : tick.listed[tick.reached.length]? = some id) (held : Bool) :
    Tick.Counts { tick with
      reached := tick.reached ++ [(id, held)]
      started := tick.started + if held then 0 else 1 } where
  inOrder := by simp [h.inOrder, List.take_add_one, hid]
  started := by cases held <;> simp [h.started]

namespace Schedule

variable {w : Schedule} {job : Job} {history : List (String × Deed)}

theorem counts_move (h : ∀ tick ∈ w.ticks, tick.Counts) {d : Option (String × Deed)}
    {w' : Schedule} (hmove : Move w d w') : ∀ tick ∈ w'.ticks, tick.Counts := by
  cases hmove with
  | rest | worked | replied | landed | storedTrip | storedUser => exact h
  | listed now =>
    simp only [List.forall_mem_append, List.forall_mem_singleton]
    exact ⟨h, rfl, rfl⟩
  | passed before tick after id hticks next held =>
    rw [hticks, List.forall_mem_append, List.forall_mem_cons] at h
    simp only [List.forall_mem_append, List.forall_mem_cons]
    exact ⟨h.1, by simpa using h.2.1.next next true, h.2.2⟩
  | began before tick after id flights hticks next free keys =>
    rw [hticks, List.forall_mem_append, List.forall_mem_cons] at h
    simp only [List.forall_mem_append, List.forall_mem_cons]
    exact ⟨h.1, by simpa using h.2.1.next next false, h.2.2⟩

theorem counts_handleAll (store : Store) (limit : Nat) (events : List Event) :
    ∀ tick ∈ ((start store limit).handleAll events).ticks, tick.Counts := by
  induction events using List.reverseRecOn with
  | nil => exact fun tick htick => absurd htick (by simp [start, handleAll])
  | append_singleton events e ih =>
    rw [handleAll_concat]
    exact counts_move ih (move_handle _ e)

/-- **A tick reaches a trip**: unless the trip is in flight, one check of it is started. -/
theorem handle_reach {k : Nat} {tick : Tick} {id : String} (hk : w.ticks[k]? = some tick)
    (hid : tick.listed[tick.reached.length]? = some id) :
    (w.handle (.reach k)).jobs =
        w.jobs ++ (if w.flights.isInFlight id then [] else [⟨id, tick.now, .readTrip⟩]) ∧
      (w.handle (.reach k)).ticks = w.ticks.set k { tick with
        reached := tick.reached ++ [(id, w.flights.isInFlight id)]
        started := tick.started + if w.flights.isInFlight id then 0 else 1 } := by
  simp only [handle, reach, hk, hid, Watch.spawn]
  by_cases h : id ∈ w.flights.keys <;>
    simp [Flights.acquire?, Flights.isInFlight, h, Job.ofTask]

end Schedule

/-! ### Which states are read -/

/-- The state that was written last, or the initial one. -/
def latest (initial : Option JourneyState) (deeds : List Deed) : Option JourneyState :=
  (deeds.filterMap Deed.written?).getLast?.or initial

/-- Whatever is read is what was written last before. -/
def ReadsLatest (initial : Option JourneyState) (deeds : List Deed) : Prop :=
  ∀ before previous after, deeds = before ++ .read previous :: after →
    previous = latest initial before

section Latest

variable {initial : Option JourneyState} {deeds : List Deed}

theorem latest_concat (d : Deed) :
    latest initial (deeds ++ [d]) = d.written?.or (latest initial deeds) := by
  cases h : d.written? <;> simp [latest, h]

theorem ReadsLatest.concat (h : ReadsLatest initial deeds) {d : Deed}
    (hd : ∀ previous, d = .read previous → previous = latest initial deeds) :
    ReadsLatest initial (deeds ++ [d]) := by
  intro before previous after heq
  rcases List.eq_nil_or_concat' after with rfl | ⟨after, e, rfl⟩
  · obtain ⟨rfl, hlast⟩ := List.append_inj' heq rfl
    exact hd previous (List.singleton_inj.mp hlast)
  · rw [← List.cons_append, ← List.append_assoc] at heq
    exact h before previous after (List.append_inj' heq rfl).1

end Latest

namespace Schedule

variable {w : Schedule} {job : Job} {history : List (String × Deed)}

/-- On a store whose trips and states stand under their own identifiers, the checks of a trip read
and write the same state. -/
structure Files (initial : Store) (w : Schedule) (history : List (String × Deed)) : Prop where
  /-- The store is still so. -/
  filed : w.store.Filed
  /-- Each check carries what is its own. -/
  owns : ∀ job ∈ w.jobs, job.stage.Owns job.tripId
  /-- The state of a trip is what was written last. -/
  states : ∀ id, w.store.states.get? id = latest (initial.states.get? id) (deedsOf id history)
  /-- So was each state at the time when it was read. -/
  reads : ∀ id, ReadsLatest (initial.states.get? id) (deedsOf id history)

theorem Files.start {store : Store} (h : store.Filed) (limit : Nat) :
    Files store (.start store limit) [] where
  filed := h
  owns job hjob := by cases hjob
  states id := rfl
  reads id before previous after heq := by
    rw [deedsOf_nil] at heq
    simp at heq

variable {initial : Store}

/-- One more deed: a state that is read is the stored one, and one that is written is stored. -/
theorem Files.concat (h : Files initial w history) {id : String} {d : Deed} {w' : Schedule}
    (hfiled : w'.store.Filed) (howns : ∀ job ∈ w'.jobs, job.stage.Owns job.tripId)
    (hread : ∀ previous, d = .read previous → previous = w.store.states.get? id)
    (hstates : ∀ key, w'.store.states.get? key =
      ((if id = key then d.written? else none).or (w.store.states.get? key))) :
    Files initial w' (history ++ [(id, d)]) where
  filed := hfiled
  owns := howns
  states key := by
    rw [hstates, h.states key, deedsOf_append, deedsOf_singleton]
    split
    · rw [latest_concat]
    · rw [List.append_nil, Option.none_or]
  reads key := by
    rw [deedsOf_append, deedsOf_singleton]
    split
    · subst key
      exact (h.reads id).concat fun previous heq => (hread previous heq).trans (h.states id)
    · simpa using h.reads key

/-- The checks that go on by what one of them has come to. -/
theorem Files.owns_replace (h : Files initial w history) {before after : List Job}
    (hjobs : w.jobs = before ++ job :: after) {stage : Cycle.Stage}
    (hstage : stage.Owns job.tripId) :
    ∀ other ∈ before ++ { job with stage := stage } :: after,
      other.stage.Owns other.tripId := by
  have hall := h.owns
  rw [hjobs, List.forall_mem_append, List.forall_mem_cons] at hall
  rw [List.forall_mem_append, List.forall_mem_cons]
  exact ⟨hall.1, hstage, hall.2.2⟩

/-- **An event keeps the states where they are read.** -/
theorem Files.move (h : Files initial w history) {d : Option (String × Deed)} {w' : Schedule}
    (hmove : Move w d w') : Files initial w' (history ++ d.toList) := by
  cases hmove with
  | rest | listed | passed =>
    rw [Option.toList_none, List.append_nil]
    exact ⟨h.filed, h.owns, h.states, h.reads⟩
  | storedUser u =>
    rw [Option.toList_none, List.append_nil]
    exact ⟨h.filed.putUser u, h.owns, h.states, h.reads⟩
  | storedTrip t =>
    rw [Option.toList_none, List.append_nil]
    exact ⟨h.filed.putTrip t, h.owns, h.states, h.reads⟩
  | began before tick after id flights hticks next free keys =>
    refine h.concat h.filed ?_ (by simp) fun key => by simp [Deed.written?]
    simp only [List.forall_mem_append, List.forall_mem_singleton]
    exact ⟨h.owns, trivial⟩
  | landed before job after how hjobs =>
    refine h.concat h.filed ?_ (by simp) fun key => by simp [Deed.written?]
    have hall := h.owns
    rw [hjobs, List.forall_mem_append, List.forall_mem_cons] at hall
    rw [List.forall_mem_append]
    exact ⟨hall.1, hall.2.2⟩
  | replied before job after r hjobs =>
    rw [Option.toList_none, List.append_nil]
    have hstage := (h.owns job (by simp [hjobs])).resume (w.setting job .none Sender.working) r
    exact ⟨h.filed, h.owns_replace hjobs hstage, h.states, h.reads⟩
  | worked before job after outage sender d stage store sent hjobs htakes =>
    have hjob := h.owns job (by simp [hjobs])
    have hfiled : store.Filed := htakes.forall_apply (fun _ h => h.apply) h.filed
    have howns := h.owns_replace hjobs (hjob.takes (h.filed.ownAt job.tripId) htakes).1
    generalize job.stage = stage₀ at hjob htakes
    cases htakes with
    | fails | skips | readTrip | readUser | writeTrip | send | rests =>
      rw [Option.map_none, Option.toList_none, List.append_nil]
      exact ⟨hfiled, howns, h.states, h.reads⟩
    | readState t u =>
      refine h.concat hfiled howns ?_ fun key => by simp [Deed.written?]
      rintro previous ⟨⟩
      rfl
    | writeState t u state ns =>
      obtain ⟨-, hid⟩ : t.id = job.tripId ∧ state.tripId = job.tripId := hjob
      refine h.concat hfiled howns (by simp) fun key => ?_
      rw [Store.get?_states_putState, hid]
      by_cases hkey : key = job.tripId
      · simp [hkey, Deed.written?]
      · simp [hkey, Ne.symm hkey]

theorem files_handleAll {store : Store} (h : store.Filed) (limit : Nat) (events : List Event) :
    Files store ((start store limit).handleAll events) ((start store limit).history events) := by
  induction events using List.reverseRecOn with
  | nil => exact .start h limit
  | append_singleton events e ih =>
    rw [handleAll_concat, history_concat]
    exact ih.move (move_handle _ e)

end Schedule

/-! ### The headline -/

/-- What single flight means for a run that has begun on a store, has come to a schedule and has a
history. -/
structure SingleFlight (initial : Store) (w : Schedule) (history : List (String × Deed)) :
    Prop where
  /-- The trips in flight are those of the checks that have not ended. -/
  held : ∀ id, w.flights.isInFlight id = true ↔ ∃ job ∈ w.jobs, job.tripId = id
  /-- No two of these checks are of one trip. -/
  nodup : (w.jobs.map Job.tripId).Nodup
  /-- A tick that reaches a trip starts one check of it if it is not in flight, and none if it is.
  The other checks stay as they are. -/
  reach : ∀ k tick id, w.ticks[k]? = some tick → tick.listed[tick.reached.length]? = some id →
    (w.handle (.reach k)).jobs =
        w.jobs ++ (if w.flights.isInFlight id then [] else [⟨id, tick.now, .readTrip⟩]) ∧
      (w.handle (.reach k)).ticks = w.ticks.set k { tick with
        reached := tick.reached ++ [(id, w.flights.isInFlight id)]
        started := tick.started + if w.flights.isInFlight id then 0 else 1 }
  /-- A tick goes through its list in order and returns how many of the trips were free. -/
  counts : ∀ tick ∈ w.ticks, tick.Counts
  /-- The deeds of a trip are those of one check after the other. -/
  inTurn : ∀ id, InTurn (deedsOf id history)
  /-- Where trips and states stood under their own identifiers, a check starts from the state that
  the latest check of its trip has written, or from the initial one if none has. -/
  reads : initial.Filed → ∀ id, ReadsLatest (initial.states.get? id) (deedsOf id history)

/-- **Single flight holds in every run.** -/
theorem singleFlight (store : Store) (limit : Nat) (events : List Schedule.Event) :
    SingleFlight store ((Schedule.start store limit).handleAll events)
      ((Schedule.start store limit).history events) where
  held id := by
    have hheld := (Schedule.sound_handleAll store limit events).held id
    rw [List.mem_map] at hheld
    simpa [Flights.isInFlight] using hheld
  nodup := (Schedule.sound_handleAll store limit events).nodup
  reach _ _ _ hk hid := Schedule.handle_reach hk hid
  counts := Schedule.counts_handleAll store limit events
  inTurn := (Schedule.sound_handleAll store limit events).inTurn
  reads hfiled := (Schedule.files_handleAll hfiled limit events).reads

/-! ### A state that stands under a key that is not its own -/

/-- A store with the commute, and a state of another trip in the place of that of the commute. -/
def Commute.misfiled : Store :=
  { (Store.empty.putUser rider).putTrip trip with
    states := Table.empty.insert "commute" (.new "elsewhere") }

/-- Two ticks, and a check of each. The first one finds no bus. -/
def Commute.twoTicks : List Schedule.Event :=
  let work := .work 0 .none Sender.working
  [.list tuesday, .list tuesday, .reach 0, work, work, work, .reply 0 (.response .empty),
    work, work, .finish 0, .reach 1, work, work, work]

/-- **What is read need not be what was written last**, on a store that is not filed: the second
check reads what the first one has read. -/
theorem not_readsLatest :
    ¬ ∀ (store : Store) (limit : Nat) (events : List Schedule.Event) (id : String),
      ReadsLatest (store.states.get? id)
        (deedsOf id ((Schedule.start store limit).history events)) := by
  intro hlatest
  have hlisted : (Commute.misfiled.trips.values.filter Trip.isActive).map Trip.id = ["commute"] :=
    rfl
  have hactive : Commute.misfiled.activeTripIds = ["commute"] := by
    rw [Store.activeTripIds, hlisted, List.mergeSort_singleton]
  have hdeeds : ∃ state how, state.lastChecked.isSome = true ∧
      deedsOf "commute" ((Schedule.start Commute.misfiled 200).history Commute.twoTicks) =
        [.began, .read (some (.new "elsewhere")), .wrote state, .ended how, .began] ++
          .read (some (.new "elsewhere")) :: [] := by
    simp only [Commute.twoTicks, Schedule.history, Schedule.handle, Schedule.start, hactive]
    exact ⟨_, _, rfl, rfl⟩
  obtain ⟨state, how, hchecked, hdeeds⟩ := hdeeds
  have hread : some (JourneyState.new "elsewhere") = some state :=
    hlatest Commute.misfiled 200 Commute.twoTicks "commute" _ _ _ hdeeds
  obtain rfl := Option.some.inj hread
  cases hchecked

end TripWatch
