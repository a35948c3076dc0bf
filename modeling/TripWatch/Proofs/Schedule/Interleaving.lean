import TripWatch.Schedule.Watch

/-!
# Checks side by side

The checks that a schedule starts run side by side on one store, and further ticks start more of
them in the meantime. Here a run is a list of events: a tick lists the active trips or reaches the
next trip of its list; a check takes an operation or gets its reply from the planner; a check ends;
a rider stores a trip anew. The order is arbitrary, and so is which operations on the store fail,
anew at every operation. Hence every schedule is a run, whether its ticks go through their lists at
once or in pieces, and that of the watch in virtual time is one of them.

An event is carried out by what carries it out in the watch: `Watch.spawn` reaches a trip,
`Cycle.step` takes an operation and `Cycle.resume` a reply, `Flights.release` frees a trip.

## The history of a trip

The rest is about what may be seen of the checks of a trip from outside: that one begins, what it
reads of the trip's state, what it writes, and how it ends. These are its deeds, and the deeds of a
run make up its history. `Move` says once what an event does to a schedule and to the history, and
`Cycle.Takes` what an operation of a check comes to. What holds over runs is proved from these two.

## Main definitions

* `Job`, `Tick`, `Schedule` — what is under way
* `Schedule.Event`, `Schedule.handle`, `Schedule.handleAll` — one event and many
* `Deed`, `Schedule.history`, `deedsOf` — what the checks of a trip do
* `Cycle.Takes`, `Schedule.Move` — what an operation comes to, and what an event does

## Main results

* `Cycle.takes_step`, `Schedule.move_handle` — there are no other operations and events
* `Schedule.history_concat` — histories grow at the end
-/

namespace TripWatch

/-- A check that was started and has not ended. -/
structure Job where
  /-- The trip. -/
  tripId : String
  /-- The time of the tick. -/
  now : LocalTime
  /-- Where its cycle stands. -/
  stage : Cycle.Stage

/-- A check that has not done anything yet. -/
def Job.ofTask (t : Task) : Job := ⟨t.tripId, t.now, .readTrip⟩

/-- A tick on its way through the trips that it has listed. -/
structure Tick where
  /-- The time of the tick. -/
  now : LocalTime
  /-- The active trips, as listed. -/
  listed : List String
  /-- The trips that it has reached, and whether they were being checked at the time. -/
  reached : List (String × Bool)
  /-- How many checks it has started; this is what it returns at the end of its list. -/
  started : Nat

/-- Checks and ticks side by side. -/
structure Schedule where
  /-- The store. -/
  store : Store
  /-- How many milliseconds the planner may take. -/
  limit : Nat
  /-- The trips that are being checked. -/
  flights : Flights
  /-- The checks that have not ended. -/
  jobs : List Job
  /-- The ticks, also those that have come to the end of their lists. -/
  ticks : List Tick
  /-- The messages sent, in order. -/
  sent : List Message

namespace Schedule

/-- Before the first tick. -/
def start (store : Store) (limit : Nat) : Schedule := ⟨store, limit, .none, [], [], []⟩

/-! ### Events -/

/-- What may happen next. Ticks and checks are named by their place in the schedule; an event that
names none changes nothing. -/
inductive Event where
  /-- A tick lists the active trips. -/
  | list (now : LocalTime)
  /-- A tick reaches the next trip of its list. -/
  | reach (tick : Nat)
  /-- A check takes its next operation. -/
  | work (job : Nat) (outage : Outage) (sender : Sender)
  /-- The planner replies to a check. -/
  | reply (job : Nat) (r : PlannerReply)
  /-- A check whose cycle is over ends. -/
  | finish (job : Nat)
  /-- A check breaks down where it stands. -/
  | crash (job : Nat)
  /-- A check is stopped where it stands. -/
  | abort (job : Nat)
  /-- A rider stores a trip. -/
  | storeTrip (t : Trip)
  /-- A rider is stored. -/
  | storeUser (u : User)

/-- The setting of a check's cycle. -/
def setting (w : Schedule) (job : Job) (outage : Outage) (sender : Sender) : Cycle.Setting :=
  ⟨job.tripId, job.now, w.limit, outage, sender⟩

/-- A tick reaches the next trip of its list. -/
def reach (w : Schedule) (k : Nat) : Schedule :=
  match w.ticks[k]? with
  | none => w
  | some tick =>
    match tick.listed[tick.reached.length]? with
    | none => w
    | some id =>
      let spawned := Watch.spawn tick.now [id] w.flights
      { w with
        flights := spawned.2
        jobs := w.jobs ++ spawned.1.map Job.ofTask
        ticks := w.ticks.set k { tick with
          reached := tick.reached ++ [(id, w.flights.isInFlight id)]
          started := tick.started + spawned.1.length } }

/-- The moment of a check. -/
def moment (w : Schedule) (job : Job) : Cycle.Moment := ⟨job.stage, w.store, w.sent⟩

/-- A check takes its next operation. -/
def work (w : Schedule) (i : Nat) (outage : Outage) (sender : Sender) : Schedule :=
  match w.jobs[i]? with
  | none => w
  | some job =>
    let m := Cycle.step (w.setting job outage sender) (w.moment job)
    { w with store := m.store, sent := m.sent, jobs := w.jobs.set i { job with stage := m.stage } }

/-- The planner replies to a check. -/
def answer (w : Schedule) (i : Nat) (r : PlannerReply) : Schedule :=
  match w.jobs[i]? with
  | none => w
  | some job =>
    let stage := Cycle.resume (w.setting job .none Sender.working) r job.stage
    { w with jobs := w.jobs.set i { job with stage := stage } }

/-- A check ends, and frees its trip. -/
def land (w : Schedule) (i : Nat) : Schedule :=
  match w.jobs[i]? with
  | none => w
  | some job => { w with jobs := w.jobs.eraseIdx i, flights := w.flights.release job.tripId }

/-- The result of a check whose cycle is over. -/
def result? (w : Schedule) (i : Nat) : Option (Except CheckFault CheckOutcome) :=
  w.jobs[i]?.bind fun job => Cycle.result? job.stage

/-- The schedule after an event. -/
def handle (w : Schedule) : Event → Schedule
  | .list now => { w with ticks := w.ticks ++ [⟨now, w.store.activeTripIds, [], 0⟩] }
  | .reach k => w.reach k
  | .work i outage sender => w.work i outage sender
  | .reply i r => w.answer i r
  | .finish i =>
    match w.result? i with
    | some _ => w.land i
    | none => w
  | .crash i | .abort i => w.land i
  | .storeTrip t => { w with store := w.store.putTrip t }
  | .storeUser u => { w with store := w.store.putUser u }

/-- The schedule after some events. -/
def handleAll (w : Schedule) (events : List Event) : Schedule := events.foldl handle w

theorem handleAll_append (w : Schedule) (before after : List Event) :
    w.handleAll (before ++ after) = (w.handleAll before).handleAll after :=
  List.foldl_append

@[simp] theorem handleAll_concat (w : Schedule) (events : List Event) (e : Event) :
    w.handleAll (events ++ [e]) = (w.handleAll events).handle e := by
  simp [handleAll]

end Schedule

/-! ### Deeds -/

/-- What may be seen of the checks of a trip. -/
inductive Deed where
  /-- A check begins. -/
  | began
  /-- It reads the trip's state. -/
  | read (previous : Option JourneyState)
  /-- It writes a state. -/
  | wrote (state : JourneyState)
  /-- It ends. -/
  | ended (how : TaskEnd)

namespace Cycle

/-- What is seen of a cycle's next operation. -/
def deed? (s : Setting) (store : Store) : Stage → Option Deed
  | .readState .. =>
    match s.outage .getJourneyState with
    | none => some (.read (store.states.get? s.tripId))
    | some _ => none
  | .writeState _ _ state _ =>
    match s.outage .replaceJourneyState with
    | none => some (.wrote state)
    | some _ => none
  | _ => none

/-- What the next operation of a cycle can come to, by the stage before it: what is seen of it, and
the stage and the store after it. -/
inductive Takes (s : Setting) (store : Store) : Stage → Option Deed → Stage → Store → Prop
  /-- The operation fails, or what is to be read is not there. -/
  | fails (stage : Stage) (fault : CheckFault) (pending : stage.rank ≠ 0)
      (missing : ∀ key, fault = .tripNotFound key → store.trips.get? s.tripId = none) :
      Takes s store stage none (fail fault) store
  /-- The trip is not due. -/
  | skips : Takes s store .readTrip none (.finished (.ok .skipped)) store
  /-- A trip that is due is read. -/
  | readTrip (t : Trip) (stored : store.trips.get? s.tripId = some t)
      (due : shouldSkip t s.now = false) : Takes s store .readTrip none (.readUser t) store
  /-- Its rider is read. -/
  | readUser (t : Trip) (u : User) : Takes s store (.readUser t) none (.readState t u) store
  /-- Its state is read. -/
  | readState (t : Trip) (u : User) :
      Takes s store (.readState t u) (some (.read (store.states.get? s.tripId)))
        (afterRead s t u (store.states.get? s.tripId)) store
  /-- The new state is written. -/
  | writeState (t : Trip) (u : User) (state : JourneyState) (ns : List Notification) :
      Takes s store (.writeState t u state ns) (some (.wrote state)) (afterState t u state ns)
        (store.putState state)
  /-- The trip is written. -/
  | writeTrip (t : Trip) (u : User) (state : JourneyState) (ns : List Notification) :
      Takes s store (.writeTrip t u state ns) none (.send t u state ns) (store.putTrip t)
  /-- The notifications are delivered. -/
  | send (t : Trip) (u : User) (state : JourneyState) (ns : List Notification) :
      Takes s store (.send t u state ns) none (.finished (.ok (.checked state ns))) store
  /-- The cycle waits for the planner, or is over. -/
  | rests (stage : Stage) (idle : stage.rank = 0) : Takes s store stage none stage store

/-- **An operation comes to one of these.** -/
theorem takes_step (s : Setting) (m : Moment) :
    Takes s m.store m.stage (deed? s m.store m.stage) (step s m).stage (step s m).store := by
  obtain ⟨stage, store, sent⟩ := m
  cases stage with
  | readTrip =>
    simp only [deed?, step]
    cases s.outage .getTrip with
    | some fault => exact .fails _ _ (by simp [Stage.rank]) (by simp)
    | none =>
      cases ht : store.trips.get? s.tripId with
      | none => exact .fails _ _ (by simp [Stage.rank]) fun _ _ => ht
      | some t =>
        simp only [afterTrip]
        cases hskip : shouldSkip t s.now with
        | true => exact .skips
        | false => exact .readTrip t ht hskip
  | readUser t =>
    simp only [deed?, step]
    cases s.outage .getUser with
    | some fault => exact .fails _ _ (by simp [Stage.rank]) (by simp)
    | none =>
      cases store.users.get? t.userId with
      | none => exact .fails _ _ (by simp [Stage.rank]) (by simp)
      | some u => exact .readUser t u
  | readState t u =>
    simp only [deed?, step]
    cases s.outage .getJourneyState with
    | some fault => exact .fails _ _ (by simp [Stage.rank]) (by simp)
    | none => exact .readState t u
  | writeState t u state ns =>
    simp only [deed?, step]
    cases s.outage .replaceJourneyState with
    | some fault => exact .fails _ _ (by simp [Stage.rank]) (by simp)
    | none => exact .writeState t u state ns
  | writeTrip t u state ns =>
    simp only [deed?, step]
    cases s.outage .replaceTrip with
    | some fault => exact .fails _ _ (by simp [Stage.rank]) (by simp)
    | none => exact .writeTrip t u state ns
  | send t u state ns => exact .send t u state ns
  | ask | finished => exact .rests _ rfl

end Cycle

/-- The deeds of the checks of a trip, in a history. -/
def deedsOf (id : String) (history : List (String × Deed)) : List Deed :=
  history.filterMap fun (key, deed) => if key = id then some deed else none

@[simp] theorem deedsOf_nil (id : String) : deedsOf id [] = [] := rfl

@[simp] theorem deedsOf_append (id : String) (before after : List (String × Deed)) :
    deedsOf id (before ++ after) = deedsOf id before ++ deedsOf id after :=
  List.filterMap_append

theorem deedsOf_singleton (id key : String) (d : Deed) :
    deedsOf id [(key, d)] = if key = id then [d] else [] := by
  by_cases h : key = id <;> simp [deedsOf, h]

namespace Schedule

/-- What is seen of an event: the trip and the deed. -/
def deed? (w : Schedule) : Event → Option (String × Deed)
  | .reach k =>
    w.ticks[k]?.bind fun tick => tick.listed[tick.reached.length]?.bind fun id =>
      if w.flights.isInFlight id then none else some (id, .began)
  | .work i outage sender =>
    w.jobs[i]?.bind fun job =>
      (Cycle.deed? (w.setting job outage sender) w.store job.stage).map fun deed =>
        (job.tripId, deed)
  | .finish i =>
    w.jobs[i]?.bind fun job => (Cycle.result? job.stage).map fun result =>
      (job.tripId, .ended (.ofResult result))
  | .crash i => w.jobs[i]?.map fun job => (job.tripId, .ended .crashed)
  | .abort i => w.jobs[i]?.map fun job => (job.tripId, .ended .aborted)
  | .list _ | .reply .. | .storeTrip _ | .storeUser _ => none

/-- All deeds of a run, in order. -/
def history (w : Schedule) : List Event → List (String × Deed)
  | [] => []
  | e :: events => (w.deed? e).toList ++ (w.handle e).history events

theorem history_append (w : Schedule) (before after : List Event) :
    w.history (before ++ after) = w.history before ++ (w.handleAll before).history after := by
  induction before generalizing w with
  | nil => rfl
  | cons e before ih =>
    rw [List.cons_append, history, history, ih, List.append_assoc]
    rfl

theorem history_concat (w : Schedule) (events : List Event) (e : Event) :
    w.history (events ++ [e]) = w.history events ++ ((w.handleAll events).deed? e).toList := by
  rw [history_append]
  simp [history]

/-! ### Moves -/

/-- What stands at a place, and what stands before and after it. -/
theorem eq_take_append_of_getElem? {α : Type} {l : List α} {i : Nat} {a : α} (h : l[i]? = some a) :
    i < l.length ∧ l = l.take i ++ a :: l.drop (i + 1) := by
  obtain ⟨hi, rfl⟩ := List.getElem?_eq_some_iff.mp h
  exact ⟨hi, by simp⟩

/-- What an event does: to the schedule, and to the history. -/
inductive Move (w : Schedule) : Option (String × Deed) → Schedule → Prop
  /-- Nothing changes. -/
  | rest : Move w none w
  /-- A tick lists the active trips. -/
  | listed (now : LocalTime) :
      Move w none { w with ticks := w.ticks ++ [⟨now, w.store.activeTripIds, [], 0⟩] }
  /-- A tick passes over a trip that is being checked. -/
  | passed (before : List Tick) (tick : Tick) (after : List Tick) (id : String)
      (ticks : w.ticks = before ++ tick :: after)
      (next : tick.listed[tick.reached.length]? = some id)
      (held : w.flights.isInFlight id = true) :
      Move w none { w with
        ticks := before ++ { tick with reached := tick.reached ++ [(id, true)] } :: after }
  /-- A tick starts a check of a trip that is free. -/
  | began (before : List Tick) (tick : Tick) (after : List Tick) (id : String) (flights : Flights)
      (ticks : w.ticks = before ++ tick :: after)
      (next : tick.listed[tick.reached.length]? = some id)
      (free : w.flights.isInFlight id = false) (keys : flights.keys = id :: w.flights.keys) :
      Move w (some (id, .began)) { w with
        flights := flights
        jobs := w.jobs ++ [⟨id, tick.now, .readTrip⟩]
        ticks := before ++ { tick with
          reached := tick.reached ++ [(id, false)]
          started := tick.started + 1 } :: after }
  /-- A check takes an operation. -/
  | worked (before : List Job) (job : Job) (after : List Job) (outage : Outage) (sender : Sender)
      (d : Option Deed) (stage : Cycle.Stage) (store : Store) (sent : List Message)
      (jobs : w.jobs = before ++ job :: after)
      (takes : Cycle.Takes (w.setting job outage sender) w.store job.stage d stage store) :
      Move w (d.map fun deed => (job.tripId, deed))
        { w with
          store := store, sent := sent
          jobs := before ++ { job with stage := stage } :: after }
  /-- A check gets its reply. -/
  | replied (before : List Job) (job : Job) (after : List Job) (r : PlannerReply)
      (jobs : w.jobs = before ++ job :: after) :
      Move w none { w with jobs := before ++ { job with
        stage := Cycle.resume (w.setting job .none Sender.working) r job.stage } :: after }
  /-- A check ends. -/
  | landed (before : List Job) (job : Job) (after : List Job) (how : TaskEnd)
      (jobs : w.jobs = before ++ job :: after) :
      Move w (some (job.tripId, .ended how))
        { w with jobs := before ++ after, flights := w.flights.release job.tripId }
  /-- A trip is stored. -/
  | storedTrip (t : Trip) : Move w none { w with store := w.store.putTrip t }
  /-- A rider is stored. -/
  | storedUser (u : User) : Move w none { w with store := w.store.putUser u }

variable {w : Schedule}

theorem move_reach (k : Nat) : Move w (w.deed? (.reach k)) (w.reach k) := by
  rw [reach, deed?]
  cases hk : w.ticks[k]? with
  | none => exact .rest
  | some tick =>
    simp only [Option.bind_some]
    cases hid : tick.listed[tick.reached.length]? with
    | none => exact .rest
    | some id =>
      obtain ⟨hlt, hticks⟩ := eq_take_append_of_getElem? hk
      simp only [Option.bind_some, Watch.spawn, List.set_eq_take_append_cons_drop, if_pos hlt]
      by_cases h : id ∈ w.flights.keys
      · have held : w.flights.isInFlight id = true := by simpa [Flights.isInFlight] using h
        simp only [Flights.acquire?, dif_pos h, held, if_true, List.map_nil, List.append_nil]
        exact .passed _ tick _ id hticks hid held
      · have free : w.flights.isInFlight id = false := by simpa [Flights.isInFlight] using h
        simp only [Flights.acquire?, dif_neg h, free]
        exact .began _ tick _ id _ hticks hid free rfl

theorem move_work (i : Nat) (outage : Outage) (sender : Sender) :
    Move w (w.deed? (.work i outage sender)) (w.work i outage sender) := by
  rw [work, deed?]
  cases h : w.jobs[i]? with
  | none => exact .rest
  | some job =>
    obtain ⟨hi, hjobs⟩ := eq_take_append_of_getElem? h
    simp only [List.set_eq_take_append_cons_drop, if_pos hi, Option.bind_some]
    exact .worked _ job _ outage sender _ _ _ _ hjobs
      (Cycle.takes_step (w.setting job outage sender) (w.moment job))

theorem move_answer (i : Nat) (r : PlannerReply) : Move w none (w.answer i r) := by
  rw [answer]
  cases h : w.jobs[i]? with
  | none => exact .rest
  | some job =>
    obtain ⟨hi, hjobs⟩ := eq_take_append_of_getElem? h
    simp only [List.set_eq_take_append_cons_drop, if_pos hi]
    exact .replied _ job _ r hjobs

theorem move_land {i : Nat} {job : Job} (h : w.jobs[i]? = some job) (how : TaskEnd) :
    Move w (some (job.tripId, .ended how)) (w.land i) := by
  simp only [land, h, List.eraseIdx_eq_take_drop_succ]
  exact .landed _ job _ how (eq_take_append_of_getElem? h).2

/-- **Every event is a move.** -/
theorem move_handle (w : Schedule) (e : Event) : Move w (w.deed? e) (w.handle e) := by
  cases e with
  | list now => exact .listed now
  | reach k => exact move_reach k
  | work i outage sender => exact move_work i outage sender
  | reply i r => exact move_answer i r
  | finish i =>
    simp only [handle, deed?, result?]
    cases h : w.jobs[i]? with
    | none => exact .rest
    | some job =>
      simp only [Option.bind_some]
      cases Cycle.result? job.stage with
      | none => exact .rest
      | some result => exact move_land h _
  | crash i | abort i =>
    simp only [handle, deed?]
    cases h : w.jobs[i]? with
    | none =>
      simp only [land, h]
      exact .rest
    | some job => exact move_land h _
  | storeTrip t => exact .storedTrip t
  | storeUser u => exact .storedUser u

end Schedule

end TripWatch
