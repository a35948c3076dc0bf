import TripWatch.Check.Evaluation

/-!
# Check cycles

A cycle checks a stored trip and stores what it found. It is a machine that takes one operation on
the store or the planner at a time, so that cycles of several trips, and edits by others, may come
between any two of its steps. Every operation may fail; the first failure ends the cycle.

## Main definitions

* `Cycle.Stage` — where a cycle stands, and what it knows by then
* `Cycle.step` — the next operation; a cycle that asks the planner waits for `Cycle.resume`
* `Cycle.advance` — all operations up to the planner or the end
* `checkAndPersist` — a cycle alone, with a planner that replies at once

## Main results

* `Cycle.rank_step_lt` — each step brings a cycle nearer to its end
-/

namespace TripWatch

namespace Cycle

/-- Where a cycle stands. -/
inductive Stage where
  /-- The trip has to be read. -/
  | readTrip
  /-- The trip's rider has to be read. -/
  | readUser (t : Trip)
  /-- The trip's state has to be read. -/
  | readState (t : Trip) (u : User)
  /-- The planner has to reply. -/
  | ask (t : Trip) (u : User) (state : JourneyState) (request : PlanRequest)
  /-- The new state has to be written. -/
  | writeState (t : Trip) (u : User) (state : JourneyState) (notifications : List Notification)
  /-- The trip, which has its new itinerary by now, has to be written. -/
  | writeTrip (t : Trip) (u : User) (state : JourneyState) (notifications : List Notification)
  /-- The notifications have to be delivered. -/
  | send (t : Trip) (u : User) (state : JourneyState) (notifications : List Notification)
  /-- The cycle is over. -/
  | finished (result : Except CheckFault CheckOutcome)

/-- What surrounds a cycle. -/
structure Setting where
  /-- The trip to be checked. -/
  tripId : String
  /-- The time of the check. -/
  now : LocalTime
  /-- How many milliseconds the planner may take. -/
  limit : Nat
  /-- Which operations on the store fail. -/
  outage : Outage
  /-- How messages are taken. -/
  sender : Sender

/-- A cycle, the store it works on, and the messages it has sent. -/
structure Moment where
  /-- Where the cycle stands. -/
  stage : Stage
  /-- The store. -/
  store : Store
  /-- The messages sent, in order. -/
  sent : List Message

/-- The end of a cycle by a fault. -/
def fail (fault : CheckFault) : Stage := .finished (.error fault)

/-- What a cycle does once it knows its outcome. -/
def record (t : Trip) (u : User) : CheckOutcome → Stage
  | .skipped => .finished (.ok .skipped)
  | .checked state notifications => .writeState t u state notifications

/-- What follows once the state is written: the trip takes the state's itinerary if that is another
one than its own. -/
def afterState (t : Trip) (u : User) (state : JourneyState) (notifications : List Notification) :
    Stage :=
  match state.matchingItinerary with
  | some itinerary =>
    if t.itinerary == some itinerary then .send t u state notifications
    else .writeTrip { t with itinerary := some itinerary } u state notifications
  | none => .send t u state notifications

/-- What follows once the trip is read. -/
def afterTrip (s : Setting) : Option Trip → Stage
  | none => fail (.tripNotFound s.tripId)
  | some t => if shouldSkip t s.now then .finished (.ok .skipped) else .readUser t

/-- What follows once the state is read. -/
def afterRead (s : Setting) (t : Trip) (u : User) (previous : Option JourneyState) : Stage :=
  match prepare t previous s.now with
  | .settled outcome => record t u outcome
  | .asking state request => .ask t u state request

/-- The next operation of a cycle. A cycle that waits for the planner or is over stays as it is. -/
def step (s : Setting) (m : Moment) : Moment :=
  match m.stage with
  | .readTrip =>
    match s.outage .getTrip with
    | some fault => { m with stage := fail (.store fault) }
    | none => { m with stage := afterTrip s (m.store.trips.get? s.tripId) }
  | .readUser t =>
    match s.outage .getUser with
    | some fault => { m with stage := fail (.store fault) }
    | none =>
      match m.store.users.get? t.userId with
      | none => { m with stage := fail (.userNotFound t.id t.userId) }
      | some u => { m with stage := .readState t u }
  | .readState t u =>
    match s.outage .getJourneyState with
    | some fault => { m with stage := fail (.store fault) }
    | none => { m with stage := afterRead s t u (m.store.states.get? s.tripId) }
  | .ask .. => m
  | .writeState t u state notifications =>
    match s.outage .replaceJourneyState with
    | some fault => { m with stage := fail (.store fault) }
    | none =>
      { m with
        stage := afterState t u state notifications
        store := m.store.putState state }
  | .writeTrip t u state notifications =>
    match s.outage .replaceTrip with
    | some fault => { m with stage := fail (.store fault) }
    | none =>
      { m with
        stage := .send t u state notifications
        store := m.store.putTrip t }
  | .send t u state notifications =>
    { m with
      stage := .finished (.ok (.checked state notifications))
      sent := m.sent ++ (deliver s.sender u t notifications).sent }
  | .finished _ => m

/-- What a cycle does with the planner's reply. -/
def resume (s : Setting) (reply : PlannerReply) : Stage → Stage
  | .ask t u state _ =>
    match conclude s.limit t state s.now.instant reply with
    | .error fault => fail fault
    | .ok outcome => record t u outcome
  | stage => stage

/-! ### Runs -/

/-- How many operations a cycle has before it at most, up to the planner or the end. -/
def Stage.rank : Stage → Nat
  | .readTrip => 6
  | .readUser _ => 5
  | .readState .. => 4
  | .writeState .. => 3
  | .writeTrip .. => 2
  | .send .. => 1
  | .ask .. => 0
  | .finished _ => 0

theorem rank_record_le (t : Trip) (u : User) (o : CheckOutcome) : (record t u o).rank ≤ 3 := by
  cases o <;> simp [record, Stage.rank]

theorem rank_afterRead_le (s : Setting) (t : Trip) (u : User) (previous : Option JourneyState) :
    (afterRead s t u previous).rank ≤ 3 := by
  unfold afterRead
  split
  · exact rank_record_le ..
  · simp [Stage.rank]

theorem rank_afterState_le (t : Trip) (u : User) (state : JourneyState) (ns : List Notification) :
    (afterState t u state ns).rank ≤ 2 := by
  unfold afterState
  split
  · split <;> simp [Stage.rank]
  · simp [Stage.rank]

theorem rank_afterTrip_le (s : Setting) (t : Option Trip) : (afterTrip s t).rank ≤ 5 := by
  unfold afterTrip
  split
  · simp [fail, Stage.rank]
  · split <;> simp [Stage.rank]

/-- Each step brings a cycle nearer to its end. -/
theorem rank_step_lt (s : Setting) (m : Moment) (h : m.stage.rank ≠ 0) :
    (step s m).stage.rank < m.stage.rank := by
  obtain ⟨stage, store, sent⟩ := m
  cases stage with
  | readTrip =>
    simp only [step]
    split
    · simp [fail, Stage.rank]
    · exact Nat.lt_of_le_of_lt (rank_afterTrip_le ..) (by simp [Stage.rank])
  | readUser t =>
    simp only [step]
    split
    · simp [fail, Stage.rank]
    · split <;> simp [fail, Stage.rank]
  | readState t u =>
    simp only [step]
    split
    · simp [fail, Stage.rank]
    · exact Nat.lt_of_le_of_lt (rank_afterRead_le ..) (by simp [Stage.rank])
  | ask => simp [Stage.rank] at h
  | writeState t u state ns =>
    simp only [step]
    split
    · simp [fail, Stage.rank]
    · exact Nat.lt_of_le_of_lt (rank_afterState_le ..) (by simp [Stage.rank])
  | writeTrip t u state ns =>
    simp only [step]
    split <;> simp [fail, Stage.rank]
  | send t u state ns => simp [step, Stage.rank]
  | finished => simp [Stage.rank] at h

/-- All operations of a cycle up to the planner or the end. -/
def advance (s : Setting) (m : Moment) : Moment :=
  if _h : m.stage.rank = 0 then m else advance s (step s m)
termination_by m.stage.rank
decreasing_by exact rank_step_lt s m _h

/-- What a cycle asks the planner, if it waits for it. -/
def request? : Stage → Option PlanRequest
  | .ask _ _ _ request => some request
  | _ => none

/-- The result of a cycle that is over. -/
def result? : Stage → Option (Except CheckFault CheckOutcome)
  | .finished result => some result
  | _ => none

/-- A whole cycle on a store that nobody else changes, with a planner that replies to requests. -/
def run (s : Setting) (planner : PlanRequest → PlannerReply) (store : Store) : Moment :=
  let m := advance s ⟨.readTrip, store, []⟩
  match request? m.stage with
  | some request => advance s { m with stage := resume s (planner request) m.stage }
  | none => m

end Cycle

/-- Checks a stored trip and stores what was found: the store afterwards, the messages sent and the
result. -/
def checkAndPersist (s : Cycle.Setting) (planner : PlanRequest → PlannerReply) (store : Store) :
    Store × List Message × Option (Except CheckFault CheckOutcome) :=
  let m := Cycle.run s planner store
  (m.store, m.sent, Cycle.result? m.stage)

end TripWatch
