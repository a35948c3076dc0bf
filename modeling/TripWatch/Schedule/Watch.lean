import TripWatch.Check.Cycle
import TripWatch.Schedule.Flights

/-!
# Scheduled checks in virtual time

Ticks of the schedule start a check for every active trip that is not being checked already. Time
is a number of milliseconds that passes only when it is told to, and the planner follows a script,
so a whole run is a function.

Tasks go on only while the watch itself waits. What is due at the very moment at which the watch
goes on comes after it, in the next wait; and a wait of no time is none.

## Main definitions

* `PlannerScript`, `PlannerScript.call` — how the planner behaves, and what becomes of a call
* `Task` — a check that was started
* `Watch` — store, file, planner, sender and tasks
* `Watch.tick`, `Watch.elapse`, `Watch.join`, `Watch.abort`, `Watch.runSchedule` — what is done
* `Watch.flush`, `Watch.reload` — the store's file
-/

namespace TripWatch

/-! ### The planner's script -/

/-- What the planner does with a call in the end. -/
inductive PlannerConduct where
  /-- It replies. -/
  | replies (reply : PlannerReply)
  /-- It breaks down together with its caller. -/
  | crashes

/-- How the planner behaves at every call. -/
structure PlannerScript where
  /-- How many milliseconds it takes; none at all if there is no number. -/
  delay : Option Nat
  /-- What it does then. -/
  conduct : PlannerConduct

/-- What becomes of a call: after how many milliseconds, and with which conduct. A delay beyond the
limit is cut off there. -/
def PlannerScript.call (p : PlannerScript) (limit : Nat) : Nat × PlannerConduct :=
  let delay := p.delay.getD 0
  if limit < delay then (limit, .replies .timeout) else (delay, p.conduct)

/-! ### Tasks -/

/-- How a task ended. -/
inductive TaskEnd where
  /-- Its cycle came to an end. -/
  | completed (result : Except CheckFault CheckOutcome)
  /-- It broke down. -/
  | crashed
  /-- It was stopped. -/
  | aborted

/-- The end of a task whose cycle is over. A cycle that breaks off takes its task with it. -/
def TaskEnd.ofResult : Except CheckFault CheckOutcome → TaskEnd
  | .error .overflow => .crashed
  | result => .completed result

/-- How far a task has come. -/
inductive TaskPhase where
  /-- It has not done anything yet. -/
  | fresh
  /-- It waits for the planner until a point in time. -/
  | waiting (stage : Cycle.Stage) (wake : Nat) (conduct : PlannerConduct)
  /-- It has ended. -/
  | ended (how : TaskEnd)

/-- A check that was started. -/
structure Task where
  /-- The trip. -/
  tripId : String
  /-- The time of the tick. -/
  now : LocalTime
  /-- How far it has come. -/
  phase : TaskPhase

namespace Task

/-- Whether the task has ended. -/
def isEnded (t : Task) : Bool :=
  match t.phase with
  | .ended _ => true
  | _ => false

/-- How the task ended, if it has. -/
def ending? (t : Task) : Option (String × TaskEnd) :=
  match t.phase with
  | .ended how => some (t.tripId, how)
  | _ => none

/-- When the task goes on, if it waits. -/
def wake? (t : Task) : Option Nat :=
  match t.phase with
  | .waiting _ wake _ => some wake
  | _ => none

end Task

/-! ### The watch -/

/-- A watch over trips: everything that a run of the schedule acts on. -/
structure Watch where
  /-- The store. -/
  store : Store
  /-- Whether the store has a file. -/
  hasFile : Bool
  /-- What the file holds, if it exists. -/
  file : Option String
  /-- How the planner behaves. -/
  planner : PlannerScript
  /-- How messages are taken. -/
  sender : Sender
  /-- Which operations on the store fail. -/
  outage : Outage
  /-- How many milliseconds the planner may take. -/
  limit : Nat
  /-- How many milliseconds lie between ticks. -/
  interval : Nat
  /-- The present in virtual milliseconds. -/
  clock : Nat
  /-- The trips that are being checked. -/
  flights : Flights
  /-- The trips of tasks that were stopped and not yet cleared away. -/
  stopped : List String
  /-- The tasks that nobody has collected yet. -/
  tasks : List Task
  /-- The requests since the last report, in order. -/
  requests : List PlanRequest
  /-- The messages since the last report, in order. -/
  sent : List Message

namespace Watch

/-- The setting of a trip's cycle. -/
def setting (w : Watch) (tripId : String) (now : LocalTime) : Cycle.Setting :=
  ⟨tripId, now, w.limit, w.outage, w.sender⟩

/-- The watch without its notes for reports. -/
def reported (w : Watch) : Watch := { w with requests := [], sent := [] }

/-- Takes over what a cycle has done. -/
def take (w : Watch) (m : Cycle.Moment) : Watch :=
  { w with store := m.store, sent := w.sent ++ m.sent }

/-- A task after its cycle went on, with the watch. -/
def settle (w : Watch) (t : Task) (m : Cycle.Moment) : Task × Watch :=
  match m.stage with
  | .finished result => ({ t with phase := .ended (.ofResult result) }, w.take m)
  | _ => (t, w.take m)

/-- Goes on with a task whose call to the planner is over. -/
def wakeTask (w : Watch) (t : Task) (stage : Cycle.Stage) : PlannerConduct → Task × Watch
  | .crashes => ({ t with phase := .ended .crashed }, w)
  | .replies reply =>
    let s := w.setting t.tripId t.now
    w.settle t (Cycle.advance s ⟨Cycle.resume s reply stage, w.store, []⟩)

/-- Begins with a task: up to the planner, and beyond if that takes no time. -/
def startTask (w : Watch) (t : Task) : Task × Watch :=
  let m := Cycle.advance (w.setting t.tripId t.now) ⟨.readTrip, w.store, []⟩
  match Cycle.request? m.stage with
  | none => w.settle t m
  | some request =>
    let w := { w.take m with requests := w.requests ++ [request] }
    let (duration, conduct) := w.planner.call w.limit
    if duration = 0 then w.wakeTask t m.stage conduct
    else ({ t with phase := .waiting m.stage (w.clock + duration) conduct }, w)

/-- Frees the trips of tasks. -/
def free (w : Watch) (tripIds : List String) : Watch :=
  { w with flights := tripIds.foldl .release w.flights }

/-- Frees the trip of a task that has ended. -/
def freeEnded (w : Watch) (t : Task) : Watch := if t.isEnded then w.free [t.tripId] else w

/-- Begins with all tasks that have not done anything yet. -/
def startAll (w : Watch) : List Task → List Task × Watch
  | [] => ([], w)
  | t :: rest =>
    let (t, w) := match t.phase with
      | .fresh =>
        let (t, w) := w.startTask t
        (t, w.freeEnded t)
      | _ => (t, w)
    let (rest, w) := startAll w rest
    (t :: rest, w)

/-- Goes on with all tasks whose wait ends at a point in time. -/
def wakeAll (w : Watch) (time : Nat) : List Task → List Task × Watch
  | [] => ([], w)
  | t :: rest =>
    let (t, w) := match t.phase with
      | .waiting stage wake conduct =>
        if wake = time then
          let (t, w) := w.wakeTask t stage conduct
          (t, w.freeEnded t)
        else (t, w)
      | _ => (t, w)
    let (rest, w) := wakeAll w time rest
    (t :: rest, w)

/-- The points in time at which tasks go on, in order. -/
def wakeTimes (tasks : List Task) : List Nat :=
  (tasks.filterMap Task.wake?).eraseDups.mergeSort

/-- Waits until a point in time, or without one for all tasks: the watch's tasks and some others go
on with what is due before it, and stopped ones are cleared away. -/
def progress (w : Watch) (others : List Task) (until? : Option Nat) : List Task × Watch :=
  let count := w.tasks.length
  let (tasks, w) := { w.free w.stopped with stopped := [] }.startAll (w.tasks ++ others)
  let due := (wakeTimes tasks).filter fun time => until?.all (time < ·)
  let (tasks, w) := due.foldl
    (fun (tasks, w) time => { w with clock := max w.clock time }.wakeAll time tasks) (tasks, w)
  (tasks.drop count, { w with tasks := tasks.take count })

/-- Waits for some milliseconds. -/
def wait (w : Watch) (others : List Task) (millis : Nat) : List Task × Watch :=
  if millis = 0 then (others, w)
  else
    let target := w.clock + millis
    let (others, w) := w.progress others (some target)
    (others, { w with clock := target })

/-! ### Ticks -/

/-- Starts a check for every active trip that is not being checked: the new tasks and the trips that
are being checked then. -/
def spawn (now : LocalTime) : List String → Flights → List Task × Flights
  | [], flights => ([], flights)
  | id :: rest, flights =>
    match flights.acquire? id with
    | none => spawn now rest flights
    | some flights =>
      let (tasks, flights) := spawn now rest flights
      (⟨id, now, .fresh⟩ :: tasks, flights)

/-- The tasks that a tick starts. -/
def spawnChecks (w : Watch) (now : LocalTime) : Except StoreFault (List Task × Watch) :=
  match w.outage .activeTripIds with
  | some fault => .error fault
  | none =>
    let (tasks, flights) := spawn now w.store.activeTripIds w.flights
    .ok (tasks, { w with flights := flights })

/-- A tick: how many checks it starts. -/
def tick (w : Watch) (now : LocalTime) : Except StoreFault (Nat × Watch) := do
  let (tasks, w) ← w.spawnChecks now
  .ok (tasks.length, { w with tasks := w.tasks ++ tasks })

/-- Lets time pass. -/
def elapse (w : Watch) (millis : Nat) : Watch := (w.wait [] millis).2

/-- Waits for all tasks and collects how they ended. -/
def join (w : Watch) : List (String × TaskEnd) × Watch :=
  let w := if w.tasks.all Task.isEnded then w else (w.progress [] none).2
  (w.tasks.filterMap Task.ending?, { w with tasks := [] })

/-- Stops tasks that have not ended. Their trips are free once they are cleared away. -/
def stop (w : Watch) (tasks : List Task) : Watch :=
  { w with stopped := w.stopped ++ (tasks.filter fun t => !t.isEnded).map Task.tripId }

/-- Stops all tasks and collects how they ended. -/
def abort (w : Watch) : List (String × TaskEnd) × Watch :=
  let results := w.tasks.map fun t => t.ending?.getD (t.tripId, .aborted)
  let stopped := { w.stop w.tasks with tasks := [] }
  (results, if w.tasks.all Task.isEnded then stopped else (stopped.progress [] none).2)

/-! ### The file -/

/-- Why a file that does not exist cannot be read. -/
def missingFile : StoreFault := .file "No such file or directory (os error 2)"

/-- Writes the store to its file, if it has one. -/
def flush (w : Watch) : Except StoreFault Watch :=
  match w.outage .flush with
  | some fault => .error fault
  | none => .ok (if w.hasFile then { w with file := some w.store.toJson.render } else w)

/-- Replaces the store by what the file holds. A missing file is an empty store where that is
allowed. -/
def reload (w : Watch) (orEmpty : Bool) : Except StoreFault Watch :=
  match w.file with
  | some text => do
    let store ← Store.ofText text
    .ok { w with store := store, hasFile := true }
  | none =>
    if orEmpty then .ok { w with store := .empty, hasFile := true } else .error missingFile

/-- Replaces the store by an empty one without a file. -/
def detach (w : Watch) : Watch := { w with store := .empty, hasFile := false }

/-! ### The schedule -/

/-- One round of the schedule: it forgets tasks that have ended, starts the due ones, writes the
file and lets time pass. Neither the store's failure to list trips nor that to write its file ends
the schedule. -/
def round (w : Watch) (now : LocalTime) (tasks : List Task) (millis : Nat) : List Task × Watch :=
  let tasks := tasks.filter fun t => !t.isEnded
  let (tasks, w) := match w.spawnChecks now with
    | .ok (more, w) => (tasks ++ more, w)
    | .error _ => (tasks, w)
  let w := match w.flush with
    | .ok w => w
    | .error _ => w
  w.wait tasks millis

/-- Full rounds of the schedule and a last one that is cut off after some milliseconds. -/
def rounds (w : Watch) (now : LocalTime) (tasks : List Task) (last : Nat) : Nat → List Task × Watch
  | 0 => w.round now tasks last
  | n + 1 =>
    let (tasks, w) := w.round now tasks w.interval
    rounds w now tasks last n

/-- Runs the schedule for some milliseconds and stops what is under way then. -/
def runSchedule (w : Watch) (now : LocalTime) (millis : Nat) : Watch :=
  let (tasks, w) := w.rounds now [] (millis % w.interval) (millis / w.interval)
  w.stop tasks

/-- A single check apart from the schedule, which is waited for: how it ended, and the watch. -/
def checkNow (w : Watch) (tripId : String) (now : LocalTime) : Option TaskEnd × Watch :=
  let (t, w) := w.startTask ⟨tripId, now, .fresh⟩
  let (t, w) := match t.phase with
    | .waiting stage wake conduct =>
      let (_, w) := w.wait [] (wake - w.clock)
      w.wakeTask t stage conduct
    | _ => (t, w)
  (t.ending?.map Prod.snd, w)

end Watch

end TripWatch
