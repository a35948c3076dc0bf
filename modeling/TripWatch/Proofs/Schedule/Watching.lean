import TripWatch.Proofs.Schedule.Mirror

/-!
# The watch as a schedule

What a watch does is a run of a schedule, whatever is done with it and however the planner, the
sender and the store behave in the meantime. So all that holds in every run of a schedule holds of
the watch: `isInFlight_iff` is single flight once more, in the watch's own terms.

That a watch forgets the tasks it has waited for is right because a wait for all tasks ends only
when all of them have ended.

## Main definitions

* `Watch.Runs` — what a watch has come to by a run of a schedule
* `Watch.Act`, `Watch.performAll` — what may be done with a watch

## Main results

* `Watch.Mirrors.progress` — a watch waits
* `Watch.runs_performAll` — whatever is done with a watch is a run of a schedule
* `Watch.isInFlight_iff` — single flight of the watch
-/

namespace TripWatch

/-- A task has ended, or ends at one of some points in time. -/
def Task.EndsAt (times : List Nat) (t : Task) : Prop :=
  t.isEnded = true ∨ ∃ time ∈ times, t.wake? = some time

namespace Watch

variable {w w' : Watch} {s : Schedule} {rest : List Job}

/-! ### One task -/

section Task

variable {t : Task}

/-- A task begins if it has not begun yet. -/
def begin (w : Watch) (t : Task) : Task × Watch :=
  match t.phase with
  | .fresh => ((w.startTask t).1, (w.startTask t).2.freeEnded (w.startTask t).1)
  | _ => (t, w)

/-- A task goes on if its wait ends at a point in time. -/
def proceed (w : Watch) (time : Nat) (t : Task) : Task × Watch :=
  match t.phase with
  | .waiting stage wake conduct =>
    if wake = time then
      ((w.wakeTask t stage conduct).1,
        (w.wakeTask t stage conduct).2.freeEnded (w.wakeTask t stage conduct).1)
    else (t, w)
  | _ => (t, w)

theorem startAll_cons (w : Watch) (t : Task) (tasks : List Task) :
    w.startAll (t :: tasks) = ((w.begin t).1 :: ((w.begin t).2.startAll tasks).1,
      ((w.begin t).2.startAll tasks).2) := by
  obtain ⟨id, now, phase⟩ := t
  cases phase <;> rfl

theorem wakeAll_cons (w : Watch) (time : Nat) (t : Task) (tasks : List Task) :
    w.wakeAll time (t :: tasks) =
      ((w.proceed time t).1 :: ((w.proceed time t).2.wakeAll time tasks).1,
        ((w.proceed time t).2.wakeAll time tasks).2) := by
  obtain ⟨id, now, phase⟩ := t
  cases phase with
  | fresh | ended => rfl
  | waiting stage wake conduct => rw [Watch.wakeAll, Watch.proceed]

theorem Mirrors.begin (h : w.Mirrors (t.job?.toList ++ rest) s) (hasks : t.Asks) :
    (w.begin t).1.Asks ∧ (w.begin t).1.phase ≠ .fresh ∧
      s.Leads (w.begin t).2 ((w.begin t).1.job?.toList ++ rest) := by
  obtain ⟨id, now, phase⟩ := t
  cases phase with
  | fresh => exact h.startTask
  | waiting | ended => exact ⟨hasks, by simp [Watch.begin], h.leads⟩

theorem Mirrors.proceed (h : w.Mirrors (t.job?.toList ++ rest) s) (hasks : t.Asks) (time : Nat) :
    ((w.proceed time t).1.isEnded = true ∨ (w.proceed time t).1 = t ∧ t.wake? ≠ some time) ∧
      s.Leads (w.proceed time t).2 ((w.proceed time t).1.job?.toList ++ rest) := by
  obtain ⟨id, now, phase⟩ := t
  cases phase with
  | fresh | ended => exact ⟨.inr ⟨rfl, by simp [Task.wake?]⟩, h.leads⟩
  | waiting stage wake conduct =>
    simp only [Watch.proceed]
    split
    · have hended := isEnded_wakeTask w ⟨id, now, .waiting stage wake conduct⟩ hasks conduct
      refine ⟨.inl hended, ?_⟩
      rw [Task.job?_eq_none_iff.mpr hended]
      exact Mirrors.wakeTask (t := ⟨id, now, .waiting stage wake conduct⟩) h hasks conduct
    · rename_i hne
      exact ⟨.inr ⟨rfl, by simpa [Task.wake?] using hne⟩, h.leads⟩

end Task

/-! ### Waits -/

section Tasks

variable {tasks : List Task}

theorem filterMap_cons_job? (t : Task) (tasks : List Task) :
    (t :: tasks).filterMap Task.job? = t.job?.toList ++ tasks.filterMap Task.job? := by
  cases h : t.job? <;> simp [h]

theorem Mirrors.startAll (h : w.Mirrors (tasks.filterMap Task.job? ++ rest) s)
    (hasks : ∀ t ∈ tasks, t.Asks) :
    (∀ t ∈ (w.startAll tasks).1, t.Asks ∧ t.phase ≠ .fresh) ∧
      s.Leads (w.startAll tasks).2 ((w.startAll tasks).1.filterMap Task.job? ++ rest) := by
  induction tasks generalizing w s rest with
  | nil => exact ⟨by simp [Watch.startAll], h.leads⟩
  | cons t tasks ih =>
    rw [List.forall_mem_cons] at hasks
    rw [filterMap_cons_job?, List.append_assoc] at h
    obtain ⟨htAsks, htFresh, events, hevents⟩ := h.begin hasks.1
    obtain ⟨htail, hleads⟩ := ih (hevents.perm (List.perm_append_comm_assoc _ _ _)) hasks.2
    rw [startAll_cons, filterMap_cons_job?, List.append_assoc]
    refine ⟨List.forall_mem_cons.mpr ⟨⟨htAsks, htFresh⟩, htail⟩, ?_⟩
    exact leads_perm (leads_of_handleAll events hleads) (List.perm_append_comm_assoc _ _ _)

theorem Mirrors.wakeAll (h : w.Mirrors (tasks.filterMap Task.job? ++ rest) s)
    (hasks : ∀ t ∈ tasks, t.Asks) (time : Nat) :
    (∀ t ∈ (w.wakeAll time tasks).1, t.isEnded = true ∨ t ∈ tasks ∧ t.wake? ≠ some time) ∧
      s.Leads (w.wakeAll time tasks).2 ((w.wakeAll time tasks).1.filterMap Task.job? ++ rest) := by
  induction tasks generalizing w s rest with
  | nil => exact ⟨by simp [Watch.wakeAll], h.leads⟩
  | cons t tasks ih =>
    rw [List.forall_mem_cons] at hasks
    rw [filterMap_cons_job?, List.append_assoc] at h
    obtain ⟨ht, events, hevents⟩ := h.proceed hasks.1 time
    obtain ⟨htail, hleads⟩ := ih (hevents.perm (List.perm_append_comm_assoc _ _ _)) hasks.2
    rw [wakeAll_cons, filterMap_cons_job?, List.append_assoc]
    refine ⟨List.forall_mem_cons.mpr ⟨?_, fun t' ht' => ?_⟩, ?_⟩
    · rcases ht with hended | ⟨hsame, hne⟩
      · exact .inl hended
      · rw [hsame]
        exact .inr ⟨List.mem_cons_self, hne⟩
    · exact (htail t' ht').imp_right fun ⟨hmem, hne⟩ => ⟨List.mem_cons_of_mem t hmem, hne⟩
    · exact leads_perm (leads_of_handleAll events hleads) (List.perm_append_comm_assoc _ _ _)

/-- The tasks go on at one point in time after the other. -/
def wakeEach (w : Watch) (tasks : List Task) (times : List Nat) : List Task × Watch :=
  times.foldl (fun (tasks, w) time => { w with clock := max w.clock time }.wakeAll time tasks)
    (tasks, w)

theorem Mirrors.wakeEach (h : w.Mirrors (tasks.filterMap Task.job?) s)
    (hasks : ∀ t ∈ tasks, t.Asks) (times : List Nat) :
    (∀ t ∈ (w.wakeEach tasks times).1, t.Asks) ∧
      ((∀ t ∈ tasks, t.EndsAt times) → ∀ t ∈ (w.wakeEach tasks times).1, t.isEnded = true) ∧
      s.Leads (w.wakeEach tasks times).2 ((w.wakeEach tasks times).1.filterMap Task.job?) := by
  induction times generalizing w tasks s with
  | nil =>
    refine ⟨hasks, fun hends t ht => ?_, h.leads⟩
    exact (hends t ht).resolve_right fun ⟨time, htime, _⟩ => List.not_mem_nil htime
  | cons time times ih =>
    have h' : { w with clock := max w.clock time }.Mirrors (tasks.filterMap Task.job? ++ []) s := by
      rw [List.append_nil]
      exact ⟨h.store, h.limit, h.flights, h.jobs⟩
    obtain ⟨hwoken, events, hevents⟩ := h'.wakeAll hasks time
    rw [List.append_nil] at hevents
    have hasks' : ∀ t ∈ ({ w with clock := max w.clock time }.wakeAll time tasks).1, t.Asks :=
      fun t ht => (hwoken t ht).elim (fun hended => (Task.asks_of_isEnded hended).1)
        fun hold => hasks t hold.1
    obtain ⟨hlast, hended, hleads⟩ := ih hevents hasks'
    refine ⟨hlast, fun hends => hended fun t ht => ?_, leads_of_handleAll events hleads⟩
    rcases hwoken t ht with hnow | ⟨hold, hne⟩
    · exact .inl hnow
    · refine (hends t hold).imp_right fun ⟨later, hlater, hwake⟩ => ⟨later, ?_, hwake⟩
      exact (List.mem_cons.mp hlater).resolve_left fun heq => hne (heq ▸ hwake)

theorem endsAt_wakeTimes {t : Task} (ht : t ∈ tasks) (hfresh : t.phase ≠ .fresh) :
    t.EndsAt (wakeTimes tasks) := by
  cases hphase : t.phase with
  | fresh => exact absurd hphase hfresh
  | ended how => exact .inl (by simp [Task.isEnded, hphase])
  | waiting stage wake conduct =>
    have hwake : t.wake? = some wake := by simp [Task.wake?, hphase]
    refine .inr ⟨wake, ?_, hwake⟩
    simp only [wakeTimes, List.mem_mergeSort, List.mem_eraseDups, List.mem_filterMap]
    exact ⟨t, ht, hwake⟩

/-- The checks of all tasks of a watch, its own and others. -/
def under (w : Watch) (others : List Task) : List Job := (w.tasks ++ others).filterMap Task.job?

theorem progress_eq (w : Watch) (others : List Task) (until? : Option Nat) :
    w.progress others until? =
      let begun := { w.free w.stopped with stopped := [] }.startAll (w.tasks ++ others)
      let woken := begun.2.wakeEach begun.1
        ((wakeTimes begun.1).filter fun time => until?.all (time < ·))
      (woken.1.drop w.tasks.length, { woken.2 with tasks := woken.1.take w.tasks.length }) := rfl

/-- A watch waits: until a point in time, or for all tasks. -/
theorem Mirrors.progress {others : List Task} (h : w.Mirrors (w.under others) s)
    (hasks : ∀ t ∈ w.tasks ++ others, t.Asks) (until? : Option Nat) :
    (∀ t ∈ (w.progress others until?).2.tasks ++ (w.progress others until?).1, t.Asks) ∧
      (until? = none → ∀ t ∈ (w.progress others until?).2.tasks ++ (w.progress others until?).1,
        t.isEnded = true) ∧
      s.Leads (w.progress others until?).2
        ((w.progress others until?).2.under (w.progress others until?).1) := by
  rw [progress_eq]
  obtain ⟨events, hcleared⟩ := h.clear
  have hcleared' := hcleared.perm (List.Perm.of_eq (List.append_nil _).symm)
  obtain ⟨hbegun, more, hmore⟩ := hcleared'.startAll hasks
  rw [List.append_nil] at hmore
  generalize { w.free w.stopped with stopped := [] }.startAll (w.tasks ++ others) = begun
    at hbegun hmore ⊢
  obtain ⟨hlast, hended, hleads⟩ := hmore.wakeEach (fun t ht => (hbegun t ht).1)
    ((wakeTimes begun.1).filter fun time => until?.all (time < ·))
  simp only [under, List.take_append_drop]
  refine ⟨hlast, fun huntil => hended fun t ht => ?_, ?_⟩
  · subst huntil
    simpa using endsAt_wakeTimes ht (hbegun t ht).2
  · have hall := leads_of_handleAll events (leads_of_handleAll more hleads)
    exact leads_congr hall rfl rfl rfl rfl

end Tasks

/-! ### Whatever is done with a watch -/

/-- What a watch has come to by a run of a schedule, with some tasks apart from its own. -/
structure Runs (store : Store) (limit : Nat) (w : Watch) (others : List Task) : Prop where
  /-- Whatever waits, waits for the planner. -/
  asks : ∀ t ∈ w.tasks ++ others, t.Asks
  /-- A run of a schedule comes to the same. -/
  leads : (Schedule.start store limit).Leads w (w.under others)

section Runs

variable {store : Store} {limit : Nat} {others : List Task}

theorem Runs.progress (h : w.Runs store limit others) (until? : Option Nat) :
    (w.progress others until?).2.Runs store limit (w.progress others until?).1 := by
  obtain ⟨events, hevents⟩ := h.leads
  obtain ⟨hasks, -, hleads⟩ := hevents.progress h.asks until?
  exact ⟨hasks, leads_of_handleAll events hleads⟩

/-- Once a watch has waited for all tasks, they have ended. -/
theorem Runs.isEnded_progress (h : w.Runs store limit others) :
    ∀ t ∈ (w.progress others none).2.tasks ++ (w.progress others none).1, t.isEnded = true := by
  obtain ⟨events, hevents⟩ := h.leads
  exact (hevents.progress h.asks none).2.1 rfl

/-- Ended tasks, and all but the store, the limit, the flights and the stopped tasks, do not
matter. -/
theorem Runs.congr {others' : List Task} (h : w.Runs store limit others)
    (hunder : w.under others = w'.under others')
    (htasks : ∀ t ∈ w'.tasks ++ others', t ∈ w.tasks ++ others) (hstore : w.store = w'.store)
    (hlimit : w.limit = w'.limit) (hflights : w.flights = w'.flights)
    (hstopped : w.stopped = w'.stopped) : w'.Runs store limit others' where
  asks t ht := h.asks t (htasks t ht)
  leads := by
    rw [← hunder]
    exact leads_congr h.leads hstore hlimit hflights hstopped

theorem Runs.wait (h : w.Runs store limit others) (millis : Nat) :
    (w.wait others millis).2.Runs store limit (w.wait others millis).1 := by
  rw [Watch.wait]
  split
  · exact h
  · exact (h.progress (some (w.clock + millis))).congr rfl (fun _ ht => ht) rfl rfl rfl rfl

/-- A tick starts some tasks, which are not the watch's own yet. -/
theorem Runs.spawnChecks (h : w.Runs store limit others) {now : LocalTime} {more : List Task}
    (hspawn : w.spawnChecks now = .ok (more, w')) : w'.Runs store limit (others ++ more) := by
  rw [Watch.spawnChecks] at hspawn
  split at hspawn
  · cases hspawn
  · obtain ⟨rfl, rfl⟩ := Prod.mk.inj (Except.ok.inj hspawn)
    have hfresh := fresh_of_mem_spawn now w.store.activeTripIds w.flights
    constructor
    · intro t ht
      rw [← List.append_assoc, List.mem_append] at ht
      rcases ht with hold | hnew
      · exact h.asks t hold
      · simp [Task.Asks, hfresh t hnew]
    · obtain ⟨events, hevents⟩ := h.leads
      have hleads := leads_of_handleAll events (hevents.spawn now)
      have hjobs : (spawn now w.store.activeTripIds w.flights).1.filterMap Task.job? =
          (spawn now w.store.activeTripIds w.flights).1.map Job.ofTask :=
        List.filterMap_eq_map_iff_forall_eq_some.mpr fun t ht => by simp [Task.job?, hfresh t ht]
      rw [under, ← List.append_assoc, List.filterMap_append, hjobs]
      exact hleads

theorem Runs.tick (h : w.Runs store limit []) {now : LocalTime} {n : Nat}
    (htick : w.tick now = .ok (n, w')) : w'.Runs store limit [] := by
  rw [Watch.tick] at htick
  cases hspawn : w.spawnChecks now with
  | error fault => rw [hspawn] at htick; cases htick
  | ok p =>
    obtain ⟨more, w₁⟩ := p
    rw [hspawn] at htick
    obtain ⟨-, rfl⟩ := Prod.mk.inj (Except.ok.inj htick)
    refine (h.spawnChecks hspawn).congr ?_ (fun t ht => ?_) rfl rfl rfl rfl
    · simp [under]
    · simpa using ht

theorem length_startAll (w : Watch) (tasks : List Task) :
    (w.startAll tasks).1.length = tasks.length := by
  induction tasks generalizing w with
  | nil => rfl
  | cons t tasks ih => simp [startAll_cons, ih]

theorem length_wakeAll (w : Watch) (time : Nat) (tasks : List Task) :
    (w.wakeAll time tasks).1.length = tasks.length := by
  induction tasks generalizing w with
  | nil => rfl
  | cons t tasks ih => simp [wakeAll_cons, ih]

theorem length_wakeEach (w : Watch) (tasks : List Task) (times : List Nat) :
    (w.wakeEach tasks times).1.length = tasks.length := by
  induction times generalizing w tasks with
  | nil => rfl
  | cons time times ih => exact (ih _ _).trans (length_wakeAll _ time tasks)

/-- A watch without other tasks gets none by waiting. -/
theorem progress_nil (w : Watch) (until? : Option Nat) : (w.progress [] until?).1 = [] := by
  rw [progress_eq, List.drop_eq_nil_iff, length_wakeEach, length_startAll, List.append_nil]

theorem Runs.elapse (h : w.Runs store limit []) (millis : Nat) :
    (w.elapse millis).Runs store limit [] := by
  have hwait := h.wait millis
  have hnil : (w.wait [] millis).1 = [] := by
    rw [Watch.wait]
    split
    · rfl
    · exact progress_nil w _
  rw [hnil] at hwait
  exact hwait

/-- Once all tasks have ended, they may be forgotten. -/
theorem Runs.forget (h : w.Runs store limit []) (hended : ∀ t ∈ w.tasks, t.isEnded = true) :
    { w with tasks := [] }.Runs store limit [] := by
  refine h.congr ?_ (fun t ht => absurd ht List.not_mem_nil) rfl rfl rfl rfl
  rw [under, List.append_nil, Task.filterMap_job?_eq_nil hended]
  rfl

theorem Runs.join (h : w.Runs store limit []) : w.join.2.Runs store limit [] := by
  simp only [Watch.join]
  split
  · exact h.forget (by simpa [List.all_eq_true] using ‹w.tasks.all Task.isEnded = true›)
  · have hruns := h.progress none
    have hended := h.isEnded_progress
    rw [progress_nil] at hruns hended
    exact hruns.forget fun t ht => hended t (List.mem_append_left _ ht)

/-- Tasks apart from a watch's own are stopped. -/
theorem Runs.stop (h : w.Runs store limit others) : (w.stop others).Runs store limit [] where
  asks t ht := h.asks t (List.mem_append_left _ (by simpa [Watch.stop] using ht))
  leads := by
    obtain ⟨events, hevents⟩ := h.leads
    refine leads_of_handleAll events (Mirrors.leads ?_)
    rw [under, List.filterMap_append] at hevents
    have := (hevents.perm List.perm_append_comm).stop
    rw [under, List.append_nil]
    exact this

theorem Runs.abort (h : w.Runs store limit []) : w.abort.2.Runs store limit [] := by
  have hothers : { w with tasks := [] }.Runs store limit w.tasks :=
    h.congr (by simp [under]) (fun t ht => by simpa using ht) rfl rfl rfl rfl
  have hstopped : { w.stop w.tasks with tasks := [] }.Runs store limit [] := hothers.stop
  simp only [Watch.abort]
  split
  · exact hstopped
  · have hruns := hstopped.progress none
    rw [progress_nil] at hruns
    exact hruns

theorem filterMap_job?_filter (tasks : List Task) :
    (tasks.filter fun t => !t.isEnded).filterMap Task.job? = tasks.filterMap Task.job? := by
  rw [List.filterMap_filter]
  refine List.filterMap_congr fun t _ => ?_
  cases h : t.isEnded with
  | true => simp [Task.job?_eq_none_iff.mpr h]
  | false => simp

theorem Runs.flush (h : w.Runs store limit others) (hflush : w.flush = .ok w') :
    w'.Runs store limit others := by
  rw [Watch.flush] at hflush
  split at hflush
  · cases hflush
  · obtain rfl := Except.ok.inj hflush
    split
    · exact h.congr rfl (fun _ ht => ht) rfl rfl rfl rfl
    · exact h

theorem Runs.round (h : w.Runs store limit others) (now : LocalTime) (millis : Nat) :
    (w.round now others millis).2.Runs store limit (w.round now others millis).1 := by
  have hrest : w.Runs store limit (others.filter fun t => !t.isEnded) := by
    refine h.congr ?_ (fun t ht => ?_) rfl rfl rfl rfl
    · rw [under, under, List.filterMap_append, List.filterMap_append, filterMap_job?_filter]
    · exact (List.filter_sublist.append_left w.tasks).subset ht
  simp only [Watch.round]
  cases hspawn : w.spawnChecks now with
  | error fault =>
    dsimp only
    cases hflush : w.flush with
    | error fault => exact hrest.wait millis
    | ok w' => exact (hrest.flush hflush).wait millis
  | ok p =>
    obtain ⟨more, w₁⟩ := p
    have hspawned := hrest.spawnChecks hspawn
    dsimp only
    cases hflush : w₁.flush with
    | error fault => exact hspawned.wait millis
    | ok w' => exact (hspawned.flush hflush).wait millis

theorem Runs.rounds (h : w.Runs store limit others) (now : LocalTime) (last n : Nat) :
    (w.rounds now others last n).2.Runs store limit (w.rounds now others last n).1 := by
  induction n generalizing w others with
  | zero => exact h.round now last
  | succ n ih => exact ih (h.round now w.interval)

theorem Runs.runSchedule (h : w.Runs store limit []) (now : LocalTime) (millis : Nat) :
    (w.runSchedule now millis).Runs store limit [] :=
  (h.rounds now (millis % w.interval) (millis / w.interval)).stop

/-- A record is stored that is no state. -/
theorem Runs.edit (h : w.Runs store limit []) (e : Schedule.Event) (store' : Store)
    (he : ∀ s : Schedule, s.store = w.store → s.handle e = { s with store := store' }) :
    { w with store := store' }.Runs store limit [] where
  asks := h.asks
  leads := by
    obtain ⟨events, hevents⟩ := h.leads
    refine leads_of_handleAll events (leads_of_handle e (Mirrors.leads ?_))
    rw [he _ hevents.store]
    exact ⟨rfl, hevents.limit, hevents.flights, hevents.jobs⟩

end Runs

/-- What may be done with a watch. -/
inductive Act where
  /-- A tick. -/
  | tick (now : LocalTime)
  /-- Some milliseconds pass. -/
  | elapse (millis : Nat)
  /-- All tasks are waited for. -/
  | join
  /-- All tasks are stopped. -/
  | abort
  /-- The schedule runs for some milliseconds. -/
  | runSchedule (now : LocalTime) (millis : Nat)
  /-- A rider stores a trip. -/
  | storeTrip (t : Trip)
  /-- A rider is stored. -/
  | storeUser (u : User)
  /-- The planner, the sender and the store behave otherwise from now on. -/
  | change (planner : PlannerScript) (sender : Sender) (outage : Outage)

/-- The watch after an act. A tick that cannot list the trips does nothing. -/
def perform (w : Watch) : Act → Watch
  | .tick now =>
    match w.tick now with
    | .ok (_, w) => w
    | .error _ => w
  | .elapse millis => w.elapse millis
  | .join => w.join.2
  | .abort => w.abort.2
  | .runSchedule now millis => w.runSchedule now millis
  | .storeTrip t => { w with store := w.store.putTrip t }
  | .storeUser u => { w with store := w.store.putUser u }
  | .change planner sender outage =>
    { w with planner := planner, sender := sender, outage := outage }

/-- The watch after some acts. -/
def performAll (w : Watch) (acts : List Act) : Watch := acts.foldl perform w

theorem Runs.perform {store : Store} {limit : Nat} (h : w.Runs store limit []) (act : Act) :
    (w.perform act).Runs store limit [] := by
  cases act with
  | tick now =>
    rw [Watch.perform]
    split
    · exact h.tick ‹_›
    · exact h
  | elapse millis => exact h.elapse millis
  | join => exact h.join
  | abort => exact h.abort
  | runSchedule now millis => exact h.runSchedule now millis
  | storeTrip t => exact h.edit (.storeTrip t) _ fun s hs => by rw [Schedule.handle, hs]
  | storeUser u => exact h.edit (.storeUser u) _ fun s hs => by rw [Schedule.handle, hs]
  | change planner sender outage => exact h.congr rfl (fun _ ht => ht) rfl rfl rfl rfl

/-- Nothing is under way on a watch. -/
structure Idle (w : Watch) : Prop where
  /-- No trip is in flight. -/
  flights : w.flights = .none
  /-- No task was stopped that is not yet cleared away. -/
  stopped : w.stopped = []
  /-- There are no tasks. -/
  tasks : w.tasks = []

/-- **Whatever is done with a watch is a run of a schedule.** -/
theorem runs_performAll (h : w.Idle) (acts : List Act) :
    (w.performAll acts).Runs w.store w.limit [] := by
  have hfirst : w.Runs w.store w.limit [] := by
    refine ⟨by simp [h.tasks], Mirrors.leads ⟨rfl, rfl, h.flights.symm, [], ?_, h.stopped.symm⟩⟩
    simp [under, h.tasks, Schedule.start]
  generalize w.store = store at hfirst ⊢
  generalize w.limit = limit at hfirst ⊢
  clear h
  induction acts generalizing w with
  | nil => exact hfirst
  | cons act acts ih => exact ih (hfirst.perform act)

/-- **Single flight of the watch**: the trips in flight are those of its tasks that have not ended
and of those that were stopped and not yet cleared away, and no two of these tasks are of one
trip. -/
theorem isInFlight_iff (h : w.Idle) (acts : List Act) :
    let w' := w.performAll acts
    let ids := (w'.tasks.filter fun t => !t.isEnded).map Task.tripId ++ w'.stopped
    ids.Nodup ∧ ∀ id, w'.flights.isInFlight id = true ↔ id ∈ ids := by
  obtain ⟨events, hevents⟩ := (runs_performAll h acts).leads
  obtain ⟨stopped, hperm, hstopped⟩ := hevents.jobs
  have hsound := Schedule.sound_handleAll w.store w.limit events
  have hids := hperm.map Job.tripId
  rw [under, List.append_nil, List.map_append, hstopped, Task.map_tripId_filterMap_job?] at hids
  refine ⟨hids.nodup_iff.mp hsound.nodup, fun id => ?_⟩
  rw [← hids.mem_iff, ← hsound.held id, hevents.flights]
  simp [Flights.isInFlight]

end Watch

end TripWatch
