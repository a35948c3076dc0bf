import TripWatch.Proofs.Schedule.SingleFlight

/-!
# Checks of a watch

A watch goes on in larger steps than a schedule: a tick goes through its whole list, a task goes on
up to the planner or to its end, and stopped tasks are cleared away together. Each of these is one
event of a schedule or several, with the outage and the sender that the watch has at the time.

A check of a schedule is a task that has not ended, or one that was stopped and not yet cleared
away, which a watch knows by its trip only. The checks are compared up to their order, as nothing
depends on it.

## Main definitions

* `Watch.Mirrors` — the same checks are under way
* `Schedule.Leads` — a run comes to what a watch has come to

## Main results

* `Watch.Mirrors.spawn`, `Watch.Mirrors.clear` — a tick, and stopped tasks
* `Watch.Mirrors.startTask`, `Watch.Mirrors.wakeTask` — a task begins and ends
-/

namespace TripWatch

/-! ### The end of a cycle -/

namespace Cycle

variable {stage : Stage}

/-- Whether a cycle has the planner behind it. -/
def Stage.isLate : Stage → Bool
  | .writeState .. | .writeTrip .. | .send .. | .finished _ => true
  | _ => false

theorem isLate_takes {s : Setting} {store store' : Store} {stage stage' : Stage}
    {d : Option Deed} (htakes : Takes s store stage d stage' store') (h : stage.isLate = true) :
    stage'.isLate = true := by
  cases htakes with
  | fails | writeTrip | send => rfl
  | rests => exact h
  | skips | readTrip | readUser | readState => cases h
  | writeState t u state ns =>
    rw [afterState_eq]
    cases t.writeBack? state <;> rfl

theorem isLate_advance (s : Setting) {m : Moment} (h : m.stage.isLate = true) :
    (advance s m).stage.isLate = true := by
  induction m using advance.induct s with
  | case1 m hrank =>
    rw [advance_of_rank_eq_zero hrank]
    exact h
  | case2 m hrank ih =>
    rw [advance_of_rank_ne_zero hrank]
    exact ih (isLate_takes (takes_step s m) h)

/-- A cycle that gets its reply needs the planner no more. -/
theorem isLate_resume (s : Setting) (r : PlannerReply)
    (h : request? stage ≠ none) : (resume s r stage).isLate = true := by
  cases stage with
  | ask t u state request =>
    simp only [resume]
    cases conclude s.limit t state s.now.instant r with
    | error fault => rfl
    | ok o => cases o <;> rfl
  | _ => exact absurd rfl h

theorem rank_advance (s : Setting) (m : Moment) :
    (advance s m).stage.rank = 0 := by
  induction m using advance.induct s with
  | case1 m hrank =>
    rw [advance_of_rank_eq_zero hrank]
    exact hrank
  | case2 m hrank ih =>
    rw [advance_of_rank_ne_zero hrank]
    exact ih

/-- Where a cycle stops without a request, it is over. -/
theorem exists_finished (hrank : stage.rank = 0) (h : request? stage = none) :
    ∃ result, stage = .finished result := by
  cases stage with
  | finished result => exact ⟨result, rfl⟩
  | ask => cases h
  | readTrip | readUser | readState | writeState | writeTrip | send => cases hrank

/-- With the planner behind it, a cycle goes on to its end. -/
theorem exists_finished_advance (s : Setting) {m : Moment}
    (h : m.stage.isLate = true) : ∃ result, (advance s m).stage = .finished result := by
  refine exists_finished (rank_advance s m) ?_
  have hlate := isLate_advance s h
  cases hstage : (advance s m).stage with
  | ask => rw [hstage] at hlate; cases hlate
  | _ => rfl

end Cycle

/-! ### Schedules and watches -/

namespace Task

/-- The check of a task that has not ended. -/
def job? (t : Task) : Option Job :=
  match t.phase with
  | .fresh => some (.ofTask t)
  | .waiting stage _ _ => some ⟨t.tripId, t.now, stage⟩
  | .ended _ => none

/-- What a task waits for is the planner. -/
def Asks (t : Task) : Prop :=
  match t.phase with
  | .waiting stage _ _ => Cycle.request? stage ≠ none
  | .fresh | .ended _ => True

theorem job?_eq_none_iff {t : Task} : t.job? = none ↔ t.isEnded = true := by
  obtain ⟨id, now, phase⟩ := t
  cases phase <;> simp [job?, isEnded]

theorem asks_of_isEnded {t : Task} (h : t.isEnded = true) : t.Asks ∧ t.phase ≠ .fresh := by
  obtain ⟨id, now, phase⟩ := t
  cases phase with
  | ended => exact ⟨trivial, by simp⟩
  | fresh | waiting => cases h

theorem filterMap_job?_eq_nil {tasks : List Task} (h : ∀ t ∈ tasks, t.isEnded = true) :
    tasks.filterMap job? = [] :=
  List.filterMap_eq_nil_iff.mpr fun t ht => job?_eq_none_iff.mpr (h t ht)

theorem map_tripId_filterMap_job? (tasks : List Task) :
    (tasks.filterMap job?).map Job.tripId =
      (tasks.filter fun t => !t.isEnded).map Task.tripId := by
  induction tasks with
  | nil => rfl
  | cons t tasks ih =>
    obtain ⟨id, now, phase⟩ := t
    rw [List.filterMap_cons, List.filter_cons]
    cases phase with
    | fresh | waiting => exact congrArg (id :: ·) ih
    | ended => exact ih

end Task

/-- A schedule on which the checks under way are certain ones and those that a watch has stopped and
not yet cleared away, and which agrees with the watch otherwise. -/
structure Watch.Mirrors (w : Watch) (jobs : List Job) (s : Schedule) : Prop where
  /-- The store is the same. -/
  store : s.store = w.store
  /-- So is how long the planner may take. -/
  limit : s.limit = w.limit
  /-- So are the flights. -/
  flights : s.flights = w.flights
  /-- These checks are under way, and those that were stopped. -/
  jobs : ∃ stopped : List Job, s.jobs.Perm (jobs ++ stopped) ∧
    stopped.map Job.tripId = w.stopped

/-- Some run of a schedule comes to what a watch has come to. -/
def Schedule.Leads (s : Schedule) (w : Watch) (jobs : List Job) : Prop :=
  ∃ events, w.Mirrors jobs (s.handleAll events)

namespace Watch

variable {w w' : Watch} {s : Schedule} {job : Job} {jobs jobs' rest : List Job}

theorem Mirrors.leads (h : w.Mirrors jobs s) : s.Leads w jobs := ⟨[], h⟩

theorem leads_of_handleAll (events : List Schedule.Event)
    (h : (s.handleAll events).Leads w jobs) : s.Leads w jobs := by
  obtain ⟨more, hmore⟩ := h
  refine ⟨events ++ more, ?_⟩
  rw [Schedule.handleAll_append]
  exact hmore

theorem leads_of_handle (e : Schedule.Event) (h : (s.handle e).Leads w jobs) : s.Leads w jobs :=
  leads_of_handleAll [e] h

theorem leads_trans (h : s.Leads w jobs)
    (hnext : ∀ s', w.Mirrors jobs s' → s'.Leads w' jobs') : s.Leads w' jobs' := by
  obtain ⟨events, hevents⟩ := h
  exact leads_of_handleAll events (hnext _ hevents)

theorem Mirrors.perm (h : w.Mirrors jobs s) (hperm : jobs.Perm jobs') : w.Mirrors jobs' s := by
  obtain ⟨stopped, hjobs, hstopped⟩ := h.jobs
  exact ⟨h.store, h.limit, h.flights, stopped, hjobs.trans (hperm.append_right stopped), hstopped⟩

theorem leads_perm (h : s.Leads w jobs) (hperm : jobs.Perm jobs') : s.Leads w jobs' :=
  leads_trans h fun _ h' => (h'.perm hperm).leads

/-- All but the store, the limit, the flights and the stopped tasks of a watch does not matter. -/
theorem leads_congr (h : s.Leads w jobs) (hstore : w.store = w'.store) (hlimit : w.limit = w'.limit)
    (hflights : w.flights = w'.flights) (hstopped : w.stopped = w'.stopped) : s.Leads w' jobs := by
  refine leads_trans h fun s' h' => Mirrors.leads ?_
  exact ⟨h'.store.trans hstore, h'.limit.trans hlimit, h'.flights.trans hflights,
    hstopped ▸ h'.jobs⟩

/-- The place of a check in the schedule. -/
theorem Mirrors.exists_place (h : w.Mirrors (job :: rest) s) :
    ∃ before after, s.jobs = before ++ job :: after ∧
      ∃ stopped : List Job, (before ++ after).Perm (rest ++ stopped) ∧
        stopped.map Job.tripId = w.stopped := by
  obtain ⟨stopped, hperm, hstopped⟩ := h.jobs
  obtain ⟨before, after, hjobs⟩ :=
    List.append_of_mem (hperm.mem_iff.mpr (List.mem_cons_self : job ∈ job :: (rest ++ stopped)))
  refine ⟨before, after, hjobs, stopped, ?_, hstopped⟩
  rw [hjobs] at hperm
  exact (List.perm_middle.symm.trans hperm).cons_inv

/-! ### One check -/

section Job

variable {id : String} {now : LocalTime} {stage : Cycle.Stage}

/-- A check takes an operation. -/
theorem Mirrors.work {m : Cycle.Moment}
    (h : { w with store := m.store }.Mirrors (⟨id, now, m.stage⟩ :: rest) s) :
    s.Leads { w with store := (Cycle.step (w.setting id now) m).store }
      (⟨id, now, (Cycle.step (w.setting id now) m).stage⟩ :: rest) := by
  obtain ⟨before, after, hjobs, stopped, hperm, hstopped⟩ := h.exists_place
  obtain ⟨sent, hstep⟩ := Cycle.step_sender (w.setting id now) w.sender m s.sent
  have hm : Cycle.step (s.setting ⟨id, now, m.stage⟩ w.outage w.sender)
      (s.moment ⟨id, now, m.stage⟩) =
        { Cycle.step (w.setting id now) m with sent := sent } := by
    rw [← hstep, Schedule.setting, Schedule.moment, h.store, h.limit]
    rfl
  refine leads_of_handle (.work before.length w.outage w.sender) (Mirrors.leads ?_)
  have hjob : s.jobs[before.length]? = some ⟨id, now, m.stage⟩ := by simp [hjobs]
  simp only [Schedule.handle, Schedule.work, hjob, hm]
  refine ⟨rfl, h.limit, h.flights, stopped, ?_, hstopped⟩
  simpa [hjobs] using List.perm_middle.trans (hperm.cons _)

/-- A check goes on up to the planner or its end. -/
theorem Mirrors.advance {m : Cycle.Moment}
    (h : { w with store := m.store }.Mirrors (⟨id, now, m.stage⟩ :: rest) s) :
    s.Leads { w with store := (Cycle.advance (w.setting id now) m).store }
      (⟨id, now, (Cycle.advance (w.setting id now) m).stage⟩ :: rest) := by
  induction m using Cycle.advance.induct (w.setting id now) generalizing s with
  | case1 m hrank =>
    rw [Cycle.advance_of_rank_eq_zero hrank]
    exact h.leads
  | case2 m hrank ih =>
    rw [Cycle.advance_of_rank_ne_zero hrank]
    exact leads_trans h.work fun _ h' => ih h'

/-- A check gets its reply. -/
theorem Mirrors.answer (h : w.Mirrors (⟨id, now, stage⟩ :: rest) s) (r : PlannerReply) :
    s.Leads w (⟨id, now, Cycle.resume (w.setting id now) r stage⟩ :: rest) := by
  obtain ⟨before, after, hjobs, stopped, hperm, hstopped⟩ := h.exists_place
  have hstage : Cycle.resume (s.setting ⟨id, now, stage⟩ .none Sender.working) r stage =
      Cycle.resume (w.setting id now) r stage := by
    rw [Schedule.setting, h.limit]
    cases stage <;> rfl
  refine leads_of_handle (.reply before.length r) (Mirrors.leads ?_)
  have hjob : s.jobs[before.length]? = some ⟨id, now, stage⟩ := by simp [hjobs]
  simp only [Schedule.handle, Schedule.answer, hjob, hstage]
  refine ⟨h.store, h.limit, h.flights, stopped, ?_, hstopped⟩
  simpa [hjobs] using List.perm_middle.trans (hperm.cons _)

/-- A check ends by some event. -/
theorem Mirrors.land (h : w.Mirrors (job :: rest) s) (e : Nat → Schedule.Event)
    (he : ∀ i, s.jobs[i]? = some job → s.handle (e i) = s.land i) :
    s.Leads (w.free [job.tripId]) rest := by
  obtain ⟨before, after, hjobs, stopped, hperm, hstopped⟩ := h.exists_place
  have hjob : s.jobs[before.length]? = some job := by simp [hjobs]
  refine leads_of_handle (e before.length) (Mirrors.leads ?_)
  rw [he before.length hjob]
  simp only [Schedule.land, hjob]
  refine ⟨h.store, h.limit, ?_, stopped, ?_, hstopped⟩
  · rw [h.flights]
    rfl
  · simpa [hjobs, List.eraseIdx_append_of_length_le] using hperm

theorem Mirrors.finish {result : Except CheckFault CheckOutcome}
    (h : w.Mirrors (⟨id, now, .finished result⟩ :: rest) s) : s.Leads (w.free [id]) rest :=
  h.land .finish fun i hi => by simp [Schedule.handle, Schedule.result?, hi, Cycle.result?]

end Job

/-! ### Stopped checks -/

/-- Tasks are stopped. Their checks stay under way. -/
theorem Mirrors.stop {tasks : List Task} (h : w.Mirrors (tasks.filterMap Task.job? ++ rest) s) :
    (w.stop tasks).Mirrors rest s := by
  obtain ⟨stopped, hperm, hstopped⟩ := h.jobs
  refine ⟨h.store, h.limit, h.flights, stopped ++ tasks.filterMap Task.job?, ?_, ?_⟩
  · refine hperm.trans ?_
    rw [List.append_assoc]
    exact List.perm_append_comm.trans (by rw [List.append_assoc])
  · rw [List.map_append, hstopped, Task.map_tripId_filterMap_job?]
    rfl

/-- Stopped tasks are cleared away. -/
theorem Mirrors.clear (h : w.Mirrors jobs s) :
    s.Leads { w.free w.stopped with stopped := [] } jobs := by
  obtain ⟨store, hasFile, file, planner, sender, outage, limit, interval, clock, flights, ids,
    tasks, requests, sent⟩ := w
  induction ids generalizing s flights with
  | nil => exact h.leads
  | cons id ids ih =>
    obtain ⟨stopped, hperm, hstopped⟩ := h.jobs
    obtain ⟨job, stopped, rfl, rfl, hrest⟩ := List.map_eq_cons_iff.mp hstopped
    have hfirst : (Watch.mk store hasFile file planner sender outage limit interval clock flights
        ids tasks requests sent).Mirrors (job :: jobs) s :=
      ⟨h.store, h.limit, h.flights, stopped, hperm.trans List.perm_middle, hrest⟩
    exact leads_trans (hfirst.land .abort fun _ _ => rfl) fun _ h' => ih _ h'

/-! ### Ticks -/

/-- The first trip of a list, and the others. -/
theorem spawn_cons (now : LocalTime) (id : String) (ids : List String) (flights : Flights) :
    spawn now (id :: ids) flights =
      let first := spawn now [id] flights
      let others := spawn now ids first.2
      (first.1 ++ others.1, others.2) := by
  simp only [spawn]
  cases flights.acquire? id <;> rfl

theorem fresh_of_mem_spawn (now : LocalTime) (ids : List String) (flights : Flights) :
    ∀ t ∈ (Watch.spawn now ids flights).1, t.phase = .fresh := by
  induction ids generalizing flights with
  | nil => exact fun t ht => absurd ht List.not_mem_nil
  | cons id ids ih =>
    rw [Watch.spawn]
    split
    · exact ih flights
    · exact List.forall_mem_cons.mpr ⟨rfl, ih _⟩

/-- A tick goes through the rest of its list. -/
theorem Mirrors.reach_rest {k : Nat} {tick : Tick} {ids : List String} (h : w.Mirrors jobs s)
    (hk : s.ticks[k]? = some tick) (hids : tick.listed.drop tick.reached.length = ids) :
    s.Leads { w with flights := (spawn tick.now ids w.flights).2 }
      (jobs ++ (spawn tick.now ids w.flights).1.map Job.ofTask) := by
  induction ids generalizing w jobs s tick with
  | nil => simpa [spawn] using h.leads
  | cons id ids ih =>
    have hid : tick.listed[tick.reached.length]? = some id := by
      rw [← List.head?_drop, hids, List.head?_cons]
    have hlt : k < s.ticks.length := (List.getElem?_eq_some_iff.mp hk).1
    generalize hfirst : spawn tick.now [id] w.flights = first
    generalize htick' : ({ tick with
      reached := tick.reached ++ [(id, s.flights.isInFlight id)]
      started := tick.started + first.1.length } : Tick) = tick'
    have hreach : s.handle (.reach k) = { s with
        flights := first.2
        jobs := s.jobs ++ first.1.map Job.ofTask
        ticks := s.ticks.set k tick' } := by
      simp only [Schedule.handle, Schedule.reach, hk, hid, h.flights, hfirst, ← htick']
    have h' : { w with flights := first.2 }.Mirrors (jobs ++ first.1.map Job.ofTask)
        (s.handle (.reach k)) := by
      obtain ⟨stopped, hperm, hstopped⟩ := h.jobs
      rw [hreach]
      refine ⟨h.store, h.limit, rfl, stopped, (hperm.append_right _).trans ?_, hstopped⟩
      rw [List.append_assoc, List.append_assoc]
      exact List.perm_append_comm.append_left jobs
    have hk' : (s.handle (.reach k)).ticks[k]? = some tick' := by
      rw [hreach]
      exact List.getElem?_set_self hlt
    have hids' : tick'.listed.drop tick'.reached.length = ids := by
      subst htick'
      rw [List.length_append, List.length_singleton, ← List.tail_drop, hids, List.tail_cons]
    have hnow : tick'.now = tick.now := by rw [← htick']
    have hrest := ih h' hk' hids'
    rw [hnow, List.append_assoc, ← List.map_append] at hrest
    rw [spawn_cons, hfirst]
    exact leads_of_handle (.reach k) hrest

/-- A tick lists the active trips and goes through its list. -/
theorem Mirrors.spawn (h : w.Mirrors jobs s) (now : LocalTime) :
    s.Leads { w with flights := (Watch.spawn now w.store.activeTripIds w.flights).2 }
      (jobs ++ (Watch.spawn now w.store.activeTripIds w.flights).1.map Job.ofTask) := by
  have h' : w.Mirrors jobs (s.handle (.list now)) := ⟨h.store, h.limit, h.flights, h.jobs⟩
  have hk : (s.handle (.list now)).ticks[s.ticks.length]? =
      some ⟨now, s.store.activeTripIds, [], 0⟩ := by
    simp [Schedule.handle]
  exact leads_of_handle (.list now) (h'.reach_rest hk (by rw [h.store]; rfl))

/-! ### Tasks -/

section Task

variable {t : Task} {stage : Cycle.Stage}

/-- The moment at which the planner replies to a task. -/
def replied (w : Watch) (t : Task) (stage : Cycle.Stage) (reply : PlannerReply) : Cycle.Moment :=
  ⟨Cycle.resume (w.setting t.tripId t.now) reply stage, w.store, []⟩

/-- A task whose planner replies comes to its end. -/
theorem exists_wakeTask_eq (w : Watch) (t : Task) (hasks : Cycle.request? stage ≠ none)
    (reply : PlannerReply) :
    ∃ result, (Cycle.advance (w.setting t.tripId t.now) (w.replied t stage reply)).stage =
        .finished result ∧
      w.wakeTask t stage (.replies reply) = ({ t with phase := .ended (.ofResult result) },
        w.take (Cycle.advance (w.setting t.tripId t.now) (w.replied t stage reply))) := by
  have hlate : (w.replied t stage reply).stage.isLate = true := Cycle.isLate_resume _ reply hasks
  obtain ⟨result, hresult⟩ := Cycle.exists_finished_advance (w.setting t.tripId t.now) hlate
  have hwoken : w.wakeTask t stage (.replies reply) =
      w.settle t (Cycle.advance (w.setting t.tripId t.now) (w.replied t stage reply)) := rfl
  refine ⟨result, hresult, ?_⟩
  rw [hwoken, settle, hresult]

/-- A task that is woken ends. -/
theorem isEnded_wakeTask (w : Watch) (t : Task) (hasks : Cycle.request? stage ≠ none)
    (conduct : PlannerConduct) : (w.wakeTask t stage conduct).1.isEnded = true := by
  cases conduct with
  | crashes => rfl
  | replies reply =>
    obtain ⟨result, -, hwoken⟩ := exists_wakeTask_eq w t hasks reply
    rw [hwoken]
    rfl

theorem Mirrors.wakeTask (h : w.Mirrors (⟨t.tripId, t.now, stage⟩ :: rest) s)
    (hasks : Cycle.request? stage ≠ none) (conduct : PlannerConduct) :
    s.Leads ((w.wakeTask t stage conduct).2.freeEnded (w.wakeTask t stage conduct).1) rest := by
  cases conduct with
  | crashes => exact h.land .crash fun _ _ => rfl
  | replies reply =>
    obtain ⟨result, hresult, hwoken⟩ := exists_wakeTask_eq w t hasks reply
    have hlast := leads_trans (h.answer reply) fun _ h' =>
      Mirrors.advance (m := w.replied t stage reply) h'
    rw [hresult] at hlast
    rw [hwoken]
    exact leads_congr (leads_trans hlast fun _ h' => h'.finish) rfl rfl rfl rfl

/-- A task begins: it asks the planner and waits, or ends. -/
theorem Mirrors.startTask (h : w.Mirrors (.ofTask t :: rest) s) :
    (w.startTask t).1.Asks ∧ (w.startTask t).1.phase ≠ .fresh ∧
      s.Leads ((w.startTask t).2.freeEnded (w.startTask t).1)
        ((w.startTask t).1.job?.toList ++ rest) := by
  have hfirst := Mirrors.advance (m := ⟨.readTrip, w.store, []⟩) h
  have hrank := Cycle.rank_advance (w.setting t.tripId t.now) ⟨.readTrip, w.store, []⟩
  simp only [Watch.startTask]
  generalize Cycle.advance (w.setting t.tripId t.now) ⟨.readTrip, w.store, []⟩ = m at hfirst hrank ⊢
  obtain ⟨stage, store, sent⟩ := m
  cases hrequest : Cycle.request? stage with
  | none =>
    obtain ⟨result, rfl⟩ := Cycle.exists_finished hrank hrequest
    have hlast := leads_trans hfirst fun _ h' => h'.finish
    exact ⟨trivial, by simp [settle], leads_congr hlast rfl rfl rfl rfl⟩
  | some request =>
    have hasks : Cycle.request? stage ≠ none := by simp [hrequest]
    dsimp only
    generalize hw₁ : ({ w.take ⟨stage, store, sent⟩ with
      requests := w.requests ++ [request] } : Watch) = w₁
    generalize PlannerScript.call _ _ = call
    have hwaits : s.Leads w₁ (⟨t.tripId, t.now, stage⟩ :: rest) := by
      subst hw₁
      exact leads_congr hfirst rfl rfl rfl rfl
    split
    · have hended := isEnded_wakeTask w₁ t hasks call.2
      obtain ⟨hasks', hfresh⟩ := Task.asks_of_isEnded hended
      refine ⟨hasks', hfresh, ?_⟩
      rw [Task.job?_eq_none_iff.mpr hended]
      exact leads_trans hwaits fun _ h' => h'.wakeTask hasks call.2
    · exact ⟨hasks, by simp, leads_congr hwaits rfl rfl rfl rfl⟩

end Task

end Watch

end TripWatch
