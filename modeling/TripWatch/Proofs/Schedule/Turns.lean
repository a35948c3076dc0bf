import Mathlib.Data.List.Chain
import Mathlib.Data.List.Induction
import Mathlib.Data.List.Nodup
import TripWatch.Proofs.Check.Fault
import TripWatch.Proofs.Schedule.Interleaving

/-!
# One check of a trip at a time

A tick starts a check only of a trip that is not in flight, and a trip is in flight until its check
has ended, however it ends. So there is one check of a trip at most, and the deeds of a trip are
those of one check after the other: `InTurn`.

## The invariant

`Sound` ties the flights to the checks that have not ended, and each of these checks to the last
deed of its trip: a check that is to write a state has just read the one that it was computed from,
as far as its trip is concerned. An event gives a trip one more deed at most, and only that trip's
check or its place in the flights changes with it.

## Main definitions

* `Deed.Then`, `InTurn` — deeds of one check at a time, in the order in which a check does them
* `Job.Standing` — the last deed of a trip, by how far its check has come
* `Schedule.Sound` — the invariant

## Main results

* `InTurn.ended_between`, `InTurn.read_before` — checks of a trip do not overlap
* `Schedule.standing_takes` — the invariant of one check, over an operation
* `Schedule.Sound.move`, `Schedule.sound_handleAll` — the invariant, over an event and over a run
-/

namespace TripWatch

/-! ### Deeds in turn -/

/-- A check of a trip that starts from a state may find another one. -/
def Trip.Turns (t : Trip) (previous : Option JourneyState) (state : JourneyState) : Prop :=
  ∃ limit planner now ns, check limit planner t previous now = .ok (.checked state ns)

namespace Deed

/-- Whether a check is over with a deed. -/
def isEnd : Deed → Bool
  | .ended _ => true
  | _ => false

/-- The state that is written. -/
def written? : Deed → Option JourneyState
  | .wrote state => some state
  | _ => none

/-- Which deed may come after which, as long as there is one check at a time. -/
inductive Then : Deed → Deed → Prop
  /-- A check reads at most once, and before it does anything else. -/
  | read (previous : Option JourneyState) : Then .began (.read previous)
  /-- It writes at most once, what it has found from what it has read. -/
  | wrote (t : Trip) (previous : Option JourneyState) (state : JourneyState)
      (turns : t.Turns previous state) : Then (.read previous) (.wrote state)
  /-- It may end at any time. -/
  | ended (d : Deed) (how : TaskEnd) (under : d.isEnd = false) : Then d (.ended how)
  /-- The next one begins. -/
  | began (how : TaskEnd) : Then (.ended how) .began

end Deed

/-- The deeds are those of one check after the other. -/
structure InTurn (deeds : List Deed) : Prop where
  /-- Only a beginning is first. -/
  head : ∀ d ∈ deeds.head?, d = .began
  /-- Each deed may come after the one before it. -/
  chain : deeds.IsChain Deed.Then

namespace InTurn

variable {deeds before after : List Deed}

theorem nil : InTurn [] := ⟨by simp, by simp⟩

theorem concat (h : InTurn deeds) {last d : Deed} (hlast : deeds.getLast? = some last)
    (hthen : last.Then d) : InTurn (deeds ++ [d]) where
  head := by
    rw [List.head?_append_of_ne_nil _ (by rintro rfl; cases hlast)]
    exact h.head
  chain := by
    rw [List.isChain_append]
    refine ⟨h.chain, by simp, ?_⟩
    simpa [hlast] using hthen

theorem concat_began (h : InTurn deeds) (hlast : ∀ d ∈ deeds.getLast?, d.isEnd = true) :
    InTurn (deeds ++ [.began]) := by
  cases hd : deeds.getLast? with
  | none =>
    rw [List.getLast?_eq_none_iff.mp hd]
    exact ⟨by simp, by simp⟩
  | some d =>
    have hend := hlast d hd
    cases d with
    | ended how => exact h.concat hd (.began how)
    | began | read | wrote => cases hend

/-- The deed before another one. -/
theorem then_of_append (before : List Deed) (d e : Deed) (after : List Deed)
    (h : InTurn (before ++ d :: e :: after)) : d.Then e :=
  (List.isChain_append_cons_cons.mp h.chain).2.1

/-- **Between two beginnings there is an end.** -/
theorem ended_between {between : List Deed}
    (h : InTurn (before ++ .began :: between ++ .began :: after)) :
    ∃ how, .ended how ∈ between := by
  rcases List.eq_nil_or_concat' between with rfl | ⟨between, d, rfl⟩
  · rw [List.append_assoc] at h
    cases then_of_append before .began .began after (by simpa using h)
  · have hthen : d.Then .began :=
      then_of_append (before ++ .began :: between) d .began after (by simpa using h)
    cases hthen with
    | began how => exact ⟨how, by simp⟩

/-- **A write comes right after the read that it was computed from.** -/
theorem read_before {state : JourneyState} (h : InTurn (before ++ .wrote state :: after)) :
    ∃ before' previous t, before = before' ++ [.read previous] ∧ Trip.Turns t previous state := by
  rcases List.eq_nil_or_concat' before with rfl | ⟨before', d, rfl⟩
  · cases h.head (.wrote state) rfl
  · have hthen : d.Then (.wrote state) :=
      then_of_append before' d (.wrote state) after (by simpa using h)
    cases hthen with
    | wrote t previous _ hturns => exact ⟨before', previous, t, by simp, hturns⟩

end InTurn

/-! ### One check and the last deed of its trip -/

/-- What the last deed of a trip is, by how far its check has come. -/
def Job.Standing (job : Job) (last : Option Deed) : Prop :=
  match job.stage with
  | .readTrip => last = some .began
  | .readUser t => last = some .began ∧ shouldSkip t job.now = false
  | .readState t _ => last = some .began ∧ shouldSkip t job.now = false
  | .ask t _ state request => ∃ previous, last = some (.read previous) ∧
      shouldSkip t job.now = false ∧ prepare t previous job.now = .asking state request
  | .writeState t _ state _ => ∃ previous, last = some (.read previous) ∧ t.Turns previous state
  | .writeTrip .. => ∃ state, last = some (.wrote state)
  | .send .. => ∃ state, last = some (.wrote state)
  | .finished _ => ∃ d, last = some d ∧ d.isEnd = false

namespace Job

variable {job : Job} {last : Option Deed}

/-- The last deed of a trip whose check has not ended is no end. -/
theorem Standing.under (h : job.Standing last) : ∃ d, last = some d ∧ d.isEnd = false := by
  obtain ⟨id, now, stage⟩ := job
  cases stage with
  | readTrip => exact ⟨_, h, rfl⟩
  | readUser | readState => exact ⟨_, h.1, rfl⟩
  | ask | writeState =>
    obtain ⟨previous, hlast, -⟩ := h
    exact ⟨_, hlast, rfl⟩
  | writeTrip | send =>
    obtain ⟨state, hlast⟩ := h
    exact ⟨_, hlast, rfl⟩
  | finished => exact h

theorem standing_record {id : String} {now : LocalTime} {t : Trip} {u : User}
    {previous : Option JourneyState} {limit : Nat} (planner : PlanRequest → PlannerReply)
    {o : CheckOutcome} (h : check limit planner t previous now = .ok o) :
    Standing ⟨id, now, Cycle.record t u o⟩ (some (.read previous)) := by
  cases o with
  | skipped => exact ⟨_, rfl, rfl⟩
  | checked state ns => exact ⟨previous, rfl, limit, planner, now, ns, h⟩

end Job

namespace Schedule

variable {w : Schedule} {job : Job} {last : Option Deed}

/-- **An operation of a check**: its deed, if there is one, may come next, and is the last one
then. -/
theorem standing_takes {s : Cycle.Setting} {store store' : Store} {stage stage' : Cycle.Stage}
    {d : Option Deed} (htakes : Cycle.Takes s store stage d stage' store')
    (h : Job.Standing ⟨s.tripId, s.now, stage⟩ last) :
    (∀ deed ∈ d, ∃ l, last = some l ∧ l.Then deed) ∧
      Job.Standing ⟨s.tripId, s.now, stage'⟩ (d.or last) := by
  cases htakes with
  | fails | skips | send => exact ⟨by simp, h.under⟩
  | rests => exact ⟨by simp, h⟩
  | readTrip t stored due => exact ⟨by simp, h, due⟩
  | readUser t u => exact ⟨by simp, h⟩
  | writeTrip t u state ns => exact ⟨by simp, h⟩
  | readState t u =>
    obtain ⟨rfl, hdue⟩ : last = some .began ∧ shouldSkip t s.now = false := h
    refine ⟨by simpa using .read _, ?_⟩
    simp only [Cycle.afterRead, Option.some_or]
    cases hprep : prepare t (store.states.get? s.tripId) s.now with
    | settled o =>
      exact Job.standing_record (fun _ => .timeout) (Cycle.check_of_settled hdue hprep)
    | asking state request => exact ⟨_, rfl, hdue, hprep⟩
  | writeState t u state ns =>
    obtain ⟨previous, rfl, hturns⟩ :
      ∃ previous, last = some (.read previous) ∧ t.Turns previous state := h
    refine ⟨by simpa using .wrote t previous state hturns, ?_⟩
    simp only [Cycle.afterState_eq, Option.some_or]
    cases t.writeBack? state <;> exact ⟨state, rfl⟩

/-- A reply to a check is no deed. -/
theorem standing_resume (h : job.Standing last) (r : PlannerReply) :
    Job.Standing
      { job with stage := Cycle.resume (w.setting job .none Sender.working) r job.stage } last := by
  obtain ⟨id, now, stage⟩ := job
  cases stage with
  | ask t u state request =>
    obtain ⟨previous, rfl, hdue, hprep⟩ : ∃ previous, last = some (.read previous) ∧
      shouldSkip t now = false ∧ prepare t previous now = .asking state request := h
    have hcheck : check w.limit (fun _ => r) t previous now = _ :=
      Cycle.check_of_asking (s := ⟨id, now, w.limit, .none, Sender.working⟩) hdue hprep
    simp only [Cycle.resume, setting]
    cases hconclude : conclude w.limit t state now.instant r with
    | error fault => exact ⟨_, rfl, rfl⟩
    | ok o => exact Job.standing_record (fun _ => r) (hcheck.trans hconclude)
  | readTrip | readUser | readState | writeState | writeTrip | send | finished => exact h

/-! ### The flights, the checks and their deeds -/

/-- There is one check of a trip at most, and its deeds come in turn. -/
structure Sound (w : Schedule) (history : List (String × Deed)) : Prop where
  /-- The trips in flight are those of the checks. -/
  held : ∀ id, id ∈ w.flights.keys ↔ id ∈ w.jobs.map Job.tripId
  /-- No two checks are of one trip. -/
  nodup : (w.jobs.map Job.tripId).Nodup
  /-- The deeds of a trip come in turn. -/
  inTurn : ∀ id, InTurn (deedsOf id history)
  /-- Without a check of the trip, the last one has ended. -/
  idle : ∀ id, id ∉ w.jobs.map Job.tripId → ∀ d ∈ (deedsOf id history).getLast?, d.isEnd = true
  /-- A check has come as far as the last deed of its trip says. -/
  standing : ∀ job ∈ w.jobs, job.Standing (deedsOf job.tripId history).getLast?

variable {history : List (String × Deed)}

theorem Sound.start (store : Store) (limit : Nat) : Sound (.start store limit) [] where
  held id := by simp [Schedule.start, Flights.none]
  nodup := List.nodup_nil
  inTurn id := .nil
  idle id _ := by simp
  standing job hjob := by cases hjob

/-- The other checks are of other trips. -/
theorem Sound.others (h : Sound w history) {before after : List Job}
    (hjobs : w.jobs = before ++ job :: after) :
    job.tripId ∉ (before ++ after).map Job.tripId ∧ ((before ++ after).map Job.tripId).Nodup ∧
      ∀ other ∈ before ++ after, other.Standing (deedsOf other.tripId history).getLast? := by
  have hnodup := h.nodup
  rw [hjobs, List.map_append, List.map_cons, List.nodup_middle, List.nodup_cons,
    ← List.map_append] at hnodup
  refine ⟨hnodup.1, hnodup.2, fun other hother => h.standing other ?_⟩
  rw [hjobs]
  simp only [List.mem_append, List.mem_cons] at hother ⊢
  exact hother.imp_right .inr

/-- The deeds of a trip, after at most one more of some trip. -/
theorem deedsOf_append_map (id key : String) (d : Option Deed) :
    deedsOf id (history ++ (d.map fun deed => (key, deed)).toList) =
      deedsOf id history ++ if key = id then d.toList else [] := by
  cases d with
  | none => simp
  | some d => simp [deedsOf_singleton]

theorem getLast?_append_toList (deeds : List Deed) (d : Option Deed) :
    (deeds ++ d.toList).getLast? = d.or deeds.getLast? := by
  cases d <;> simp

/-- A check goes on, with a deed that may come next or without one. -/
theorem Sound.proceed (h : Sound w history) {before after : List Job}
    (hjobs : w.jobs = before ++ job :: after) (store : Store) (sent : List Message)
    {stage : Cycle.Stage} {d : Option Deed}
    (hthen : ∀ deed ∈ d, ∃ l, (deedsOf job.tripId history).getLast? = some l ∧ l.Then deed)
    (hstanding : Job.Standing { job with stage := stage }
      (d.or (deedsOf job.tripId history).getLast?)) :
    Sound
      { w with
        store := store, sent := sent
        jobs := before ++ { job with stage := stage } :: after }
      (history ++ (d.map fun deed => (job.tripId, deed)).toList) := by
  obtain ⟨hnotMem, -, hothers⟩ := h.others hjobs
  have hids : (before ++ { job with stage := stage } :: after).map Job.tripId =
      w.jobs.map Job.tripId := by simp [hjobs]
  refine ⟨?_, ?_, fun id => ?_, fun id hid => ?_, fun other hother => ?_⟩
  · simpa only [hids] using h.held
  · simpa only [hids] using h.nodup
  · rw [deedsOf_append_map]
    split
    · subst id
      cases d with
      | none => simpa using h.inTurn job.tripId
      | some deed =>
        obtain ⟨l, hlast, hl⟩ := hthen deed rfl
        exact (h.inTurn job.tripId).concat hlast hl
    · simpa using h.inTurn id
  · rw [hids] at hid
    have hne : job.tripId ≠ id := by
      rintro rfl
      exact hid (by simp [hjobs])
    rw [deedsOf_append_map, if_neg hne, List.append_nil]
    exact h.idle id hid
  · rw [deedsOf_append_map]
    rcases List.mem_cons.mp (List.perm_middle.mem_iff.mp hother) with rfl | hmem
    · rw [if_pos rfl, getLast?_append_toList]
      exact hstanding
    · have hne : job.tripId ≠ other.tripId := by
        intro heq
        exact hnotMem (heq ▸ List.mem_map_of_mem hmem)
      rw [if_neg hne, List.append_nil]
      exact hothers other hmem

/-- A check of a free trip begins. -/
theorem Sound.begin (h : Sound w history) {id : String} {flights : Flights}
    (free : w.flights.isInFlight id = false) (keys : flights.keys = id :: w.flights.keys)
    (now : LocalTime) (ticks : List Tick) :
    Sound
      { w with flights := flights, jobs := w.jobs ++ [⟨id, now, .readTrip⟩], ticks := ticks }
      (history ++ [(id, .began)]) := by
  have hfree : id ∉ w.jobs.map Job.tripId := by
    rw [← h.held]
    simpa [Flights.isInFlight] using free
  have hids : ((w.jobs ++ [(⟨id, now, .readTrip⟩ : Job)]).map Job.tripId).Perm
      (id :: w.jobs.map Job.tripId) := by
    rw [List.map_append]
    exact List.perm_append_singleton id _
  refine ⟨fun key => ?_, ?_, fun key => ?_, fun key hkey => ?_, fun job hjob => ?_⟩
  · rw [hids.mem_iff, keys, List.mem_cons, List.mem_cons, h.held key]
  · exact hids.nodup_iff.mpr (List.nodup_cons.mpr ⟨hfree, h.nodup⟩)
  · rw [deedsOf_append, deedsOf_singleton]
    split
    · subst key
      exact (h.inTurn id).concat_began (h.idle id hfree)
    · simpa using h.inTurn key
  · rw [hids.mem_iff, List.mem_cons, not_or] at hkey
    rw [deedsOf_append, deedsOf_singleton, if_neg (Ne.symm hkey.1), List.append_nil]
    exact h.idle key hkey.2
  · rw [deedsOf_append, deedsOf_singleton]
    rcases List.mem_append.mp hjob with hold | hnew
    · have hne : id ≠ job.tripId := by
        rintro rfl
        exact hfree (List.mem_map_of_mem hold)
      rw [if_neg hne, List.append_nil]
      exact h.standing job hold
    · obtain rfl : job = ⟨id, now, .readTrip⟩ := List.mem_singleton.mp hnew
      rw [if_pos rfl, List.getLast?_concat]
      rfl

/-- A check ends, wherever it stands. -/
theorem Sound.land (h : Sound w history) {before after : List Job}
    (hjobs : w.jobs = before ++ job :: after) (how : TaskEnd) :
    Sound { w with jobs := before ++ after, flights := w.flights.release job.tripId }
      (history ++ [(job.tripId, .ended how)]) := by
  obtain ⟨hnotMem, hnodup, hothers⟩ := h.others hjobs
  have hids : (w.jobs.map Job.tripId).Perm (job.tripId :: (before ++ after).map Job.tripId) := by
    rw [hjobs]
    exact List.perm_middle.map _
  refine ⟨fun id => ?_, hnodup, fun id => ?_, fun id hid => ?_, fun other hother => ?_⟩
  · simp only [Flights.release, List.mem_filter, bne_iff_ne, ne_eq, h.held id, hids.mem_iff,
      List.mem_cons]
    constructor
    · rintro ⟨hmem, hne⟩
      exact hmem.resolve_left hne
    · intro hmem
      exact ⟨.inr hmem, fun heq => hnotMem (heq ▸ hmem)⟩
  · rw [deedsOf_append, deedsOf_singleton]
    split
    · subst id
      obtain ⟨d, hlast, hunder⟩ := (h.standing job (by simp [hjobs])).under
      exact (h.inTurn job.tripId).concat hlast (.ended d how hunder)
    · simpa using h.inTurn id
  · rw [deedsOf_append, deedsOf_singleton]
    by_cases hsame : job.tripId = id
    · simp [hsame, Deed.isEnd]
    · rw [if_neg hsame, List.append_nil]
      refine h.idle id ?_
      rw [hids.mem_iff, List.mem_cons, not_or]
      exact ⟨Ne.symm hsame, hid⟩
  · have hne : job.tripId ≠ other.tripId := by
      intro heq
      exact hnotMem (heq ▸ List.mem_map_of_mem hother)
    rw [deedsOf_append, deedsOf_singleton, if_neg hne, List.append_nil]
    exact hothers other hother

/-- **An event keeps one check of a trip at most.** -/
theorem Sound.move (h : Sound w history) {d : Option (String × Deed)} {w' : Schedule}
    (hmove : Move w d w') : Sound w' (history ++ d.toList) := by
  cases hmove with
  | rest | listed | passed | storedTrip | storedUser =>
    rw [Option.toList_none, List.append_nil]
    exact ⟨h.held, h.nodup, h.inTurn, h.idle, h.standing⟩
  | began before tick after id flights hticks next free keys => exact h.begin free keys _ _
  | worked before job after outage sender d stage store sent hjobs htakes =>
    obtain ⟨hthen, hstanding⟩ := standing_takes htakes (h.standing job (by simp [hjobs]))
    exact h.proceed hjobs store sent hthen hstanding
  | replied before job after r hjobs =>
    have hstanding := standing_resume (w := w) (h.standing job (by simp [hjobs])) r
    exact h.proceed (d := none) hjobs w.store w.sent (by simp) hstanding
  | landed before job after how hjobs => exact h.land hjobs how

/-- **One check of a trip at a time, in every run.** -/
theorem sound_handleAll (store : Store) (limit : Nat) (events : List Event) :
    Sound ((start store limit).handleAll events) ((start store limit).history events) := by
  induction events using List.reverseRecOn with
  | nil => exact .start store limit
  | append_singleton events e ih =>
    rw [handleAll_concat, history_concat]
    exact ih.move (move_handle _ e)

end Schedule

end TripWatch
