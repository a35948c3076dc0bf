import Mathlib.Logic.Function.Iterate
import TripWatch.Proofs.Check.Edits
import TripWatch.Proofs.Check.Ownership
import TripWatch.Proofs.Schedule.Mirror

/-!
# Checks of different trips

A schedule checks all trips at once, on one store and without a lock. Here several cycles take turns
in any order, one operation or one reply of the planner at a time. That they are checks of different
trips is all that keeps them apart: a cycle reads the records of its own trip, and riders, whom no
cycle writes; and it writes the records of its own trip only, as long as these stand under their own
identifiers.

## The invariant

Beside the cycles that share a store, each of them is imagined to run by itself from the beginning,
with as many turns as it has had. `Joint.Solo` says that it stands where that one stands, and finds
in the store of all what that one would find in its own (`Moment.Alike`). A turn of a cycle keeps
this up for itself because it looks at nothing else, and for the others because it writes nothing
that is theirs (`Stage.Owns`). What the cycles come to in the end is therefore told by how each of
them ends by itself, and the order of their turns does not show.

## Main definitions

* `Cycle.turn` — the next operation of a cycle, or the planner's reply
* `Cycle.Joint` — several cycles on one store, `Joint.play` after some turns
* `Cycle.Moment.Alike` — moments that are the same for a cycle of a trip
* `Cycle.Joint.Solo` — the invariant

## Main results

* `Cycle.Joint.Solo.turn`, `Cycle.Joint.solo_play` — the invariant, over a turn and over a run
* `Cycle.Joint.Solo.isOver` — seven turns of a cycle are enough
* `Cycle.Joint.Solo.eq_of_over` — the end does not depend on the order of the turns
* `Cycle.independent_of_ne` — the headline
-/

namespace TripWatch

namespace Cycle

/-! ### Turns of a cycle -/

section Turns

variable (s : Setting) (planner : PlanRequest → PlannerReply)

/-- The next operation of a cycle, or the planner's reply if it waits for that. -/
def turn (m : Moment) : Moment :=
  match request? m.stage with
  | some request => { m with stage := resume s (planner request) m.stage }
  | none => step s m

/-- How many turns a cycle has before it at most. -/
def Stage.turnsLeft : Stage → Nat
  | .readTrip => 7
  | .readUser _ => 6
  | .readState .. => 5
  | .ask .. => 4
  | .writeState .. => 3
  | .writeTrip .. => 2
  | .send .. => 1
  | .finished _ => 0

/-- Whether a cycle is over. -/
def Stage.isOver (stage : Stage) : Bool := (result? stage).isSome

theorem turn_of_isOver {m : Moment} (h : m.stage.isOver = true) : turn s planner m = m := by
  obtain ⟨stage, store, sent⟩ := m
  cases stage <;> first | rfl | cases h

theorem turnsLeft_record_le (t : Trip) (u : User) (o : CheckOutcome) :
    (record t u o).turnsLeft ≤ 3 := by
  cases o <;> simp [record, Stage.turnsLeft]

theorem turnsLeft_takes {store store' : Store} {stage stage' : Stage} {d : Option Deed}
    (htakes : Takes s store stage d stage' store') (hrank : stage.rank ≠ 0) :
    stage'.turnsLeft < stage.turnsLeft := by
  cases htakes with
  | fails _ _ _ =>
    cases stage with
    | finished => exact absurd rfl hrank
    | _ => simp [fail, Stage.turnsLeft]
  | skips | readTrip | readUser | writeTrip | send => simp [Stage.turnsLeft]
  | readState t u =>
    unfold afterRead
    cases prepare t (store.states.get? s.tripId) s.now with
    | settled o =>
      exact Nat.lt_of_le_of_lt (turnsLeft_record_le t u o) (by simp [Stage.turnsLeft])
    | asking state request => simp [Stage.turnsLeft]
  | writeState t u state ns =>
    rw [afterState_eq]
    cases t.writeBack? state <;> simp [Stage.turnsLeft]
  | rests _ idle => exact absurd idle hrank

/-- A cycle that is not over is nearer to its end after its turn. -/
theorem turnsLeft_turn (m : Moment) :
    (turn s planner m).stage.turnsLeft ≤ m.stage.turnsLeft - 1 := by
  obtain ⟨stage, store, sent⟩ := m
  cases stage with
  | ask t u state request =>
    simp only [turn, request?, resume]
    cases conclude s.limit t state s.now.instant (planner request) with
    | error fault => simp [fail, Stage.turnsLeft]
    | ok o => exact turnsLeft_record_le t u o
  | finished => simp [turn, request?, step, Stage.turnsLeft]
  | _ =>
    refine Nat.le_sub_one_of_lt ?_
    exact turnsLeft_takes s (takes_step s ⟨_, store, sent⟩) (by simp [Stage.rank])

theorem isOver_of_turnsLeft {stage : Stage} (h : stage.turnsLeft = 0) : stage.isOver = true := by
  cases stage <;> first | rfl | cases h

/-- A cycle with as many turns as it needs is over. -/
theorem isOver_iterate {n : Nat} {m : Moment} (h : m.stage.turnsLeft ≤ n) :
    ((turn s planner)^[n] m).stage.isOver = true := by
  induction n generalizing m with
  | zero => exact isOver_of_turnsLeft (Nat.le_zero.mp h)
  | succ n ih =>
    rw [Function.iterate_succ_apply]
    have := turnsLeft_turn s planner m
    exact ih (by omega)

/-- Once a cycle is over, nothing is added by further turns. -/
theorem iterate_of_isOver {n k : Nat} {m : Moment} (hle : n ≤ k)
    (h : ((turn s planner)^[n] m).stage.isOver = true) :
    (turn s planner)^[k] m = (turn s planner)^[n] m := by
  obtain ⟨d, rfl⟩ := Nat.exists_eq_add_of_le' hle
  rw [Function.iterate_add_apply]
  exact Function.iterate_fixed (turn_of_isOver s planner h) d

/-- To advance is to take some turns. -/
theorem exists_iterate_eq_advance (m : Moment) : ∃ n, (turn s planner)^[n] m = advance s m := by
  induction m using advance.induct s with
  | case1 m h => exact ⟨0, (advance_of_rank_eq_zero h).symm⟩
  | case2 m h ih =>
    obtain ⟨n, hn⟩ := ih
    refine ⟨n + 1, ?_⟩
    have hstep : turn s planner m = step s m := by
      obtain ⟨stage, store, sent⟩ := m
      cases stage with
      | ask => exact absurd rfl h
      | _ => rfl
    rw [Function.iterate_succ_apply, hstep, hn, advance_of_rank_ne_zero h]

/-- A cycle by itself takes some turns, and then it is over. -/
theorem exists_iterate_eq_run (store : Store) :
    ∃ n, (turn s planner)^[n] (.start store) = run s planner store ∧
      (run s planner store).stage.isOver = true := by
  obtain ⟨n, hn⟩ := exists_iterate_eq_advance s planner (.start store)
  simp only [run]
  rw [Moment.start] at hn ⊢
  have hrank := rank_advance s ⟨.readTrip, store, []⟩
  generalize advance s ⟨.readTrip, store, []⟩ = m at hn hrank ⊢
  cases hrequest : request? m.stage with
  | none =>
    obtain ⟨result, hresult⟩ := exists_finished hrank hrequest
    exact ⟨n, hn, by rw [hresult]; rfl⟩
  | some request =>
    have hturn : turn s planner m = { m with stage := resume s (planner request) m.stage } := by
      simp only [turn, hrequest]
    obtain ⟨k, hk⟩ := exists_iterate_eq_advance s planner (turn s planner m)
    have hlate : (turn s planner m).stage.isLate = true := by
      rw [hturn]
      exact isLate_resume s (planner request) (by simp [hrequest])
    obtain ⟨result, hresult⟩ := exists_finished_advance s hlate
    rw [hturn] at hk hresult
    refine ⟨k + 1 + n, ?_, by rw [hresult]; rfl⟩
    rw [Function.iterate_add_apply, hn, Function.iterate_succ_apply, hturn, hk]

end Turns

/-! ### What a cycle looks at -/

/-- Two moments are the same for a cycle of a trip. -/
structure Moment.Alike (id : String) (m m' : Moment) : Prop where
  /-- The cycle stands at the same place. -/
  stage : m.stage = m'.stage
  /-- It has sent the same messages. -/
  sent : m.sent = m'.sent
  /-- Riders are the same. -/
  users : m.store.users = m'.store.users
  /-- The trip is the same. -/
  trip : m.store.trips.get? id = m'.store.trips.get? id
  /-- Its state is the same. -/
  state : m.store.states.get? id = m'.store.states.get? id

section Alike

variable {s : Setting} {planner : PlanRequest → PlannerReply} {m m' : Moment}

theorem Moment.Alike.step (h : m.Alike s.tripId m') : (step s m).Alike s.tripId (step s m') := by
  obtain ⟨stage, store, sent⟩ := m
  obtain ⟨stage', store', sent'⟩ := m'
  obtain ⟨rfl, rfl, husers, htrip, hstate⟩ :
    stage = stage' ∧ sent = sent' ∧ store.users = store'.users ∧
      store.trips.get? s.tripId = store'.trips.get? s.tripId ∧
      store.states.get? s.tripId = store'.states.get? s.tripId :=
    ⟨h.stage, h.sent, h.users, h.trip, h.state⟩
  cases stage with
  | readTrip =>
    simp only [Cycle.step, htrip]
    cases s.outage .getTrip <;> exact ⟨rfl, rfl, husers, htrip, hstate⟩
  | readUser t =>
    simp only [Cycle.step, husers]
    cases s.outage .getUser with
    | some fault => exact ⟨rfl, rfl, husers, htrip, hstate⟩
    | none => cases store'.users.get? t.userId <;> exact ⟨rfl, rfl, husers, htrip, hstate⟩
  | readState t u =>
    simp only [Cycle.step, hstate]
    cases s.outage .getJourneyState <;> exact ⟨rfl, rfl, husers, htrip, hstate⟩
  | writeState t u state ns =>
    simp only [Cycle.step]
    cases s.outage .replaceJourneyState with
    | some fault => exact ⟨rfl, rfl, husers, htrip, hstate⟩
    | none => exact ⟨rfl, rfl, husers, htrip, by simp [hstate]⟩
  | writeTrip t u state ns =>
    simp only [Cycle.step]
    cases s.outage .replaceTrip with
    | some fault => exact ⟨rfl, rfl, husers, htrip, hstate⟩
    | none => exact ⟨rfl, rfl, husers, by simp [htrip], hstate⟩
  | send | ask | finished => exact ⟨rfl, rfl, husers, htrip, hstate⟩

variable (planner) in
theorem Moment.Alike.turn (h : m.Alike s.tripId m') :
    (turn s planner m).Alike s.tripId (turn s planner m') := by
  simp only [Cycle.turn, h.stage]
  cases request? m'.stage with
  | none => exact h.step
  | some request => exact ⟨rfl, h.sent, h.users, h.trip, h.state⟩

end Alike

/-! ### A turn and the records of others -/

section Owns

variable {s : Setting} {m : Moment}

variable (planner : PlanRequest → PlannerReply) in
theorem Stage.Owns.turn (h : m.stage.Owns s.tripId) (hfiled : m.store.Filed) :
    (turn s planner m).stage.Owns s.tripId ∧ (turn s planner m).store.Filed ∧
      Store.SameBut s.tripId m.store (turn s planner m).store := by
  simp only [Cycle.turn]
  cases request? m.stage with
  | none =>
    have htakes := takes_step s m
    obtain ⟨howns, hsame⟩ := h.takes (hfiled.ownAt s.tripId) htakes
    exact ⟨howns, htakes.forall_apply (fun _ h => h.apply) hfiled, hsame⟩
  | some request => exact ⟨h.resume s _, hfiled, .refl s.tripId m.store⟩

end Owns

/-! ### Cycles side by side -/

/-- Several cycles on one store. -/
structure Joint (ι : Type) where
  /-- The store. -/
  store : Store
  /-- Where each cycle stands. -/
  stage : ι → Stage
  /-- The messages that each cycle has sent, in order. -/
  sent : ι → List Message

namespace Joint

variable {ι : Type} [DecidableEq ι]

/-- Before the first turn. -/
def start (ι : Type) (store : Store) : Joint ι := ⟨store, fun _ => .readTrip, fun _ => []⟩

/-- The moment of one of the cycles. -/
def moment (j : Joint ι) (i : ι) : Moment := ⟨j.stage i, j.store, j.sent i⟩

/-- The cycles after one of them has come to a moment. -/
def set (j : Joint ι) (i : ι) (m : Moment) : Joint ι :=
  ⟨m.store, Function.update j.stage i m.stage, Function.update j.sent i m.sent⟩

/-- Whether all cycles are over. -/
def Over (j : Joint ι) : Prop := ∀ i, (j.stage i).isOver = true

variable (settings : ι → Setting) (planner : PlanRequest → PlannerReply)

/-- The cycles after one of them has had a turn. -/
def turn (j : Joint ι) (i : ι) : Joint ι := j.set i (Cycle.turn (settings i) planner (j.moment i))

/-- The cycles after several turns. -/
def play (j : Joint ι) (turns : List ι) : Joint ι := turns.foldl (turn settings planner) j

theorem play_concat (j : Joint ι) (turns : List ι) (i : ι) :
    j.play settings planner (turns ++ [i]) =
      (j.play settings planner turns).turn settings planner i := by
  simp [play]

@[simp] theorem moment_set_self (j : Joint ι) (i : ι) (m : Moment) : (j.set i m).moment i = m := by
  simp [moment, set]

theorem moment_set_of_ne (j : Joint ι) {i k : ι} (h : k ≠ i) (m : Moment) :
    (j.set i m).moment k = ⟨j.stage k, m.store, j.sent k⟩ := by
  simp [moment, set, h]

theorem set_set (j : Joint ι) (i : ι) (m m' : Moment) : (j.set i m).set i m' = j.set i m' := by
  simp [set]

theorem set_moment (j : Joint ι) (i : ι) : j.set i (j.moment i) = j := by
  simp [set, moment]

/-- Several turns of one cycle. -/
theorem play_replicate (j : Joint ι) (n : Nat) (i : ι) :
    j.play settings planner (List.replicate n i) =
      j.set i ((Cycle.turn (settings i) planner)^[n] (j.moment i)) := by
  induction n with
  | zero => exact (j.set_moment i).symm
  | succ n ih =>
    rw [List.replicate_succ', play_concat, ih, turn, moment_set_self, set_set,
      Function.iterate_succ_apply']

/-! ### Each by itself -/

/-- A cycle by itself, after a number of turns. -/
def solo (store : Store) (i : ι) (n : Nat) : Moment :=
  (Cycle.turn (settings i) planner)^[n] (.start store)

/-- Each cycle stands as if it had been by itself, on a store that otherwise stayed as it was. -/
structure Solo (store : Store) (turns : List ι) (j : Joint ι) : Prop where
  /-- Trips and states stand under their own identifiers. -/
  filed : j.store.Filed
  /-- Each cycle will write records of its own trip only. -/
  owns : ∀ i, (j.stage i).Owns (settings i).tripId
  /-- Each cycle stands as if it had been by itself. -/
  alike : ∀ i,
    (j.moment i).Alike (settings i).tripId (solo settings planner store i (turns.count i))
  /-- Other trips are as they were, -/
  trips : ∀ key, (∀ i, key ≠ (settings i).tripId) → j.store.trips.get? key = store.trips.get? key
  /-- and so are riders -/
  users : j.store.users = store.users
  /-- and the states of other trips. -/
  states : ∀ key, (∀ i, key ≠ (settings i).tripId) → j.store.states.get? key = store.states.get? key

variable {settings planner} {store : Store} {j : Joint ι} {turns : List ι}

theorem Solo.turn (hne : ∀ i k, i ≠ k → (settings i).tripId ≠ (settings k).tripId)
    (h : j.Solo settings planner store turns) (i : ι) :
    (j.turn settings planner i).Solo settings planner store (turns ++ [i]) := by
  obtain ⟨howns, hfiled, hsame⟩ := Stage.Owns.turn planner (m := j.moment i) (h.owns i) h.filed
  have halike := (h.alike i).turn planner
  rw [Joint.turn]
  generalize Cycle.turn (settings i) planner (j.moment i) = m at howns hfiled hsame halike ⊢
  refine ⟨hfiled, fun k => ?_, fun k => ?_, fun key hkey => ?_, hsame.users.trans h.users,
    fun key hkey => ?_⟩
  · by_cases hk : k = i
    · subst hk
      simpa [set] using howns
    · simpa [set, hk] using h.owns k
  · by_cases hk : k = i
    · subst hk
      rw [moment_set_self, solo, List.count_append, List.count_singleton_self,
        Function.iterate_succ_apply']
      exact halike
    · have hcount : (turns ++ [i]).count k = turns.count k := by
        simp [List.count_append, Ne.symm hk]
      have hid := hne k i hk
      have hk' := h.alike k
      rw [moment_set_of_ne j hk, hcount]
      exact ⟨hk'.stage, hk'.sent, hsame.users.trans hk'.users,
        (hsame.trips _ hid).trans hk'.trip, (hsame.states _ hid).trans hk'.state⟩
  · exact (hsame.trips key (hkey i)).trans (h.trips key hkey)
  · exact (hsame.states key (hkey i)).trans (h.states key hkey)

variable (planner) in
theorem solo_play (hne : ∀ i k, i ≠ k → (settings i).tripId ≠ (settings k).tripId)
    (hfiled : store.Filed) (turns : List ι) :
    ((start ι store).play settings planner turns).Solo settings planner store turns := by
  induction turns using List.reverseRecOn with
  | nil =>
    exact ⟨hfiled, fun i => trivial, fun i => ⟨rfl, rfl, rfl, rfl, rfl⟩, fun _ _ => rfl, rfl,
      fun _ _ => rfl⟩
  | append_singleton turns i ih =>
    rw [play_concat]
    exact ih.turn hne i

/-- Once a cycle is over that stands as if it had been by itself, it has come to what it comes to by
itself. -/
theorem Solo.alike_run (h : j.Solo settings planner store turns) {i : ι}
    (hover : (j.stage i).isOver = true) :
    (j.moment i).Alike (settings i).tripId (run (settings i) planner store) := by
  have halike := h.alike i
  obtain ⟨n, hn, hrun⟩ := exists_iterate_eq_run (settings i) planner store
  have hsolo : (solo settings planner store i (turns.count i)).stage.isOver = true := by
    rw [← halike.stage]
    exact hover
  rw [← hn] at hrun ⊢
  rcases Nat.le_total n (turns.count i) with hle | hle
  · rw [← iterate_of_isOver _ planner hle hrun]
    exact halike
  · rw [iterate_of_isOver _ planner hle hsolo]
    exact halike

/-- **Seven turns are enough** for each cycle to be over. -/
theorem Solo.isOver (h : j.Solo settings planner store turns) {i : ι} (hcount : 7 ≤ turns.count i) :
    (j.stage i).isOver = true := by
  have hstage : j.stage i = _ := (h.alike i).stage
  rw [hstage]
  exact isOver_iterate _ planner hcount

/-- **The order of turns does not show in the end.** -/
theorem Solo.eq_of_over {j' : Joint ι} {turns' : List ι}
    (h : j.Solo settings planner store turns) (h' : j'.Solo settings planner store turns')
    (hover : j.Over) (hover' : j'.Over) :
    j.store.Same j'.store ∧ ∀ i, j.stage i = j'.stage i ∧ j.sent i = j'.sent i := by
  have halike : ∀ i, (j.moment i).Alike (settings i).tripId (run (settings i) planner store) :=
    fun i => h.alike_run (hover i)
  have halike' : ∀ i, (j'.moment i).Alike (settings i).tripId (run (settings i) planner store) :=
    fun i => h'.alike_run (hover' i)
  refine ⟨⟨fun key => ?_, fun key => ?_, fun key => ?_⟩, fun i =>
    ⟨(halike i).stage.trans (halike' i).stage.symm, (halike i).sent.trans (halike' i).sent.symm⟩⟩
  · by_cases hkey : ∃ i, key = (settings i).tripId
    · obtain ⟨i, rfl⟩ := hkey
      exact (halike i).trip.trans (halike' i).trip.symm
    · rw [not_exists] at hkey
      rw [h.trips key hkey, h'.trips key hkey]
  · rw [h.users, h'.users]
  · by_cases hkey : ∃ i, key = (settings i).tripId
    · obtain ⟨i, rfl⟩ := hkey
      exact (halike i).state.trans (halike' i).state.symm
    · rw [not_exists] at hkey
      rw [h.states key hkey, h'.states key hkey]

/-! ### One after the other -/

variable (settings planner)

/-- The cycles after one of them has run to its end from where it stands. -/
def runOut (j : Joint ι) (i : ι) : Joint ι := j.set i (run (settings i) planner j.store)

/-- To run a cycle that has not begun to its end is to take some turns. -/
theorem exists_play_eq_runOut {i : ι} (hstage : j.stage i = .readTrip) (hsent : j.sent i = []) :
    ∃ n, j.play settings planner (List.replicate n i) = j.runOut settings planner i ∧
      ((j.runOut settings planner i).stage i).isOver = true := by
  obtain ⟨n, hn, hover⟩ := exists_iterate_eq_run (settings i) planner j.store
  refine ⟨n, ?_, by simpa [runOut, set] using hover⟩
  have hmoment : j.moment i = .start j.store := by rw [moment, hstage, hsent, Moment.start]
  rw [play_replicate, hmoment, hn, runOut]

end Joint

/-- Which of two cycles. -/
inductive Side where
  | left
  | right
  deriving DecidableEq

/-- Two cycles side by side. -/
def sides (a b : Setting) : Side → Setting
  | .left => a
  | .right => b

namespace Joint

/-- Two cycles have come to a store, and each to its messages and result. -/
structure EndsAs (j : Joint Side) (store : Store)
    (left right : List Message × Option (Except CheckFault CheckOutcome)) : Prop where
  /-- The store holds the same under each key. -/
  store : j.store.Same store
  /-- One cycle has sent the same messages and has the same result, -/
  left : (j.sent .left, result? (j.stage .left)) = left
  /-- and so has the other one. -/
  right : (j.sent .right, result? (j.stage .right)) = right

variable (settings : Side → Setting) (planner : PlanRequest → PlannerReply) (store : Store)

/-- To run two cycles one after the other is to take some turns, after which both are over. -/
theorem exists_play_eq_runOut_runOut {first second : Side} (hne : second ≠ first) :
    ∃ turns, (start Side store).play settings planner turns =
        ((start Side store).runOut settings planner first).runOut settings planner second ∧
      ((start Side store).play settings planner turns).Over := by
  obtain ⟨n, hn, hfirst⟩ := exists_play_eq_runOut settings planner (j := start Side store)
    (i := first) rfl rfl
  obtain ⟨k, hk, hsecond⟩ := exists_play_eq_runOut settings planner
    (j := (start Side store).runOut settings planner first) (i := second)
    (Function.update_of_ne hne _ _) (Function.update_of_ne hne _ _)
  refine ⟨List.replicate n first ++ List.replicate k second, ?_, fun i => ?_⟩
  · rw [play, List.foldl_append, ← play, ← play, hn, hk]
  · rw [play, List.foldl_append, ← play, ← play, hn, hk]
    by_cases hi : i = second
    · rw [hi]
      exact hsecond
    · have hlast : i = first := by cases i <;> cases first <;> cases second <;> simp_all
      rw [hlast] at hi ⊢
      exact (congrArg Stage.isOver (Function.update_of_ne hi _ _)).trans hfirst

variable {settings planner store}

/-- Two cycles of different trips, once they are over, have come to what they come to one after the
other. -/
theorem same_runOut_runOut (hne : ∀ i k, i ≠ k → (settings i).tripId ≠ (settings k).tripId)
    (hfiled : store.Filed) {turns : List Side}
    (hover : ((start Side store).play settings planner turns).Over) (first second : Side)
    (hsides : second ≠ first) :
    let j := (start Side store).play settings planner turns
    let last := ((start Side store).runOut settings planner first).runOut settings planner second
    j.store.Same last.store ∧ ∀ i, j.stage i = last.stage i ∧ j.sent i = last.sent i := by
  obtain ⟨turns', hturns', hover'⟩ :=
    exists_play_eq_runOut_runOut settings planner store hsides
  have hsame := (solo_play planner hne hfiled turns).eq_of_over
    (solo_play planner hne hfiled turns') hover hover'
  rw [hturns'] at hsame
  exact hsame

end Joint

/-- **Checks of different trips do not show each other.** In whatever order two cycles take turns,
both are over after seven turns of each, and once they are over, store, messages and results are
those of one cycle after the other, whichever of them is the first. The trips may be of one rider,
and any operations on the store may fail. -/
theorem independent_of_ne (a b : Setting) (hne : a.tripId ≠ b.tripId)
    (planner : PlanRequest → PlannerReply) {store : Store} (hkeyed : store.Keyed)
    (turns : List Side) :
    let j := (Joint.start Side store).play (sides a b) planner turns
    let afterA := checkAndPersist a planner store
    let afterB := checkAndPersist b planner store
    let thenB := checkAndPersist b planner afterA.1
    let thenA := checkAndPersist a planner afterB.1
    (7 ≤ turns.count .left → 7 ≤ turns.count .right → j.Over) ∧
      (j.Over → j.EndsAs thenB.1 afterA.2 thenB.2 ∧ j.EndsAs thenA.1 thenA.2 afterB.2) := by
  intro j afterA afterB thenB thenA
  have hfiled : store.Filed := hkeyed.filed
  have hsides : ∀ i k, i ≠ k → (sides a b i).tripId ≠ (sides a b k).tripId := by
    intro i k hik
    cases i <;> cases k
    · exact absurd rfl hik
    · exact hne
    · exact hne.symm
    · exact absurd rfl hik
  refine ⟨fun hleft hright i => ?_, fun hover => ⟨?_, ?_⟩⟩
  · have hsolo := Joint.solo_play planner hsides hfiled turns
    cases i with
    | left => exact hsolo.isOver hleft
    | right => exact hsolo.isOver hright
  · obtain ⟨hstore, hends⟩ :=
      Joint.same_runOut_runOut hsides hfiled hover .left .right (by decide)
    refine ⟨hstore, ?_, ?_⟩
    · rw [(hends .left).1, (hends .left).2]
      rfl
    · rw [(hends .right).1, (hends .right).2]
      rfl
  · obtain ⟨hstore, hends⟩ :=
      Joint.same_runOut_runOut hsides hfiled hover .right .left (by decide)
    refine ⟨hstore, ?_, ?_⟩
    · rw [(hends .left).1, (hends .left).2]
      rfl
    · rw [(hends .right).1, (hends .right).2]
      rfl

/-- Two trips of one rider, whose checks take turns from the first operation to the last. -/
theorem independent_of_ne_errand :
    let a : Setting := ⟨"commute", Commute.monday 0, 200, .none, Sender.working⟩
    let b : Setting := ⟨"errand", Commute.monday 1, 200, .none, Sender.working⟩
    let planner := fun _ => PlannerReply.response (.ofItinerary (Commute.bus 10))
    let store := ((Store.empty.putUser Commute.rider).putTrip Commute.trip).putTrip
      { Commute.trip with id := "errand" }
    let turns := (List.replicate 7 [Side.left, .right]).flatten
    let j := (Joint.start Side store).play (sides a b) planner turns
    let afterA := checkAndPersist a planner store
    let afterB := checkAndPersist b planner store
    let thenB := checkAndPersist b planner afterA.1
    let thenA := checkAndPersist a planner afterB.1
    a.tripId ≠ b.tripId ∧ store.Keyed ∧ j.Over ∧
      j.EndsAs thenB.1 afterA.2 thenB.2 ∧ j.EndsAs thenA.1 thenA.2 afterB.2 := by
  intro a b planner store turns j afterA afterB thenB thenA
  have hne : a.tripId ≠ b.tripId := by decide
  have hkeyed : store.Keyed := ((Store.filedFor_empty.putUser _).putTrip _).putTrip _
  obtain ⟨hover, hends⟩ := independent_of_ne a b hne planner hkeyed turns
  have hover := hover (by decide) (by decide)
  exact ⟨hne, hkeyed, hover, hends hover⟩

end Cycle

end TripWatch
