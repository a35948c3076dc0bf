import TripWatch.Proofs.Check.Edits
import TripWatch.Proofs.Check.Ownership
import TripWatch.Proofs.Store.Restart

/-!
# Listed trips

The schedule asks the store which trips to check, and a check looks each of them up again. The list
has the identifiers that stand in the trips, the lookup goes by the keys of the table. All that is
written while the program runs stands under its own identifier, so the two agree there; but the
program begins with a file, and a file is taken as it is. If that has a trip under another key than
its identifier, the trip is listed and is not found, or is listed twice: `not_checkable`.

`checkable_iff_of_reload` says that there is nothing else that can go wrong. Whatever is stored
later, and however often the file is written and loaded again, every listed trip can be checked,
exactly if the file has each active trip and each state in its place. A trip that is not active may
stand anywhere, since nothing moves it: to resume it is to store it, and then it stands right.

## The invariants

`Store.ActiveFiled` is what the file has to give. No write and no restart breaks it, whether or not
all doubles come back, since a restart alters neither identifiers nor keys. As a restart may come at
any time, the invariant of a run speaks of the file as well (`Watch.Filed`).

Within a check, `Cycle.Serving` says that all that is read and carried is of the trip in question.
That needs no more than that the trip and its state stand in their places, and edits cannot break
that either, as no edit removes a trip.

## Main definitions

* `Store.Checks` — a check finds its trip and writes no other trip's state
* `Store.Checkable` — all listed trips can be checked
* `Store.Serves`, `Cycle.Serving` — a store serves a check, and goes on to do so
* `Upkeep`, `Watch.upkeep` — what is done to a store, and to its file, outside of checks

## Main results

* `Store.ordered_iff_nodup`, `Store.mem_activeTripIds` — what the list has, and in which order
* `Cycle.Serving.step`, `Cycle.Serving.handleAll` — the invariant within a check
* `Store.ActiveFiled.checkable` — what the file has to give is enough
* `Watch.Filed.upkeep`, `Watch.Filed.upkeepAll` — the invariant, over one operation and over a run
* `checkable_iff_of_reload` — the headline
-/

namespace TripWatch

/-! ### The list -/

namespace Store

variable {s : Store}

/-- The list has the identifiers of the active entries, each entry's once. -/
theorem activeTripIds_perm (s : Store) :
    s.activeTripIds.Perm ((s.trips.entries.filter fun e => e.2.isActive).map fun e => e.2.id) := by
  refine (List.mergeSort_perm _ _).trans (.of_eq ?_)
  rw [Table.values, List.filter_map, List.map_map]
  rfl

theorem mem_activeTripIds {id : String} :
    id ∈ s.activeTripIds ↔
      ∃ key t, s.trips.get? key = some t ∧ t.isActive = true ∧ t.id = id := by
  rw [(activeTripIds_perm s).mem_iff]
  simp [Table.get?_eq_some_iff, and_assoc]

/-- How the list compares two identifiers. -/
theorem isBefore_iff {a b : String} : (!decide (b < a)) = true ↔ a ≤ b := by
  rw [Bool.not_eq_true', decide_eq_false_iff_not, String.not_lt]

theorem activeTripIds_sorted (s : Store) : s.activeTripIds.Pairwise (· ≤ ·) := by
  have htrans : ∀ a b c : String, (!decide (b < a)) = true → (!decide (c < b)) = true →
      (!decide (c < a)) = true := fun a b c hab hbc =>
    isBefore_iff.mpr (String.le_trans (isBefore_iff.mp hab) (isBefore_iff.mp hbc))
  have htotal : ∀ a b : String, (!decide (b < a) || !decide (a < b)) = true := by
    intro a b
    rw [Bool.or_eq_true, isBefore_iff, isBefore_iff]
    exact String.le_total a b
  exact (List.pairwise_mergeSort htrans htotal _).imp isBefore_iff.mp

/-- The list is in order in any case, so what matters is that no identifier stands in it twice. -/
theorem ordered_iff_nodup : s.activeTripIds.Pairwise (· < ·) ↔ s.activeTripIds.Nodup :=
  ⟨fun h => h.imp String.ne_of_lt, fun h =>
    (s.activeTripIds_sorted.and h).imp fun hpair => Std.lt_of_le_of_ne hpair.1 hpair.2⟩

/-- Where active trips stand under their identifiers the list repeats none, as no key repeats. -/
theorem ActiveFiled.nodup_activeTripIds (h : s.ActiveFiled) : s.activeTripIds.Nodup := by
  rw [(activeTripIds_perm s).nodup_iff]
  have hkeys : ((s.trips.entries.filter fun e => e.2.isActive).map fun e => e.2.id) =
      (s.trips.entries.filter fun e => e.2.isActive).map Prod.fst := by
    refine List.map_congr_left fun e he => ?_
    obtain ⟨hmem, hactive⟩ := List.mem_filter.mp he
    exact h.trips e.1 e.2 (Table.get?_eq_some_iff.mpr hmem) hactive
  rw [hkeys]
  exact s.trips.nodup.sublist (List.filter_sublist.map Prod.fst)

/-- Two active trips with one identifier are listed twice. -/
theorem key_eq_of_nodup (h : s.activeTripIds.Nodup) {key key' : String} {t t' : Trip}
    (ht : s.trips.get? key = some t) (hactive : t.isActive = true)
    (ht' : s.trips.get? key' = some t') (hactive' : t'.isActive = true) (hid : t.id = t'.id) :
    key = key' := by
  rw [(activeTripIds_perm s).nodup_iff] at h
  have hmem : ∀ {key : String} {t : Trip}, s.trips.get? key = some t → t.isActive = true →
      (key, t) ∈ s.trips.entries.filter fun e => e.2.isActive := fun hstored hlisted =>
    List.mem_filter.mpr ⟨Table.get?_eq_some_iff.mp hstored, hlisted⟩
  exact congrArg Prod.fst
    (List.inj_on_of_nodup_map h (hmem ht hactive) (hmem ht' hactive') hid)

end Store

/-! ### A check of a listed trip

A cycle takes trips and states from under the identifier that it was started with, and puts what it
writes under the identifiers that stand in the records. -/

/-- A trip is stored under its identifier, and so is its state if there is one. -/
structure Store.Serves (s : Store) (id : String) : Prop where
  /-- The trip is there. -/
  stored : (s.trips.get? id).isSome
  /-- What is there is its own. -/
  own : s.OwnAt id

/-- A write cannot make a trip or a state stand wrong, and cannot remove any. -/
theorem Store.Serves.apply {s : Store} {id : String} (h : s.Serves id) (e : Edit) :
    (e.apply s).Serves id where
  stored := by
    cases e with
    | trip t =>
      simp only [Edit.apply, get?_trips_putTrip]
      split
      · rfl
      · exact h.stored
    | user u => exact h.stored
    | state j => exact h.stored
  own := h.own.apply e

namespace Cycle

variable {s : Setting} {m : Moment}

/-- **All that a cycle reads and carries is of its trip**, and the trip was not missing. -/
structure Serving (s : Setting) (m : Moment) : Prop where
  /-- What it would read. -/
  serves : m.store.Serves s.tripId
  /-- What it carries. -/
  owns : m.stage.Owns s.tripId
  /-- It has not ended for want of the trip. -/
  found : ∀ key, m.stage ≠ fail (.tripNotFound key)

theorem serving_start {store : Store} (h : store.Serves s.tripId) : Serving s (.start store) :=
  ⟨h, trivial, fun _ => by simp [Moment.start, fail]⟩

theorem record_ne_fail (t : Trip) (u : User) (o : CheckOutcome) (fault : CheckFault) :
    record t u o ≠ fail fault := by
  cases o <;> simp [record, fail]

/-- An operation does not miss a trip that is there. -/
theorem found_takes {store store' : Store} {stage stage' : Stage} {d : Option Deed}
    (htakes : Takes s store stage d stage' store') (hstored : (store.trips.get? s.tripId).isSome)
    (hfound : ∀ key, stage ≠ fail (.tripNotFound key)) (key : String) :
    stage' ≠ fail (.tripNotFound key) := by
  cases htakes with
  | fails _ fault _ missing =>
    rintro ⟨⟩
    rw [missing key rfl] at hstored
    cases hstored
  | rests => exact hfound key
  | readState t u =>
    rw [afterRead]
    cases prepare t (store.states.get? s.tripId) s.now with
    | settled o => exact record_ne_fail t u o _
    | asking state request => exact nofun
  | writeState t u state ns =>
    rw [afterState_eq]
    cases t.writeBack? state <;> exact nofun
  | skips | readTrip | readUser | writeTrip | send => exact nofun

theorem Serving.step (h : Serving s m) : Serving s (step s m) where
  serves := (takes_step s m).forall_apply (P := fun store => store.Serves s.tripId)
    (fun _ h => h.apply) h.serves
  owns := (h.owns.takes h.serves.own (takes_step s m)).1
  found := found_takes (takes_step s m) h.serves.stored h.found

/-- What the planner replies has no part in whether the trip is found. -/
theorem Serving.resume (h : Serving s m) (r : PlannerReply) :
    Serving s { m with stage := resume s r m.stage } := by
  refine ⟨h.serves, h.owns.resume s r, ?_⟩
  obtain ⟨stage, store, sent⟩ := m
  intro key
  cases stage with
  | ask t u state request =>
    simp only [Cycle.resume]
    cases hconclude : conclude s.limit t state s.now.instant r with
    | error fault =>
      rintro ⟨⟩
      cases isFromCheck_of_conclude hconclude
    | ok o => exact record_ne_fail t u o _
  | _ => exact h.found key

theorem Serving.handle (h : Serving s m) (e : Event) : Serving s (m.handle s e) := by
  cases e with
  | proceed => exact h.step
  | reply r => exact h.resume r
  | edit e => exact ⟨h.serves.apply e, h.owns, h.found⟩

theorem Serving.handleAll (h : Serving s m) (events : List Event) :
    Serving s (m.handleAll s events) := by
  induction events generalizing m with
  | nil => exact h
  | cons e events ih => exact ih (h.handle e)

theorem Serving.get?_states_handleAll (h : Serving s m) {events : List Event}
    (hundisturbed : ∀ e, .edit e ∉ events) {key : String} (hkey : key ≠ s.tripId) :
    (m.handleAll s events).store.states.get? key = m.store.states.get? key := by
  induction events generalizing m with
  | nil => rfl
  | cons e events ih =>
    rw [Moment.handleAll_cons, ih (h.handle e) fun e' he' =>
      hundisturbed e' (List.mem_cons_of_mem _ he')]
    cases e with
    | proceed => exact (h.owns.takes h.serves.own (takes_step s m)).2.states key hkey
    | reply r => rfl
    | edit e => exact absurd List.mem_cons_self (hundisturbed e)

end Cycle

namespace Store

variable {s : Store} {id : String}

/-- However far a check of a trip comes that begins on a store, it does not miss the trip, whatever
is written meanwhile. If nothing is, it leaves the states of all other trips as they are. -/
structure Checks (s : Store) (id : String) : Prop where
  /-- The trip is found. -/
  found : ∀ (setting : Cycle.Setting) (events : List Cycle.Event), setting.tripId = id →
    ∀ key, Cycle.result? ((Cycle.Moment.start s).handleAll setting events).stage ≠
      some (.error (.tripNotFound key))
  /-- No other trip's state is written. -/
  others : ∀ (setting : Cycle.Setting) (events : List Cycle.Event), setting.tripId = id →
    (∀ e, .edit e ∉ events) → ∀ key, key ≠ id →
      ((Cycle.Moment.start s).handleAll setting events).store.states.get? key = s.states.get? key

theorem Serves.checks (h : s.Serves id) : s.Checks id where
  found := by
    rintro setting events rfl key hresult
    have hfound := ((Cycle.serving_start h).handleAll events).found key
    cases hstage : ((Cycle.Moment.start s).handleAll setting events).stage with
    | finished result =>
      rw [hstage] at hfound hresult
      exact hfound (congrArg Cycle.Stage.finished (Option.some.inj hresult))
    | _ =>
      rw [hstage] at hresult
      cases hresult
  others := by
    rintro setting events rfl hundisturbed key hkey
    exact (Cycle.serving_start h).get?_states_handleAll hundisturbed hkey

/-- In particular a whole check finds the trip and leaves the states of all others. -/
theorem Checks.checkAndPersist (h : s.Checks id) {setting : Cycle.Setting}
    (hid : setting.tripId = id) (planner : PlanRequest → PlannerReply) :
    (∀ key, (checkAndPersist setting planner s).2.2 ≠ some (.error (.tripNotFound key))) ∧
      ∀ key, key ≠ id →
        (checkAndPersist setting planner s).1.states.get? key = s.states.get? key := by
  obtain ⟨events, hundisturbed, hrun⟩ := Cycle.exists_handleAll_eq_run setting planner s
  simp only [TripWatch.checkAndPersist, ← hrun]
  exact ⟨h.found setting events hid, h.others setting events hid hundisturbed⟩

/-! ### Stores whose listed trips can be checked -/

/-- Every listed trip can be checked. -/
structure Checkable (s : Store) : Prop where
  /-- The list is in order and repeats nothing. -/
  ordered : s.activeTripIds.Pairwise (· < ·)
  /-- Every active trip is listed. -/
  complete : ∀ key t, s.trips.get? key = some t → t.isActive = true → t.id ∈ s.activeTripIds
  /-- What is listed is an active trip's, which is found under it. -/
  trip : ∀ id ∈ s.activeTripIds, ∃ t, s.trips.get? id = some t ∧ t.id = id ∧ t.isActive = true
  /-- The state that is found under it is that trip's. -/
  state : ∀ id ∈ s.activeTripIds, ∀ j, s.states.get? id = some j → j.tripId = id
  /-- A check of it finds the trip, and writes no other trip's state. -/
  checks : ∀ id ∈ s.activeTripIds, s.Checks id

theorem ActiveFiled.checkable (h : s.ActiveFiled) : s.Checkable := by
  have htrip : ∀ id ∈ s.activeTripIds,
      ∃ t, s.trips.get? id = some t ∧ t.id = id ∧ t.isActive = true := by
    intro id hid
    obtain ⟨key, t, ht, hactive, rfl⟩ := mem_activeTripIds.mp hid
    exact ⟨t, by rw [h.trips key t ht hactive]; exact ht, rfl, hactive⟩
  refine ⟨ordered_iff_nodup.mpr h.nodup_activeTripIds,
    fun key t ht hactive => mem_activeTripIds.mpr ⟨key, t, ht, hactive, rfl⟩, htrip,
    fun id _ j hj => h.states id j hj trivial, fun id hid => Serves.checks ⟨?_, ?_⟩⟩
  · obtain ⟨t, ht, -⟩ := htrip id hid
    rw [ht]
    rfl
  · obtain ⟨t, ht, htid, -⟩ := htrip id hid
    refine ⟨?_, fun _ _ _ => False.elim, fun key j hj _ => h.states key j hj trivial⟩
    rintro key t' ht' rfl
    rw [← htid, Option.some.inj (ht.symm.trans ht')]

/-- An active trip that stands wrong is not found, or it is another one that is found. -/
theorem Checkable.id_eq (h : s.Checkable) {key : String} {t : Trip}
    (ht : s.trips.get? key = some t) (hactive : t.isActive = true) : t.id = key := by
  obtain ⟨t', ht', hid, hactive'⟩ := h.trip t.id (h.complete key t ht hactive)
  exact (key_eq_of_nodup (ordered_iff_nodup.mp h.ordered) ht hactive ht' hactive' hid.symm).symm

/-- A state that stands wrong is found as soon as there is an active trip of that name. -/
theorem tripId_eq_of_checkable_putTrip {key : String} {t : Trip} (hid : t.id = key)
    (hactive : t.isActive = true) (h : (s.putTrip t).Checkable) {j : JourneyState}
    (hj : s.states.get? key = some j) : j.tripId = key := by
  have hlisted : t.id ∈ (s.putTrip t).activeTripIds := h.complete key t (by simp [hid]) hactive
  exact h.state key (hid ▸ hlisted) j hj

/-! ### What is done to a store -/

/-- Reading a written store back alters neither keys nor identifiers, and makes no trip active. -/
theorem ActiveFiled.reread (h : s.ActiveFiled) {s' : Store} (hread : s.reread? = some s') :
    s'.ActiveFiled := by
  simp only [reread?, Option.bind_eq_bind, Option.bind_eq_some_iff] at hread
  obtain ⟨trips, htrips, users, -, states, hstates, heq⟩ := hread
  obtain rfl := Option.some.inj heq
  refine ⟨?_, fun _ _ _ => False.elim, ?_⟩
  · intro key t' ht' hactive
    obtain ⟨t, ht, hback⟩ :=
      Option.bind_eq_some_iff.mp ((Table.get?_of_reread? htrips key).symm.trans ht')
    obtain ⟨hid, hsame⟩ := Trip.id_isActive_of_reread? hback
    exact hid.trans (h.trips key t ht (hsame.symm.trans hactive))
  · intro key j' hj' _
    obtain ⟨j, hj, hback⟩ :=
      Option.bind_eq_some_iff.mp ((Table.get?_of_reread? hstates key).symm.trans hj')
    exact (JourneyState.tripId_of_reread? hback).trans (h.states key j hj trivial)

end Store

/-- What is done to a store, and to its file, outside of checks. -/
inductive Upkeep where
  /-- A record is written. -/
  | edit (e : Edit)
  /-- The store is written to its file. -/
  | flush
  /-- The file is loaded again. -/
  | load (orEmpty : Bool)

namespace Watch

variable {w : Watch}

/-- The watch after an operation. One that fails changes nothing. -/
def upkeep (w : Watch) : Upkeep → Watch
  | .edit e => { w with store := e.apply w.store }
  | .flush =>
    match w.flush with
    | .ok w => w
    | .error _ => w
  | .load orEmpty =>
    match w.reload orEmpty with
    | .ok w => w
    | .error _ => w

/-- The watch after some operations. -/
def upkeepAll (w : Watch) (operations : List Upkeep) : Watch := operations.foldl upkeep w

/-- The store, and each store that could be loaded from the file, has active trips and states in
their places. -/
structure Filed (w : Watch) : Prop where
  /-- The store. -/
  store : w.store.ActiveFiled
  /-- What the file holds. -/
  file : ∀ text s, w.file = some text → Store.ofText text = .ok s → s.ActiveFiled

/-- What is loaded is what the file holds, or nothing if there is no file. -/
theorem store_of_reload {orEmpty : Bool} {w' : Watch} (h : w.reload orEmpty = .ok w') :
    w'.file = w.file ∧ (w'.store = .empty ∧ w.file = none ∨
      ∃ text, w.file = some text ∧ Store.ofText text = .ok w'.store) := by
  rw [reload] at h
  cases hfile : w.file with
  | none =>
    rw [hfile] at h
    cases orEmpty with
    | true =>
      cases h
      exact ⟨rfl, .inl ⟨rfl, rfl⟩⟩
    | false => cases h
  | some text =>
    rw [hfile] at h
    cases hread : Store.ofText text with
    | error fault =>
      simp only [hread] at h
      cases h
    | ok s =>
      simp only [hread] at h
      cases h
      exact ⟨rfl, .inr ⟨text, rfl, hread⟩⟩

theorem Filed.flush (h : w.Filed) {w' : Watch} (hflush : w.flush = .ok w') : w'.Filed := by
  rw [Watch.flush] at hflush
  cases hout : w.outage .flush with
  | some fault =>
    rw [hout] at hflush
    cases hflush
  | none =>
    rw [hout] at hflush
    obtain rfl := Except.ok.inj hflush
    cases w.hasFile with
    | false => exact h
    | true =>
      refine ⟨h.store, fun text s hfile hread => ?_⟩
      obtain rfl := Option.some.inj hfile
      exact h.store.reread (Store.ofText_render_eq_ok_iff.mp hread)

theorem Filed.reload (h : w.Filed) {orEmpty : Bool} {w' : Watch}
    (hreload : w.reload orEmpty = .ok w') : w'.Filed := by
  obtain ⟨hfile, hstore | ⟨text, hsome, hread⟩⟩ := store_of_reload hreload
  · exact ⟨hstore.1 ▸ Store.filedFor_empty, hfile ▸ h.file⟩
  · exact ⟨h.file text _ hsome hread, hfile ▸ h.file⟩

/-- A store that was just loaded is what its file holds. -/
theorem filed_of_reload {orEmpty : Bool} {w' : Watch} (hreload : w.reload orEmpty = .ok w')
    (h : w'.store.ActiveFiled) : w'.Filed := by
  refine ⟨h, fun text s htext hread => ?_⟩
  obtain ⟨hfile, ⟨-, hnone⟩ | ⟨text', hsome, hread'⟩⟩ := store_of_reload hreload
  · cases (hnone.symm.trans (hfile.symm.trans htext))
  · obtain rfl := Option.some.inj (hsome.symm.trans (hfile.symm.trans htext))
    obtain rfl := Except.ok.inj (hread'.symm.trans hread)
    exact h

/-- **An operation leaves everything in its place.** -/
theorem Filed.upkeep (h : w.Filed) (operation : Upkeep) : (w.upkeep operation).Filed := by
  cases operation with
  | edit e => exact ⟨h.store.apply e, h.file⟩
  | flush =>
    simp only [Watch.upkeep]
    cases hflush : w.flush with
    | ok w' => exact h.flush hflush
    | error fault => exact h
  | load orEmpty =>
    simp only [Watch.upkeep]
    cases hreload : w.reload orEmpty with
    | ok w' => exact h.reload hreload
    | error fault => exact h

theorem Filed.upkeepAll (h : w.Filed) (operations : List Upkeep) :
    (w.upkeepAll operations).Filed := by
  induction operations generalizing w with
  | nil => exact h
  | cons operation operations ih => exact ih (h.upkeep operation)

end Watch

/-- **Every listed trip can be checked**, after all that may be done once a file was loaded, exactly
if the file has each active trip and each state under its own identifier. -/
theorem checkable_iff_of_reload {w loaded : Watch} {orEmpty : Bool}
    (hload : w.reload orEmpty = .ok loaded) :
    (∀ operations, (loaded.upkeepAll operations).store.Checkable) ↔ loaded.store.ActiveFiled := by
  constructor
  · intro h
    refine ⟨fun key t ht hactive => (h []).id_eq ht hactive, fun _ _ _ => False.elim,
      fun key j hj _ => ?_⟩
    let t : Trip := { Commute.trip with id := key }
    have hstored : (loaded.store.putTrip t).Checkable := h [.edit (.trip t)]
    exact Store.tripId_eq_of_checkable_putTrip rfl rfl hstored hj
  · exact fun h operations => ((Watch.filed_of_reload hload h).upkeepAll operations).store.checkable

/-- A watch whose file has what a store holds. -/
def Commute.watchOn (store : Store) : Watch :=
  ⟨.empty, true, some store.toJson.render, ⟨none, .crashes⟩, .working, .none, 0, 0, 0, .none, [],
    [], [], []⟩

theorem Commute.reload_watchOn {store : Store} (h : store.reread? = some store) :
    (watchOn store).reload false = .ok { watchOn store with store := store } := by
  have hread : Store.ofText store.toJson.render = .ok store := Store.ofText_render_eq_ok_iff.mpr h
  simp only [watchOn, Watch.reload, hread]
  rfl

/-- A file with a trip and its state. -/
theorem checkable_iff_of_reload_commute :
    let store :=
      ((Store.empty.putUser Commute.rider).putTrip Commute.trip).putState (.new "commute")
    let loaded : Watch := { Commute.watchOn store with store := store }
    (Commute.watchOn store).reload false = .ok loaded ∧
      ((∀ operations, (loaded.upkeepAll operations).store.Checkable) ↔
        loaded.store.ActiveFiled) := by
  intro store loaded
  have hload : (Commute.watchOn store).reload false = .ok loaded := Commute.reload_watchOn rfl
  exact ⟨hload, checkable_iff_of_reload hload⟩

/-- The commute, under the name of the place where it begins. -/
def Commute.underHome : Store :=
  { Store.empty.putUser rider with trips := Table.empty.insert "home" trip }

/-- **A listed trip need not be one that can be checked.** The file has a trip under another name,
and nothing has been done yet. -/
theorem not_checkable :
    ¬ ∀ (w loaded : Watch) (orEmpty : Bool), w.reload orEmpty = .ok loaded →
      ∀ operations, (loaded.upkeepAll operations).store.Checkable := by
  intro h
  have hread : Commute.underHome.reread? = some Commute.underHome := rfl
  have hcheckable : Commute.underHome.Checkable :=
    h _ _ false (Commute.reload_watchOn hread) []
  have hlisted : "commute" ∈ Commute.underHome.activeTripIds :=
    hcheckable.complete "home" Commute.trip rfl rfl
  obtain ⟨t, ht, -, -⟩ := hcheckable.trip "commute" hlisted
  cases ht

end TripWatch
