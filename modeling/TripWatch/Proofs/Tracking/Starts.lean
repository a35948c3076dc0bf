import Mathlib.Data.List.Basic
import Mathlib.Data.List.Induction
import Mathlib.Logic.Function.Basic
import TripWatch.Action.Webhook
import TripWatch.Proofs.Store.Keyed
import TripWatch.Proofs.Tracking.Window
import TripWatch.Service

/-!
# Each action once in a journey

Travelers report positions, and a movement between two of them may start an action: a signal turns
green, a bus waits. What was started cannot be taken back, so nothing is started twice while a
journey lasts. But a journey may be forgotten when it is over, or give way to one along another
itinerary, and then the same action may be started again.

A run is a list of events, positions and the forgetting of journeys, in any order. What is seen of
it from outside are notes: that a journey begins or ends, and that an action is started. Positions
may be reported by several travelers of a trip and along any itineraries, and an action that is
started may fail or not: its answer stands in the note and nowhere else.

## The book

Of the journeys that are followed only one thing matters here, what was started on each: a `Book`.
A note can be entered in a book or not (`Note.Enters`): an action that was started on a journey
cannot be started on it again, and a journey cannot begin while another one of the trip lasts. All
notes of an event can be entered, one after the other (`leads_notes`), and what holds of notes that
can be entered is proved without a look at journeys (`Accounts`).

## Main definitions

* `Registry.Event`, `Registry.handle`, `Registry.handleAll` — one event and many
* `Note`, `Registry.notes`, `Registry.history` — what is seen of them
* `Book`, `Note.Enters`, `Leads` — the book of journeys
* `Accounts` — the invariant

## Main results

* `Locator.locate_cases` — what a position does to the actions of a journey
* `Accounts.enter`, `accounts_of_leads` — the invariant, over a note and over notes
* `Registry.leads_history` — the notes of a run are entered in the book of its journeys
* `starts_once` — the headline
-/

namespace TripWatch

/-! ### A position -/

/-- **What a position does to the actions of a journey**: nothing, or it starts the action that is
nearest to the movement between the last two positions kept, and that was not started before. -/
theorem Locator.locate_cases (l : Locator) (j : Journey) (p : Position) (locale : Locale) :
    ((l.locate j p locale).fired = none ∧
        (l.locate j p locale).journey.started = j.started) ∨
      ∃ a older previous current, (l.locate j p locale).fired = some a ∧
        (l.locate j p locale).journey.history = older ++ [previous, current] ∧
        matchingAction? ⟨previous.coordinates, current.coordinates⟩ l.actions
          l.settings.segmentTolerance = some a ∧
        a.id ∉ j.started ∧ (l.locate j p locale).journey.started = a.id :: j.started := by
  have hlocate : (l.locate j p locale).fired = (l.fireOnMovement (j.addPosition p)).1 ∧
      (l.locate j p locale).journey.started = (l.fireOnMovement (j.addPosition p)).2.started ∧
      (l.locate j p locale).journey.history = (l.fireOnMovement (j.addPosition p)).2.history :=
    ⟨rfl, rfl, rfl⟩
  obtain ⟨hfired, hstarted, hhistory⟩ := hlocate
  rw [hfired, hstarted, hhistory]
  have hkept : (j.addPosition p).started = j.started := rfl
  rw [← hkept]
  generalize j.addPosition p = j
  unfold fireOnMovement
  cases hmovement : j.movement? with
  | none => exact .inl ⟨rfl, rfl⟩
  | some movement =>
    obtain ⟨older, previous, current, hlast, rfl⟩ := Journey.movement?_eq_some_iff.mp hmovement
    simp only [fire]
    cases hmatching : matchingAction? ⟨previous.coordinates, current.coordinates⟩ l.actions
        l.settings.segmentTolerance with
    | none => exact .inl ⟨rfl, rfl⟩
    | some a =>
      dsimp only
      by_cases hnew : a.id ∈ j.started
      · rw [if_pos hnew]
        exact .inl ⟨rfl, rfl⟩
      · rw [if_neg hnew]
        exact .inr ⟨a, older, previous, current, rfl, hlast, hmatching, hnew, rfl⟩

/-! ### Events and notes -/

/-- What is seen of the journeys that are followed. -/
inductive Note where
  /-- A journey of a trip begins. -/
  | began (tripId : String)
  /-- The journey of a trip was over, and is forgotten. -/
  | dropped (tripId : String)
  /-- The journey of a trip gives way to one along another itinerary. -/
  | replaced (tripId : String)
  /-- An action is started for a traveler of a trip, and answers. -/
  | started (tripId : String) (a : SegmentAction) (userId : String)
    (answer : Except InteractionFault Unit)

namespace Registry

/-- What may happen to the journeys that are followed. -/
inductive Event where
  /-- Those that are over are forgotten. -/
  | evict (now : Instant)
  /-- A traveler of a trip along an itinerary reports a position. If that starts an action, the
  action answers. -/
  | track (tripId userId : String) (i : Itinerary) (p : Position) (locale : Locale)
    (answer : Except InteractionFault Unit)

/-- The journeys after an event. -/
def handle (l : Locator) (r : Registry) : Event → Registry
  | .evict now => (r.evictStale now).1
  | .track tripId userId i p locale _ =>
    r.put (l.locate (r.getOrStart tripId userId i) p locale).journey

/-- The journeys after some events. -/
def handleAll (l : Locator) (r : Registry) (events : List Event) : Registry :=
  events.foldl (handle l) r

/-- What is seen when the journey of a trip along an itinerary is looked up. -/
def opening (r : Registry) (tripId : String) (i : Itinerary) : List Note :=
  match r.get? tripId with
  | some j => if j.itinerary == i then [] else [.replaced tripId, .began tripId]
  | none => [.began tripId]

/-- What is seen of an event. -/
def notes (l : Locator) (r : Registry) : Event → List Note
  | .evict now => (r.entries.filter fun e => e.2.isStale now).map fun e => .dropped e.1
  | .track tripId userId i p locale answer =>
    let located := l.locate (r.getOrStart tripId userId i) p locale
    r.opening tripId i ++
      (located.fired.map fun a => .started tripId a located.journey.userId answer).toList

/-- All notes of a run, in order. -/
def history (l : Locator) (r : Registry) : List Event → List Note
  | [] => []
  | e :: events => r.notes l e ++ (r.handle l e).history l events

/-- What a note of an event says of the journeys before and after it. -/
def Shows (l : Locator) (r : Registry) (e : Event) : Note → Prop
  | .began id => r.get? id = none ∨
      ∃ userId i p locale answer, e = .track id userId i p locale answer ∧
        .replaced id ∈ r.notes l e
  | .dropped id => ∃ now j, e = .evict now ∧ r.get? id = some j ∧ j.isStale now = true ∧
      (r.handle l e).get? id = none
  | .replaced id => ∃ userId i p locale answer j, e = .track id userId i p locale answer ∧
      r.get? id = some j ∧ (j.itinerary == i) = false
  | .started id a userId _ => ∃ j older previous current, (r.handle l e).get? id = some j ∧
      j.userId = userId ∧ j.history = older ++ [previous, current] ∧
      matchingAction? ⟨previous.coordinates, current.coordinates⟩ l.actions
        l.settings.segmentTolerance = some a

variable (l : Locator)

theorem handleAll_concat (r : Registry) (events : List Event) (e : Event) :
    r.handleAll l (events ++ [e]) = (r.handleAll l events).handle l e := by
  simp [handleAll]

theorem history_concat (r : Registry) (events : List Event) (e : Event) :
    r.history l (events ++ [e]) = r.history l events ++ (r.handleAll l events).notes l e := by
  induction events generalizing r with
  | nil => simp [history, handleAll]
  | cons first events ih =>
    rw [List.cons_append, history, history, ih, List.append_assoc]
    rfl

/-- The positions that the service takes in are such events. -/
theorem exists_events_of_track {s s' : Service} {now : Instant} {id : String} {p : Position}
    {located : Located} (h : s.track now id p = .ok (s', located)) :
    ∃ tripId userId i locale, ∀ answer, s'.registry =
      s.registry.handleAll s.locator [.evict now, .track tripId userId i p locale answer] := by
  unfold Service.track at h
  cases htracked : s.tracked id with
  | error fault => rw [htracked] at h; cases h
  | ok found =>
    obtain ⟨t, i, locale⟩ := found
    rw [htracked] at h
    obtain ⟨rfl, rfl⟩ := Prod.mk.inj (Except.ok.inj h)
    exact ⟨t.id, t.userId, i, locale, fun _ => rfl⟩

end Registry

/-! ### The book -/

/-- The journeys that are followed, by trip, with what was started on each. -/
abbrev Book := String → Option (List String)

namespace Note

/-- What a note says can be so, and the book afterwards. -/
inductive Enters (book : Book) : Note → Book → Prop
  /-- A journey begins where there is none. -/
  | began (id : String) (h : book id = none) :
      Enters book (.began id) (Function.update book id (some []))
  /-- A journey is dropped. -/
  | dropped (id : String) (h : book id ≠ none) :
      Enters book (.dropped id) (Function.update book id none)
  /-- A journey is replaced. -/
  | replaced (id : String) (h : book id ≠ none) :
      Enters book (.replaced id) (Function.update book id none)
  /-- An action is started on a journey on which it was not started before. -/
  | started (id : String) (a : SegmentAction) (userId : String)
      (answer : Except InteractionFault Unit) {ids : List String} (h : book id = some ids)
      (hnew : a.id ∉ ids) :
      Enters book (.started id a userId answer) (Function.update book id (some (a.id :: ids)))

/-- The trip that a note is about. -/
def tripId : Note → String
  | began id | dropped id | replaced id | started id _ _ _ => id

/-- The action that is started for a trip. -/
def start? (id : String) : Note → Option String
  | started key a _ _ => if key = id then some a.id else none
  | began _ | dropped _ | replaced _ => none

end Note

/-- Notes can be entered in a book one after the other, and the book afterwards. -/
inductive Leads (book : Book) : List Note → Book → Prop
  /-- No notes. -/
  | nil : Leads book [] book
  /-- One more note. -/
  | concat {notes : List Note} {book' book'' : Book} {n : Note} (h : Leads book notes book')
      (hn : n.Enters book' book'') : Leads book (notes ++ [n]) book''

theorem Leads.append {book book' book'' : Book} {notes notes' : List Note}
    (h : Leads book notes book') (h' : Leads book' notes' book'') :
    Leads book (notes ++ notes') book'' := by
  induction h' with
  | nil => rwa [List.append_nil]
  | concat _ hn ih =>
    rw [← List.append_assoc]
    exact ih.concat hn

theorem Leads.single {book book' : Book} {n : Note} (hn : n.Enters book book') :
    Leads book [n] book' :=
  Leads.concat .nil hn

/-! ### What the notes say -/

/-- The actions that are started for a trip, in order. -/
def startsOf (id : String) (notes : List Note) : List String := notes.filterMap (Note.start? id)

/-- The journey of a trip ends. -/
def Ended (id : String) (notes : List Note) : Prop := .dropped id ∈ notes ∨ .replaced id ∈ notes

/-- After each start of an action for a trip the trip's journey has ended. -/
def Settled (id : String) (notes : List Note) : Prop :=
  ∀ before a userId answer after, notes = before ++ .started id a userId answer :: after →
    Ended id after

/-- Between two starts of an action for a trip the trip's journey has ended. -/
def Apart (id : String) (notes : List Note) : Prop :=
  ∀ before a userId answer between a' userId' answer' after,
    notes = before ++ .started id a userId answer ::
      (between ++ .started id a' userId' answer' :: after) →
    a.id = a'.id → Ended id between

/-- The last journey of a trip has begun and not ended, and some actions were started on it.
Whatever was started before was started on journeys that have ended. -/
def Lasts (id : String) (notes : List Note) (ids : List String) : Prop :=
  ∃ before since, notes = before ++ .began id :: since ∧ Settled id before ∧
    ¬ Ended id since ∧ .began id ∉ since ∧ startsOf id since = ids.reverse

section Notes

variable {id : String} {notes : List Note} {n : Note}

theorem startsOf_concat_of_ne (h : n.tripId ≠ id) :
    startsOf id (notes ++ [n]) = startsOf id notes := by
  cases n with
  | started key a userId answer =>
    have hne : key ≠ id := h
    simp [startsOf, Note.start?, hne]
  | began | dropped | replaced => simp [startsOf, Note.start?]

theorem startsOf_concat_started (a : SegmentAction) (userId : String)
    (answer : Except InteractionFault Unit) :
    startsOf id (notes ++ [.started id a userId answer]) = startsOf id notes ++ [a.id] := by
  simp [startsOf, Note.start?]

theorem Ended.concat (h : Ended id notes) (n : Note) : Ended id (notes ++ [n]) :=
  h.imp (List.mem_append_left _) (List.mem_append_left _)

theorem not_ended_concat (h : ¬ Ended id notes) (hdropped : n ≠ .dropped id)
    (hreplaced : n ≠ .replaced id) : ¬ Ended id (notes ++ [n]) := by
  simp only [Ended, not_or] at h ⊢
  simp [h.1, h.2, hdropped.symm, hreplaced.symm]

/-- A split of notes at one of them, where a note has been added. -/
theorem split_concat {before after : List Note} {m : Note}
    (h : notes ++ [n] = before ++ m :: after) :
    (before = notes ∧ m = n ∧ after = []) ∨
      ∃ rest, after = rest ++ [n] ∧ notes = before ++ m :: rest := by
  rcases List.eq_nil_or_concat' after with rfl | ⟨rest, last, rfl⟩
  · obtain ⟨rfl, hlast⟩ := List.append_inj' h rfl
    exact .inl ⟨rfl, (List.singleton_inj.mp hlast).symm, rfl⟩
  · rw [← List.cons_append, ← List.append_assoc] at h
    obtain ⟨hrest, hlast⟩ := List.append_inj' h rfl
    exact .inr ⟨rest, by rw [List.singleton_inj.mp hlast], hrest⟩

theorem Settled.concat (h : Settled id notes) (hn : n.start? id = none) :
    Settled id (notes ++ [n]) := by
  intro before a userId answer after heq
  rcases split_concat heq with ⟨-, rfl, -⟩ | ⟨rest, rfl, hrest⟩
  · simp [Note.start?] at hn
  · exact (h _ _ _ _ _ hrest).concat n

/-- With its journey ended all starts of a trip are settled. -/
theorem settled_concat_of_ended (hn : n = .dropped id ∨ n = .replaced id) :
    Settled id (notes ++ [n]) := by
  intro before a userId answer after heq
  rcases split_concat heq with ⟨-, rfl, -⟩ | ⟨rest, rfl, -⟩
  · rcases hn with hn | hn <;> cases hn
  · exact hn.imp (fun h => by simp [h]) fun h => by simp [h]

theorem Apart.concat (h : Apart id notes)
    (hn : ∀ a userId answer, n = .started id a userId answer →
      ∀ before a' userId' answer' after, notes = before ++ .started id a' userId' answer' :: after →
        a'.id = a.id → Ended id after) :
    Apart id (notes ++ [n]) := by
  intro before a userId answer between a' userId' answer' after heq hid
  rcases split_concat heq with ⟨-, -, hnil⟩ | ⟨rest, hlast, hrest⟩
  · simp at hnil
  · rcases split_concat hlast.symm with ⟨rfl, hn', -⟩ | ⟨rest', -, rfl⟩
    · exact hn a' userId' answer' hn'.symm before a userId answer between hrest hid
    · exact h before a userId answer between a' userId' answer' rest' hrest hid

end Notes

/-- **What notes that were entered in a book say of it.** -/
structure Accounts (book : Book) (notes : List Note) : Prop where
  /-- A journey in the book has begun and not ended, and the actions on it are those that were
  started since. -/
  lasts : ∀ id ids, book id = some ids → Lasts id notes ids
  /-- Without one, whatever was started for a trip was started on journeys that have ended. -/
  settled : ∀ id, book id = none → Settled id notes
  /-- Nothing was started twice on a journey in the book. -/
  nodup : ∀ id ids, book id = some ids → ids.Nodup
  /-- Starts of one action on one trip lie in different journeys. -/
  apart : ∀ id, Apart id notes

section Accounts

variable {book book' : Book} {notes : List Note} {n : Note}

theorem accounts_nil : Accounts (fun _ => none) [] where
  lasts id ids h := by cases h
  settled id _ before a userId answer after h := by simp at h
  nodup id ids h := by cases h
  apart id before a userId answer between a' userId' answer' after h := by simp at h

/-- Notes of other trips do not matter. -/
theorem Lasts.concat {id : String} {ids : List String} (h : Lasts id notes ids)
    (hn : n.tripId ≠ id) : Lasts id (notes ++ [n]) ids := by
  obtain ⟨before, since, rfl, hsettled, hended, hbegan, hstarts⟩ := h
  have hother : ∀ m : Note, m.tripId = id → n ≠ m := fun m hm heq => hn (heq ▸ hm)
  refine ⟨before, since ++ [n], by simp, hsettled,
    not_ended_concat hended (hother _ rfl) (hother _ rfl), ?_, ?_⟩
  · simp [hbegan, (hother (.began id) rfl).symm]
  · rw [startsOf_concat_of_ne hn, hstarts]

/-- In a journey that lasts, whatever was not started on it was started on journeys before. -/
theorem Lasts.ended_of_start {id : String} {ids : List String} (h : Lasts id notes ids)
    {before after : List Note} {a : SegmentAction} {userId : String}
    {answer : Except InteractionFault Unit}
    (hsplit : notes = before ++ .started id a userId answer :: after) (ha : a.id ∉ ids) :
    Ended id after := by
  obtain ⟨earlier, since, rfl, hsettled, -, -, hstarts⟩ := h
  rcases List.append_eq_append_iff.mp hsplit with ⟨middle, -, hmiddle⟩ | ⟨middle, rfl, hmiddle⟩
  · -- The start lies in the journey, so it is one of its actions.
    cases middle with
    | nil => cases hmiddle
    | cons first middle =>
      have hsince : since = middle ++ .started id a userId answer :: after :=
        (List.cons.inj hmiddle).2
      have hmem : a.id ∈ startsOf id since := by simp [hsince, startsOf, Note.start?]
      rw [hstarts, List.mem_reverse] at hmem
      exact absurd hmem ha
  · cases middle with
    | nil => cases hmiddle
    | cons first middle =>
      obtain ⟨rfl, rfl⟩ := List.cons.inj hmiddle
      exact (hsettled before a userId answer middle rfl).imp (List.mem_append_left _)
        (List.mem_append_left _)

theorem Accounts.lasts_enter_self (h : Accounts book notes) (hn : n.Enters book book')
    {ids : List String} (hids : book' n.tripId = some ids) : Lasts n.tripId (notes ++ [n]) ids := by
  cases hn with
  | began id hnone =>
    obtain rfl : [] = ids := by simpa [Note.tripId] using hids
    exact ⟨notes, [], rfl, h.settled id hnone, by simp [Ended], by simp, rfl⟩
  | dropped id | replaced id => simp [Note.tripId] at hids
  | started id a userId answer hsome hnew =>
    rename_i ids'
    obtain rfl : a.id :: ids' = ids := by simpa [Note.tripId] using hids
    obtain ⟨before, since, rfl, hsettled, hended, hbegan, hstarts⟩ := h.lasts id ids' hsome
    change Lasts id _ _
    refine ⟨before, since ++ [.started id a userId answer], by simp, hsettled,
      not_ended_concat hended (by simp) (by simp), by simpa using hbegan, ?_⟩
    rw [startsOf_concat_started, hstarts, List.reverse_cons]

/-- **A note that can be entered keeps the account.** -/
theorem Accounts.enter (h : Accounts book notes) (hn : n.Enters book book') :
    Accounts book' (notes ++ [n]) := by
  have hother : ∀ id, id ≠ n.tripId → book' id = book id := by
    intro id hid
    cases hn <;> exact Function.update_of_ne hid _ _
  refine ⟨fun id ids hids => ?_, fun id hnone => ?_, fun id ids hids => ?_, fun id => ?_⟩
  · by_cases hid : id = n.tripId
    · subst hid
      exact h.lasts_enter_self hn hids
    · rw [hother id hid] at hids
      exact (h.lasts id ids hids).concat (Ne.symm hid)
  · by_cases hid : id = n.tripId
    · subst hid
      cases hn with
      | began id | started id => simp [Note.tripId] at hnone
      | dropped id => exact settled_concat_of_ended (.inl rfl)
      | replaced id => exact settled_concat_of_ended (.inr rfl)
    · rw [hother id hid] at hnone
      refine (h.settled id hnone).concat ?_
      cases n with
      | started key a userId answer => exact if_neg (Ne.symm hid)
      | began | dropped | replaced => rfl
  · by_cases hid : id = n.tripId
    · subst hid
      cases hn with
      | began id =>
        obtain rfl : [] = ids := by simpa [Note.tripId] using hids
        exact List.nodup_nil
      | dropped id | replaced id => simp [Note.tripId] at hids
      | started id a userId answer hsome hnew =>
        rename_i ids'
        obtain rfl : a.id :: ids' = ids := by simpa [Note.tripId] using hids
        exact List.nodup_cons.mpr ⟨hnew, h.nodup id ids' hsome⟩
    · rw [hother id hid] at hids
      exact h.nodup id ids hids
  · refine (h.apart id).concat ?_
    intro a userId answer heq before a' userId' answer' after hsplit hid
    subst heq
    cases hn with
    | started _ _ _ _ hsome hnew =>
      exact (h.lasts id _ hsome).ended_of_start hsplit (hid ▸ hnew)

theorem accounts_of_leads (h : Leads (fun _ => none) notes book) : Accounts book notes := by
  induction h with
  | nil => exact accounts_nil
  | concat _ hn ih => exact ih.enter hn

end Accounts

/-! ### Runs -/

namespace Registry

/-- Each journey stands under its trip. -/
def Keyed (r : Registry) : Prop := ∀ key j, r.get? key = some j → j.tripId = key

/-- The book of the journeys that are followed. -/
def book (r : Registry) : Book := fun id => (r.get? id).map Journey.started

variable {l : Locator} {r : Registry}

theorem tripId_locate (l : Locator) (j : Journey) (p : Position) (locale : Locale) :
    (l.locate j p locale).journey.tripId = j.tripId := by
  simp only [Locator.locate]
  unfold Locator.fireOnMovement
  cases (j.addPosition p).movement? <;> rfl

theorem Keyed.tripId_getOrStart (h : r.Keyed) (tripId userId : String) (i : Itinerary) :
    (r.getOrStart tripId userId i).tripId = tripId := by
  unfold getOrStart
  cases hj : r.get? tripId with
  | none => rfl
  | some j =>
    dsimp only
    split
    · exact h tripId j hj
    · rfl

theorem fst_evictStale (r : Registry) (now : Instant) :
    (r.evictStale now).1 = r.filter fun _ j => !j.isStale now := rfl

theorem get?_evictStale (r : Registry) (now : Instant) (key : String) :
    (r.evictStale now).1.get? key = (r.get? key).filter fun j => !j.isStale now :=
  Table.get?_filter ..

theorem Keyed.handle (h : r.Keyed) (e : Event) : (r.handle l e).Keyed := by
  cases e with
  | evict now =>
    intro key j hj
    rw [Registry.handle, get?_evictStale] at hj
    exact h key j (Option.filter_eq_some_iff.mp hj).1
  | track tripId userId i p locale answer => exact Table.forall_get?_insert h rfl

/-- Journeys are dropped one by one. -/
theorem leads_dropped {book : Book} {ids : List String} (hnodup : ids.Nodup)
    (hthere : ∀ id ∈ ids, book id ≠ none) :
    Leads book (ids.map .dropped) fun id => if id ∈ ids then none else book id := by
  induction ids using List.reverseRecOn with
  | nil => simpa using Leads.nil
  | append_singleton ids id ih =>
    obtain ⟨hids, -, hdisjoint⟩ := List.nodup_append.mp hnodup
    have hnew : id ∉ ids := fun hmem => hdisjoint id hmem id (List.mem_singleton_self id) rfl
    have hleads := ih hids fun key hkey => hthere key (List.mem_append_left _ hkey)
    rw [List.map_append]
    let left : Book := fun key => if key ∈ ids then none else book key
    have hdropped : Note.Enters left (.dropped id) (Function.update left id none) :=
      .dropped id (by simpa [left, hnew] using hthere id (by simp))
    have hbook : Function.update left id none =
        fun key => if key ∈ ids ++ [id] then none else book key := by
      funext key
      by_cases hkey : key = id
      · simp [hkey]
      · simp [left, hkey]
    rw [hbook] at hdropped
    exact hleads.concat hdropped

theorem leads_evict (r : Registry) (now : Instant) :
    Leads r.book (r.notes l (.evict now)) (r.evictStale now).1.book := by
  let stale : List (String × Journey) := r.entries.filter fun e => e.2.isStale now
  have hmem : ∀ id, id ∈ stale.map Prod.fst ↔ ∃ j, r.get? id = some j ∧ j.isStale now = true := by
    intro id
    simp [stale, Table.get?_eq_some_iff]
  have hleads : Leads r.book ((stale.map Prod.fst).map .dropped)
      fun id => if id ∈ stale.map Prod.fst then none else r.book id := by
    refine leads_dropped (r.nodup.sublist (List.filter_sublist.map Prod.fst)) fun id hid => ?_
    obtain ⟨j, hj, -⟩ := (hmem id).mp hid
    simp [book, hj]
  have hbook : (fun id => if id ∈ stale.map Prod.fst then none else r.book id) =
      (r.evictStale now).1.book := by
    funext id
    simp only [hmem, book, get?_evictStale]
    cases r.get? id with
    | none => simp
    | some j => cases hstale : j.isStale now <;> simp [hstale, Option.filter]
  rw [hbook, List.map_map] at hleads
  exact hleads

/-- A journey that is looked up begins unless it is there. -/
theorem leads_opening (r : Registry) (tripId userId : String) (i : Itinerary) :
    Leads r.book (r.opening tripId i)
      (Function.update r.book tripId (some (r.getOrStart tripId userId i).started)) := by
  unfold opening getOrStart
  cases hj : r.get? tripId with
  | none => exact .single (.began tripId (by simp [book, hj]))
  | some j =>
    dsimp only
    split
    · have hsame : Function.update r.book tripId (some j.started) = r.book := by
        rw [Function.update_eq_self_iff]
        simp [book, hj]
      rw [hsame]
      exact .nil
    · refine (Leads.single (.replaced tripId (by simp [book, hj]))).concat ?_
      simpa [Journey.new] using Note.Enters.began tripId (Function.update_self tripId none r.book)

/-- **The notes of an event can be entered in the book.** -/
theorem leads_notes (h : r.Keyed) (e : Event) : Leads r.book (r.notes l e) (r.handle l e).book := by
  cases e with
  | evict now => exact leads_evict r now
  | track tripId userId i p locale answer =>
    have htripId := (tripId_locate l _ p locale).trans (h.tripId_getOrStart tripId userId i)
    have hbook : (r.handle l (.track tripId userId i p locale answer)).book =
        Function.update r.book tripId
          (some (l.locate (r.getOrStart tripId userId i) p locale).journey.started) := by
      funext id
      simp only [book, Registry.handle, put, Table.get?_insert, htripId]
      by_cases hid : id = tripId
      · simp [hid]
      · simp [hid, book]
    have hopening := leads_opening r tripId userId i
    rw [hbook]
    simp only [notes]
    rcases l.locate_cases (r.getOrStart tripId userId i) p locale with
      ⟨hfired, hstarted⟩ | ⟨a, older, previous, current, hfired, -, -, hnew, hstarted⟩
    · simpa [hfired, hstarted] using hopening
    · simp only [hfired, hstarted, Option.map_some, Option.toList_some]
      refine hopening.concat ?_
      simpa using Note.Enters.started tripId a
        (l.locate (r.getOrStart tripId userId i) p locale).journey.userId answer
        (Function.update_self tripId _ r.book) hnew

theorem keyed_empty : Keyed .empty := fun _ _ h => by cases h

theorem keyed_handleAll (events : List Event) : Keyed (handleAll l .empty events) := by
  induction events using List.reverseRecOn with
  | nil => exact keyed_empty
  | append_singleton events e ih =>
    rw [handleAll_concat]
    exact ih.handle e

variable (l) in
/-- **The notes of a run are entered in the book of its journeys.** -/
theorem leads_history (events : List Event) :
    Leads (fun _ => none) (history l .empty events) (handleAll l .empty events).book := by
  induction events using List.reverseRecOn with
  | nil => exact .nil
  | append_singleton events e ih =>
    rw [history_concat, handleAll_concat]
    exact ih.append (leads_notes (keyed_handleAll events) e)

/-- **What a note of an event says is so.** -/
theorem shows_of_mem_notes (h : r.Keyed) {e : Event} {n : Note} (hn : n ∈ r.notes l e) :
    r.Shows l e n := by
  cases e with
  | evict now =>
    obtain ⟨⟨id, j⟩, hover, rfl⟩ := List.mem_map.mp hn
    obtain ⟨hmem, hstale⟩ := List.mem_filter.mp hover
    have hj : r.get? id = some j := Table.get?_eq_some_iff.mpr hmem
    refine ⟨now, j, rfl, hj, hstale, ?_⟩
    rw [Registry.handle, get?_evictStale, hj]
    simp [Option.filter, hstale]
  | track tripId userId i p locale answer =>
    simp only [notes, List.mem_append, Option.mem_toList, Option.map_eq_some_iff] at hn
    rcases hn with hopening | ⟨a, hfired, rfl⟩
    · unfold opening at hopening
      cases hj : r.get? tripId with
      | none =>
        rw [hj] at hopening
        obtain rfl := List.mem_singleton.mp hopening
        exact .inl hj
      | some j =>
        simp only [hj] at hopening
        split at hopening
        · cases hopening
        · rename_i hchanged
          have hreplaced :
              .replaced tripId ∈ r.notes l (.track tripId userId i p locale answer) := by
            simp [notes, opening, hj, hchanged]
          rcases List.mem_pair.mp hopening with rfl | rfl
          · exact ⟨userId, i, p, locale, answer, j, rfl, hj, by simpa using hchanged⟩
          · exact .inr ⟨userId, i, p, locale, answer, rfl, hreplaced⟩
    · have htripId := (tripId_locate l _ p locale).trans (h.tripId_getOrStart tripId userId i)
      rcases l.locate_cases (r.getOrStart tripId userId i) p locale with
        ⟨hnone, -⟩ | ⟨a', older, previous, current, hsome, hlast, hmatching, -, -⟩
      · rw [hnone] at hfired
        cases hfired
      · obtain rfl : a' = a := Option.some.inj (hsome.symm.trans hfired)
        refine ⟨_, older, previous, current, ?_, rfl, hlast, hmatching⟩
        simp [Registry.handle, put, Table.get?_insert, htripId]

end Registry

/-- **Each action is started at most once in a journey.** Whatever happens to the journeys that are
followed, with any answers of the actions that are started:

* an action is started only where it is the one that matches the movement between the last two
  positions kept of the journey; a journey is dropped only when it is over, and replaced only by one
  along another itinerary;
* what is kept as started on a journey is what was started for its trip since the journey began,
  and nothing twice;
* between two starts of an action for a trip the trip's journey was dropped or replaced;
* a position that starts nothing leaves what was started as it is. -/
theorem starts_once (l : Locator) (events : List Registry.Event) :
    (∀ before e after, events = before ++ e :: after →
        ∀ n ∈ (Registry.handleAll l .empty before).notes l e,
          (Registry.handleAll l .empty before).Shows l e n) ∧
      (∀ id j, (Registry.handleAll l .empty events).get? id = some j →
        j.started.Nodup ∧ Lasts id (Registry.history l .empty events) j.started) ∧
      (∀ id, Apart id (Registry.history l .empty events)) ∧
      ∀ j p locale, (l.locate j p locale).fired = none →
        (l.locate j p locale).journey.started = j.started := by
  have haccounts := accounts_of_leads (Registry.leads_history l events)
  refine ⟨fun before e after _ n hn => ?_, fun id j hj => ?_, haccounts.apart,
    fun j p locale hnone => ?_⟩
  · exact Registry.shows_of_mem_notes (Registry.keyed_handleAll before) hn
  · have hbook : (Registry.handleAll l .empty events).book id = some j.started := by
      simp [Registry.book, hj]
    exact ⟨haccounts.nodup id _ hbook, haccounts.lasts id _ hbook⟩
  · rcases l.locate_cases j p locale with ⟨-, hstarted⟩ | ⟨a, -, -, -, hfired, -⟩
    · exact hstarted
    · rw [hnone] at hfired
      cases hfired

end TripWatch
