import TripWatch.Proofs.Itinerary.Numeric
import TripWatch.Proofs.Tracking.Starts

/-!
# Laws of the journeys that are followed

The journeys that are followed stand in a registry by trip. Three things are done to it: a journey
is looked up and begins if there is none along the itinerary, those that are over are forgotten, and
a position is taken in by the journey of a trip.

## Itineraries that are shared

A journey and the one who looks it up mostly hold the same itinerary, in one place of memory. Then
there is no need to compare it, stop by stop, with itself: it is enough that the places agree.
The registry above knows nothing of places and always compares. That both come to the same is
`journey_getOrStartAt`, and it is a fact about itineraries: each is equal to itself by value
(`Itinerary.IsNumeric.beq_self`), unless there is a NaN in it, and there is none in an itinerary
that is read (`Itinerary.isNumeric_of_decode`).

## Main definitions

* `Registry.start`, `Registry.Operation`, `Registry.performAll` — what is done to the journeys
* `Shelf`, `Shelved`, `getOrStartAt` — itineraries by place, and the look-up that compares places

## Main results

* `Registry.keyed_performAll` — each journey stands under its trip, after any operations
* `Registry.getOrStart_eq_iff` — a journey is kept exactly if its itinerary is the same by value
* `Registry.isStale_mono`, `Registry.evictStale_evictStale` — forgetting twice is forgetting once
* `Registry.count_evictStale` — what is counted are the journeys that are over
* `journey_getOrStartAt` — places may be compared first
* `registry_laws` — the headline
-/

namespace TripWatch

/-! ### Tables -/

namespace Table

variable {α β : Type}

/-- The table with a function applied to each value. -/
def map (f : α → β) (t : Table α) : Table β where
  entries := t.entries.map fun e => (e.1, f e.2)
  nodup := by simpa [List.map_map, Function.comp_def] using t.nodup

theorem get?_map (f : α → β) (t : Table α) (key : String) :
    (t.map f).get? key = (t.get? key).map f := by
  refine Option.ext fun value => ?_
  rw [get?_eq_some_iff, Option.map_eq_some_iff]
  constructor
  · intro h
    obtain ⟨⟨key', a⟩, hmem, heq⟩ := List.mem_map.mp h
    obtain ⟨rfl, rfl⟩ := Prod.mk.inj heq
    exact ⟨a, get?_eq_some_iff.mpr hmem, rfl⟩
  · rintro ⟨a, ha, rfl⟩
    exact List.mem_map.mpr ⟨(key, a), get?_eq_some_iff.mp ha, rfl⟩

theorem ext_entries {t t' : Table α} (h : t.entries = t'.entries) : t = t' := by
  cases t
  cases t'
  cases h
  rfl

theorem insert_insert (t : Table α) (key : String) (a b : α) :
    (t.insert key a).insert key b = t.insert key b := by
  refine ext_entries ?_
  simp [insert, filter, List.filter_filter]

theorem filter_filter_of_imp {keep keep' : String → α → Bool} (t : Table α)
    (h : ∀ key a, keep' key a = true → keep key a = true) :
    (t.filter keep).filter keep' = t.filter keep' := by
  refine ext_entries ?_
  simp only [filter, List.filter_filter]
  refine List.filter_congr fun e _ => ?_
  cases he : keep' e.1 e.2 with
  | true => simp [h _ _ he]
  | false => simp

theorem size_filter_le (keep : String → α → Bool) (t : Table α) : (t.filter keep).size ≤ t.size :=
  List.length_filter_le ..

end Table

namespace Registry

/-! ### What is done to the journeys -/

/-- The journeys after the one of a trip along an itinerary is looked up. -/
def start (r : Registry) (tripId userId : String) (i : Itinerary) : Registry :=
  r.put (r.getOrStart tripId userId i)

/-- The journeys after a position is taken in by the one of a trip, if there is one. -/
def locateAt (l : Locator) (r : Registry) (tripId : String) (p : Position) (locale : Locale) :
    Registry :=
  match r.get? tripId with
  | some j => r.put (l.locate j p locale).journey
  | none => r

/-- What may be done to the journeys. -/
inductive Operation where
  /-- The journey of a trip along an itinerary is looked up. -/
  | start (tripId userId : String) (i : Itinerary)
  /-- Those that are over are forgotten. -/
  | evict (now : Instant)
  /-- A position is taken in by the journey of a trip. -/
  | locate (tripId : String) (p : Position) (locale : Locale)

/-- The journeys after an operation. -/
def perform (l : Locator) (r : Registry) : Operation → Registry
  | .start tripId userId i => r.start tripId userId i
  | .evict now => (r.evictStale now).1
  | .locate tripId p locale => r.locateAt l tripId p locale

/-- The journeys after some operations. -/
def performAll (l : Locator) (r : Registry) (operations : List Operation) : Registry :=
  operations.foldl (perform l) r

variable {l : Locator} {r : Registry}

theorem Keyed.put (h : r.Keyed) (j : Journey) : (r.put j).Keyed := Table.forall_get?_insert h rfl

theorem Keyed.evictStale (h : r.Keyed) (now : Instant) : (r.evictStale now).1.Keyed := by
  intro key j hj
  rw [get?_evictStale] at hj
  exact h key j (Option.filter_eq_some_iff.mp hj).1

theorem Keyed.perform (h : r.Keyed) (o : Operation) : (r.perform l o).Keyed := by
  cases o with
  | start tripId userId i => exact h.put _
  | evict now => exact h.evictStale now
  | locate tripId p locale =>
    simp only [Registry.perform, locateAt]
    split
    · exact h.put _
    · exact h

/-- **Each journey stands under its trip**, after any operations. -/
theorem keyed_performAll (l : Locator) (operations : List Operation) :
    Keyed (performAll l .empty operations) := by
  induction operations using List.reverseRecOn with
  | nil => exact keyed_empty
  | append_singleton operations o ih =>
    have hconcat : performAll l .empty (operations ++ [o]) =
        perform l (performAll l .empty operations) o := by simp [performAll]
    rw [hconcat]
    exact ih.perform o

/-! ### Looking up a journey -/

theorem getOrStart_of_same {tripId userId : String} {i : Itinerary} {j : Journey}
    (hj : r.get? tripId = some j) (hsame : (j.itinerary == i) = true) :
    r.getOrStart tripId userId i = j := by
  simp [getOrStart, hj, hsame]

theorem getOrStart_of_other {tripId userId : String} {i : Itinerary}
    (hother : ∀ j, r.get? tripId = some j → (j.itinerary == i) = false) :
    r.getOrStart tripId userId i = .new tripId userId i := by
  unfold getOrStart
  cases hj : r.get? tripId with
  | none => rfl
  | some j => simp [hother j hj]

/-- The journey that is looked up is along the itinerary, by value. -/
theorem beq_itinerary_getOrStart {i : Itinerary} (hi : i.IsNumeric) (r : Registry)
    (tripId userId : String) : ((r.getOrStart tripId userId i).itinerary == i) = true := by
  unfold getOrStart
  split
  · split
    · assumption
    · exact hi.beq_self
  · exact hi.beq_self

/-- **A journey is kept exactly if its itinerary is the same by value.** A new one along the
itinerary could not pass for it. -/
theorem getOrStart_eq_iff {tripId userId : String} {i : Itinerary} (hi : i.IsNumeric) {j : Journey}
    (hj : r.get? tripId = some j) :
    r.getOrStart tripId userId i = j ↔ (j.itinerary == i) = true := by
  constructor
  · rintro rfl
    exact beq_itinerary_getOrStart hi r tripId userId
  · exact getOrStart_of_same hj

theorem Keyed.get?_start (h : r.Keyed) (tripId userId : String) (i : Itinerary) (key : String) :
    (r.start tripId userId i).get? key =
      if key = tripId then some (r.getOrStart tripId userId i) else r.get? key := by
  rw [start, Registry.put, Table.get?_insert, h.tripId_getOrStart]

/-- What was looked up is what is looked up the next time. -/
theorem Keyed.getOrStart_start (h : r.Keyed) (tripId userId : String) (i : Itinerary) :
    (r.start tripId userId i).getOrStart tripId userId i = r.getOrStart tripId userId i := by
  have hget : (r.start tripId userId i).get? tripId = some (r.getOrStart tripId userId i) := by
    rw [h.get?_start, if_pos rfl]
  by_cases hsame : ((r.getOrStart tripId userId i).itinerary == i) = true
  · exact getOrStart_of_same hget hsame
  · -- Only a new journey can be along an itinerary that is not equal to itself.
    have hnew : r.getOrStart tripId userId i = .new tripId userId i := by
      refine getOrStart_of_other fun j hj => ?_
      rw [← Bool.not_eq_true]
      intro hsame'
      rw [getOrStart_of_same hj hsame'] at hsame
      exact hsame hsame'
    rw [hnew] at hget hsame ⊢
    refine getOrStart_of_other fun j hj => ?_
    rw [hget] at hj
    cases hj
    simpa using hsame

theorem Keyed.start_start (h : r.Keyed) (tripId userId : String) (i : Itinerary) :
    (r.start tripId userId i).start tripId userId i = r.start tripId userId i := by
  have hagain := h.getOrStart_start tripId userId i
  unfold start at hagain ⊢
  rw [hagain]
  exact Table.insert_insert ..

/-! ### Forgetting journeys -/

/-- **A journey that is over stays over.** -/
theorem isStale_mono {j : Journey} {now later : Instant} (hle : now ≤ later)
    (h : j.isStale now = true) : j.isStale later = true := by
  unfold Journey.isStale at h ⊢
  rw [Bool.or_eq_true] at h ⊢
  refine h.imp (fun hidle => ?_) (Journey.isBefore_mono hle)
  rw [Option.all_eq_true] at hidle ⊢
  exact fun p hp => Journey.isBefore_mono hle (hidle p hp)

theorem evictStale_evictStale {now later : Instant} (hle : now ≤ later) (r : Registry) :
    ((r.evictStale now).1.evictStale later).1 = (r.evictStale later).1 := by
  simp only [fst_evictStale]
  refine Table.filter_filter_of_imp r fun _ j hlater => ?_
  rw [Bool.not_eq_true', ← Bool.not_eq_true] at hlater ⊢
  exact mt (isStale_mono hle) hlater

theorem count_evictStale_eq_sub (r : Registry) (now : Instant) :
    (r.evictStale now).2 = r.size - (r.evictStale now).1.size := rfl

/-- The journeys that are forgotten one after the other are those that are forgotten at once. -/
theorem count_evictStale_add {now later : Instant} (hle : now ≤ later) (r : Registry) :
    (r.evictStale now).2 + ((r.evictStale now).1.evictStale later).2 = (r.evictStale later).2 := by
  have hsize (r : Registry) (now : Instant) : (r.evictStale now).1.size ≤ r.size :=
    Table.size_filter_le ..
  have hsecond := hsize (r.evictStale now).1 later
  rw [evictStale_evictStale hle] at hsecond
  simp only [count_evictStale_eq_sub, evictStale_evictStale hle]
  exact Nat.sub_add_sub_cancel (hsize r now) hsecond

/-- **What is counted are the journeys that are over.** -/
theorem count_evictStale (r : Registry) (now : Instant) :
    (r.evictStale now).2 = r.entries.countP fun e => e.2.isStale now := by
  have hkept : (r.evictStale now).1.size = r.entries.countP fun e => !e.2.isStale now :=
    List.countP_eq_length_filter.symm
  have hall : r.size =
      (r.entries.countP fun e => e.2.isStale now) + r.entries.countP fun e => !e.2.isStale now := by
    simpa [Table.size] using
      List.length_eq_countP_add_countP (fun e : String × Journey => e.2.isStale now)
  rw [count_evictStale_eq_sub, hkept, hall, Nat.add_sub_cancel_right]

end Registry

/-! ### Itineraries by place -/

/-- Where itineraries are kept. In one place there is one itinerary, and equal ones may be in
several places. -/
abbrev Shelf := ℕ → Itinerary

/-- A journey along the itinerary that is kept in a place. -/
structure Shelved (shelf : Shelf) where
  /-- The journey. -/
  journey : Journey
  /-- The place of its itinerary. -/
  place : ℕ
  /-- It is the one in that place. -/
  itinerary_eq : journey.itinerary = shelf place

section Shelves

variable {shelf : Shelf}

/-- A journey that begins, along the itinerary in a place. -/
def Shelved.new (shelf : Shelf) (tripId userId : String) (place : ℕ) : Shelved shelf :=
  ⟨.new tripId userId (shelf place), place, rfl⟩

/-- The journey of a trip along the itinerary in a place. It is compared with the one of the journey
that is followed only if that one is in another place. -/
def getOrStartAt (r : Table (Shelved shelf)) (tripId userId : String) (place : ℕ) : Shelved shelf :=
  match r.get? tripId with
  | some s =>
    if s.place ≠ place ∧ (s.journey.itinerary != shelf place) = true then
      .new shelf tripId userId place
    else s
  | none => .new shelf tripId userId place

/-- **Places may be compared first**: the journey is the one that is found by value. -/
theorem journey_getOrStartAt {place : ℕ} (h : (shelf place).IsNumeric)
    (r : Table (Shelved shelf)) (tripId userId : String) :
    (getOrStartAt r tripId userId place).journey =
      Registry.getOrStart (r.map Shelved.journey) tripId userId (shelf place) := by
  unfold getOrStartAt Registry.getOrStart
  rw [Table.get?_map]
  cases r.get? tripId with
  | none => rfl
  | some s =>
    by_cases hplace : s.place = place
    · have hsame : (s.journey.itinerary == shelf place) = true := by
        rw [s.itinerary_eq, hplace]
        exact h.beq_self
      simp [hplace, hsame]
    · cases hsame : s.journey.itinerary == shelf place <;>
        simp [hplace, hsame, bne, Shelved.new]

end Shelves

/-- **Laws of the journeys that are followed.** After any operations on them:

* each journey stands under its trip;
* a journey that is looked up is along the itinerary by value, and it is the one that was followed
  exactly if that one was along the itinerary by value, else a new one; it stands under its trip, no
  other journey changes, and to look it up once more changes nothing. Here the itinerary has no NaN
  in it, and none that is read has one;
* to compare the places of itineraries before the itineraries makes no difference;
* a journey that is over stays over, and those that are forgotten, and counted, are exactly those
  that are over; to forget twice is to forget once at the later time, with the same number
  forgotten. -/
theorem registry_laws (l : Locator) (operations : List Registry.Operation) :
    (Registry.performAll l .empty operations).Keyed ∧
      (∀ text i, Json.decode Itinerary.decoder text = .ok i → i.IsNumeric) ∧
      (∀ tripId userId i, i.IsNumeric →
        let r := Registry.performAll l .empty operations
        ((r.getOrStart tripId userId i).itinerary == i) = true ∧
        (∀ j, r.get? tripId = some j →
          (r.getOrStart tripId userId i = j ↔ (j.itinerary == i) = true)) ∧
        ((∀ j, r.get? tripId = some j → (j.itinerary == i) = false) →
          r.getOrStart tripId userId i = .new tripId userId i) ∧
        (r.start tripId userId i).get? tripId = some (r.getOrStart tripId userId i) ∧
        (∀ key, key ≠ tripId → (r.start tripId userId i).get? key = r.get? key) ∧
        (r.start tripId userId i).getOrStart tripId userId i = r.getOrStart tripId userId i ∧
        (r.start tripId userId i).start tripId userId i = r.start tripId userId i) ∧
      (∀ (shelf : Shelf) (r : Table (Shelved shelf)) tripId userId place,
        (shelf place).IsNumeric → (getOrStartAt r tripId userId place).journey =
          Registry.getOrStart (r.map Shelved.journey) tripId userId (shelf place)) ∧
      (∀ (j : Journey) now later, now ≤ later → j.isStale now = true → j.isStale later = true) ∧
      let r := Registry.performAll l .empty operations
      (∀ now key, (r.evictStale now).1.get? key = (r.get? key).filter fun j => !j.isStale now) ∧
      (∀ now, (r.evictStale now).2 = r.entries.countP fun e => e.2.isStale now) ∧
      ∀ now later, now ≤ later →
        ((r.evictStale now).1.evictStale later).1 = (r.evictStale later).1 ∧
        (r.evictStale now).2 + ((r.evictStale now).1.evictStale later).2 =
          (r.evictStale later).2 := by
  have hkeyed := Registry.keyed_performAll l operations
  refine ⟨hkeyed, fun text i => Itinerary.isNumeric_of_decode, fun tripId userId i hi => ?_,
    fun shelf r tripId userId place hplace => ?_, fun j now later hle => Registry.isStale_mono hle,
    fun now key => ?_, Registry.count_evictStale _, fun now later hle => ?_⟩
  · refine ⟨Registry.beq_itinerary_getOrStart hi _ tripId userId,
      fun j hj => Registry.getOrStart_eq_iff hi hj, Registry.getOrStart_of_other, ?_,
      fun key hkey => ?_, hkeyed.getOrStart_start tripId userId i,
      hkeyed.start_start tripId userId i⟩
    · rw [hkeyed.get?_start, if_pos rfl]
    · rw [hkeyed.get?_start, if_neg hkey]
  · exact journey_getOrStartAt hplace r tripId userId
  · exact Registry.get?_evictStale _ now key
  · exact ⟨Registry.evictStale_evictStale hle _, Registry.count_evictStale_add hle _⟩

end TripWatch
