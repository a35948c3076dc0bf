import Mathlib.Data.List.Induction
import Mathlib.Data.Prod.Lex
import TripWatch.Tracking.Locator

/-!
# Guidance goes forward

A journey remembers the next step of a leg along streets, as a cursor. The cursor is set anew only
when a position is reported on another such leg than before, so it may lag behind: while the
traveler rides, it still stands on the street before. What a report does to it is said once, as
`Cursor.Moves`, with a single way to go on for every position and time.

Which leg is the active one depends on the time alone, and legs need not be in order. Even so it
never goes back when time does not: the first leg that has not ended can only be a later one as legs
end. Since the cursor stands on a leg that was active at some report before, it never goes back
either.

## Main definitions

* `Report`, `Journey.follow` — a reported position, and a journey after several
* `activeStreet?` — the leg that a traveler is on, if it leads along streets
* `Reaches` — what it takes for a step to be left behind
* `Cursor.Moves` — what a report does to the cursor
* `Cursor.Stands` — where the cursor may stand after some reports
* `Cursor.place` — cursors in travel order
* `Locator.cursorAfter` — the cursor after some reports

## Main results

* `moves_guide` — guidance moves the cursor in one of these ways
* `activeLeg?_mono` — the active leg does not go back in time
* `Cursor.Stands.moves` — where a cursor stands that has moved
* `guidance_forward` — the headline
-/

namespace TripWatch

/-- A position that a traveler reports, and the language of the answer. -/
structure Report where
  /-- The position, with its time. -/
  position : Position
  /-- The language. -/
  locale : Locale

/-- The time of a report. -/
def Report.time (r : Report) : Instant := r.position.timestamp

/-- The journey after several reports. -/
def Journey.follow (l : Locator) (j : Journey) (reports : List Report) : Journey :=
  reports.foldl (fun j r => (l.locate j r.position r.locale).journey) j

/-! ### The active leg -/

/-- The active leg by its place, where a leg that has not ended counts before the last one. -/
theorem activeLeg?_eq (legs : List Leg) (now : Instant) :
    activeLeg? legs now =
      if legs = [] then none
      else some (min (legs.findIdx fun leg => decide (now ≤ leg.endTime)) (legs.length - 1)) := by
  unfold activeLeg?
  cases h : legs.findIdx? fun leg => decide (now ≤ leg.endTime) with
  | some index =>
    obtain ⟨hlt, hindex⟩ := List.findIdx?_eq_some_iff_findIdx_eq.mp h
    have hne : legs ≠ [] := List.ne_nil_of_length_pos (by omega)
    have hle : index ≤ legs.length - 1 := by omega
    simp [hne, hindex, Nat.min_eq_left hle]
  | none =>
    rw [List.findIdx?_eq_none_iff_findIdx_eq.mp h, Nat.min_eq_right (by omega)]

/-- **The active leg does not go back in time.** -/
theorem activeLeg?_mono {legs : List Leg} {now later : Instant} (hle : now ≤ later) {a b : Nat}
    (ha : activeLeg? legs now = some a) (hb : activeLeg? legs later = some b) : a ≤ b := by
  rw [activeLeg?_eq] at ha hb
  split at ha
  · cases ha
  · rw [if_neg ‹_›] at hb
    cases ha
    cases hb
    -- A leg that has not ended later has not ended now.
    have hfirst : (legs.findIdx fun leg => decide (now ≤ leg.endTime)) ≤
        legs.findIdx fun leg => decide (later ≤ leg.endTime) := by
      refine List.findIdx_le_findIdx fun leg _ hlater => ?_
      exact decide_eq_true (Int64.le_trans hle (of_decide_eq_true hlater))
    omega

/-- The leg that a traveler is on, if it leads along streets. -/
def activeStreet? (i : Itinerary) (now : Instant) : Option Nat :=
  (activeLeg? i.legs now).filter fun index => (i.legs[index]?).any fun leg => !leg.isTransit

theorem activeStreet?_eq_some_iff {i : Itinerary} {now : Instant} {index : Nat} :
    activeStreet? i now = some index ↔
      activeLeg? i.legs now = some index ∧
        ∃ leg, i.legs[index]? = some leg ∧ leg.isTransit = false := by
  simp [activeStreet?, Option.filter_eq_some_iff, Option.any_eq_true]

theorem activeStreet?_mono {i : Itinerary} {now later : Instant} (hle : now ≤ later) {a b : Nat}
    (ha : activeStreet? i now = some a) (hb : activeStreet? i later = some b) : a ≤ b :=
  activeLeg?_mono hle (activeStreet?_eq_some_iff.mp ha).1 (activeStreet?_eq_some_iff.mp hb).1

/-! ### What a report does to the cursor -/

/-- A position reaches the step of a cursor: the traveler is on the cursor's leg, along streets and
not off its path, and within the immediate radius of the step. -/
def Reaches (s : GuideSettings) (i : Itinerary) (p : Position) (c : Cursor) : Prop :=
  ∃ leg step, activeLeg? i.legs p.timestamp = some c.leg ∧ i.legs[c.leg]? = some leg ∧
    leg.isTransit = false ∧ leg.steps[c.step]? = some step ∧
    isOffPath leg p.coordinates s = false ∧
    p.coordinates.distance step.coordinates ≤ s.radii.immediate

/-- What a position does to a cursor. -/
inductive Cursor.Moves (s : GuideSettings) (i : Itinerary) (p : Position) (c : Cursor) :
    Cursor → Prop
  /-- The traveler is not on a leg along streets. -/
  | rests (h : activeStreet? i p.timestamp = none) : Moves s i p c c
  /-- The step is still ahead. -/
  | stays (h : activeStreet? i p.timestamp = some c.leg) (hreach : ¬ Reaches s i p c) :
    Moves s i p c c
  /-- The step is reached, and left behind. -/
  | advances (hreach : Reaches s i p c) : Moves s i p c ⟨c.leg, c.step + 1⟩
  /-- The traveler has come to another leg. -/
  | enters {index : Nat} (h : activeStreet? i p.timestamp = some index) (hne : index ≠ c.leg)
    (hreach : ¬ Reaches s i p ⟨index, 0⟩) : Moves s i p c ⟨index, 0⟩
  /-- The traveler has come to another leg, and to its first step. -/
  | entersReaching {index : Nat} (h : activeStreet? i p.timestamp = some index)
    (hne : index ≠ c.leg) (hreach : Reaches s i p ⟨index, 0⟩) : Moves s i p c ⟨index, 1⟩

section Moves

variable {s : GuideSettings} {i : Itinerary} {p : Position} {c : Cursor}

theorem Reaches.activeStreet?_eq (h : Reaches s i p c) :
    activeStreet? i p.timestamp = some c.leg := by
  obtain ⟨leg, step, hactive, hleg, hstreet, -⟩ := h
  exact activeStreet?_eq_some_iff.mpr ⟨hactive, leg, hleg, hstreet⟩

/-- On the cursor's leg, a step that is reached is left behind, and any other one is not. -/
theorem cursor_streetInstruction {leg : Leg} (hactive : activeLeg? i.legs p.timestamp = some c.leg)
    (hleg : i.legs[c.leg]? = some leg) (hstreet : leg.isTransit = false) (isFinal : Bool) :
    Reaches s i p c ∧
        (streetInstruction leg isFinal c p.coordinates s).2 = ⟨c.leg, c.step + 1⟩ ∨
      ¬ Reaches s i p c ∧ (streetInstruction leg isFinal c p.coordinates s).2 = c := by
  have hreaches : Reaches s i p c ↔ ∃ step, leg.steps[c.step]? = some step ∧
      isOffPath leg p.coordinates s = false ∧
      p.coordinates.distance step.coordinates ≤ s.radii.immediate := by
    simp [Reaches, hactive, hleg, hstreet]
  rw [hreaches]
  unfold streetInstruction
  cases hoff : isOffPath leg p.coordinates s with
  | true => exact .inr ⟨by simp, rfl⟩
  | false =>
    cases hstep : leg.steps[c.step]? with
    | none => exact .inr ⟨by simp, rfl⟩
    | some step =>
      by_cases hnear : p.coordinates.distance step.coordinates ≤ s.radii.immediate
      · exact .inl ⟨⟨step, rfl, rfl, hnear⟩, by simp [hnear, Cursor.advance, Cursor.onLeg]⟩
      · exact .inr ⟨by simp [hnear], by simp [hnear]⟩

theorem Cursor.onLeg_self (c : Cursor) : c.onLeg c.leg = c := if_pos rfl

theorem Cursor.onLeg_of_ne {index : Nat} (h : index ≠ c.leg) : c.onLeg index = ⟨index, 0⟩ :=
  if_neg (Ne.symm h)

/-- **Guidance moves the cursor in one of these ways.** -/
theorem moves_guide (s : GuideSettings) (i : Itinerary) (c : Cursor) (p : Position) :
    c.Moves s i p (guide i c p.coordinates p.timestamp s).2 := by
  unfold guide
  cases hactive : activeLeg? i.legs p.timestamp with
  | none =>
    have hnone : activeStreet? i p.timestamp = none := by simp [activeStreet?, hactive]
    exact .rests hnone
  | some index =>
    cases hleg : i.legs[index]? with
    | none =>
      have hnone : activeStreet? i p.timestamp = none := by simp [activeStreet?, hactive, hleg]
      simpa [hleg] using Cursor.Moves.rests hnone
    | some leg =>
      cases hstreet : leg.isTransit with
      | true =>
        have hnone : activeStreet? i p.timestamp = none := by
          simp [activeStreet?, hactive, hleg, hstreet]
        simpa [hleg, hstreet] using Cursor.Moves.rests hnone
      | false =>
        have hindex : activeStreet? i p.timestamp = some index :=
          activeStreet?_eq_some_iff.mpr ⟨hactive, leg, hleg, hstreet⟩
        simp only [hleg, hstreet, Bool.false_eq_true, if_false]
        by_cases hsame : index = c.leg
        · subst hsame
          rw [Cursor.onLeg_self]
          rcases cursor_streetInstruction hactive hleg hstreet (c.leg + 1 == i.legs.length) with
            ⟨hreach, hcursor⟩ | ⟨hreach, hcursor⟩
          · rw [hcursor]
            exact .advances hreach
          · rw [hcursor]
            exact .stays hindex hreach
        · rw [Cursor.onLeg_of_ne hsame]
          rcases cursor_streetInstruction (c := ⟨index, 0⟩) hactive hleg hstreet
            (index + 1 == i.legs.length) with ⟨hreach, hcursor⟩ | ⟨hreach, hcursor⟩
          · rw [hcursor]
            exact .entersReaching hindex hsame hreach
          · rw [hcursor]
            exact .enters hindex hsame hreach

end Moves

/-! ### Where the cursor stands -/

/-- Where a cursor may stand after some reports. -/
structure Cursor.Stands (i : Itinerary) (reports : List Report) (c : Cursor) : Prop where
  /-- The step is one of the leg's, or its end. -/
  step_le : ∀ leg, i.legs[c.leg]? = some leg → c.step ≤ leg.steps.length
  /-- The cursor is at the beginning, or on a leg along streets on which the traveler was. -/
  origin : c = .start ∨ ∃ r ∈ reports, activeStreet? i r.time = some c.leg

/-- Cursors in travel order. -/
def Cursor.place (c : Cursor) : Lex (ℕ × ℕ) := toLex (c.leg, c.step)

section Stands

variable {s : GuideSettings} {i : Itinerary} {reports : List Report} {r : Report} {c c' : Cursor}

/-- A step that is reached is there. -/
theorem Reaches.step_lt {p : Position} (h : Reaches s i p c) {leg : Leg}
    (hleg : i.legs[c.leg]? = some leg) : c.step < leg.steps.length := by
  obtain ⟨leg', step, -, hleg', -, hstep, -⟩ := h
  obtain rfl := Option.some.inj (hleg.symm.trans hleg')
  exact (List.getElem?_eq_some_iff.mp hstep).1

/-- **Where a cursor stands that has moved.** -/
theorem Cursor.Stands.moves (h : c.Stands i reports) (hmoves : c.Moves s i r.position c') :
    c'.Stands i (reports ++ [r]) := by
  have hkept : c = .start ∨ ∃ q ∈ reports ++ [r], activeStreet? i q.time = some c.leg :=
    h.origin.imp id fun ⟨q, hq, hactive⟩ => ⟨q, List.mem_append_left _ hq, hactive⟩
  have hnow : ∀ index, activeStreet? i r.position.timestamp = some index →
      ∃ q ∈ reports ++ [r], activeStreet? i q.time = some index := fun index hactive =>
    ⟨r, List.mem_append_right _ (List.mem_singleton_self r), hactive⟩
  cases hmoves with
  | rests _ => exact ⟨h.step_le, hkept⟩
  | stays _ _ => exact ⟨h.step_le, hkept⟩
  | advances hreach =>
    exact ⟨fun leg hleg => hreach.step_lt hleg, .inr (hnow _ hreach.activeStreet?_eq)⟩
  | enters hactive _ _ => exact ⟨fun leg _ => Nat.zero_le _, .inr (hnow _ hactive)⟩
  | entersReaching hactive _ hreach =>
    exact ⟨fun leg hleg => hreach.step_lt hleg, .inr (hnow _ hactive)⟩

/-- A cursor that moves goes forward, unless the active leg has gone back. -/
theorem Cursor.Moves.place_le {p : Position} (h : c.Moves s i p c')
    (hforward : ∀ index, activeStreet? i p.timestamp = some index → c.leg ≤ index) :
    c.place ≤ c'.place := by
  have henters : ∀ index step, activeStreet? i p.timestamp = some index →
      index ≠ c.leg → c.place ≤ Cursor.place ⟨index, step⟩ := fun index step hactive hne =>
    Prod.Lex.toLex_le_toLex.mpr (.inl (lt_of_le_of_ne (hforward index hactive) (Ne.symm hne)))
  cases h with
  | rests _ => exact le_rfl
  | stays _ _ => exact le_rfl
  | advances _ => exact Prod.Lex.toLex_le_toLex.mpr (.inr ⟨rfl, Nat.le_succ _⟩)
  | enters hactive hne _ => exact henters _ _ hactive hne
  | entersReaching hactive hne _ => exact henters _ _ hactive hne

/-- A cursor stands on no leg beyond the active one, as long as time does not go back. -/
theorem Cursor.Stands.leg_le (h : c.Stands i reports) (htime : ∀ q ∈ reports, q.time ≤ r.time)
    {index : Nat} (hactive : activeStreet? i r.time = some index) : c.leg ≤ index := by
  rcases h.origin with rfl | ⟨q, hq, hbefore⟩
  · exact Nat.zero_le _
  · exact activeStreet?_mono (htime q hq) hbefore hactive

end Stands

/-! ### Journeys -/

section Journeys

variable (l : Locator) (j : Journey) (reports : List Report) (r : Report)

theorem Journey.follow_concat :
    j.follow l (reports ++ [r]) =
      (l.locate (j.follow l reports) r.position r.locale).journey := by
  simp [follow]

theorem Locator.fireOnMovement_eq :
    (l.fireOnMovement j).2 = { j with started := (l.fireOnMovement j).2.started } := by
  unfold fireOnMovement
  cases j.movement? <;> rfl

theorem Locator.itinerary_locate (p : Position) (locale : Locale) :
    (l.locate j p locale).journey.itinerary = j.itinerary := by
  simp only [locate]
  rw [fireOnMovement_eq]
  rfl

theorem Locator.moves_locate (p : Position) (locale : Locale) :
    j.cursor.Moves l.settings j.itinerary p (l.locate j p locale).journey.cursor := by
  have hmoves := moves_guide l.settings j.itinerary j.cursor p
  simp only [locate]
  rw [fireOnMovement_eq]
  exact hmoves

theorem Journey.itinerary_follow : (j.follow l reports).itinerary = j.itinerary := by
  induction reports using List.reverseRecOn with
  | nil => rfl
  | append_singleton reports r ih => rw [follow_concat, Locator.itinerary_locate, ih]

/-- Each report moves the cursor. -/
theorem Journey.moves_follow :
    (j.follow l reports).cursor.Moves l.settings j.itinerary r.position
      (j.follow l (reports ++ [r])).cursor := by
  rw [follow_concat, ← j.itinerary_follow l reports]
  exact l.moves_locate (j.follow l reports) r.position r.locale

end Journeys

section New

variable (l : Locator) (tripId userId : String) (i : Itinerary)

/-- The cursor of a journey that was new before several reports. -/
def Locator.cursorAfter (reports : List Report) : Cursor :=
  ((Journey.new tripId userId i).follow l reports).cursor

theorem cursorAfter_nil : l.cursorAfter tripId userId i [] = .start := rfl

/-- Each report moves the cursor. -/
theorem moves_cursorAfter (reports : List Report) (r : Report) :
    (l.cursorAfter tripId userId i reports).Moves l.settings i r.position
      (l.cursorAfter tripId userId i (reports ++ [r])) :=
  (Journey.new tripId userId i).moves_follow l reports r

/-- Where the cursor stands after any reports. -/
theorem stands_cursorAfter (reports : List Report) :
    (l.cursorAfter tripId userId i reports).Stands i reports := by
  induction reports using List.reverseRecOn with
  | nil =>
    rw [cursorAfter_nil]
    exact ⟨fun leg _ => Nat.zero_le _, .inl rfl⟩
  | append_singleton reports r ih => exact ih.moves (moves_cursorAfter l tripId userId i reports r)

/-- While time does not go back, neither does the cursor. -/
theorem place_cursorAfter_le {early late : List Report}
    (htime : (early ++ late).Pairwise fun r r' => r.time ≤ r'.time) :
    (l.cursorAfter tripId userId i early).place ≤
      (l.cursorAfter tripId userId i (early ++ late)).place := by
  induction late using List.reverseRecOn with
  | nil => rw [List.append_nil]
  | append_singleton late r ih =>
    rw [← List.append_assoc] at htime ⊢
    have hbefore : (early ++ late).Pairwise fun r r' => r.time ≤ r'.time :=
      (List.pairwise_append.mp htime).1
    have hlast : ∀ q ∈ early ++ late, q.time ≤ r.time := by
      intro q hq
      exact (List.pairwise_append.mp htime).2.2 q hq r (List.mem_singleton_self r)
    have hmoves := moves_cursorAfter l tripId userId i (early ++ late) r
    refine (ih hbefore).trans (hmoves.place_le ?_)
    intro index hactive
    exact (stands_cursorAfter l tripId userId i (early ++ late)).leg_le hlast hactive

/-- **Guidance never goes back.** After any reports the step of the cursor is one of its leg's or
the leg's end, and the cursor is at the beginning as long as the traveler was on no leg along
streets. Each report moves it in one of the ways of `Cursor.Moves`. And while time does not go back,
neither does the active leg, nor the cursor. -/
theorem guidance_forward :
    (∀ reports : List Report,
        (∀ leg, i.legs[(l.cursorAfter tripId userId i reports).leg]? = some leg →
          (l.cursorAfter tripId userId i reports).step ≤ leg.steps.length) ∧
        ((∀ r ∈ reports, activeStreet? i r.time = none) →
          l.cursorAfter tripId userId i reports = .start)) ∧
      (∀ (reports : List Report) (r : Report),
        (l.cursorAfter tripId userId i reports).Moves l.settings i r.position
          (l.cursorAfter tripId userId i (reports ++ [r]))) ∧
      ∀ early late : List Report,
        (early ++ late).Pairwise (fun r r' => r.time ≤ r'.time) →
        (early ++ late).Pairwise (fun r r' => ∀ a b, activeLeg? i.legs r.time = some a →
          activeLeg? i.legs r'.time = some b → a ≤ b) ∧
        (l.cursorAfter tripId userId i early).place ≤
          (l.cursorAfter tripId userId i (early ++ late)).place := by
  refine ⟨fun reports => ?_, fun reports r => ?_, fun early late htime => ⟨?_, ?_⟩⟩
  · have hstands := stands_cursorAfter l tripId userId i reports
    refine ⟨hstands.step_le, ?_⟩
    intro hnone
    refine hstands.origin.resolve_right ?_
    rintro ⟨r, hr, hactive⟩
    rw [hnone r hr] at hactive
    cases hactive
  · exact moves_cursorAfter l tripId userId i reports r
  · refine htime.imp ?_
    intro r r' hle a b
    exact activeLeg?_mono hle
  · exact place_cursorAfter_le l tripId userId i htime

end New

end TripWatch
