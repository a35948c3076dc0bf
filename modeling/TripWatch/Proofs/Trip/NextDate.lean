import Mathlib.Data.List.Basic
import TripWatch.Trip.Basic

/-!
# The next active date

The search for the next active date tries seven dates, and seven are enough: the days of the week go
round, so an active date that is more than six days away has another one a week before it, which is
not before the start of the search either. Nothing is known here of months or leap years. A date is
a day number, and its day of the week is that number modulo seven.

The search leaves out dates that cannot be written, and that does not matter for what it finds: what
it finds is found on the way there. It matters where it finds nothing. Near the last date an active
day may not come again, so `next?_eq_none_iff` asks for six more dates.

## Main definitions

* `ActiveDays.IsNext` — the earliest active date that is not before another one

## Main results

* `ActiveDays.next?_eq_some_iff` — the search finds that date, and no other
* `ActiveDays.next?_eq_none_iff` — it fails only if no day is active
* `ActiveDays.IsNext.le_six` — the date is at most six days away
* `ActiveDays.next?_mono`, `ActiveDays.next?_next?` — the closure laws of the search
-/

namespace TripWatch

/-! ### Dates in order -/

namespace Date

/-- Dates in the order of time. -/
instance : LE Date := ⟨fun d e => d.dayNumber ≤ e.dayNumber⟩

instance (d e : Date) : Decidable (d ≤ e) :=
  inferInstanceAs (Decidable (d.dayNumber ≤ e.dayNumber))

variable {start d e : Date} {n : Nat}

theorem le_def : d ≤ e ↔ d.dayNumber ≤ e.dayNumber := Iff.rfl

protected theorem le_refl (d : Date) : d ≤ d := Int.le_refl _

protected theorem le_trans {f : Date} (h : d ≤ e) (h' : e ≤ f) : d ≤ f := Int.le_trans h h'

theorem eq_of_dayNumber_eq (h : d.dayNumber = e.dayNumber) : d = e := by
  cases d; cases e; cases h; rfl

protected theorem le_antisymm (h : d ≤ e) (h' : e ≤ d) : d = e :=
  eq_of_dayNumber_eq (Int.le_antisymm h h')

theorem ofDayNumber?_eq_some_iff {k : Int} : ofDayNumber? k = some d ↔ d.dayNumber = k := by
  have hfirst := d.first_le
  have hlast := d.le_last
  unfold ofDayNumber?
  split_ifs with h h'
  · rw [Option.some.injEq]
    exact ⟨fun heq => heq ▸ rfl, fun heq => eq_of_dayNumber_eq heq.symm⟩
  · exact iff_of_false nofun (by omega)
  · exact iff_of_false nofun (by omega)

/-- The date some days later. -/
theorem plusDays?_eq_some_iff :
    start.plusDays? n = some d ↔ d.dayNumber = start.dayNumber + n := ofDayNumber?_eq_some_iff

/-- Dates before one that can be written can be written. -/
theorem exists_plusDays? {m : Nat} (hm : (start.plusDays? m).isSome) (hn : n ≤ m) :
    ∃ d, start.plusDays? n = some d := by
  obtain ⟨last, hlast⟩ := Option.isSome_iff_exists.mp hm
  rw [plusDays?_eq_some_iff] at hlast
  have hrange := last.le_last
  have hstart := start.first_le
  exact ⟨⟨start.dayNumber + n, by omega, by omega⟩, plusDays?_eq_some_iff.mpr rfl⟩

/-- The days of the week go round. -/
theorem weekday_eq_of_emod (h : d.dayNumber % 7 = e.dayNumber % 7) : d.weekday = e.weekday := by
  have hnumbers : (d.dayNumber + 3) % 7 = (e.dayNumber + 3) % 7 := by omega
  rw [weekday, weekday, hnumbers]

/-- Within a week there is a date on every day of the week. -/
theorem exists_weekday (hweek : (start.plusDays? 6).isSome) (w : Weekday) :
    ∃ n < 7, ∃ d, start.plusDays? n = some d ∧ d.weekday = w := by
  have hw : w.index < 7 := by cases w <;> decide
  obtain ⟨n, hn⟩ : ∃ n : Nat, (n : Int) = ((w.index : Int) - (start.dayNumber + 3)) % 7 :=
    ⟨_, Int.toNat_of_nonneg (by omega)⟩
  obtain ⟨d, hd⟩ := exists_plusDays? (n := n) hweek (by omega)
  refine ⟨n, by omega, d, hd, ?_⟩
  rw [plusDays?_eq_some_iff] at hd
  have hindex : ((d.dayNumber + 3) % 7).toNat = w.index := by omega
  rw [weekday, hindex, Weekday.ofIndex_index]

end Date

namespace ActiveDays

variable {days : ActiveDays} {start start' d d' : Date}

/-- A date is the next active one from another one on: the earliest that is not before it. -/
structure IsNext (days : ActiveDays) (start d : Date) : Prop where
  /-- It is not before the other one. -/
  le : start ≤ d
  /-- It is active. -/
  active : days.isActiveOn d.weekday = true
  /-- No active date comes earlier. -/
  least : ∀ e, start ≤ e → days.isActiveOn e.weekday = true → d ≤ e

/-- The next active date is at most six days away: a week before it is too early. -/
theorem IsNext.le_six (h : days.IsNext start d) : d.dayNumber ≤ start.dayNumber + 6 := by
  by_contra hfar
  have hstart := start.first_le
  have hd := d.le_last
  let e : Date := ⟨d.dayNumber - 7, by omega, by omega⟩
  have hweekday : e.weekday = d.weekday :=
    Date.weekday_eq_of_emod (show (d.dayNumber - 7) % 7 = _ by omega)
  have hle : d.dayNumber ≤ d.dayNumber - 7 :=
    h.least e (show start.dayNumber ≤ d.dayNumber - 7 by omega) (hweekday ▸ h.active)
  omega

/-- What the search tries, date by date. -/
theorem next?_eq (days : ActiveDays) (start : Date) :
    days.next? start = ((List.range 7).find? fun n =>
      (start.plusDays? n).any fun date => days.isActiveOn date.weekday).bind start.plusDays? :=
  List.find?_filterMap ..

/-- **The search finds the next active date**, and no other one. -/
theorem next?_eq_some_iff : days.next? start = some d ↔ days.IsNext start d := by
  rw [next?_eq, Option.bind_eq_some_iff]
  constructor
  · rintro ⟨n, hfind, hdate⟩
    obtain ⟨hactive, -, hbefore⟩ := List.find?_range_eq_some.mp hfind
    rw [hdate] at hactive
    rw [Date.plusDays?_eq_some_iff] at hdate
    refine ⟨Date.le_def.mpr (by omega), hactive, fun e hle he => ?_⟩
    by_contra hlt
    rw [Date.le_def] at hle hlt
    -- An earlier active date would have been tried before.
    have htried : start.plusDays? (e.dayNumber - start.dayNumber).toNat = some e :=
      Date.plusDays?_eq_some_iff.mpr (by omega)
    have hnot := hbefore (e.dayNumber - start.dayNumber).toNat (by omega)
    simp [htried, he] at hnot
  · intro h
    have hnear := h.le_six
    have hle := Date.le_def.mp h.le
    have htried : start.plusDays? (d.dayNumber - start.dayNumber).toNat = some d :=
      Date.plusDays?_eq_some_iff.mpr (by omega)
    refine ⟨_, List.find?_range_eq_some.mpr ⟨?_, ?_, fun k hk => ?_⟩, htried⟩
    · simp [htried, h.active]
    · exact List.mem_range.mpr (by omega)
    · rw [Bool.not_eq_true', Bool.eq_false_iff]
      intro hany
      obtain ⟨e, he, hactive⟩ := (Option.any_eq_true ..).mp hany
      rw [Date.plusDays?_eq_some_iff] at he
      have hearlier := Date.le_def.mp (h.least e (Date.le_def.mpr (by omega)) hactive)
      omega

theorem IsNext.next? (h : days.IsNext start d) : days.next? start = some d :=
  next?_eq_some_iff.mpr h

/-- **The search fails only if no day is active**, provided that a week of dates is left. -/
theorem next?_eq_none_iff (hweek : (start.plusDays? 6).isSome) :
    days.next? start = none ↔ ∀ w, days.isActiveOn w = false := by
  rw [next?, List.find?_eq_none]
  constructor
  · intro hnone w
    obtain ⟨n, hn, d, hd, rfl⟩ := Date.exists_weekday hweek w
    have htried : d ∈ (List.range 7).filterMap start.plusDays? :=
      List.mem_filterMap.mpr ⟨n, List.mem_range.mpr hn, hd⟩
    exact Bool.eq_false_iff.mpr (hnone d htried)
  · intro hnever d _
    rw [hnever]
    exact Bool.false_ne_true

/-- **The next active date does not go back** when the search starts later. -/
theorem next?_mono (hle : start ≤ start') (h : days.next? start = some d)
    (h' : days.next? start' = some d') : d ≤ d' := by
  rw [next?_eq_some_iff] at h h'
  exact h.least d' (Date.le_trans hle h'.le) h'.active

/-- **From the next active date the search finds that date.** -/
theorem next?_next? (h : days.next? start = some d) : days.next? d = some d := by
  rw [next?_eq_some_iff] at h ⊢
  exact ⟨Date.le_refl d, h.active, fun e hle _ => hle⟩

end ActiveDays

end TripWatch
