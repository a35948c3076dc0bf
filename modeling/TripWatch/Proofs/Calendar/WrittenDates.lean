import Mathlib.Algebra.Group.Nat.Defs
import TripWatch.Calendar.Date
import TripWatch.Proofs.Number.Digits

/-!
# Written dates

A date is written with year, month and day and read back as the same date, also where the year has a
sign or more than four digits.

Year, month and day are read off the day number by formulas that divide the days of an era among its
years. Their inverse is checked on the parts of an era: centuries, spans of four years, and days of
such a span.

## Main results

* `Civil.dayNumber_ofDayNumber` — year, month and day give the day number back
* `Date.ofCivil?_civil` — a date is the one with its year, month and day
* `Date.ofText?_text` — a date is read back as itself
-/

namespace TripWatch

/-! ### Year, month and day -/

namespace Civil

/-- The year of a day within an era, from 0. -/
def yearOfEra (e : Int) : Int := (e - e / 1460 + e / 36524 - e / 146096) / 365

/-- The day of the year, from 0. -/
def dayOfYear (e : Int) : Int := e - (365 * yearOfEra e + yearOfEra e / 4 - yearOfEra e / 100)

section Parts

/-! An era has four centuries `c`, a century has spans `q` of four years, and a span has days
`s`. -/

variable {c q s : Int}

/-- The years of a span are told by its days. -/
theorem exists_yearOfEra_eq (hc : 0 ≤ c ∧ c ≤ 3) (hq : 0 ≤ q ∧ q ≤ 24) (hs : 0 ≤ s ∧ s ≤ 1460)
    (hcentury : 1461 * q + s < 36524) :
    ∃ y, (0 ≤ y ∧ y ≤ 3) ∧ (365 * y ≤ s ∧ s ≤ 365 * y + 365) ∧
      yearOfEra (36524 * c + 1461 * q + s) = 100 * c + 4 * q + y := by
  have hcenturies : (36524 * c + 1461 * q + s) / 36524 = c := by omega
  have hlast : (36524 * c + 1461 * q + s) / 146096 = 0 := by omega
  unfold yearOfEra
  rw [hcenturies, hlast]
  rcases Int.lt_or_le (24 * c + q + s) 1460 with hlow | hhigh
  · have hspans : (36524 * c + 1461 * q + s) / 1460 = 25 * c + q := by omega
    refine ⟨s / 365, by omega, by omega, ?_⟩
    rw [hspans]
    omega
  · have hspans : (36524 * c + 1461 * q + s) / 1460 = 25 * c + q + 1 := by omega
    refine ⟨(s - 1) / 365, by omega, by omega, ?_⟩
    rw [hspans]
    omega

theorem dayOfYear_eq (hq : 0 ≤ q ∧ q ≤ 24) {y : Int} (hy : 0 ≤ y ∧ y ≤ 3)
    (hyear : yearOfEra (36524 * c + 1461 * q + s) = 100 * c + 4 * q + y) :
    dayOfYear (36524 * c + 1461 * q + s) = s - 365 * y := by
  have hfours : (100 * c + 4 * q + y) / 4 = 25 * c + q := by omega
  have hhundreds : (100 * c + 4 * q + y) / 100 = c := by omega
  rw [dayOfYear, hyear, hfours, hhundreds]
  omega

end Parts

/-- Years and days of an era are within their bounds. -/
theorem bounds_of_era {e : Int} (hlow : 0 ≤ e) (hhigh : e < 146097) :
    (0 ≤ yearOfEra e ∧ yearOfEra e ≤ 399) ∧ 0 ≤ dayOfYear e ∧ dayOfYear e ≤ 365 := by
  by_cases hlast : e = 146096
  · subst hlast
    decide
  · have hc : 0 ≤ e / 36524 ∧ e / 36524 ≤ 3 := by omega
    have hq : 0 ≤ e % 36524 / 1461 ∧ e % 36524 / 1461 ≤ 24 := by omega
    have hs : 0 ≤ e % 36524 % 1461 ∧ e % 36524 % 1461 ≤ 1460 := by omega
    have hparts : 36524 * (e / 36524) + 1461 * (e % 36524 / 1461) + e % 36524 % 1461 = e := by
      omega
    obtain ⟨y, hy, hdays, hyear⟩ := exists_yearOfEra_eq hc hq hs (by omega)
    have hday := dayOfYear_eq hq hy hyear
    rw [hparts] at hyear hday
    omega

/-- A day of the year falls into a month, counted from March, and on a day of that month. -/
theorem bounds_of_year {day : Int} (hlow : 0 ≤ day) (hhigh : day ≤ 365) :
    (0 ≤ (5 * day + 2) / 153 ∧ (5 * day + 2) / 153 ≤ 11) ∧
      1 ≤ day - (153 * ((5 * day + 2) / 153) + 2) / 5 + 1 ∧
      day - (153 * ((5 * day + 2) / 153) + 2) / 5 + 1 ≤ 31 := by
  omega

/-- Year, month and day of a day of a year of an era. Years, months and days are counted from the
first of March. -/
def ofParts (era year day : Int) : Civil :=
  let marchMonth := (5 * day + 2) / 153
  let month := if marchMonth < 10 then marchMonth + 3 else marchMonth - 9
  ⟨if month ≤ 2 then year + era * 400 + 1 else year + era * 400, month,
    day - (153 * marchMonth + 2) / 5 + 1⟩

theorem ofDayNumber_eq (n : Int) :
    ofDayNumber n = ofParts ((n + epochShift) / 146097) (yearOfEra ((n + epochShift) % 146097))
      (dayOfYear ((n + epochShift) % 146097)) :=
  rfl

theorem dayNumber_ofParts (era : Int) {year day : Int} (hyear : 0 ≤ year ∧ year ≤ 399)
    (hday : 0 ≤ day ∧ day ≤ 365) :
    (ofParts era year day).dayNumber =
      era * 146097 + (365 * year + year / 4 - year / 100 + day) - epochShift := by
  obtain ⟨hmonth, -⟩ := bounds_of_year hday.1 hday.2
  have hera : (year + era * 400) / 400 = era := by omega
  have hyears : (year + era * 400) % 400 = year := by omega
  simp only [ofParts, dayNumber]
  by_cases hten : (5 * day + 2) / 153 < 10
  · have hmarch : ¬ (5 * day + 2) / 153 + 3 ≤ 2 := by omega
    simp only [hten, if_true, hmarch, if_false, Int.add_sub_cancel, hera, hyears]
    omega
  · have hmarch : (5 * day + 2) / 153 - 9 ≤ 2 := by omega
    simp only [hten, if_false, hmarch, if_true, Int.add_sub_cancel, Int.sub_add_cancel, hera,
      hyears]
    omega

/-- **Year, month and day give the day number back.** -/
theorem dayNumber_ofDayNumber (n : Int) : (ofDayNumber n).dayNumber = n := by
  obtain ⟨hyear, hday⟩ := bounds_of_era (e := (n + epochShift) % 146097) (by omega) (by omega)
  rw [ofDayNumber_eq, dayNumber_ofParts _ hyear hday, dayOfYear]
  omega

/-- Month and day have one or two digits. -/
theorem bounds_ofDayNumber (n : Int) :
    (1 ≤ (ofDayNumber n).month ∧ (ofDayNumber n).month ≤ 12) ∧
      1 ≤ (ofDayNumber n).day ∧ (ofDayNumber n).day ≤ 31 := by
  obtain ⟨-, hday⟩ := bounds_of_era (e := (n + epochShift) % 146097) (by omega) (by omega)
  obtain ⟨hmonth, hmonthDay⟩ := bounds_of_year hday.1 hday.2
  rw [ofDayNumber_eq]
  refine ⟨?_, hmonthDay⟩
  simp only [ofParts]
  split <;> omega

end Civil

/-! ### Text -/

namespace Date

theorem ofDayNumber?_dayNumber (d : Date) : ofDayNumber? d.dayNumber = some d := by
  rw [ofDayNumber?, dif_pos d.first_le, dif_pos d.le_last]

/-- **A date is the one with its year, month and day.** -/
theorem ofCivil?_civil (d : Date) : ofCivil? d.civil = some d := by
  have hnumber : d.civil.dayNumber = d.dayNumber := Civil.dayNumber_ofDayNumber d.dayNumber
  rw [ofCivil?, hnumber, ofDayNumber?_dayNumber]
  simp

theorem natOfDigits_padded (width n : Nat) : natOfDigits (padded width n) = n := by
  rw [padded, natOfDigits_zeros_append, natOfDigits_toDigits]

theorem isDigit_of_mem_padded {width n : Nat} {c : Char} (h : c ∈ padded width n) :
    c.isDigit = true := by
  rcases List.mem_append.mp h with hc | hc
  · rw [List.eq_of_mem_replicate hc]
    decide
  · exact isDigit_of_mem_toDigits hc

theorem padded_ne_nil (width n : Nat) : padded width n ≠ [] :=
  fun h => Nat.toDigits_ne_nil (List.append_eq_nil_iff.mp h).2

theorem length_padded {width n : Nat} (hwidth : 0 < width) (h : n < 10 ^ width) :
    (padded width n).length = width := by
  have hlength := (Nat.length_toDigits_le_iff (b := 10) (by decide) hwidth).mpr h
  rw [padded, List.length_append, List.length_replicate]
  omega

/-- Digits that are no more than may be read, and end where something else begins. -/
theorem digits?_append {ds rest : List Char} {most : Nat} (hne : ds ≠ [])
    (hds : ∀ c ∈ ds, c.isDigit = true) (hmost : ds.length ≤ most)
    (hrest : ∀ c ∈ rest.head?, c.isDigit = false) :
    digits? most (ds ++ rest) = some (natOfDigits ds, rest) := by
  have htake : ((ds ++ rest).take most).takeWhile Char.isDigit = ds := by
    rw [List.take_append, List.take_of_length_le hmost]
    refine takeWhile_isDigit_append hds fun c hc => ?_
    cases hcount : most - ds.length with
    | zero =>
      rw [hcount, List.take_zero] at hc
      cases hc
    | succ count =>
      cases rest with
      | nil =>
        rw [List.take_nil] at hc
        cases hc
      | cons first rest =>
        rw [hcount] at hc
        exact hrest c hc
  rw [digits?]
  simp only [htake, hne, if_false, List.drop_left]

/-- What a date begins with and goes on with is no white space. -/
theorem trimLeft_cons {c : Char} (hc : c = '-' ∨ c = '+' ∨ c.isDigit = true) (cs : List Char) :
    Text.trimLeft (c :: cs) = c :: cs := by
  have hspace : Text.isSpace c = false := by
    rcases hc with rfl | rfl | hdigit
    · decide
    · decide
    · simp only [Char.isDigit, Bool.and_eq_true, decide_eq_true_eq,
        UInt32.le_iff_toNat_le] at hdigit
      simp only [Text.isSpace, decide_eq_false_iff_not]
      have hnat : c.val.toNat = c.toNat := rfl
      have hzero : '0'.val.toNat = 48 := rfl
      have hnine : '9'.val.toNat = 57 := rfl
      omega
  simp [Text.trimLeft, hspace]

/-- Digits stand as they are. -/
theorem trimLeft_padded (width n : Nat) (rest : List Char) :
    Text.trimLeft (padded width n ++ rest) = padded width n ++ rest := by
  obtain ⟨c, cs, hcs⟩ := List.exists_cons_of_ne_nil (padded_ne_nil width n)
  have hdigit : c.isDigit = true := isDigit_of_mem_padded (by rw [hcs]; exact List.mem_cons_self)
  rw [hcs, List.cons_append, trimLeft_cons (.inr (.inr hdigit))]

theorem afterHyphen?_cons (rest : List Char) : afterHyphen? ('-' :: rest) = some rest := by
  rw [afterHyphen?, trimLeft_cons (.inl rfl)]
  rfl

/-- A year is read to its end. -/
theorem year?_yearChars (year : Int) {rest : List Char}
    (hrest : ∀ c ∈ rest.head?, c.isDigit = false) :
    year? (Text.trimLeft (yearChars year ++ rest)) = some (year, rest) := by
  have hdigits : ∀ width most, (padded width year.natAbs).length ≤ most →
      digits? most (padded width year.natAbs ++ rest) = some (year.natAbs, rest) := by
    intro width most hmost
    rw [digits?_append (padded_ne_nil _ _) (fun _ => isDigit_of_mem_padded) hmost hrest,
      natOfDigits_padded]
  have hlong : ∀ width, (padded width year.natAbs).length ≤
      (padded width year.natAbs ++ rest).length := fun width => by
    rw [List.length_append]
    omega
  unfold yearChars
  split
  · rw [List.cons_append, trimLeft_cons (.inl rfl), year?, hdigits 4 _ (hlong 4)]
    simp only [Option.map_some, Option.some.injEq, Prod.mk.injEq, and_true]
    omega
  split
  · rw [List.cons_append, trimLeft_cons (.inr (.inl rfl)), year?, hdigits 4 _ (hlong 4)]
    simp only [Option.map_some, Option.some.injEq, Prod.mk.injEq, and_true]
    omega
  · rw [trimLeft_padded]
    have hread := hdigits 4 4 (Nat.le_of_eq (length_padded (by decide) (by omega)))
    obtain ⟨c, cs, hcs⟩ := List.exists_cons_of_ne_nil (padded_ne_nil 4 year.natAbs)
    have hdigit : c.isDigit = true :=
      isDigit_of_mem_padded (by rw [hcs]; exact List.mem_cons_self)
    rw [hcs, List.cons_append] at hread ⊢
    unfold year?
    split
    · rename_i heq
      rw [(List.cons.inj heq).1] at hdigit
      cases hdigit
    · rename_i heq
      rw [(List.cons.inj heq).1] at hdigit
      cases hdigit
    · rw [hread]
      simp only [Option.map_some, Option.some.injEq, Prod.mk.injEq, and_true]
      omega

/-- A month or a day is read to its end. -/
theorem digits?_two {n : Int} (hlow : 0 ≤ n) (hhigh : n < 100) {rest : List Char}
    (hrest : ∀ c ∈ rest.head?, c.isDigit = false) :
    digits? 2 (Text.trimLeft (padded 2 n.natAbs ++ rest)) = some (n.natAbs, rest) := by
  have hlength : (padded 2 n.natAbs).length = 2 := length_padded (by decide) (by omega)
  rw [trimLeft_padded, digits?_append (padded_ne_nil _ _) (fun _ => isDigit_of_mem_padded)
    (Nat.le_of_eq hlength) hrest, natOfDigits_padded]

/-- **A date is read back as itself.** -/
theorem ofText?_text (d : Date) : ofText? d.text = some d := by
  obtain ⟨hmonth, hday⟩ := Civil.bounds_ofDayNumber d.dayNumber
  change 1 ≤ d.civil.month ∧ d.civil.month ≤ 12 at hmonth
  change 1 ≤ d.civil.day ∧ d.civil.day ≤ 31 at hday
  have hhyphen : ∀ rest : List Char, ∀ c ∈ ('-' :: rest).head?, c.isDigit = false := by
    intro rest c hc
    obtain rfl := Option.some.inj hc
    decide
  have hend : ∀ c ∈ ([] : List Char).head?, c.isDigit = false := fun c hc => by cases hc
  have hlast := digits?_two (n := d.civil.day) (by omega) (by omega) hend
  have hmonthRead := digits?_two (n := d.civil.month) (by omega) (by omega)
    (hhyphen (padded 2 d.civil.day.natAbs))
  have hmonthBack : ((d.civil.month.natAbs : Nat) : Int) = d.civil.month := by omega
  have hdayBack : ((d.civil.day.natAbs : Nat) : Int) = d.civil.day := by omega
  rw [List.append_nil] at hlast
  simp only [ofText?, text, String.toList_ofList, ofChars?, List.append_assoc, List.cons_append,
    year?_yearChars d.civil.year (hhyphen _), Option.bind_eq_bind, Option.bind_some,
    afterHyphen?_cons, hmonthRead, hlast]
  have hcivil : (⟨d.civil.year, d.civil.month.natAbs, d.civil.day.natAbs⟩ : Civil) = d.civil := by
    rw [hmonthBack, hdayBack]
  rw [hcivil, ofCivil?_civil]
  rfl

end Date

end TripWatch
