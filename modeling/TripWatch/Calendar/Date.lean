import TripWatch.Text.Space
import TripWatch.Number.Literal

/-!
# Dates

A date of the proleptic Gregorian calendar is its number of days after 1970-01-01, which makes
succession, order and the day of the week plain arithmetic. Year, month and day are read off that
number, and a triple names a date exactly when it is what is read off its own day number, so no
table of month lengths is needed.

## Main definitions

* `Weekday` — the days of the week, `Weekday.ofIndex` counts from Monday
* `Date` — a day number within the years that can be written
* `Date.civil`, `Date.ofCivil?` — year, month and day of a date, and back
* `Date.text`, `Date.ofText?` — the written form, as in `2024-06-17`, and its reading
-/

namespace TripWatch

/-- A day of the week. -/
inductive Weekday where
  | monday | tuesday | wednesday | thursday | friday | saturday | sunday
  deriving DecidableEq, Repr

namespace Weekday

/-- The day of the week with a given number; Monday has number 0 and the numbers go round. -/
def ofIndex (n : Nat) : Weekday :=
  match n % 7 with
  | 0 => monday
  | 1 => tuesday
  | 2 => wednesday
  | 3 => thursday
  | 4 => friday
  | 5 => saturday
  | _ => sunday

/-- The number of a day of the week, from Monday. -/
def index : Weekday → Nat
  | monday => 0
  | tuesday => 1
  | wednesday => 2
  | thursday => 3
  | friday => 4
  | saturday => 5
  | sunday => 6

/-- The English name. -/
def name : Weekday → String
  | monday => "Monday"
  | tuesday => "Tuesday"
  | wednesday => "Wednesday"
  | thursday => "Thursday"
  | friday => "Friday"
  | saturday => "Saturday"
  | sunday => "Sunday"

theorem ofIndex_index (w : Weekday) : ofIndex w.index = w := by cases w <;> rfl

end Weekday

/-! ### Year, month and day -/

/-- A year, a month from 1 and a day of the month from 1. -/
structure Civil where
  /-- The year; there is a year 0. -/
  year : Int
  /-- The month, January being 1. -/
  month : Int
  /-- The day of the month. -/
  day : Int
  deriving DecidableEq, Repr

namespace Civil

/-- The number of days from 0000-03-01 to 1970-01-01. -/
def epochShift : Int := 719468

/-- The number of days after 1970-01-01. Years are counted from March, so that the leap day is the
last day of a year and months before it have fixed lengths. -/
def dayNumber (c : Civil) : Int :=
  let marchYear := if c.month ≤ 2 then c.year - 1 else c.year
  let marchMonth := if c.month ≤ 2 then c.month + 9 else c.month - 3
  let dayOfYear := (153 * marchMonth + 2) / 5 + c.day - 1
  let era := marchYear / 400
  let yearOfEra := marchYear % 400
  let dayOfEra := yearOfEra * 365 + yearOfEra / 4 - yearOfEra / 100 + dayOfYear
  era * 146097 + dayOfEra - epochShift

/-- The year, month and day of a day number. An era is the 400 years after which the calendar
repeats. -/
def ofDayNumber (n : Int) : Civil :=
  let shifted := n + epochShift
  let era := shifted / 146097
  let dayOfEra := shifted % 146097
  let yearOfEra :=
    (dayOfEra - dayOfEra / 1460 + dayOfEra / 36524 - dayOfEra / 146096) / 365
  let dayOfYear := dayOfEra - (365 * yearOfEra + yearOfEra / 4 - yearOfEra / 100)
  let marchMonth := (5 * dayOfYear + 2) / 153
  let day := dayOfYear - (153 * marchMonth + 2) / 5 + 1
  let month := if marchMonth < 10 then marchMonth + 3 else marchMonth - 9
  let marchYear := yearOfEra + era * 400
  ⟨if month ≤ 2 then marchYear + 1 else marchYear, month, day⟩

/-- The English name of the month. -/
def monthName (c : Civil) : String :=
  match c.month with
  | 1 => "January"
  | 2 => "February"
  | 3 => "March"
  | 4 => "April"
  | 5 => "May"
  | 6 => "June"
  | 7 => "July"
  | 8 => "August"
  | 9 => "September"
  | 10 => "October"
  | 11 => "November"
  | _ => "December"

end Civil

/-! ### Dates -/

/-- A date, by the number of days after 1970-01-01. -/
structure Date where
  /-- Days after 1970-01-01. -/
  dayNumber : Int
  /-- No date is before -262143-01-01. -/
  first_le : Civil.dayNumber ⟨-262143, 1, 1⟩ ≤ dayNumber
  /-- No date is after +262142-12-31. -/
  le_last : dayNumber ≤ Civil.dayNumber ⟨262142, 12, 31⟩
  deriving DecidableEq

namespace Date

/-- The date with a given day number, if it is in range. -/
def ofDayNumber? (n : Int) : Option Date :=
  if first : Civil.dayNumber ⟨-262143, 1, 1⟩ ≤ n then
    if last : n ≤ Civil.dayNumber ⟨262142, 12, 31⟩ then some ⟨n, first, last⟩ else none
  else none

/-- The date some days later, if it is in range. -/
def plusDays? (d : Date) (days : Nat) : Option Date := ofDayNumber? (d.dayNumber + days)

/-- Year, month and day. -/
def civil (d : Date) : Civil := Civil.ofDayNumber d.dayNumber

/-- The date with a given year, month and day, if the calendar has it. -/
def ofCivil? (c : Civil) : Option Date :=
  match ofDayNumber? c.dayNumber with
  | some d => if d.civil = c then some d else none
  | none => none

/-- The day of the week; 1970-01-01 was a Thursday. -/
def weekday (d : Date) : Weekday := Weekday.ofIndex ((d.dayNumber + 3) % 7).toNat

/-! ### Text -/

/-- Digits with zeros in front up to a width. -/
def padded (width n : Nat) : List Char :=
  let digits := Nat.toDigits 10 n
  List.replicate (width - digits.length) '0' ++ digits

/-- The year with at least four digits, and with a sign outside of 0 to 9999. -/
def yearChars (year : Int) : List Char :=
  if year < 0 then '-' :: padded 4 year.natAbs
  else if 9999 < year then '+' :: padded 4 year.natAbs
  else padded 4 year.natAbs

/-- The written form. -/
def text (d : Date) : String :=
  let c := d.civil
  String.ofList
    (yearChars c.year ++ '-' :: padded 2 c.month.natAbs ++ '-' :: padded 2 c.day.natAbs)

/-- The form for sentences, as in `Monday, June 17`. -/
def sentenceText (d : Date) : String :=
  d.weekday.name ++ ", " ++ d.civil.monthName ++ " " ++
    String.ofList (Nat.toDigits 10 d.civil.day.natAbs)

/-- A number of at most `most` digits, and at least one, at the start of a text. -/
def digits? (most : Nat) (cs : List Char) : Option (Nat × List Char) :=
  let ds := (cs.take most).takeWhile Char.isDigit
  if ds = [] then none else some (natOfDigits ds, cs.drop ds.length)

/-- A year: four digits at most without a sign, and any number of digits with one. -/
def year? : List Char → Option (Int × List Char)
  | '-' :: cs => (digits? cs.length cs).map fun (n, rest) => (-(n : Int), rest)
  | '+' :: cs => (digits? cs.length cs).map fun (n, rest) => ((n : Int), rest)
  | cs => (digits? 4 cs).map fun (n, rest) => ((n : Int), rest)

/-- What follows a hyphen, with white space before it passed over. -/
def afterHyphen? (cs : List Char) : Option (List Char) :=
  match Text.trimLeft cs with
  | '-' :: rest => some rest
  | _ => none

/-- Reads a date. White space may stand before each number, before each hyphen and at the end, and
month and day have one or two digits. -/
def ofChars? (cs : List Char) : Option Date := do
  let (year, cs) ← year? (Text.trimLeft cs)
  let cs ← afterHyphen? cs
  let (month, cs) ← digits? 2 (Text.trimLeft cs)
  let cs ← afterHyphen? cs
  let (day, cs) ← digits? 2 (Text.trimLeft cs)
  if Text.trimLeft cs = [] then ofCivil? ⟨year, month, day⟩ else none

/-- Reads a date. -/
def ofText? (s : String) : Option Date := ofChars? s.toList

end Date

end TripWatch
