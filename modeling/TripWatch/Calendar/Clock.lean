import TripWatch.Text.Space
import TripWatch.Number.Literal
import TripWatch.Calendar.Date

/-!
# Times of day

A time of day counts milliseconds after midnight. It is read from hours and minutes, and each way
in which such a text can be wrong is a fault of its own.

## Main definitions

* `TimeOfDay` — milliseconds after midnight
* `TimeOfDay.ofText` — reads hours and minutes; `TimeFault` says why it could not
* `TimeOfDay.text`, `TimeOfDay.shortText`, `TimeOfDay.halfDayText` — `17:05:00`, `17:05`, `5:05 PM`
-/

namespace TripWatch

/-- A time of day. -/
structure TimeOfDay where
  /-- Milliseconds after midnight. -/
  millis : Nat
  /-- A day has 24 hours. -/
  lt_day : millis < 86400000
  deriving DecidableEq

/-- Why a text is no time of day. -/
inductive TimeFault where
  /-- Something else stands where a digit or the colon should. -/
  | invalid
  /-- The text ends too early. -/
  | tooShort
  /-- The text goes on after the minutes. -/
  | tooLong
  /-- The hour or the minute is too large. -/
  | outOfRange
  deriving DecidableEq, Repr

/-- The wording of a fault. -/
def TimeFault.message : TimeFault → String
  | invalid => "input contains invalid characters"
  | tooShort => "premature end of input"
  | tooLong => "trailing input"
  | outOfRange => "input is out of range"

namespace TimeOfDay

/-- A number of one or two digits after white space, below a bound. -/
def number (bound : Nat) (cs : List Char) : Except TimeFault (Fin bound × List Char) :=
  let cs := Text.trimLeft cs
  let ds := (cs.take 2).takeWhile Char.isDigit
  if cs = [] then .error .tooShort
  else if ds = [] then .error .invalid
  else if h : natOfDigits ds < bound then .ok (⟨natOfDigits ds, h⟩, cs.drop ds.length)
  else .error .outOfRange

/-- The time of day at a full minute. -/
def ofHourMinute (hour : Fin 24) (minute : Fin 60) : TimeOfDay where
  millis := hour.val * 3600000 + minute.val * 60000
  lt_day := by omega

/-- Reads hours, a colon and minutes. -/
def ofChars (cs : List Char) : Except TimeFault TimeOfDay := do
  let (hour, cs) ← number 24 cs
  match cs with
  | [] => .error .tooShort
  | ':' :: cs => do
    let (minute, cs) ← number 60 cs
    if cs = [] then .ok (ofHourMinute hour minute) else .error .tooLong
  | _ => .error .invalid

/-- Reads hours, a colon and minutes, with white space around them passed over. -/
def ofText (s : String) : Except TimeFault TimeOfDay := ofChars (Text.trim s.toList)

/-- Full hours after midnight. -/
def hour (t : TimeOfDay) : Nat := t.millis / 3600000

/-- Full minutes after the full hour. -/
def minute (t : TimeOfDay) : Nat := t.millis / 60000 % 60

/-- Full seconds after the full minute. -/
def second (t : TimeOfDay) : Nat := t.millis / 1000 % 60

/-- Hours and minutes, as in `17:05`. -/
def shortChars (t : TimeOfDay) : List Char :=
  Date.padded 2 t.hour ++ ':' :: Date.padded 2 t.minute

/-- Hours and minutes, as in `17:05`. -/
def shortText (t : TimeOfDay) : String := String.ofList t.shortChars

/-- Hours, minutes and seconds, as in `17:05:00`. -/
def text (t : TimeOfDay) : String :=
  String.ofList (t.shortChars ++ ':' :: Date.padded 2 t.second)

/-- Hours from 1 to 12 and minutes, as in `5:05 PM`. -/
def halfDayText (t : TimeOfDay) : String :=
  let hour := (t.hour + 11) % 12 + 1
  let half := if t.hour < 12 then " AM" else " PM"
  String.ofList (Nat.toDigits 10 hour ++ ':' :: Date.padded 2 t.minute) ++ half

end TimeOfDay

end TripWatch
