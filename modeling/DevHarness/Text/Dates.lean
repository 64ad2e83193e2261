import DevHarness.Text.JsString

/-!
# Dates

A `Date` is a number of milliseconds since 1970; a column of Postgres counts
microseconds and is read as a `Date`, without the rest.
-/

namespace JsText

/-- A column as a `Date`. -/
def millis (microseconds : ℤ) : ℤ :=
  microseconds / 1000

/-- A date of the proleptic Gregorian calendar. -/
structure CivilDate where
  year : ℤ
  month : ℕ
  day : ℕ

/-- The date that many days after 1970-01-01.  Years begin in March here, so that a leap
day is the last of its year; an era has 400 years. -/
def civilDate (days : ℤ) : CivilDate :=
  let shifted := days + 719468
  let era := shifted / 146097
  let dayOfEra := (shifted % 146097).toNat
  let yearOfEra :=
    (dayOfEra - dayOfEra / 1460 + dayOfEra / 36524 - dayOfEra / 146096) / 365
  let dayOfYear := dayOfEra - (365 * yearOfEra + yearOfEra / 4 - yearOfEra / 100)
  let monthFromMarch := (5 * dayOfYear + 2) / 153
  let month := if monthFromMarch < 10 then monthFromMarch + 3 else monthFromMarch - 9
  { year := yearOfEra + era * 400 + (if month ≤ 2 then 1 else 0)
    month := month
    day := dayOfYear - (153 * monthFromMarch + 2) / 5 + 1 }

/-- `String(value).padStart(width, "0")`. -/
def padded (width value : ℕ) : JsString :=
  let text := js (toString value)
  List.replicate (width - text.length) 0x30 ++ text

def isoYear (year : ℤ) : JsString :=
  if 0 ≤ year ∧ year ≤ 9999 then padded 4 year.toNat
  else js (if year < 0 then "-" else "+") ++ padded 6 year.natAbs

/-- `Date.prototype.toISOString`. -/
def toISOString (date : ℤ) : JsString :=
  let civil := civilDate (date / 86400000)
  let time := (date % 86400000).toNat
  isoYear civil.year ++ js "-" ++ padded 2 civil.month ++ js "-" ++ padded 2 civil.day ++
    js "T" ++ padded 2 (time / 3600000) ++ js ":" ++ padded 2 (time / 60000 % 60) ++ js ":" ++
    padded 2 (time / 1000 % 60) ++ js "." ++ padded 3 (time % 1000) ++ js "Z"

example : toISOString 951782400000 = js "2000-02-29T00:00:00.000Z" := by
  decide +kernel

end JsText
