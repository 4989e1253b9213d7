/-
Module: BairuiPlatform.Clock
Purpose: Instants as PostgreSQL stores them and as JavaScript reads them.
Trusted boundary: none
Main exports: dateNow, dateParse, dateParseColumn, columnTime,
  ofMillis, isoString
-/

namespace BairuiPlatform

/-!
An instant is a `timestamptz` value, a number of microseconds since the epoch.
The text of an instant that a caller supplies is the value it denotes.
-/

/-- `Date.now()`, in milliseconds. -/
def dateNow (now : Nat) : Nat := now / 1000

/-- `Date.parse` of the text of an instant, in milliseconds. -/
def dateParse (instant : Nat) : Nat := instant / 1000

/-- `Date.parse` of a column. The driver returns the column as a `Date`, and
`Date.parse` reads the text form of that `Date`, which ends at whole seconds. -/
def dateParseColumn (column : Nat) : Nat := column / 1000000 * 1000

/-- `getTime()` of a column that the driver returns as a `Date`. -/
def columnTime (column : Nat) : Nat := column / 1000

/-- The column value of a `Date` with this time. -/
def ofMillis (millis : Nat) : Nat := millis * 1000

/-- `new Date().toISOString()` as an instant. -/
def isoNow (now : Nat) : Nat := ofMillis (dateNow now)

theorem dateParseColumn_le (column : Nat) :
    ofMillis (dateParseColumn column) ≤ column := by
  unfold dateParseColumn ofMillis
  omega

/-- A column whose whole seconds lie after a clock reading lies after it too. -/
theorem lt_of_dateNow_lt_dateParseColumn {now column : Nat}
    (later : dateNow now < dateParseColumn column) : now < column := by
  unfold dateNow dateParseColumn at later
  omega

/-- A column whose milliseconds lie after a clock reading lies after it too. -/
theorem lt_of_dateNow_lt_columnTime {now column : Nat}
    (later : dateNow now < columnTime column) : now < column := by
  unfold dateNow columnTime at later
  omega

/-- Decimal digits, padded with zeros on the left. -/
def padded (width number : Nat) : String :=
  let digits := (toString number).toList
  String.ofList (List.replicate (width - digits.length) '0' ++ digits)

/-- Year, month and day of a day counted from the epoch. -/
def civilDate (days : Nat) : Nat × Nat × Nat :=
  let shifted := days + 719468
  let era := shifted / 146097
  let dayOfEra := shifted % 146097
  let yearOfEra :=
    (dayOfEra - dayOfEra / 1460 + dayOfEra / 36524 - dayOfEra / 146096) / 365
  let dayOfYear := dayOfEra - (365 * yearOfEra + yearOfEra / 4 - yearOfEra / 100)
  let shiftedMonth := (5 * dayOfYear + 2) / 153
  let day := dayOfYear - (153 * shiftedMonth + 2) / 5 + 1
  let month := if shiftedMonth < 10 then shiftedMonth + 3 else shiftedMonth - 9
  let year := yearOfEra + era * 400 + if month ≤ 2 then 1 else 0
  (year, month, day)

/-- `toISOString()` of an instant, to the millisecond. -/
def isoString (instant : Nat) : String :=
  let millis := instant / 1000
  let seconds := millis / 1000
  let (year, month, day) := civilDate (seconds / 86400)
  let yearText := if year < 10000 then padded 4 year else "+" ++ padded 6 year
  yearText ++ "-" ++ padded 2 month ++ "-" ++ padded 2 day ++ "T" ++
    padded 2 (seconds / 3600 % 24) ++ ":" ++ padded 2 (seconds / 60 % 60) ++ ":" ++
    padded 2 (seconds % 60) ++ "." ++ padded 3 (millis % 1000) ++ "Z"

example : isoString 1784332800123456 = "2026-07-18T00:00:00.123Z" := by decide

end BairuiPlatform
