import QuantumAnalytics.Foundations.PyText

/-!
# Dates and times

Calendar dates, instants, ISO 8601 text and the equality of Python's
`datetime`: two values with UTC offsets are equal when they denote the same
instant, whatever their offsets; a value without an offset never equals one
with an offset.
-/

namespace QuantumAnalytics

/-! ### The proleptic Gregorian calendar -/

namespace Calendar

/-- `_is_leap`. -/
def isLeap (year : Nat) : Bool :=
  year % 4 == 0 && (year % 100 != 0 || year % 400 == 0)

/-- `_days_in_month`. -/
def daysInMonth (year month : Nat) : Nat :=
  if month = 2 then if isLeap year then 29 else 28
  else if month = 4 ∨ month = 6 ∨ month = 9 ∨ month = 11 then 30
  else 31

/-- `_days_before_month`. -/
def daysBeforeMonth (year month : Nat) : Nat :=
  ((List.range (month - 1)).map fun earlier => daysInMonth year (earlier + 1)).sum

/-- `_ymd2ord`: 1 January of year 1 is day 1. -/
def toOrdinal (year month day : Nat) : Nat :=
  let before := year - 1
  before * 365 + before / 4 - before / 100 + before / 400 + daysBeforeMonth year month + day

/-- `_ord2ymd`. -/
def ofOrdinal (ordinal : Nat) : Nat × Nat × Nat :=
  let n := ordinal - 1
  let n400 := n / 146097
  let n := n % 146097
  let n100 := n / 36524
  let n := n % 36524
  let n4 := n / 1461
  let n := n % 1461
  let n1 := n / 365
  let n := n % 365
  let year := n400 * 400 + 1 + n100 * 100 + n4 * 4 + n1
  if n1 = 4 ∨ n100 = 4 then (year - 1, 12, 31)
  else
    let month := (n + 50) / 32
    if n < daysBeforeMonth year month then
      (year, month - 1, n - daysBeforeMonth year (month - 1) + 1)
    else (year, month, n - daysBeforeMonth year month + 1)

/-- `_isoweek1monday`: the ordinal of the Monday of ISO week 1. -/
def isoWeek1Monday (year : Nat) : Nat :=
  let firstDay := toOrdinal year 1 1
  let firstWeekday := (firstDay + 6) % 7
  let monday := firstDay - firstWeekday
  if 3 < firstWeekday then monday + 7 else monday

/-- `_isoweek_to_gregorian`. -/
def ofIsoWeek (year week day : Nat) : Option (Nat × Nat × Nat) :=
  let firstWeekday := toOrdinal year 1 1 % 7
  let longYear := firstWeekday = 4 ∨ firstWeekday = 3 ∧ isLeap year = true
  if year < 1 ∨ 9999 < year then none
  else if ¬(0 < week ∧ week < 53 ∨ week = 53 ∧ longYear) then none
  else if ¬(0 < day ∧ day < 8) then none
  else some (ofOrdinal (isoWeek1Monday year + (week - 1) * 7 + (day - 1)))

end Calendar

/-- A `datetime`: calendar fields and, when it is aware, its UTC offset in
microseconds. -/
structure DateTime where
  /-- Year, 1 to 9999. -/
  year : Nat
  /-- Month, 1 to 12. -/
  month : Nat
  /-- Day of the month. -/
  day : Nat
  /-- Hour, 0 to 23. -/
  hour : Nat
  /-- Minute, 0 to 59. -/
  minute : Nat
  /-- Second, 0 to 59. -/
  second : Nat
  /-- Microsecond, 0 to 999999. -/
  microsecond : Nat
  /-- `utcoffset()` in microseconds; `none` for a naive value. -/
  utcoffset : Option Int
  /-- The calendar date exists. -/
  validDate : 1 ≤ year ∧ year ≤ 9999 ∧ 1 ≤ month ∧ month ≤ 12 ∧
    1 ≤ day ∧ day ≤ Calendar.daysInMonth year month
  /-- The time of day exists. -/
  validTime : hour < 24 ∧ minute < 60 ∧ second < 60 ∧ microsecond < 1000000

namespace DateTime

/-- Microseconds on the local clock since the start of the calendar. -/
def localTicks (time : DateTime) : Int :=
  (((Calendar.toOrdinal time.year time.month time.day * 24 + time.hour) * 60 + time.minute) * 60 +
    time.second) * 1000000 + time.microsecond

/-- The value has a UTC offset. -/
def isAware (time : DateTime) : Bool := time.utcoffset.isSome

/-- Microseconds since the start of the calendar, in UTC when aware. -/
def instant (time : DateTime) : Int :=
  time.localTicks - time.utcoffset.getD 0

/-- `left == right`. -/
def pyEq (left right : DateTime) : Bool :=
  left.isAware == right.isAware && left.instant == right.instant

@[simp] theorem pyEq_refl (time : DateTime) : pyEq time time = true := by
  simp [pyEq]

/-- Decimal text padded with zeros on the left. -/
def padded (width n : Nat) : List Char :=
  let digits := Nat.toDigits 10 n
  List.replicate (width - digits.length) '0' ++ digits

/-- The offset part of `isoformat`. -/
def offsetText : Option Int → List Char
  | none => []
  | some offset =>
      let ticks := offset.natAbs
      let seconds := ticks / 1000000
      let tail :=
        if ticks % 1000000 ≠ 0 then
          ':' :: padded 2 (seconds % 60) ++ '.' :: padded 6 (ticks % 1000000)
        else if seconds % 60 ≠ 0 then ':' :: padded 2 (seconds % 60)
        else []
      (if offset < 0 then '-' else '+') ::
        padded 2 (seconds / 3600) ++ ':' :: padded 2 (seconds / 60 % 60) ++ tail

/-- `time.isoformat()`. -/
def isoformat (time : DateTime) : String :=
  String.ofList <|
    padded 4 time.year ++ '-' :: padded 2 time.month ++ '-' :: padded 2 time.day ++
      'T' :: padded 2 time.hour ++ ':' :: padded 2 time.minute ++ ':' :: padded 2 time.second ++
      (if time.microsecond = 0 then [] else '.' :: padded 6 time.microsecond) ++
      offsetText time.utcoffset

/-! ### Reading ISO 8601 text -/

/-- Exactly `width` ASCII digits at the start of a text. -/
def digits? (width : Nat) (text : List Char) : Option Nat :=
  let taken := text.take width
  if taken.length = width ∧ taken.all Char.isDigit = true ∧ 0 < width then
    some (taken.foldl (fun total c => 10 * total + (c.toNat - '0'.toNat)) 0)
  else none

/-- `_find_isoformat_datetime_separator`. -/
def separatorIndex (text : List Char) : Option Nat :=
  if text.length = 7 then some 7
  else if text[4]? = some '-' then
    if text[5]? = some 'W' then
      if 8 < text.length ∧ text[8]? = some '-' then
        if text.length = 9 then none
        else if (text[10]?.any Char.isDigit) = true then some 8
        else some 10
      else some 8
    else some 10
  else if text[4]? = some 'W' then
    let index := 7 + ((text.drop 7).takeWhile Char.isDigit).length
    if index < 9 then some index
    else if index % 2 = 0 then some 7
    else some 8
  else some 8

/-- `_parse_isoformat_date`. -/
def parseDate (text : List Char) : Option (Nat × Nat × Nat) := do
  let year ← digits? 4 text
  let dashed := text[4]? = some '-'
  let rest := text.drop (if dashed then 5 else 4)
  if rest.head? = some 'W' then
    let week ← digits? 2 (rest.drop 1)
    match rest.drop 3 with
    | [] => Calendar.ofIsoWeek year week 1
    | '-' :: day => if dashed then Calendar.ofIsoWeek year week (← digits? 1 day) else none
    | day => if dashed then none else Calendar.ofIsoWeek year week (← digits? 1 day)
  else
    let month ← digits? 2 rest
    match rest.drop 2 with
    | '-' :: day => if dashed ∧ day.length = 2 then return (year, month, ← digits? 2 day) else none
    | day => if ¬dashed ∧ day.length = 2 then return (year, month, ← digits? 2 day) else none

/-- The fraction of a second, cut after six digits. -/
def parseFraction : List Char → Option Nat
  | [] => some 0
  | mark :: digits =>
      if (mark = '.' ∨ mark = ',') ∧ digits.all Char.isDigit = true then do
        let width := min 6 digits.length
        return (← digits? width digits) * 10 ^ (6 - width)
      else none

/-- `_parse_hh_mm_ss_ff`: hour, minute, second and microsecond. -/
def parseClock (text : List Char) : Option (Nat × Nat × Nat × Nat) := do
  let hour ← digits? 2 text
  match text.drop 2 with
  | [] => return (hour, 0, 0, 0)
  | ':' :: rest =>
      let minute ← digits? 2 rest
      match rest.drop 2 with
      | [] => return (hour, minute, 0, 0)
      | ':' :: rest => return (hour, minute, ← digits? 2 rest, ← parseFraction (rest.drop 2))
      | _ => none
  | rest =>
      let minute ← digits? 2 rest
      match rest.drop 2 with
      | [] => return (hour, minute, 0, 0)
      | rest => return (hour, minute, ← digits? 2 rest, ← parseFraction (rest.drop 2))

/-- A UTC offset after its sign, strictly less than a day. -/
def parseOffset (negative : Bool) (text : List Char) : Option Int := do
  if text.length = 0 ∨ text.length = 1 ∨ text.length = 3 then none
  else
    let (hour, minute, second, microsecond) ← parseClock text
    let ticks := ((hour * 60 + minute) * 60 + second) * 1000000 + microsecond
    -- An offset of less than a second is read as UTC.
    if ticks < 1000000 then some 0
    else if ticks < 24 * 60 * 60 * 1000000 then
      some (if negative then -(ticks : Int) else ticks)
    else none

/-- `_parse_isoformat_time`: the clock and the offset. -/
def parseTime (text : List Char) : Option ((Nat × Nat × Nat × Nat) × Option Int) := do
  let clockOf := fun mark : Char => text.takeWhile fun c => c ≠ mark
  let restOf := fun mark : Char => (text.dropWhile fun c => c ≠ mark).drop 1
  if '-' ∈ text then
    return (← parseClock (clockOf '-'), some (← parseOffset true (restOf '-')))
  else if '+' ∈ text then
    return (← parseClock (clockOf '+'), some (← parseOffset false (restOf '+')))
  else if text.getLast? = some 'Z' ∧ (text.filter fun c => c = 'Z').length = 1 then
    return (← parseClock (clockOf 'Z'), some 0)
  else
    return (← parseClock text, none)

/-- The `datetime` constructor. -/
def make? (date : Nat × Nat × Nat) (clock : Nat × Nat × Nat × Nat) (utcoffset : Option Int) :
    Option DateTime :=
  let (year, month, day) := date
  let (hour, minute, second, microsecond) := clock
  if validDate : 1 ≤ year ∧ year ≤ 9999 ∧ 1 ≤ month ∧ month ≤ 12 ∧
      1 ≤ day ∧ day ≤ Calendar.daysInMonth year month then
    if validTime : hour < 24 ∧ minute < 60 ∧ second < 60 ∧ microsecond < 1000000 then
      some { year, month, day, hour, minute, second, microsecond, utcoffset, validDate, validTime }
    else none
  else none

/-- `datetime.fromisoformat(text)`; `none` is a `ValueError`. -/
def fromIsoFormat? (text : String) : Option DateTime := do
  let chars := text.toList
  if chars.length < 7 then none
  else
    let separator ← separatorIndex chars
    let date ← parseDate (chars.take separator)
    if chars.length ≤ separator then make? date (0, 0, 0, 0) none
    else
      let (clock, utcoffset) ← parseTime (chars.drop (separator + 1))
      make? date clock utcoffset

example : (fromIsoFormat? "2026-06-01T10:05:00+00:00").map isoformat =
    some "2026-06-01T10:05:00+00:00" := by decide

/-- The last day of the calendar. -/
def maxOrdinal : Int := 3652059

/-- `time.astimezone(UTC)` of an aware value; `none` is an `OverflowError`. -/
def toUtc? (time : DateTime) : Option DateTime :=
  let ticksPerDay := 86400000000
  let ordinal := time.instant / ticksPerDay
  let ticks := (time.instant % ticksPerDay).toNat
  if 1 ≤ ordinal ∧ ordinal ≤ maxOrdinal then
    make? (Calendar.ofOrdinal ordinal.toNat)
      (ticks / 3600000000, ticks / 60000000 % 60, ticks / 1000000 % 60, ticks % 1000000) (some 0)
  else none

example : ((fromIsoFormat? "2026-06-01T01:05:00+02:30").bind toUtc?).map isoformat =
    some "2026-05-31T22:35:00+00:00" := by decide

/-- A time in UTC is aware. -/
theorem isAware_of_toUtc?
    {time utc : DateTime}
    (converted : time.toUtc? = some utc) : utc.isAware = true := by
  simp only [toUtc?, make?] at converted
  split at converted
  · split at converted
    · split at converted
      · obtain rfl := Option.some.inj converted
        rfl
      · exact absurd converted (by simp)
    · exact absurd converted (by simp)
  · exact absurd converted (by simp)

end DateTime
end QuantumAnalytics
