import AfsToken.Text.Decimal

/-!
# Dates and times of day

A civil time is a date of the proleptic Gregorian calendar with a time of day in UTC.  It counts as
seconds since the start of 1970, and a count is turned back into a civil time.  A day has 86400
seconds: there are no leap seconds.
-/

namespace AfsToken.Time

open AfsToken.Text

/-- A date and a time of day.  Nothing keeps the fields within the calendar: see `Civil.IsValid`. -/
structure Civil where
  year : Int
  month : Nat
  day : Nat
  hour : Nat
  minute : Nat
  second : Nat
  deriving DecidableEq, Repr

/-- The leap years of the Gregorian rule, continued to the years before it was made. -/
def isLeapYear (year : Int) : Bool :=
  year % 4 == 0 && (year % 100 != 0 || year % 400 == 0)

/-- The days of a month, and none of a month that does not exist. -/
def daysInMonth (year : Int) (month : Nat) : Nat :=
  if month = 2 then if isLeapYear year then 29 else 28
  else if month ∈ [4, 6, 9, 11] then 30
  else if month ∈ [1, 3, 5, 7, 8, 10, 12] then 31
  else 0

/-- Whether the calendar has the date and the day has the time. -/
def Civil.IsValid (time : Civil) : Prop :=
  1 ≤ time.day ∧ time.day ≤ daysInMonth time.year time.month ∧
    time.hour < 24 ∧ time.minute < 60 ∧ time.second < 60

instance (time : Civil) : Decidable time.IsValid := by
  unfold Civil.IsValid
  infer_instance

/-- The days from the first day of the year 1 to the first day of a year. -/
def daysBeforeYear (year : Int) : Int :=
  let past := year - 1
  365 * past + past / 4 - past / 100 + past / 400

/-- The days of a year before the first day of a month. -/
def daysBeforeMonth (year : Int) (month : Nat) : Nat :=
  (List.range (month - 1)).foldl (fun days index ↦ days + daysInMonth year (index + 1)) 0

/-- The days from the first day of the year 1 to the first day of 1970. -/
def epochDay : Int := 719162

/-- The seconds since the start of 1970. -/
def Civil.toSeconds (time : Civil) : Int :=
  let day := daysBeforeYear time.year + daysBeforeMonth time.year time.month + (time.day - 1)
  86400 * (day - epochDay) + (3600 * time.hour + 60 * time.minute + time.second : Nat)

/-- The year of a day, counted from the first day of the year 1.  The mean length of a year gives it
up to one. -/
def yearOfDay (day : Int) : Int :=
  let year := day * 400 / 146097 + 1
  if day < daysBeforeYear year then year - 1
  else if daysBeforeYear (year + 1) ≤ day then year + 1
  else year

/-- Looks for the month of a day of the year, from `month` on and through at most so many more
months. -/
def monthOfDay (year : Int) : (more month day : Nat) → Nat × Nat
  | 0, month, day => (month, day + 1)
  | more + 1, month, day =>
      if day < daysInMonth year month then (month, day + 1)
      else monthOfDay year more (month + 1) (day - daysInMonth year month)

/-- The civil time at so many seconds since the start of 1970. -/
def Civil.ofSeconds (seconds : Int) : Civil :=
  let day := seconds / 86400 + epochDay
  let year := yearOfDay day
  let (month, dayOfMonth) := monthOfDay year 11 1 (day - daysBeforeYear year).toNat
  let rest := (seconds % 86400).toNat
  { year, month, day := dayOfMonth
    hour := rest / 3600, minute := rest / 60 % 60, second := rest % 60 }

/-- A year in at least four digits, with a sign where four digits do not suffice. -/
def yearText (year : Int) : List Char :=
  let digits := Decimal.padded 4 year.natAbs
  if year < 0 then '-' :: digits else if year ≤ 9999 then digits else '+' :: digits

/-- The form `YYYYMMDDhhmmssZ` of generalized time. -/
def Civil.generalizedText (time : Civil) : String :=
  String.ofList <| yearText time.year ++ Decimal.padded 2 time.month ++
    Decimal.padded 2 time.day ++ Decimal.padded 2 time.hour ++
    Decimal.padded 2 time.minute ++ Decimal.padded 2 time.second ++ ['Z']

/-- The form `MM/DD/YYYY hh:mm:ss` of messages.  Users are shown times in the zone of their host.
Here it is universal time, which is the zone of a host that has set no other. -/
def Civil.displayText (time : Civil) : String :=
  String.ofList <| Decimal.padded 2 time.month ++ ['/'] ++ Decimal.padded 2 time.day ++ ['/'] ++
    yearText time.year ++ [' '] ++ Decimal.padded 2 time.hour ++ [':'] ++
    Decimal.padded 2 time.minute ++ [':'] ++ Decimal.padded 2 time.second

end AfsToken.Time
