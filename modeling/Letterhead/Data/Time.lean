import Letterhead.Text.Quoted

/-
  Points of the calendar and of the day, as data holds them: dates, times of day, and both together
  with or without an offset from universal time.
-/

namespace Letterhead

/-- A day of the calendar. -/
structure Date where
  year : Nat
  month : Nat
  day : Nat
  deriving DecidableEq, Repr

/-- A time of day, to the microsecond. -/
structure DayTime where
  hour : Nat
  minute : Nat
  second : Nat
  microsecond : Nat := 0
  deriving DecidableEq, Repr

/-- An offset from universal time, or that time itself. An offset with a minus sign lies behind it,
and one with any other sign ahead of it. -/
inductive Zone where
  | utc
  | offset (sign : Char) (hours minutes : Nat)
  deriving DecidableEq, Repr

/-- A date, a time of day, or both. -/
inductive Stamp where
  | date (d : Date)
  | time (t : DayTime)
  | dateTime (d : Date) (t : DayTime) (zone : Option Zone)
  deriving DecidableEq, Repr

/-- A number in at least `width` decimal digits. -/
def paddedDecimal (width n : Nat) : Text :=
  let digits := Nat.toDigits 10 n
  List.replicate (width - digits.length) '0' ++ digits

/-! ## Validity -/

/-- Whether a year has a 29th of February. -/
def isLeapYear (year : Nat) : Bool := year % 4 == 0 && (year % 100 != 0 || year % 400 == 0)

/-- The number of days of a month. -/
def daysIn (year month : Nat) : Nat :=
  if month = 2 then if isLeapYear year then 29 else 28
  else if month ∈ [4, 6, 9, 11] then 30
  else 31

/-- Whether a day exists; the calendar goes from the year 1 to the year 9999. -/
def Date.isValid (d : Date) : Bool :=
  1 ≤ d.year && d.year < 10000 && 1 ≤ d.month && d.month ≤ 12 && 1 ≤ d.day && d.day ≤ daysIn d.year d.month

/-- Whether a time of day exists; there is no second 60. -/
def DayTime.isValid (t : DayTime) : Bool := t.hour < 24 && t.minute < 60 && t.second < 60

/-! ## Standard text -/

def Date.text (d : Date) : Text :=
  paddedDecimal 4 d.year ++ '-' :: paddedDecimal 2 d.month ++ '-' :: paddedDecimal 2 d.day

/-- The time of day, with six decimal places when it is not a whole second. -/
def DayTime.text (t : DayTime) : Text :=
  paddedDecimal 2 t.hour ++ ':' :: paddedDecimal 2 t.minute ++ ':' :: paddedDecimal 2 t.second ++
    if t.microsecond = 0 then [] else '.' :: paddedDecimal 6 t.microsecond

/-- The distance of a zone from universal time, in seconds. -/
def Zone.seconds : Zone → Int
  | utc => 0
  | offset sign hours minutes =>
    let s : Int := hours * 3600 + minutes * 60
    if sign = '-' then -s else s

def Zone.text (z : Zone) : Text :=
  let minutes := z.seconds.natAbs / 60
  (if z.seconds < 0 then '-' else '+') :: paddedDecimal 2 (minutes / 60) ++
    ':' :: paddedDecimal 2 (minutes % 60)

/-- The standard text of a stamp, with `between` between date and time. -/
def Stamp.textWith (between : Char) : Stamp → Text
  | date d => d.text
  | time t => t.text
  | dateTime d t zone => d.text ++ between :: t.text ++ (zone.map Zone.text).getD []

def Stamp.text (s : Stamp) : Text := s.textWith 'T'

/-! ## Descriptions -/

/-- Arguments between brackets. -/
def called (name : String) (arguments : List Text) : Text :=
  name.toList ++ '(' :: Text.joinWith ", ".toList arguments ++ [')']

def numbers (ns : List Nat) : List Text := ns.map (Nat.toDigits 10)

/-- The seconds of a time of day, as far as they are not zero. -/
def DayTime.secondParts (t : DayTime) : List Nat :=
  if t.microsecond ≠ 0 then [t.second, t.microsecond] else if t.second ≠ 0 then [t.second] else []

/-- A distance in time, as days and the seconds of the last day. -/
def describeSeconds (s : Int) : Text :=
  let days := Int.fdiv s 86400
  let seconds := (Int.fmod s 86400).toNat
  let dayPart := if days = 0 then [] else [s!"days={days}".toList]
  let secondPart := if seconds = 0 then [] else [s!"seconds={seconds}".toList]
  called "datetime.timedelta" (if dayPart ++ secondPart = [] then [['0']] else dayPart ++ secondPart)

/-- The name of a zone, which is an offset as it was written. -/
def Zone.name : Zone → Text
  | utc => "UTC".toList
  | offset sign hours minutes =>
    sign :: paddedDecimal 2 hours ++ ':' :: paddedDecimal 2 minutes

def Zone.describe (z : Zone) : Text :=
  called "datetime.timezone" [describeSeconds z.seconds, Text.quoted z.name]

/-- The description of a stamp, which names its parts. -/
def Stamp.describe : Stamp → Text
  | date d => called "datetime.date" (numbers [d.year, d.month, d.day])
  | time t => called "datetime.time" (numbers ([t.hour, t.minute] ++ t.secondParts))
  | dateTime d t zone =>
    called "datetime.datetime"
      (numbers ([d.year, d.month, d.day, t.hour, t.minute] ++ t.secondParts) ++
        (zone.map fun z => "tzinfo=".toList ++ z.describe).toList)

end Letterhead
