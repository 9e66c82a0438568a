import PropertyTyping.Text

/-! Days of the calendar and times on them. A document may spell one where a text is expected, so
what can be wrong with it has to be told apart. -/

namespace PropertyTyping

/-- A time of day. The offset from universal time, where it is known, is in minutes. -/
structure Clock where
  hour : Nat
  minute : Nat
  second : Nat
  microsecond : Nat
  offset : Option Int
  deriving DecidableEq

/-- A day, or a time on that day. -/
structure Moment where
  year : Nat
  month : Nat
  day : Nat
  clock : Option Clock
  deriving DecidableEq

namespace Moment

/-- The part of a moment that is out of range. -/
inductive Fault where
  | offset (minutes : Int)
  | year (n : Nat)
  | month
  | day
  | hour
  | minute
  | second
  deriving DecidableEq

/-- A span of minutes as whole days and the seconds beyond them, which are never negative. Of the
two only what is not zero is shown. -/
def span (minutes : Int) : Text :=
  let days := minutes.fdiv 1440
  let seconds := (minutes.fmod 1440) * 60
  let parts : List Text := [("days=", days), ("seconds=", seconds)].filterMap fun (name, n) =>
    if n = 0 then none else some ((name : Text) ++ Text.ofInt n)
  let shown : Text := if parts.isEmpty then ("0" : Text) else Text.join ", " parts
  ("datetime.timedelta(" : Text) ++ shown ++ ")"

def Fault.message : Fault → Text
  | .offset minutes =>
    ("offset must be a timedelta strictly between -timedelta(hours=24) and timedelta(hours=24), not "
      : Text) ++ span minutes ++ "."
  | .year n => ("year " : Text) ++ Text.ofNat n ++ " is out of range"
  | .month => "month must be in 1..12"
  | .day => "day is out of range for month"
  | .hour => "hour must be in 0..23"
  | .minute => "minute must be in 0..59"
  | .second => "second must be in 0..59"

def isLeap (year : Nat) : Bool :=
  year % 4 == 0 && year % 100 != 0 || year % 400 == 0

def daysIn (year month : Nat) : Nat :=
  if month = 2 then (if isLeap year then 29 else 28)
  else if month = 4 ∨ month = 6 ∨ month = 9 ∨ month = 11 then 30
  else 31

/-- The first part of a time that is out of range. The offset must be less than a day. -/
def clockFault? (c : Clock) : Option Fault :=
  if 23 < c.hour then some .hour
  else if 59 < c.minute then some .minute
  else if 59 < c.second then some .second
  else none

/-- The first part of a moment that is out of range, the offset before all others. -/
def fault? (m : Moment) : Option Fault :=
  match m.clock.bind (·.offset) with
  | some minutes => if 1440 ≤ minutes.natAbs then some (.offset minutes) else dayFault?
  | none => dayFault?
where
  dayFault? : Option Fault :=
    if m.year = 0 ∨ 9999 < m.year then some (.year m.year)
    else if m.month = 0 ∨ 12 < m.month then some .month
    else if m.day = 0 ∨ daysIn m.year m.month < m.day then some .day
    else m.clock.bind clockFault?

/-- The moment, if all its parts are in range. -/
def check (m : Moment) : Except Fault Moment :=
  match m.fault? with
  | some f => .error f
  | none => .ok m

/-- A number in decimal digits, filled with zeros up to a width. -/
def padded (width n : Nat) : Text :=
  let digits := Text.ofNat n
  List.replicate (width - digits.length) (.scalar '0') ++ digits

def joinPadded (separator : Text) (ns : List (Nat × Nat)) : Text :=
  Text.join separator (ns.map fun n => padded n.1 n.2)

def offsetText (minutes : Int) : Text :=
  .scalar (if minutes < 0 then '-' else '+')
    :: joinPadded ":" [(2, minutes.natAbs / 60), (2, minutes.natAbs % 60)]

def clockText (c : Clock) : Text :=
  let fraction : Text := if c.microsecond = 0 then [] else .scalar '.' :: padded 6 c.microsecond
  .scalar ' ' :: joinPadded ":" [(2, c.hour), (2, c.minute), (2, c.second)] ++ fraction
    ++ ((c.offset.map offsetText).getD [])

/-- The day, and the time after a blank. -/
def toText (m : Moment) : Text :=
  joinPadded "-" [(4, m.year), (2, m.month), (2, m.day)] ++ ((m.clock.map clockText).getD [])

def joinNumbers (ns : List Nat) : Text := Text.join ", " (ns.map Text.ofNat)

/-- The parts of a time, without the zeros at its end that need not be given. -/
def clockParts (c : Clock) : List Nat :=
  [c.hour, c.minute] ++
    if c.microsecond ≠ 0 then [c.second, c.microsecond]
    else if c.second ≠ 0 then [c.second] else []

def describeZone (minutes : Int) : Text :=
  if minutes = 0 then "datetime.timezone.utc"
  else ("datetime.timezone(" : Text) ++ span minutes ++ ")"

/-- The moment as it is built of its parts. -/
def describe (m : Moment) : Text :=
  let day := [m.year, m.month, m.day]
  match m.clock with
  | none => ("datetime.date(" : Text) ++ joinNumbers day ++ ")"
  | some c =>
    let zone : Text := match c.offset with
      | some minutes => (", tzinfo=" : Text) ++ describeZone minutes
      | none => []
    ("datetime.datetime(" : Text) ++ joinNumbers (day ++ clockParts c) ++ zone ++ ")"

end Moment

end PropertyTyping
