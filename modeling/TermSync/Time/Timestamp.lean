import TermSync.Text.Blank
import TermSync.Time.Instant

/-!
# Timestamps in text

RFC 3339, read leniently: blanks may precede each number and each separator of the date and of the
time, months and the like may have one digit, a year may have a sign, date and time are separated
by `T`, `t` or a space, and the zone is `Z`, `UTC` (in either case) or an offset whose colon may be
left out. The seconds are required; digits of their fraction after the ninth are dropped.
-/

namespace TermSync.Time

open Text (isBlank)

namespace Timestamp

/-- Drop the blanks in front. -/
def trim (cs : List Char) : List Char := cs.dropWhile isBlank

/-- The value of a decimal digit. -/
def digit? (c : Char) : Option Nat :=
  if '0' ≤ c ∧ c ≤ '9' then some (c.toNat - '0'.toNat) else none

/-- At most `width` digits in front: their value, how many there are, and what follows. -/
def digits : Nat → List Char → Nat → Nat → Nat × Nat × List Char
  | width + 1, c :: cs, value, count =>
    match digit? c with
    | some d => digits width cs (value * 10 + d) (count + 1)
    | none => (value, count, c :: cs)
  | _, cs, value, count => (value, count, cs)

/-- A number of one to `width` digits. -/
def number (width : Nat) (cs : List Char) : Option (Nat × List Char) :=
  match digits width cs 0 0 with
  | (_, 0, _) => none
  | (n, _, r) => some (n, r)

/-- A number of one or two digits in a range, after any blanks. -/
def field (low high : Nat) (cs : List Char) : Option (Nat × List Char) := do
  let (n, r) ← number 2 (trim cs)
  guard (low ≤ n ∧ n ≤ high)
  return (n, r)

/-- A year of up to four digits, or of any length after a sign. -/
def year (cs : List Char) : Option (Int × List Char) := do
  match trim cs with
  | '-' :: r =>
    let (n, r) ← number r.length r
    return (-(n : Int), r)
  | '+' :: r =>
    let (n, r) ← number r.length r
    return ((n : Int), r)
  | r =>
    let (n, r) ← number 4 r
    return ((n : Int), r)

/-- One character, after any blanks. -/
def separator (c : Char) (cs : List Char) : Option (List Char) :=
  match trim cs with
  | d :: r => if d = c then some r else none
  | [] => none

/-- The fraction of a second in nanoseconds; none is zero. -/
def fraction : List Char → Option (Nat × List Char)
  | '.' :: cs =>
    match digits 9 cs 0 0 with
    | (_, 0, _) => none
    | (n, count, r) => some (n * Nat.pow 10 (9 - count), r.dropWhile fun c => (digit? c).isSome)
  | cs => some (0, cs)

/-- Two digits. -/
def pair : List Char → Option (Nat × List Char)
  | a :: b :: r => do return ((← digit? a) * 10 + (← digit? b), r)
  | _ => none

/-- The zone's offset from UTC in seconds. -/
def zone (cs : List Char) : Option (Int × List Char) :=
  match trim cs with
  | [] => none
  | c :: r =>
    if c = 'Z' ∨ c = 'z' then some (0, r)
    else if c = '+' then offset 1 r
    else if c = '-' ∨ c = '\u2212' then offset (-1) r
    else
      match c, r with
      | u, t :: d :: r =>
        if u.toLower = 'u' ∧ t.toLower = 't' ∧ d.toLower = 'c' then some (0, r) else none
      | _, _ => none
where
  /-- Hours and minutes after the sign. -/
  offset (sign : Int) (cs : List Char) : Option (Int × List Char) := do
    let (hours, r) ← pair cs
    let (minutes, r) ← pair (r.dropWhile fun c => c == ':' || isBlank c)
    guard (hours < 24 ∧ minutes < 60)
    return (sign * (hours * 3600 + minutes * 60 : Nat), r)

/-- Whether a year of the Gregorian calendar has a 29 February. -/
def isLeapYear (y : Int) : Bool := y % 4 == 0 && (y % 100 != 0 || y % 400 == 0)

/-- The number of days of a month. -/
def daysInMonth (y : Int) (m : Nat) : Nat :=
  if m = 2 then (if isLeapYear y then 29 else 28)
  else if m = 4 ∨ m = 6 ∨ m = 9 ∨ m = 11 then 30
  else 31

/-- Days from 1970-01-01 to a date. Years are counted from March, so that a leap day ends one. -/
def daysFromEpoch (y : Int) (m d : Nat) : Int :=
  let y := if m ≤ 2 then y - 1 else y
  let month := (m + 9) % 12
  let dayOfYear := (153 * month + 2) / 5 + d - 1
  let era := y / 400
  let yearOfEra := y % 400
  let dayOfEra := yearOfEra * 365 + yearOfEra / 4 - yearOfEra / 100 + dayOfYear
  era * 146097 + dayOfEra - 719468

/-- The first and the last year of the calendar. -/
def minYear : Int := -262143

/-- The last year of the calendar. -/
def maxYear : Int := 262142

/-- Whether an instant lies within the calendar. -/
def inCalendar (seconds : Int) : Bool :=
  daysFromEpoch minYear 1 1 * secondsPerDay ≤ seconds &&
    seconds < (daysFromEpoch maxYear 12 31 + 1) * secondsPerDay

/-- The instant that a text names. -/
def ofChars? (cs : List Char) : Option Instant := do
  let (y, r) ← year cs
  let r ← separator '-' r
  let (month, r) ← field 1 12 r
  let r ← separator '-' r
  let (day, r) ← field 1 31 r
  let r ←
    match r with
    | c :: r => if c = 'T' ∨ c = 't' ∨ c = ' ' then some r else none
    | [] => none
  let (hour, r) ← field 0 23 r
  let r ← separator ':' r
  let (minute, r) ← field 0 59 r
  let r ← separator ':' r
  let (second, r) ← field 0 60 r
  let (nanos, r) ← fraction r
  let (offset, r) ← zone r
  guard (trim r = [])
  guard (minYear ≤ y ∧ y ≤ maxYear ∧ day ≤ daysInMonth y month)
  let leap := second = 60
  let second := if leap then 59 else second
  let here := daysFromEpoch y month day * secondsPerDay + (hour * 3600 + minute * 60 + second : Nat)
  guard (inCalendar (here - offset))
  return { seconds := here - offset, nanos := if leap then nanosPerSecond + nanos else nanos }

/-- The instant that a text names. -/
def parse? (s : String) : Option Instant := ofChars? s.toList

end Timestamp
end TermSync.Time
