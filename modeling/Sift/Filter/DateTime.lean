import Sift.Text.Basic
import Sift.Number.Decimal

/-!
# Dates with times

Points in time of the proleptic Gregorian calendar, without a time zone or with an offset that is
taken off when they are read.

* `daysOf`, `dateOf`: the day number of a date, counted from 1970, and the date of a day number.
* `Instant.read?`: the instant of a text such as `2020-02-29T12:30:00.5+01:00`.
* `Instant.text`: the instant to the millisecond.
-/

namespace Sift.Filter

open Number Text

/-- An instant: seconds since the start of 1970, and the nanoseconds of the second. -/
structure Instant where
  seconds : Int
  nanos : Nat
  deriving DecidableEq, Repr

/-- Leap years. -/
def isLeap (year : Int) : Bool := year % 4 == 0 && (year % 100 != 0 || year % 400 == 0)

/-- The number of days of a month. -/
def daysIn (year : Int) (month : Nat) : Nat :=
  if month = 2 then (if isLeap year then 29 else 28)
  else if month = 4 ∨ month = 6 ∨ month = 9 ∨ month = 11 then 30 else 31

/-- Dates that exist. -/
def isDate (year : Int) (month day : Nat) : Bool :=
  1 ≤ month && month ≤ 12 && 1 ≤ day && day ≤ daysIn year month

/-- The day number of a date. Years are counted from March, so that the leap day comes last, and
grouped by 400, of 146097 days each. -/
def daysOf (year : Int) (month day : Nat) : Int :=
  let y := if month ≤ 2 then year - 1 else year
  let era := y / 400
  let yearOfEra := y % 400
  let monthFromMarch : Int := if month > 2 then month - 3 else month + 9
  let dayOfYear := (153 * monthFromMarch + 2) / 5 + day - 1
  era * 146097 + yearOfEra * 365 + yearOfEra / 4 - yearOfEra / 100 + dayOfYear - 719468

/-- The date of a day number. -/
def dateOf (days : Int) : Int × Nat × Nat :=
  let shifted := days + 719468
  let era := shifted / 146097
  let dayOfEra := shifted % 146097
  let yearOfEra :=
    (dayOfEra - dayOfEra / 1460 + dayOfEra / 36524 - dayOfEra / 146096) / 365
  let dayOfYear := dayOfEra - (365 * yearOfEra + yearOfEra / 4 - yearOfEra / 100)
  let monthFromMarch := (5 * dayOfYear + 2) / 153
  let day := (dayOfYear - (153 * monthFromMarch + 2) / 5 + 1).toNat
  let month := (if monthFromMarch < 10 then monthFromMarch + 3 else monthFromMarch - 9).toNat
  (yearOfEra + era * 400 + if month ≤ 2 then 1 else 0, month, day)

/-- A number of exactly so many digits, and the rest. -/
def readFixed? (count : Nat) (cs : List Char) : Option (Nat × List Char) :=
  let ds := cs.take count
  if ds.length = count ∧ ds.all Char.isDigit then some (digitsValue 10 ds, cs.drop count) else none

/-- The rest after a mark. -/
def readMark? (mark : Char) : List Char → Option (List Char)
  | c :: cs => if c = mark then some cs else none
  | [] => none

/-- A date, as a day number. -/
def readDate? (cs : List Char) : Option (Int × List Char) := do
  let (year, cs) ← readFixed? 4 cs
  let (month, cs) ← readFixed? 2 (← readMark? '-' cs)
  let (day, cs) ← readFixed? 2 (← readMark? '-' cs)
  if isDate year month day then some (daysOf year month day, cs) else none

/-- A fraction of a second in nanoseconds, if there is one: one to nine digits after a point. -/
def readNanos? : List Char → Option (Nat × List Char)
  | '.' :: cs =>
    let ds := cs.takeWhile Char.isDigit
    if 1 ≤ ds.length ∧ ds.length ≤ 9 then
      some (digitsValue 10 ds * Nat.pow 10 (9 - ds.length), cs.dropWhile Char.isDigit)
    else none
  | cs => some (0, cs)

/-- Seconds with their fraction, if there are any. -/
def readSeconds? : List Char → Option (Nat × Nat × List Char)
  | ':' :: cs => do
    let (second, cs) ← readFixed? 2 cs
    let (nanos, cs) ← readNanos? cs
    some (second, nanos, cs)
  | cs => some (0, 0, cs)

/-- A time of day, if there is one: the second of the day, the nanoseconds, and the rest. -/
def readTime? : List Char → Option (Nat × Nat × List Char)
  | c :: cs =>
    if c = 'T' ∨ c = ' ' then do
      let (hour, cs) ← readFixed? 2 cs
      let (minute, cs) ← readFixed? 2 (← readMark? ':' cs)
      let (second, nanos, cs) ← readSeconds? cs
      if hour < 24 ∧ minute < 60 ∧ second < 60 then
        some (hour * 3600 + minute * 60 + second, nanos, cs)
      else none
    else some (0, 0, c :: cs)
  | [] => some (0, 0, [])

/-- An offset in seconds, if there is one: none, zero, or hours and minutes east or west. -/
def readOffset? : List Char → Option Int
  | [] => some 0
  | ['Z'] => some 0
  | sign :: cs =>
    if sign = '+' ∨ sign = '-' then do
      let (hours, cs) ← readFixed? 2 cs
      let (minutes, cs) ← readFixed? 2 (← readMark? ':' cs)
      if cs.isEmpty ∧ hours < 24 ∧ minutes < 60 then
        some (signed (sign = '-') (hours * 3600 + minutes * 60))
      else none
    else none

/-- The instant of a text: a date, a time and an offset, the last two optional. -/
def Instant.read? (cs : List Char) : Option Instant := do
  let (days, cs) ← readDate? cs
  let (second, nanos, cs) ← readTime? cs
  let offset ← readOffset? cs
  some ⟨days * 86400 + second - offset, nanos⟩

/-- A number with at least so many digits. -/
def padded (width n : Nat) : String :=
  let ds := Nat.toDigits 10 n
  String.ofList (zeros (width - ds.length) ++ ds)

/-- A year of four digits, or more with a sign. -/
def yearText (year : Int) : String :=
  if 0 ≤ year ∧ year ≤ 9999 then padded 4 year.toNat
  else (if year < 0 then "-" else "+") ++ padded 4 year.natAbs

/-- An instant with a mark between date and time and a given fraction. -/
def Instant.textWith (t : Instant) (mark : String) (fraction : String) : String :=
  let (year, month, day) := dateOf (t.seconds / 86400)
  let second := (t.seconds % 86400).toNat
  yearText year ++ "-" ++ padded 2 month ++ "-" ++ padded 2 day ++ mark ++
    padded 2 (second / 3600) ++ ":" ++ padded 2 (second / 60 % 60) ++ ":" ++
    padded 2 (second % 60) ++ "." ++ fraction

/-- An instant to the millisecond. -/
def Instant.text (t : Instant) : String := t.textWith " " (padded 3 (t.nanos / 1000000))

/-- An instant to the nanosecond. -/
def Instant.exactText (t : Instant) : String := t.textWith "T" (padded 9 t.nanos)

end Sift.Filter
