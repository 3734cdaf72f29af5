/-
# `FaasOperator.Timestamp` — points in time as objects of the API server carry them

A date, a time of day and an offset, read leniently and written in UTC.  The second may be 60, in a
leap second, and a fraction of it is kept to nine digits.
-/
import FaasOperator.Text

namespace FaasOperator

/-- A point in time in UTC.  The second is 60 in a leap second. -/
structure Timestamp where
  year : Int
  month : Nat
  day : Nat
  hour : Nat
  minute : Nat
  second : Nat
  nanos : Nat
deriving DecidableEq, Repr

namespace Timestamp

/-! ## Dates -/

/-- A date of the Gregorian calendar. -/
structure Date where
  year : Int
  month : Nat
  day : Nat
deriving DecidableEq, Repr

/-- A year with a 29th of February. -/
def isLeapYear (year : Int) : Bool :=
  year % 4 == 0 && (year % 100 != 0 || year % 400 == 0)

def daysInMonth (year : Int) (month : Nat) : Nat :=
  if month = 2 then (if isLeapYear year then 29 else 28)
  else if month = 4 ∨ month = 6 ∨ month = 9 ∨ month = 11 then 30
  else 31

def firstYear : Int := -262143

def lastYear : Int := 262142

namespace Date

def isValid (d : Date) : Bool :=
  firstYear ≤ d.year && d.year ≤ lastYear && 1 ≤ d.month && d.month ≤ 12 && 1 ≤ d.day &&
    d.day ≤ daysInMonth d.year d.month

/-- The day after. -/
def next (d : Date) : Date :=
  if d.day < daysInMonth d.year d.month then { d with day := d.day + 1 }
  else if d.month < 12 then ⟨d.year, d.month + 1, 1⟩
  else ⟨d.year + 1, 1, 1⟩

/-- The day before. -/
def previous (d : Date) : Date :=
  if 1 < d.day then { d with day := d.day - 1 }
  else if 1 < d.month then ⟨d.year, d.month - 1, daysInMonth d.year (d.month - 1)⟩
  else ⟨d.year - 1, 12, 31⟩

end Date

/-! ## Reading -/

def skipBlanks (cs : List Char) : List Char := cs.dropWhile Text.isBlank

/-- The number that digits write. -/
def value (ds : List Char) : Nat := Nat.ofDigitChars 10 ds 0

/-- A number of at least one digit and at most so many. -/
def number? (most : Nat) (cs : List Char) : Option (Nat × List Char) :=
  let ds := (cs.take most).takeWhile Char.isDigit
  if ds.isEmpty then none else some (value ds, cs.drop ds.length)

/-- A number without a limit to its digits. -/
def longNumber? (cs : List Char) : Option (Nat × List Char) := number? cs.length cs

/-- A number of one or two digits, perhaps behind blanks. -/
def part? (cs : List Char) : Option (Nat × List Char) := number? 2 (skipBlanks cs)

/-- A year: up to four digits, or a sign and any number of digits. -/
def year? (cs : List Char) : Option (Int × List Char) :=
  match skipBlanks cs with
  | '-' :: cs => (longNumber? cs).map fun (n, cs) => (-(n : Int), cs)
  | '+' :: cs => (longNumber? cs).map fun (n, cs) => ((n : Int), cs)
  | cs => (number? 4 cs).map fun (n, cs) => ((n : Int), cs)

/-- What follows a character, perhaps behind blanks. -/
def after? (c : Char) (cs : List Char) : Option (List Char) :=
  match skipBlanks cs with
  | d :: cs => if d = c then some cs else none
  | [] => none

def date? (cs : List Char) : Option (Date × List Char) := do
  let (year, cs) ← year? cs
  let (month, cs) ← part? (← after? '-' cs)
  let (day, cs) ← part? (← after? '-' cs)
  let d : Date := ⟨year, month, day⟩
  if d.isValid then some (d, cs) else none

/-- The character between a date and a time. -/
def isDivider (c : Char) : Bool := c == 'T' || c == 't' || c == ' '

/-- Nanoseconds from the digits of a fraction; those behind the ninth are passed over. -/
def fractionNanos (ds : List Char) : Nat :=
  value (ds.take 9 ++ List.replicate (9 - ds.length) '0')

/-- The digits behind a point, if there is one. -/
def fraction? : List Char → Option (Nat × List Char)
  | '.' :: cs =>
      let ds := cs.takeWhile Char.isDigit
      if ds.isEmpty then none else some (fractionNanos ds, cs.dropWhile Char.isDigit)
  | cs => some (0, cs)

def twoDigits? : List Char → Option (Nat × List Char)
  | c :: d :: cs => if c.isDigit && d.isDigit then some (value [c, d], cs) else none
  | _ => none

/-- An offset of so many hours and minutes, each of two digits; colons and blanks between them are
passed over. -/
def clockOffset? (cs : List Char) : Option (Nat × List Char) := do
  let (hours, cs) ← twoDigits? cs
  let (minutes, cs) ← twoDigits? (cs.dropWhile fun c => c == ':' || Text.isBlank c)
  if hours < 24 ∧ minutes < 60 then some (60 * hours + minutes, cs) else none

/-- An offset from UTC in minutes. -/
def offset? (cs : List Char) : Option (Int × List Char) :=
  match cs with
  | '+' :: cs => (clockOffset? cs).map fun (n, cs) => ((n : Int), cs)
  | '-' :: cs | '\u2212' :: cs => (clockOffset? cs).map fun (n, cs) => (-(n : Int), cs)
  | 'Z' :: cs | 'z' :: cs => some (0, cs)
  | c :: d :: e :: cs => if [c, d, e].map Char.toUpper = ['U', 'T', 'C'] then some (0, cs) else none
  | _ => none

/-- The point in time of a date and a time of day at an offset in minutes. -/
def inUtc? (d : Date) (hour minute second nanos : Nat) (offset : Int) : Option Timestamp :=
  let minutes : Int := 60 * hour + minute - offset
  let d := if minutes < 0 then d.previous else if 1440 ≤ minutes then d.next else d
  let minutes := (minutes % 1440).toNat
  if firstYear ≤ d.year ∧ d.year ≤ lastYear then
    some ⟨d.year, d.month, d.day, minutes / 60, minutes % 60, second, nanos⟩
  else none

def parse? (s : String) : Option Timestamp := do
  let (d, cs) ← date? s.toList
  let c ← cs.head?
  if !isDivider c then none
  let (hour, cs) ← part? cs.tail
  let (minute, cs) ← part? (← after? ':' cs)
  let (second, cs) ← part? (← after? ':' cs)
  let (nanos, cs) ← fraction? cs
  let (offset, cs) ← offset? (skipBlanks cs)
  if hour < 24 ∧ minute < 60 ∧ second ≤ 60 ∧ (skipBlanks cs).isEmpty = true then
    inUtc? d hour minute second nanos offset
  else none

/-! ## Writing -/

/-- A number with zeros in front of it up to a width. -/
def padded (width n : Nat) : List Char :=
  let ds := Nat.toDigits 10 n
  List.replicate (width - ds.length) '0' ++ ds

/-- A year: four digits, and a sign if four digits do not say it all. -/
def renderYear (year : Int) : List Char :=
  if 0 ≤ year ∧ year ≤ 9999 then padded 4 year.toNat
  else (if year < 0 then '-' else '+') :: padded 4 year.natAbs

/-- The text of a point in time, with so many places of the second's fraction. -/
def render (places : Nat) (t : Timestamp) : String :=
  String.ofList (
    renderYear t.year ++ '-' :: padded 2 t.month ++ '-' :: padded 2 t.day ++ 'T' ::
    padded 2 t.hour ++ ':' :: padded 2 t.minute ++ ':' :: padded 2 t.second ++
    (if places = 0 then [] else '.' :: (padded 9 t.nanos).take places) ++ ['Z'])

end Timestamp

end FaasOperator
