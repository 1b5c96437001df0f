import CosmosClient.Text.Basic
import CosmosClient.Text.Number

/-!
# Timestamps

A moment as the Internet writes it: a date, a time with any fraction of a second and an offset from
universal time. A minute may have a leap second. `read?` takes that form only; `readLoose?` also takes
blanks between the parts, numbers of fewer digits and years of more.
-/

namespace CosmosClient

/-- A moment in universal time. -/
structure Timestamp where
  /-- Days since the first of January of the year 0. -/
  day : Int
  /-- Seconds of the day; a leap second has the number of the one before it. -/
  second : Nat
  nanosecond : Nat
  leap : Bool
  deriving DecidableEq, Repr

namespace Timestamp

/-- Whether a year has 366 days. -/
def isLeapYear (y : Int) : Bool :=
  y % 4 == 0 && (y % 100 != 0 || y % 400 == 0)

def daysOfMonth (y : Int) (m : Nat) : Nat :=
  if m = 2 then (if isLeapYear y then 29 else 28)
  else if m = 4 ∨ m = 6 ∨ m = 9 ∨ m = 11 then 30 else 31

/-- The days before a year, counted from the year 0. -/
def daysBeforeYear (y : Int) : Int :=
  let p := y - 1
  365 * y + p / 4 - p / 100 + p / 400 + 1

def daysBeforeMonth (y : Int) (m : Nat) : Nat :=
  (List.range (m - 1)).foldl (fun n i => n + daysOfMonth y (i + 1)) 0

/-- Reads exactly a number of digits. -/
def digits? (count : Nat) (cs : List Char) : Option (Nat × List Char) :=
  let ds := cs.take count
  if ds.length = count ∧ ds.all Char.isDigit then
    some (ds.foldl (fun n c => 10 * n + (c.toNat - 48)) 0, cs.drop count)
  else none

/-- Reads a given character. -/
def char? (c : Char) : List Char → Option (List Char)
  | d :: cs => if d = c then some cs else none
  | [] => none

/-- Reads a number of two digits below a bound. -/
def below? (bound : Nat) (cs : List Char) : Option (Nat × List Char) := do
  let (n, cs) ← digits? 2 cs
  if n < bound then some (n, cs) else none

/-- Reads a fraction of a second in nanoseconds; digits after the ninth do not count. -/
def fraction? : List Char → Option (Nat × List Char)
  | '.' :: cs =>
    let ds := cs.takeWhile Char.isDigit
    if ds.isEmpty then none
    else
      let padded := (ds ++ List.replicate 9 '0').take 9
      some (padded.foldl (fun n c => 10 * n + (c.toNat - 48)) 0, cs.dropWhile Char.isDigit)
  | cs => some (0, cs)

/-- Reads an offset in minutes. -/
def offset? : List Char → Option (Int × List Char)
  | [] => none
  | sign :: cs =>
    if sign = 'Z' ∨ sign = 'z' then some (0, cs)
    else if sign = '+' ∨ sign = '-' ∨ sign = '\u2212' then do
      let (hours, cs) ← below? 24 cs
      let cs ← char? ':' cs
      let (minutes, cs) ← below? 60 cs
      let total : Int := hours * 60 + minutes
      some (if sign = '+' then total else -total, cs)
    else none

/-- The moment of a date and a time at an offset in minutes, if the month has the date. -/
def ofFields? (year : Int) (month date hour minute second nanosecond : Nat) (offset : Int) :
    Option Timestamp :=
  if 1 ≤ month ∧ month ≤ 12 ∧ 1 ≤ date ∧ date ≤ daysOfMonth year month then
    let leap := second == 60
    let days : Int := daysBeforeYear year + daysBeforeMonth year month + (date - 1)
    let seconds : Int := ((hour * 60 + minute : Nat) - offset) * 60 + (if leap then 59 else second)
    some ⟨days + seconds / 86400, (seconds % 86400).toNat, nanosecond, leap⟩
  else none

/-- Reads the mark between date and time. -/
def separator? : List Char → Option (List Char)
  | 't' :: cs | 'T' :: cs | ' ' :: cs => some cs
  | _ => none

def read? (cs : List Char) : Option Timestamp := do
  let (year, cs) ← digits? 4 cs
  let cs ← char? '-' cs
  let (month, cs) ← digits? 2 cs
  let cs ← char? '-' cs
  let (date, cs) ← digits? 2 cs
  let cs ← separator? cs
  let (hour, cs) ← below? 24 cs
  let cs ← char? ':' cs
  let (minute, cs) ← below? 60 cs
  let cs ← char? ':' cs
  let (second, cs) ← below? 61 cs
  let (nanosecond, cs) ← fraction? cs
  let (offset, cs) ← offset? cs
  if cs.isEmpty then ofFields? year month date hour minute second nanosecond offset else none

/-- A number of at least a count of digits. -/
def padded (count n : Nat) : String :=
  let ds := Number.digits n
  String.ofList (List.replicate (count - ds.length) '0' ++ ds)

/-- The year and the day of the year of a day. -/
def yearOf (day : Int) : Int × Nat :=
  let guess := day * 400 / 146097
  let year := if day < daysBeforeYear guess then guess - 1
    else if daysBeforeYear (guess + 1) ≤ day then guess + 1 else guess
  (year, (day - daysBeforeYear year).toNat)

/-- The text after the blanks at its start. -/
def afterBlanks (cs : List Char) : List Char :=
  cs.dropWhile Text.isBlank

/-- Reads a number of one up to a count of digits. -/
def upTo? (count : Nat) (cs : List Char) : Option (Nat × List Char) :=
  let n := ((cs.take count).takeWhile Char.isDigit).length
  if n = 0 then none else digits? n cs

/-- Reads a year after blanks: up to four digits, or a sign and any number of them. -/
def looseYear? (cs : List Char) : Option (Int × List Char) :=
  match afterBlanks cs with
  | '-' :: cs => (upTo? cs.length cs).map fun (n, cs) => (-(n : Int), cs)
  | '+' :: cs => (upTo? cs.length cs).map fun (n, cs) => ((n : Int), cs)
  | cs => (upTo? 4 cs).map fun (n, cs) => ((n : Int), cs)

/-- Reads a number of one or two digits below a bound, after blanks. -/
def looseBelow? (bound : Nat) (cs : List Char) : Option (Nat × List Char) := do
  let (n, cs) ← upTo? 2 (afterBlanks cs)
  if n < bound then some (n, cs) else none

/-- Reads an offset in minutes: the name of universal time, or a sign, hours and minutes with any
blanks and colons between them. -/
def looseOffset? (cs : List Char) : Option (Int × List Char) :=
  if Text.lower (cs.take 3) = ['u', 't', 'c'] then some (0, cs.drop 3)
  else
    match cs with
    | [] => none
    | sign :: cs =>
      if sign = 'Z' ∨ sign = 'z' then some (0, cs)
      else if sign = '+' ∨ sign = '-' ∨ sign = '\u2212' then do
        let (hours, cs) ← below? 24 cs
        let (minutes, cs) ← below? 60 (cs.dropWhile fun c => c == ':' || Text.isBlank c)
        let total : Int := hours * 60 + minutes
        some (if sign = '+' then total else -total, cs)
      else none

/-- Whether the calendar reaches a year. -/
def isYearInRange (year : Int) : Bool :=
  -262143 ≤ year && year ≤ 262142

/-- Reads a moment with blanks between its parts, numbers without zeros before them and years of any
size that the calendar reaches. -/
def readLoose? (cs : List Char) : Option Timestamp := do
  let (year, cs) ← looseYear? cs
  let cs ← char? '-' (afterBlanks cs)
  let (month, cs) ← looseBelow? 13 cs
  let cs ← char? '-' (afterBlanks cs)
  let (date, cs) ← looseBelow? 32 cs
  let cs ← separator? cs
  let (hour, cs) ← looseBelow? 24 cs
  let cs ← char? ':' (afterBlanks cs)
  let (minute, cs) ← looseBelow? 60 cs
  let cs ← char? ':' (afterBlanks cs)
  let (second, cs) ← looseBelow? 61 cs
  let (nanosecond, cs) ← fraction? cs
  let (offset, cs) ← looseOffset? (afterBlanks cs)
  if (afterBlanks cs).isEmpty ∧ isYearInRange year then do
    let t ← ofFields? year month date hour minute second nanosecond offset
    if isYearInRange (yearOf t.day).1 then some t else none
  else none

/-- The month and the date of a day of the year, from a month on. -/
def monthOf (year : Int) : Nat → Nat → Nat → Nat × Nat
  | 0, m, d => (m, d + 1)
  | fuel + 1, m, d =>
    let count := daysOfMonth year m
    if d < count then (m, d + 1) else monthOf year fuel (m + 1) (d - count)

/-- The fraction of a second, in as few groups of three digits as it takes. -/
def writeFraction (nanosecond : Nat) : String :=
  if nanosecond = 0 then ""
  else if nanosecond % 1000000 = 0 then "." ++ padded 3 (nanosecond / 1000000)
  else if nanosecond % 1000 = 0 then "." ++ padded 6 (nanosecond / 1000)
  else "." ++ padded 9 nanosecond

/-- A year of four digits, or with a sign. -/
def writeYear (year : Int) : String :=
  if 0 ≤ year ∧ year ≤ 9999 then padded 4 year.toNat
  else if year < 0 then "-" ++ padded 4 year.natAbs else "+" ++ padded 4 year.toNat

/-- A moment between a separator of date and time and a mark of universal time. -/
def writeWith (separator mark : String) (t : Timestamp) : String :=
  let (year, dayOfYear) := yearOf t.day
  let (month, date) := monthOf year 11 1 dayOfYear
  let second := t.second % 60 + if t.leap then 1 else 0
  writeYear year ++ "-" ++ padded 2 month ++ "-" ++ padded 2 date ++ separator ++
    padded 2 (t.second / 3600) ++ ":" ++ padded 2 (t.second / 60 % 60) ++ ":" ++ padded 2 second ++
    writeFraction t.nanosecond ++ mark

def write (t : Timestamp) : String :=
  writeWith "T" "+00:00" t

end Timestamp
end CosmosClient
