import Quarantine.Text.Classes
import Quarantine.Time.Instant

/-!
Points in time as texts such as 2024-03-01T12:00:00.5Z. Written ones are in UTC, carry a sign where
the year does not have four digits, and show a leap second as second 60. Reading also takes offsets,
blanks around the parts, and numbers without leading zeros.
-/

namespace Quarantine.Timestamp

def padded (width n : Nat) : List Char :=
  let digits := Nat.toDigits 10 n
  List.replicate (width - digits.length) '0' ++ digits

inductive Precision
  | seconds
  | nanos
  /-- None, three, six or nine digits, the fewest that lose nothing. -/
  | fewest
  deriving DecidableEq, Repr

def yearChars (year : Int) : List Char :=
  if 0 ≤ year ∧ year ≤ 9999 then padded 4 year.toNat
  else (if year < 0 then '-' else '+') :: padded 4 year.natAbs

def fractionChars (precision : Precision) (nanos : Nat) : List Char :=
  match precision with
  | .seconds => []
  | .nanos => '.' :: padded 9 nanos
  | .fewest =>
    if nanos = 0 then []
    else if nanos % 1000000 = 0 then '.' :: padded 3 (nanos / 1000000)
    else if nanos % 1000 = 0 then '.' :: padded 6 (nanos / 1000)
    else '.' :: padded 9 nanos

def dateChars (d : Date) : List Char :=
  yearChars d.year ++ '-' :: padded 2 d.month ++ '-' :: padded 2 d.day

/-- The date and the time of day in UTC. -/
def clockChars (precision : Precision) (t : Instant) : List Char :=
  let date := Date.ofDays (t.seconds.fdiv 86400)
  let second := (t.seconds.fmod 86400).toNat
  let leap := t.nanos / 1000000000
  dateChars date ++ 'T' :: padded 2 (second / 3600) ++ ':' :: padded 2 (second / 60 % 60) ++
    ':' :: padded 2 (second % 60 + leap) ++ fractionChars precision (t.nanos % 1000000000)

def writeChars (precision : Precision) (t : Instant) : List Char :=
  clockChars precision t ++ ['Z']

def write (precision : Precision) (t : Instant) : String :=
  String.ofList (writeChars precision t)

/-- A text that ends with the offset from UTC, which is none, in place of the letter for UTC. -/
def writeOffset (precision : Precision) (t : Instant) : String :=
  String.ofList (clockChars precision t ++ ['+', '0', '0', ':', '0', '0'])

def isDigit (c : Char) : Bool :=
  '0' ≤ c && c ≤ '9'

def digitsValue (cs : List Char) : Nat :=
  cs.foldl (fun n c => 10 * n + (c.toNat - 48)) 0

def readNumber (least most : Nat) (cs : List Char) : Option (Nat × List Char) :=
  let digits := (cs.take most).takeWhile isDigit
  if digits.length < least then none
  else some (digitsValue digits, cs.drop digits.length)

def readChar (c : Char) : List Char → Option (List Char)
  | [] => none
  | d :: rest => if d = c then some rest else none

/-- Reads a year: four digits at most, or any number of them behind a sign. -/
def readYear (cs : List Char) : Option (Int × List Char) :=
  match Text.trimStart cs with
  | '-' :: rest => (readNumber 1 rest.length rest).map fun (n, rest) => (-(n : Int), rest)
  | '+' :: rest => (readNumber 1 rest.length rest).map fun (n, rest) => ((n : Int), rest)
  | cs => (readNumber 1 4 cs).map fun (n, rest) => ((n : Int), rest)

/-- Reads one or two digits with blanks before them. -/
def readPair (cs : List Char) : Option (Nat × List Char) :=
  readNumber 1 2 (Text.trimStart cs)

def readDate (cs : List Char) : Option (Date × List Char) := do
  let (year, cs) ← readYear cs
  let cs ← readChar '-' (Text.trimStart cs)
  let (month, cs) ← readPair cs
  let cs ← readChar '-' (Text.trimStart cs)
  let (day, cs) ← readPair cs
  return (⟨year, month, day⟩, cs)

def readSeparator : List Char → Option (List Char)
  | [] => none
  | c :: rest => if c = 'T' ∨ c = 't' ∨ c = ' ' then some rest else none

/-- Reads a fraction of a second, if there is one, in nanoseconds. Digits after the ninth are
cut. -/
def readFraction : List Char → Option (Nat × List Char)
  | '.' :: cs => do
    let (n, rest) ← readNumber 1 9 cs
    return (n * Nat.pow 10 (9 - (cs.length - rest.length)), rest.dropWhile isDigit)
  | cs => some (0, cs)

/-- A time of day as it is written; second 60 is a leap second. -/
structure TimeOfDay where
  hour : Nat
  minute : Nat
  second : Nat
  nanos : Nat
  deriving DecidableEq, Repr

def TimeOfDay.isValid (t : TimeOfDay) : Bool :=
  t.hour < 24 && t.minute < 60 && t.second ≤ 60

def readTimeOfDay (cs : List Char) : Option (TimeOfDay × List Char) := do
  let (hour, cs) ← readPair cs
  let cs ← readChar ':' (Text.trimStart cs)
  let (minute, cs) ← readPair cs
  let cs ← readChar ':' (Text.trimStart cs)
  let (second, cs) ← readPair cs
  let (nanos, cs) ← readFraction cs
  return (⟨hour, minute, second, nanos⟩, Text.trimStart cs)

/-- Reads the hours and minutes of an offset, which may be joined by colons or blanks or not at
all. -/
def readOffsetAmount (cs : List Char) : Option (Nat × List Char) := do
  let (hours, cs) ← readNumber 2 2 cs
  let (minutes, cs) ← readNumber 2 2 (cs.dropWhile fun c => c = ':' || Text.isBlank c)
  if minutes < 60 then return (hours * 3600 + minutes * 60, cs) else none

/-- Reads an offset from UTC in seconds, positive to the east. -/
def readOffset (cs : List Char) : Option (Int × List Char) :=
  match cs with
  | u :: t :: c :: rest =>
    if (u = 'U' ∨ u = 'u') ∧ (t = 'T' ∨ t = 't') ∧ (c = 'C' ∨ c = 'c') then some (0, rest)
    else signed cs
  | _ => signed cs
where
  signed : List Char → Option (Int × List Char)
    | [] => none
    | c :: rest =>
      if c = 'Z' ∨ c = 'z' then some (0, rest)
      else if c = '+' then (readOffsetAmount rest).map fun (n, rest) => ((n : Int), rest)
      else if c = '-' ∨ c = '\u2212' then
        (readOffsetAmount rest).map fun (n, rest) => (-(n : Int), rest)
      else none

def resolve (date : Date) (time : TimeOfDay) (offset : Int) : Option Instant :=
  if date.isValid && time.isValid && -86400 < offset && offset < 86400 then
    let second := min time.second 59
    let leap := time.second - second
    let secondOfDay := time.hour * 3600 + time.minute * 60 + second
    let seconds := date.toDays * 86400 + secondOfDay - offset
    let nanos := leap * 1000000000 + time.nanos
    if h : Instant.minSeconds ≤ seconds ∧ seconds ≤ Instant.maxSeconds ∧ nanos < 2000000000 then
      some ⟨seconds, nanos, h.2.2⟩
    else none
  else none

def readChars (cs : List Char) : Option Instant := do
  let (date, cs) ← readDate cs
  let cs ← readSeparator cs
  let (time, cs) ← readTimeOfDay cs
  let (offset, cs) ← readOffset cs
  if (Text.trimStart cs).isEmpty then resolve date time offset else none

def read (s : String) : Option Instant :=
  readChars s.toList

end Quarantine.Timestamp
