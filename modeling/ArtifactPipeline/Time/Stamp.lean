import ArtifactPipeline.Time.Instant
import ArtifactPipeline.Text.Class

/-!
# Timestamps

Reading and writing instants as text. Written timestamps follow RFC 3339 in UTC, with as many
groups of three fraction digits as are exact. The reader is more liberal: it accepts single digits,
blanks between the parts, a blank or either case of `T` before the time, any number of fraction
digits, and `Z`, `UTC` or an offset after it.
-/

namespace ArtifactPipeline.Time

open Text

/-- Drops white space. -/
def dropSpace (cs : List Char) : List Char := cs.dropWhile isWhitespace

/-- The number that decimal digits denote. -/
def decimal (digits : List Char) : Nat :=
  digits.foldl (fun n c => n * 10 + (c.toNat - 48)) 0

/-- Reads between one and `most` digits after white space. -/
def readUpTo (most : Nat) (cs : List Char) : Option (Nat × List Char) :=
  let cs := dropSpace cs
  let digits := (cs.take most).takeWhile isAsciiDigit
  if digits.isEmpty then none else some (decimal digits, cs.drop digits.length)

/-- Reads a year: four digits, or any number of digits after a sign. -/
def readYear (cs : List Char) : Option (Int × List Char) :=
  match dropSpace cs with
  | '-' :: rest => signed (-1) rest
  | '+' :: rest => signed 1 rest
  | rest => (readUpTo 4 rest).map fun (n, rest) => ((n : Int), rest)
where
  signed (sign : Int) (cs : List Char) : Option (Int × List Char) :=
    let digits := cs.takeWhile isAsciiDigit
    if digits.isEmpty then none else some (sign * decimal digits, cs.drop digits.length)

/-- Reads a separator after white space. -/
def readMark (mark : Char) (cs : List Char) : Option (List Char) :=
  match dropSpace cs with
  | c :: rest => if c == mark then some rest else none
  | [] => none

/-- Reads a fraction of a second as nanoseconds. Digits beyond the ninth are dropped. -/
def readFraction (cs : List Char) : Option (Nat × List Char) :=
  match cs with
  | '.' :: rest =>
    let digits := rest.takeWhile isAsciiDigit
    if digits.isEmpty then none
    else
      let kept := digits.take 9
      some (decimal kept * Nat.pow 10 (9 - kept.length), rest.drop digits.length)
  | _ => some (0, cs)

/-- Two digits, the first of which is at most `most`. -/
def readPair (most : Char) (cs : List Char) : Option (Nat × List Char) :=
  match cs with
  | a :: b :: rest =>
    if isAsciiDigit a && a ≤ most && isAsciiDigit b then some (decimal [a, b], rest) else none
  | _ => none

/-- Reads the distance from UTC in seconds. -/
def readOffset (cs : List Char) : Option (Int × List Char) :=
  match cs with
  | 'Z' :: rest | 'z' :: rest => some (0, rest)
  | c :: rest =>
    let name := cs.take 3
    if name.map (fun c => if 'a' ≤ c && c ≤ 'z' then Char.ofNat (c.toNat - 32) else c)
        == ['U', 'T', 'C'] then
      some (0, cs.drop 3)
    else if c == '+' then offset 1 rest
    else if c == '-' || c == '\u2212' then offset (-1) rest
    else none
  | [] => none
where
  offset (sign : Int) (cs : List Char) : Option (Int × List Char) := do
    let (hours, rest) ← readPair '9' cs
    let rest := rest.dropWhile fun c => c == ':' || isWhitespace c
    let (minutes, rest) ← readPair '5' rest
    let seconds := hours * 3600 + minutes * 60
    if seconds < 86400 then some (sign * seconds, rest) else none

/-- Reads a timestamp. Both the date as it is written and the instant in UTC must belong to the
calendar. -/
def Instant.ofText? (text : String) : Option Instant := do
  let (year, cs) ← readYear text.toList
  let cs ← readMark '-' cs
  let (month, cs) ← readUpTo 2 cs
  let cs ← readMark '-' cs
  let (day, cs) ← readUpTo 2 cs
  let date : Date := ⟨year, month, day⟩
  if !(date.isValid && date.inCalendar) then none
  let cs ← match cs with
    | 'T' :: rest | 't' :: rest | ' ' :: rest => some rest
    | _ => none
  let (hour, cs) ← readUpTo 2 cs
  let cs ← readMark ':' cs
  let (minute, cs) ← readUpTo 2 cs
  let cs ← readMark ':' cs
  let (second, cs) ← readUpTo 2 cs
  let (nano, cs) ← readFraction cs
  if hour > 23 || minute > 59 || second > 60 then none
  let (offset, cs) ← readOffset (dropSpace cs)
  if !(dropSpace cs).isEmpty then none
  let (second, nano) := if second == 60 then (59, nano + giga) else (second, nano)
  let instant : Instant :=
    ⟨date.toDays * secondsPerDay + hour * 3600 + minute * 60 + second - offset, nano⟩
  if instant.inCalendar then some instant else none

/-- A number with at least `width` digits. -/
def padded (width n : Nat) : String :=
  let digits := toString n
  String.ofList (List.replicate (width - digits.length) '0') ++ digits

/-- Writes a timestamp in UTC. -/
def Instant.toText (t : Instant) : String :=
  let days := t.second.fdiv secondsPerDay
  let time := (t.second.fmod secondsPerDay).toNat
  let date := Date.ofDays days
  let year :=
    if 0 ≤ date.year && date.year ≤ 9999 then padded 4 date.year.toNat
    else (if date.year < 0 then "-" else "+") ++ padded 4 date.year.natAbs
  let nano := t.nano % giga
  let second := time % 60 + t.nano / giga
  let fraction :=
    if nano == 0 then ""
    else if nano % 1000000 == 0 then "." ++ padded 3 (nano / 1000000)
    else if nano % 1000 == 0 then "." ++ padded 6 (nano / 1000)
    else "." ++ padded 9 nano
  year ++ "-" ++ padded 2 date.month ++ "-" ++ padded 2 date.day ++ "T" ++
    padded 2 (time / 3600) ++ ":" ++ padded 2 (time / 60 % 60) ++ ":" ++ padded 2 second ++
    fraction ++ "Z"

end ArtifactPipeline.Time
