import VolumeLifecycle.Yaml.Mark
import VolumeLifecycle.Document.Value
/-!
# Timestamps

A timestamp scalar is a date `YYYY-M-D`, optionally followed (after `T`, `t` or blanks) by a
time `H:MM:SS`, a fraction of a second, and a zone: `Z`, or a sign with hours and optional
minutes, after optional blanks. A date alone is a calendar date; with a time it is a date
and time, to the microsecond (further digits of the fraction are dropped), anchored to UTC
when a zone is given.

The parts must name a real moment: the year is from 1 to 9999, the month from 1 to 12, the
day exists in its month (leap years by the Gregorian rule), the hour is below 24, the minute
and second below 60, and a zone is less than a day away from UTC. The zone is checked first,
then the date, then the time.
-/

namespace VolumeLifecycle.Yaml

/-- The parts of a timestamp as written: date, and the time with its fraction's digits and
its zone (`none` for none, `some none` for `Z`, otherwise sign, hours and minutes). -/
structure Stamp where
  year : Nat
  month : Nat
  day : Nat
  time : Option (Nat × Nat × Nat × List Char × Option (Option (Bool × Nat × Nat)))

/-- Up to `n` leading decimal digits, and the rest. -/
def leadingDigits : Nat → List Char → List Char × List Char
  | 0, cs => ([], cs)
  | _ + 1, [] => ([], [])
  | n + 1, c :: cs =>
      if c.isDigit then
        let (ds, rest) := leadingDigits n cs
        (c :: ds, rest)
      else ([], c :: cs)

/-- The value of decimal digits. -/
def digitsNat (ds : List Char) : Nat := ds.foldl (fun acc c => acc * 10 + (c.toNat - '0'.toNat)) 0

/-- Whether a character is a space or a tab. -/
def isSpaceOrTab (c : Char) : Bool := c == ' ' || c == '\t'

/-- Read `n` to `m` digits at the front. -/
def readDigits (least most : Nat) (cs : List Char) : Option (Nat × List Char) :=
  let (ds, rest) := leadingDigits most cs
  if ds.length < least then none else some (digitsNat ds, rest)

/-- Read the zone after a time: nothing, or blanks then `Z` or a signed offset. -/
def readZone (cs : List Char) : Option (Option (Option (Bool × Nat × Nat))) :=
  if cs.isEmpty then some none
  else
    match cs.dropWhile isSpaceOrTab with
    | ['Z'] => some (some none)
    | s :: rest =>
        if s == '+' || s == '-' then do
          let (h, rest) ← readDigits 1 2 rest
          match rest with
          | [] => some (some (some (s == '-', h, 0)))
          | ':' :: rest =>
              let (m, rest) ← readDigits 2 2 rest
              if rest.isEmpty then some (some (some (s == '-', h, m))) else none
          | _ => none
        else none
    | [] => none

/-- Read a timestamp, if the text is one. A final line feed is allowed. -/
def readStamp (text : String) : Option Stamp := do
  let cs := text.toList
  let cs := if cs.getLast? == some '\n' then cs.dropLast else cs
  let (year, cs) ← readDigits 4 4 cs
  let '-' :: cs := cs | none
  let (month, cs) ← readDigits 1 2 cs
  let '-' :: cs := cs | none
  let (day, cs) ← readDigits 1 2 cs
  if cs.isEmpty then return { year, month, day, time := none }
  let cs ← match cs with
    | 'T' :: rest | 't' :: rest => some rest
    | c :: _ => if isSpaceOrTab c then some (cs.dropWhile isSpaceOrTab) else none
    | [] => none
  let (hour, cs) ← readDigits 1 2 cs
  let ':' :: cs := cs | none
  let (minute, cs) ← readDigits 2 2 cs
  let ':' :: cs := cs | none
  let (second, cs) ← readDigits 2 2 cs
  let (fraction, cs) := match cs with
    | '.' :: rest => (rest.takeWhile Char.isDigit, rest.dropWhile Char.isDigit)
    | _ => ([], cs)
  let zone ← readZone cs
  pure { year, month, day, time := some (hour, minute, second, fraction, zone) }

/-- Whether a year is a leap year. -/
def isLeapYear (y : Nat) : Bool := y % 4 == 0 && (y % 100 != 0 || y % 400 == 0)

/-- The number of days of a month. -/
def daysInMonth (y m : Nat) : Nat :=
  match m with
  | 2 => if isLeapYear y then 29 else 28
  | 4 | 6 | 9 | 11 => 30
  | _ => 31

/-- The check of a calendar date. -/
def checkDate (y m d : Nat) : Except Error Unit :=
  if y < 1 || y > 9999 then .error (.raised "ValueError" s!"year {y} is out of range")
  else if m < 1 || m > 12 then .error (.raised "ValueError" "month must be in 1..12")
  else if d < 1 || d > daysInMonth y m then
    .error (.raised "ValueError" "day is out of range for month")
  else .ok ()

/-- A span of minutes as a duration literal: whole days (rounded down) and the seconds left. -/
def durationLiteral (minutes : Int) : String :=
  let secs := minutes * 60
  let days := secs / 86400
  let rest := secs - days * 86400
  let parts := (if days == 0 then [] else ["days=" ++ toString days])
    ++ (if rest == 0 then [] else ["seconds=" ++ toString rest])
  "datetime.timedelta(" ++ (if parts.isEmpty then "0" else ", ".intercalate parts) ++ ")"

/-- The value of a timestamp. -/
def Stamp.value (s : Stamp) : Except Error Value := do
  match s.time with
  | none =>
      checkDate s.year s.month s.day
      pure (.date s.year s.month s.day)
  | some (hour, minute, second, fraction, zone) =>
      let micro := digitsNat ((fraction.take 6) ++ List.replicate (6 - min 6 fraction.length) '0')
      let offset ← match zone with
        | none => pure none
        | some none => pure (some 0)
        | some (some (negative, h, m)) =>
            let minutes : Int := (h * 60 + m : Nat)
            let minutes := if negative then -minutes else minutes
            if minutes ≤ -1440 || minutes ≥ 1440 then
              throw (.raised "ValueError"
                ("offset must be a timedelta strictly between -timedelta(hours=24) and timedelta(hours=24), not "
                  ++ durationLiteral minutes ++ "."))
            pure (some minutes)
      checkDate s.year s.month s.day
      if hour > 23 then throw (.raised "ValueError" "hour must be in 0..23")
      if minute > 59 then throw (.raised "ValueError" "minute must be in 0..59")
      if second > 59 then throw (.raised "ValueError" "second must be in 0..59")
      pure (.moment s.year s.month s.day { hour, minute, second, micro, offset })

end VolumeLifecycle.Yaml
