import TemplateTree.Config.Data
import TemplateTree.Yaml.Tag

/-!
# Dates and times

The value of a timestamp: the two texts it is shown by, and its instant if its zone is
known.
-/

namespace TemplateTree.Yaml

open Text (Chars)

def naturalOf (digits : Chars) : Nat := digits.foldl (fun n c => n * 10 + (c.toNat - 48)) 0

def isLeapYear (year : Nat) : Bool := year % 4 == 0 && (year % 100 != 0 || year % 400 == 0)

def daysInMonth (year month : Nat) : Nat :=
  match month with
  | 2 => if isLeapYear year then 29 else 28
  | 4 | 6 | 9 | 11 => 30
  | _ => 31

def padded (width n : Nat) : String :=
  let digits := toString n
  String.ofList (List.replicate (width - digits.length) '0') ++ digits

structure Date where
  year : Nat
  month : Nat
  day : Nat

def Date.isValid (d : Date) : Bool :=
  1 ≤ d.year && 1 ≤ d.month && d.month ≤ 12 && 1 ≤ d.day && d.day ≤ daysInMonth d.year d.month

def Date.text (d : Date) : String :=
  padded 4 d.year ++ "-" ++ padded 2 d.month ++ "-" ++ padded 2 d.day

/-- How many days there are before a date, from the year one on. -/
def Date.daysBefore (d : Date) : Nat :=
  let years := d.year - 1
  let months := (List.range (d.month - 1)).map fun m => daysInMonth d.year (m + 1)
  365 * years + years / 4 - years / 100 + years / 400 + months.foldl (· + ·) 0 + (d.day - 1)

def Date.parts (d : Date) : List String := [toString d.year, toString d.month, toString d.day]

def call (name : String) (parts : List String) : String :=
  name ++ "(" ++ ", ".intercalate parts ++ ")"

/-- A distance from universal time in minutes. -/
def zoneMinutes (zone : Chars) : Int :=
  match zone with
  | sign :: rest =>
    let hour := rest.takeWhile Char.isDigit
    let minute := (rest.dropWhile Char.isDigit).drop 1
    let size : Int := naturalOf hour * 60 + naturalOf minute
    if sign == '-' then -size else if sign == '+' then size else 0
  | [] => 0

/-- How a zone is shown inside a time: whole days first, then seconds. -/
def zoneDisplay (minutes : Int) : String :=
  if minutes == 0 then "datetime.timezone.utc"
  else
    let days := minutes.fdiv 1440
    let seconds := (minutes - days * 1440) * 60
    let parts :=
      (if days == 0 then [] else ["days=" ++ toString days])
        ++ (if seconds == 0 then [] else ["seconds=" ++ toString seconds])
    call "datetime.timezone" [call "datetime.timedelta" parts]

def zoneText (minutes : Int) : String :=
  let size := minutes.natAbs
  (if minutes < 0 then "-" else "+") ++ padded 2 (size / 60) ++ ":" ++ padded 2 (size % 60)

def millionths (fraction : Chars) : Nat :=
  naturalOf ((fraction.take 6) ++ List.replicate (6 - fraction.length) '0')

def timeOf (date : Date) (time : TimeText) : Scan Data :=
  let hour := naturalOf time.hour
  let minute := naturalOf time.minute
  let second := naturalOf time.second
  let fraction := millionths time.fraction
  let zone := time.zone.map zoneMinutes
  if 23 < hour || 59 < minute || 59 < second || !date.isValid
      || zone.any (fun m => 1440 ≤ m.natAbs) then .error .badNumber
  else
    let tail :=
      if fraction != 0 then [toString second, toString fraction]
      else if second != 0 then [toString second]
      else []
    let zonePart := (zone.map fun m => ["tzinfo=" ++ zoneDisplay m]).getD []
    let clock := padded 2 hour ++ ":" ++ padded 2 minute ++ ":" ++ padded 2 second
    let inside :=
      call "datetime.datetime"
        (date.parts ++ [toString hour, toString minute] ++ tail ++ zonePart)
    let alone :=
      date.text ++ " " ++ clock ++ (if fraction == 0 then "" else "." ++ padded 6 fraction)
        ++ (zone.map zoneText).getD ""
    match zone with
    | none => .ok (.other inside alone)
    | some minutes =>
      let seconds := ((date.daysBefore * 24 + hour) * 60 + minute - minutes) * 60 + second
      .ok (.moment (seconds * 1000000 + fraction) inside alone)

def timestampOf (text : Chars) : Scan Data :=
  match readDate? text with
  | none => .error .badTime
  | some parts =>
    let date : Date := ⟨naturalOf parts.year, naturalOf parts.month, naturalOf parts.day⟩
    if parts.rest.isEmpty then
      if date.isValid then .ok (.other (call "datetime.date" date.parts) date.text)
      else .error .badNumber
    else
      match readTime? parts.rest with
      | none => .error .badTime
      | some time => timeOf date time

end TemplateTree.Yaml
