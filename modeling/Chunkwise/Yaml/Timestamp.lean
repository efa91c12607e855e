import Chunkwise.Yaml.Refusal

/-!
Dates, with a time of day or without one.
-/
namespace Chunkwise.Yaml

structure Timestamp where
  year : Nat
  month : Nat
  day : Nat
  /-- The hour, the minute, the second and the digits of its fraction. -/
  time : Option (Nat × Nat × Nat × List Char) := none
  /-- Minutes ahead of the universal time. -/
  offset : Option Int := none

namespace Timestamp

def number (digits : List Char) : Nat :=
  digits.foldl (fun n c => 10 * n + (c.toNat - '0'.toNat)) 0

/-- As many digits as asked, and what stands behind them. -/
def digits (least most : Nat) (t : List Char) : Option (Nat × List Char) :=
  let read := (t.take most).takeWhile Char.isDigit
  if least ≤ read.length then some (number read, t.drop read.length) else none

def expect (c : Char) : List Char → Option (List Char)
  | [] => none
  | d :: rest => if c = d then some rest else none

def isBlank (c : Char) : Bool :=
  c == ' ' || c == '\t'

/-- The zone behind a time: nothing, the universal one or an offset. -/
def zone? (t : List Char) : Option (Option Int) :=
  match t.dropWhile isBlank with
  | [] => if t.isEmpty then some none else none
  | ['Z'] => some (some 0)
  | sign :: rest => do
    if sign ≠ '+' ∧ sign ≠ '-' then none
    let (hours, rest) ← digits 1 2 rest
    let minutes ←
      match rest with
      | [] => some 0
      | rest =>
        match digits 2 2 (← expect ':' rest) with
        | some (minutes, []) => some minutes
        | _ => none
    let total : Int := 60 * hours + minutes
    return some (if sign = '-' then -total else total)

/-- The time of day and its zone. -/
def time? (t : List Char) : Option ((Nat × Nat × Nat × List Char) × Option Int) := do
  let (hour, t) ← digits 1 2 t
  let (minute, t) ← digits 2 2 (← expect ':' t)
  let (second, t) ← digits 2 2 (← expect ':' t)
  let (fraction, t) :=
    match t with
    | '.' :: rest => (rest.takeWhile Char.isDigit, rest.dropWhile Char.isDigit)
    | t => ([], t)
  return ((hour, minute, second, fraction), ← zone? t)

/-- A date of ten characters, or one with a time, whose month and day may have one digit. -/
def read? (t : List Char) : Option Timestamp := do
  let (year, rest) ← digits 4 4 t
  let (month, rest) ← digits 1 2 (← expect '-' rest)
  let (day, rest) ← digits 1 2 (← expect '-' rest)
  let date : Timestamp := { year := year, month := month, day := day }
  match rest with
  | [] => return date
  | c :: more =>
    let behind ← if c = 'T' ∨ c = 't' then some more
      else if isBlank c then some (more.dropWhile isBlank) else none
    let (time, offset) ← time? behind
    return { date with time := some time, offset := offset }

/-- A text without quotes is taken for a date only if the month and the day of one without a time
have two digits each. -/
def isWritten (t : List Char) : Bool :=
  match read? t with
  | some stamp => stamp.time.isSome || t.length == 10
  | none => false

def isLeap (year : Nat) : Bool :=
  year % 4 == 0 && (year % 100 != 0 || year % 400 == 0)

def daysIn (year month : Nat) : Nat :=
  if month = 2 then (if isLeap year then 29 else 28)
  else if month ∈ [4, 6, 9, 11] then 30
  else 31

/-- A number with leading zeros. -/
def padded (width n : Nat) : String :=
  let digits := toString n
  "".pushn '0' (width - digits.length) ++ digits

/-- The sixths of the fraction of a second; what is finer is cut off. -/
def microseconds (fraction : List Char) : Nat :=
  number ((fraction ++ List.replicate 6 '0').take 6)

/-- A span of minutes that is too long for an offset, as days and seconds. -/
def spanText (minutes : Int) : String :=
  let days := minutes.fdiv 1440
  let seconds := 60 * minutes.fmod 1440
  let parts := (if days = 0 then [] else [s!"days={days}"]) ++
    (if seconds = 0 then [] else [s!"seconds={seconds}"])
  let inside := if parts.isEmpty then "0" else ", ".intercalate parts
  "datetime.timedelta(" ++ inside ++ ")"

/-- What is wrong with a date or a time that there is not. -/
def complaint? (stamp : Timestamp) : Option String :=
  let dateComplaint? : Option String :=
    if stamp.year = 0 then some "year 0 is out of range"
    else if stamp.month = 0 ∨ 12 < stamp.month then some "month must be in 1..12"
    else if stamp.day = 0 ∨ daysIn stamp.year stamp.month < stamp.day then
      some "day is out of range for month"
    else none
  let offsetComplaint? : Option String :=
    match stamp.offset with
    | some minutes =>
      if minutes.natAbs < 1440 then none
      else some ("offset must be a timedelta strictly between -timedelta(hours=24) and " ++
        s!"timedelta(hours=24), not {spanText minutes}.")
    | none => none
  let timeComplaint? : Option String :=
    match stamp.time with
    | some (hour, minute, second, _) =>
      if 23 < hour then some "hour must be in 0..23"
      else if 59 < minute then some "minute must be in 0..59"
      else if 59 < second then some "second must be in 0..59"
      else none
    | none => none
  offsetComplaint?.or (dateComplaint?.or timeComplaint?)

def dateText (stamp : Timestamp) : String :=
  s!"{padded 4 stamp.year}-{padded 2 stamp.month}-{padded 2 stamp.day}"

def offsetText (minutes : Int) : String :=
  let sign := if minutes < 0 then "-" else "+"
  s!"{sign}{padded 2 (minutes.natAbs / 60)}:{padded 2 (minutes.natAbs % 60)}"

/-- The date as an object. -/
def datum (stamp : Timestamp) : Datum :=
  match stamp.time with
  | none => .object "datetime.date" stamp.dateText
  | some (hour, minute, second, fraction) =>
    let micro := microseconds fraction
    let fine := if micro = 0 then "" else "." ++ padded 6 micro
    let zone := (stamp.offset.map offsetText).getD ""
    .object "datetime.datetime"
      s!"{stamp.dateText} {padded 2 hour}:{padded 2 minute}:{padded 2 second}{fine}{zone}"

/-- The date that a text stands for. -/
def ofText (t : List Char) : Except Refusal Datum :=
  match read? t with
  | none => refuse .attributeError "'NoneType' object has no attribute 'groupdict'"
  | some stamp =>
    match stamp.complaint? with
    | some message => refuse .valueError message
    | none => .ok stamp.datum

end Timestamp

end Chunkwise.Yaml
