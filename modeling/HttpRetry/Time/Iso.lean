import HttpRetry.Text.Quoted
import HttpRetry.Time
set_option autoImplicit false

namespace HttpRetry

inductive IsoError where
  | unreadable (text : String)
  | year (n : Int)
  | month
  | day
  | hour
  | minute
  | second
  /-- The offset is a day or more. -/
  | offset (micros : Int)
  deriving DecidableEq, Repr

def spanText (micros : Int) : String :=
  let e := Elapsed.ofMicros micros
  let parts := [("days", e.days), ("seconds", e.seconds), ("microseconds", e.microseconds)].filter
    (·.2 ≠ 0)
  "datetime.timedelta(" ++ ", ".intercalate (parts.map fun (name, n) => name ++ "=" ++ toString n) ++
    ")"

def IsoError.message : IsoError → String
  | .unreadable text => "Invalid isoformat string: " ++ Text.quoted text
  | .year n => "year " ++ toString n ++ " is out of range"
  | .month => "month must be in 1..12"
  | .day => "day is out of range for month"
  | .hour => "hour must be in 0..23"
  | .minute => "minute must be in 0..59"
  | .second => "second must be in 0..59"
  | .offset micros =>
    "offset must be a timedelta strictly between -timedelta(hours=24) and timedelta(hours=24), not " ++
      spanText micros ++ "."

namespace Timestamp

def field? : (width : Nat) → (acc : Nat) → List Char → Option (Nat × List Char)
  | 0, acc, rest => some (acc, rest)
  | width + 1, acc, c :: rest =>
    if c.isDigit then field? width (10 * acc + (c.toNat - 48)) rest else none
  | _ + 1, _, [] => none

def isLeap (year : Int) : Bool := year % 4 = 0 && (year % 100 ≠ 0 || year % 400 = 0)

def monthLength (year month : Int) : Int :=
  if month = 2 then if isLeap year then 29 else 28
  else if month = 4 ∨ month = 6 ∨ month = 9 ∨ month = 11 then 30 else 31

def weekday (number : Int) : Int := (number + 3) % 7

/-- The Monday of the week that holds the year's first Thursday. -/
def firstMonday (year : Int) : Int :=
  let first := dayNumber year 1 1
  let monday := first - weekday first
  if 3 < weekday first then monday + 7 else monday

/-- Whether a year has 53 weeks: it begins on a Thursday, or as a leap year on a Wednesday. -/
def isLong (year : Int) : Bool :=
  let first := weekday (dayNumber year 1 1)
  first = 3 || (first = 2 && isLeap year)

def ofWeek? (year week day : Nat) : Option (Int × Int × Int) :=
  if (1 ≤ week ∧ week ≤ 52 ∨ week = 53 ∧ isLong year) ∧ 1 ≤ day ∧ day ≤ 7 then
    some (if year = 0 then (1, 0, 0) else civil (firstMonday year + (week - 1) * 7 + (day - 1)))
  else none

/-- The length of the date at the beginning of a text. What follows a week without a weekday may
itself begin with digits: two by two they are a time, else the first one is the weekday. -/
def dateLength (text : List Char) : Nat :=
  if text.length = 7 then 7
  else
    match text.drop 4 with
    | '-' :: 'W' :: _ :: _ :: '-' :: _ :: c :: _ => if c.isDigit then 8 else 10
    | '-' :: 'W' :: _ :: _ :: '-' :: _ => 10
    | '-' :: 'W' :: _ => 8
    | '-' :: _ => 10
    | 'W' :: rest =>
      let digits := 7 + ((rest.drop 2).takeWhile Char.isDigit).length
      if digits < 9 then digits else if digits % 2 = 0 then 7 else 8
    | _ => 8

def skip? (c : Char) : List Char → Option (List Char)
  | [] => none
  | d :: rest => if d = c then some rest else none

def date? (text : List Char) : Option (Int × Int × Int) := do
  let (year, rest) ← field? 4 0 text
  let separated := rest.head? = some '-'
  let rest := if separated then rest.drop 1 else rest
  match rest with
  | 'W' :: rest =>
    let (week, rest) ← field? 2 0 rest
    match rest with
    | [] => ofWeek? year week 1
    | rest =>
      let rest ← if separated then skip? '-' rest else some rest
      let (day, _) ← field? 1 0 rest
      ofWeek? year week day
  | rest =>
    let (month, rest) ← field? 2 0 rest
    let rest ← if separated then skip? '-' rest else some rest
    let (day, _) ← field? 2 0 rest
    some (year, month, day)

def checkDate (date : Int × Int × Int) : Except IsoError Unit :=
  let (year, month, day) := date
  if year < 1 ∨ 9999 < year then .error (.year year)
  else if month < 1 ∨ 12 < month then .error .month
  else if day < 1 ∨ monthLength year month < day then .error .day
  else .ok ()

structure Clockface where
  hour : Int := 0
  minute : Int := 0
  second : Int := 0
  micro : Int := 0

namespace Clockface

def seconds (c : Clockface) : Int := (c.hour * 60 + c.minute) * 60 + c.second

def micros (c : Clockface) : Int := c.seconds * microsPerSecond + c.micro

def put (c : Clockface) (place : Nat) (n : Nat) : Clockface :=
  match place with
  | 0 => { c with hour := n }
  | 1 => { c with minute := n }
  | _ => { c with second := n }

def isEnd (rest : List Char) : Bool := rest.head?.getD '\x00' = '\x00'

/-- Reads a fraction of a second, of which all but six digits are dropped, and says whether the text
ends with it. -/
def fraction? (c : Clockface) (rest : List Char) : Option (Clockface × Bool) := do
  let width := min 6 rest.length
  let (n, rest) ← field? width 0 rest
  some ({ c with micro := (n * pow10 (6 - width) : Nat) }, isEnd (rest.dropWhile Char.isDigit))

/-- Reads what is written from a place on: pairs of digits, either all with a colon between them or all
without one, and a fraction after a point, a comma, or whatever else parts or does not part the pairs.
A single ASCII character that follows a pair is passed over; whether the text ends is said as well. -/
def readFrom? : (places : Nat) → (separated : Bool) → Clockface → List Char →
    Option (Clockface × Bool)
  | 0, _, c, rest => c.fraction? rest
  | places + 1, separated, c, text => do
    let (n, rest) ← field? 2 0 text
    let c := c.put (2 - places) n
    match rest with
    | [] => some (c, true)
    | [mark] => if mark.toNat < 128 then some (c, mark = '\x00') else none
    | mark :: more =>
      let separated := if places = 2 then mark = ':' else separated
      if separated && mark = ':' then readFrom? places true c more
      else if mark = '.' || mark = ',' then c.fraction? more
      else if separated then none
      else readFrom? places false c rest

def read? (text : List Char) : Option (Clockface × Bool) := readFrom? 3 true {} text

def check (c : Clockface) : Except IsoError Unit :=
  if 23 < c.hour then .error .hour
  else if 59 < c.minute then .error .minute
  else if 59 < c.second then .error .second
  else .ok ()

end Clockface

def startsOffset (c : Char) : Bool := c = '+' || c = '-' || c = 'Z'

def offset? : List Char → Option Int
  | 'Z' :: rest => if Clockface.isEnd rest then some 0 else none
  | mark :: rest => do
    let (c, ended) ← Clockface.read? rest
    if !ended then none
    else if c.seconds = 0 then some 0
    else some (if mark = '-' then -c.micros else c.micros)
  | [] => none

def timeOfDay? (text : List Char) : Option (Clockface × Option Int) := do
  let (c, ended) ← Clockface.read? (text.takeWhile (!startsOffset ·))
  match text.dropWhile (!startsOffset ·) with
  | [] => if ended then some (c, none) else none
  | rest => some (c, some (← offset? rest))

def checkOffset (offset : Option Int) : Except IsoError Unit :=
  match offset with
  | some micros => if microsPerDay ≤ micros.natAbs then .error (.offset micros) else .ok ()
  | none => .ok ()

/-- A date alone is its midnight; whatever character follows it asks for a time. -/
def written? (text : List Char) : Option ((Int × Int × Int) × Clockface × Option Int) := do
  if text.length < 7 then none
  else
    let length := dateLength text
    let date ← date? (text.take length)
    match text.drop length with
    | [] => some (date, {}, none)
    | _ :: rest => do
      let (c, offset) ← timeOfDay? rest
      some (date, c, offset)

/-- Reads a point in time. Of several faults the offset's is reported before the date's, and that before
the time's. -/
def ofIso (s : String) : Except IsoError Timestamp := do
  match written? s.toList with
  | none => throw (.unreadable s)
  | some (date, c, offset) =>
    checkOffset offset
    checkDate date
    c.check
    let (year, month, day) := date
    return ⟨dayNumber year month day * microsPerDay + c.micros, offset⟩

end Timestamp

end HttpRetry
