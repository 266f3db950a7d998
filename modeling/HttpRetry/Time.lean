import HttpRetry.Number.Decimal
set_option autoImplicit false

namespace HttpRetry

/-- `face` is what the clock shows, in microseconds since the start of 1970; `offset` is how far
ahead of universal time that is, in microseconds. -/
structure Timestamp where
  face : Int
  offset : Option Int
  deriving DecidableEq, Repr, Inhabited

inductive RangeError where
  /-- The year lies outside of 1 to 9999. -/
  | date
  /-- A span of more days than are allowed for. -/
  | days (n : Int)
  /-- A span whose days do not fit into a machine word. -/
  | word
  deriving DecidableEq, Repr

def RangeError.message : RangeError → String
  | .date => "date value out of range"
  | .days n => "days=" ++ toString n ++ "; must have magnitude <= 999999999"
  | .word => "Python int too large to convert to C int"

namespace Timestamp

def microsPerSecond : Int := 1000000

def microsPerDay : Int := 86400 * microsPerSecond

/-- The days from the start of 1970 to a date; years begin in March so that leap days come last. -/
def dayNumber (year month day : Int) : Int :=
  let y := if month ≤ 2 then year - 1 else year
  let era := y / 400
  let yearOfEra := y - era * 400
  let dayOfYear := (153 * (month + (if 2 < month then -3 else 9)) + 2) / 5 + day - 1
  let dayOfEra := yearOfEra * 365 + yearOfEra / 4 - yearOfEra / 100 + dayOfYear
  era * 146097 + dayOfEra - 719468

def civil (number : Int) : Int × Int × Int :=
  let z := number + 719468
  let era := z / 146097
  let dayOfEra := z - era * 146097
  let yearOfEra := (dayOfEra - dayOfEra / 1460 + dayOfEra / 36524 - dayOfEra / 146096) / 365
  let dayOfYear := dayOfEra - (365 * yearOfEra + yearOfEra / 4 - yearOfEra / 100)
  let shifted := (5 * dayOfYear + 2) / 153
  let day := dayOfYear - (153 * shifted + 2) / 5 + 1
  let month := if shifted < 10 then shifted + 3 else shifted - 9
  let year := yearOfEra + era * 400 + (if month ≤ 2 then 1 else 0)
  (year, month, day)

def padded (width : Nat) (n : Int) : List Char :=
  let digits := Nat.toDigits 10 n.natAbs
  List.replicate (width - digits.length) '0' ++ digits

/-- `hh:mm`, then seconds and microseconds as far as `always` or a non-zero value asks. -/
def clockText (always : Bool) (micros : Int) : List Char :=
  let seconds := micros / microsPerSecond
  let fraction := micros % microsPerSecond
  let short := padded 2 (seconds / 3600) ++ ':' :: padded 2 (seconds / 60 % 60)
  let whole :=
    if always || seconds % 60 ≠ 0 || fraction ≠ 0 then short ++ ':' :: padded 2 (seconds % 60)
    else short
  if fraction ≠ 0 then whole ++ '.' :: padded 6 fraction else whole

def offsetText : Option Int → List Char
  | none => []
  | some offset => (if offset < 0 then '-' else '+') :: clockText false (offset.natAbs : Int)

def text (t : Timestamp) : String :=
  let (year, month, day) := civil (t.face / microsPerDay)
  String.ofList (padded 4 year ++ '-' :: padded 2 month ++ '-' :: padded 2 day ++ 'T' ::
    clockText true (t.face % microsPerDay) ++ offsetText t.offset)

def span (micros : Int) : Except RangeError Int :=
  let days := micros / microsPerDay
  if days < -2147483648 ∨ 2147483647 < days then .error .word
  else if 999999999 < days.natAbs then .error (.days days)
  else .ok micros

def faceFloor : Int := dayNumber 1 1 1 * microsPerDay

def faceCeiling : Int := dayNumber 10000 1 1 * microsPerDay

def later (t : Timestamp) (micros : Int) : Except RangeError Timestamp :=
  let face := t.face + micros
  if faceFloor ≤ face ∧ face < faceCeiling then .ok { t with face } else .error .date

/-- The microseconds from `start` to `t`; there are none between a time with an offset and one
without. -/
def since? (t start : Timestamp) : Option Int :=
  match t.offset, start.offset with
  | some o, some o' => some ((t.face - o) - (start.face - o'))
  | none, none => some (t.face - start.face)
  | _, _ => none

end Timestamp

/-- A duration as whole days, seconds of a day and microseconds of a second; the days carry the sign. -/
structure Elapsed where
  days : Int
  seconds : Int
  microseconds : Int
  deriving DecidableEq, Repr

def Elapsed.ofMicros (micros : Int) : Elapsed :=
  { days := micros / Timestamp.microsPerDay
    seconds := micros % Timestamp.microsPerDay / Timestamp.microsPerSecond
    microseconds := micros % Timestamp.microsPerSecond }

theorem Elapsed.micros_ofMicros (micros : Int) :
    (ofMicros micros).days * Timestamp.microsPerDay +
      (ofMicros micros).seconds * Timestamp.microsPerSecond + (ofMicros micros).microseconds =
      micros := by
  simp only [ofMicros, Timestamp.microsPerDay, Timestamp.microsPerSecond]
  omega

end HttpRetry
