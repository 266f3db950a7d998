import HttpRetry.Policy
import HttpRetry.Ledger
/-!
A retrying layer around another transport, and the clocks that layers read.
-/
set_option autoImplicit false

namespace HttpRetry

def RangeError.failure (e : RangeError) : FailureSpec := .of .overflowError (some e.message)

/-- What reading a clock gives, by how it was used before and the time passed in seconds. -/
abbrev Dial := ClockUse → Rat → Except FailureSpec (Option Timestamp)

/-- A source of attempts' start times. Clocks of one key are one and the same. -/
structure Clock where
  key : Nat := 0
  dial : Dial

namespace Clock

def wall : Clock := { dial := fun _ _ => .ok none }

def failing (spec : FailureSpec) : Clock := { dial := fun _ _ => .error spec }

def wholeMicros (seconds : Rat) : Int :=
  let micros := seconds * 1000000
  if micros < 0 then micros.ceil else micros.floor

/-- The time that a clock shows that also moves on by `tick` microseconds with every reading. -/
def shown (start : Timestamp) (tick : Int) (readings : Nat) (now : Rat) :
    Except RangeError Timestamp := do
  let begun ← start.later (← Timestamp.span (readings * tick))
  begun.later (← Timestamp.span (wholeMicros now))

def ticking (start : Timestamp) (tick : Int) : Clock :=
  { dial := fun use now =>
      match shown start tick use.readings now with
      | .ok t => .ok (some t)
      | .error e => .error e.failure }

def infiniteWhole : FailureSpec :=
  .of .overflowError (some "cannot convert float infinity to integer")

/-- The microseconds of a number of seconds given as a numeral: a whole number exactly, any other
with its fraction taken as a binary one, to the nearest microsecond. -/
def tickOf (seconds : Json) : Except FailureSpec Int :=
  let checked (micros : Int) := (Timestamp.span micros).mapError RangeError.failure
  match seconds with
  | .int n => checked (n * 1000000)
  | .real x =>
    match x.toBinary64 with
    | .nan => .error (.of .valueError (some "cannot convert float NaN to integer"))
    | .infinity _ => .error infiniteWhole
    | finite => checked finite.micros
  | _ => .ok 0

def peek (clock : Clock) (l : Ledger) : Except FailureSpec (Option Timestamp) :=
  clock.dial (l.clocks clock.key) l.now

end Clock

structure Layer where
  retryer : Retryer
  clock : Clock
  delay : Option Delayer
  drainLimit : Nat
  /-- The limit as it is shown. -/
  shownLimit : Json
  settings : Settings
  sink : Sink
  /-- An error that every attempt with a response is made to carry. -/
  forced : Option FailureSpec
  one_le_drainLimit : 1 ≤ drainLimit

/-- What reaching the drain limit raises: bytes are counted off in whole numbers only. -/
def Layer.limitFailure? (layer : Layer) : Option FailureSpec :=
  match layer.shownLimit with
  | .real _ => some (.of .typeError (some "'float' object cannot be interpreted as an integer"))
  | _ => none

/-- What a layer is built from; what is absent is taken from the settings. -/
structure LayerSpec where
  retryer : Option RetryerSpec := none
  clock : Clock := .wall
  delay : Option Delayer := none
  drainLimit : Option (Entry Int) := none
  settings : Settings := {}
  sink : Sink := .standard
  forced : Option FailureSpec := none

def LayerSpec.defaultRetryer (spec : LayerSpec) : Except BuildError DefaultPolicy :=
  DefaultPolicy.build none none spec.settings

/-- A number of rounds that no call of the layer exceeds. -/
def LayerSpec.patience (spec : LayerSpec) : Nat :=
  match spec.retryer with
  | some retryer => retryer.patience
  | none =>
    match spec.defaultRetryer with
    | .ok policy => policy.cap
    | .error _ => 0

def LayerSpec.chosenRetryer (spec : LayerSpec) : Except BuildError Retryer :=
  match spec.retryer with
  | some retryer => .ok retryer.retryer
  | none => spec.defaultRetryer.map .standard

/-- Builds a layer; the default retryer is built, and its cap checked, before the drain limit is. -/
def LayerSpec.build (spec : LayerSpec) : Except BuildError Layer := do
  let retryer ← spec.chosenRetryer
  let limit ← Limit.ofEntry (spec.drainLimit.getD spec.settings.bodyDrainLimit)
  if h : 1 ≤ limit.value then
    .ok { retryer
          clock := spec.clock
          delay := spec.delay
          drainLimit := limit.value.toNat
          shownLimit := limit.shown
          settings := spec.settings
          sink := spec.sink
          forced := spec.forced
          one_le_drainLimit := Limit.one_le_toNat h }
  else .error .drain

structure Setting where
  mode : Mode
  timer : Timer

structure Place where
  index : Nat
  layer : Layer

def placesFrom : (index : Nat) → List Layer → List Place
  | _, [] => []
  | index, layer :: inner => ⟨index, layer⟩ :: placesFrom (index + 1) inner

end HttpRetry
