import HttpRetry.Blocking
import HttpRetry.Suspended
set_option autoImplicit false

namespace HttpRetry

def Mode.transportName : Mode → String
  | .blocking => "RetryTransport"
  | .suspending => "AsyncRetryTransport"

def Mode.innermostName : Mode → String
  | .blocking => "ScriptTransport"
  | .suspending => "AsyncScriptTransport"

structure Stack where
  setting : Setting
  /-- The outermost first. -/
  layers : List Layer
  closeFailure : Option FailureSpec
  /-- The rounds allowed for each entry into a layer. -/
  budget : Nat

namespace Stack

def buildLayers : List LayerSpec → Except BuildError (List Layer)
  | [] => .ok []
  | spec :: inner => do
    let layers ← buildLayers inner
    let layer ← spec.build
    return layer :: layers

def build (setting : Setting) (specs : List LayerSpec) (closeFailure : Option FailureSpec) :
    Except BuildError Stack := do
  let layers ← buildLayers specs
  return { setting, layers, closeFailure, budget := (specs.map LayerSpec.patience).foldl max 0 }

def places (s : Stack) : List Place := placesFrom 0 s.layers

/-- A bound on the stops of one call: each entry into each layer makes at most `budget` rounds, with at
most two stops after each, and the call stops once for each send of the innermost transport. -/
def fuel (s : Stack) : Nat := (2 * s.layers.length + 1) * Nat.pow s.budget s.layers.length

def send (s : Stack) (call : Call) : Send :=
  match s.setting.mode with
  | .blocking => sendThrough s.setting call s.budget s.places
  | .suspending => sendStepwise s.setting call s.fuel s.places

def close (s : Stack) (call : Nat) : Work (Except Failure Unit) := do
  Work.note (.transportClosed call)
  match s.closeFailure with
  | none => return .ok ()
  | some spec => Work.failWith s.setting.mode.routine call spec

def describeLayers (mode : Mode) : List Layer → String
  | [] => mode.innermostName ++ "()"
  | layer :: inner =>
    mode.transportName ++ "(transport=" ++ describeLayers mode inner ++ ", retryer=" ++
      layer.retryer.describe ++ ")"

def describe (s : Stack) : String := describeLayers s.setting.mode s.layers

def wrappedName (s : Stack) : String :=
  if s.layers.length ≤ 1 then s.setting.mode.innermostName else s.setting.mode.transportName

end Stack

end HttpRetry
