import HttpRetry.Cookies
import HttpRetry.Headers
import HttpRetry.Json.Printer
import HttpRetry.Session
set_option autoImplicit false

namespace HttpRetry

def Mode.clientName : Mode → String
  | .blocking => "Client"
  | .suspending => "AsyncClient"

def Mode.networkName : Mode → String
  | .blocking => "HTTPTransport"
  | .suspending => "AsyncHTTPTransport"

structure ClientSpec where
  setting : Setting
  settings : Settings
  retryer : Option RetryerSpec
  delay : Option Delayer
  /-- The base URL, if one is given. -/
  baseUrl : Option Json
  headers : Option Json
  /-- The timeout, if one is given; `null` stands for none at all. -/
  timeout : Option Json
  closeFailure : Option FailureSpec

inductive ClientError where
  | build (e : BuildError)
  | url (e : UrlError)
  /-- An argument of another type than it should have. -/
  | argument (spec : FailureSpec)

def ClientError.failure : ClientError → FailureSpec
  | .build e => e.failure
  | .url e => e.failure
  | .argument spec => spec

structure Client where
  stack : Stack
  layer : Layer
  base : Url
  /-- Whether the client's headers name a host for all requests. -/
  namesHost : Bool
  /-- The same for connecting, reading, writing and waiting for a connection. -/
  timeout : Option String

def timeoutText (given : Option Json) (settings : Settings) : Option String :=
  match given, settings.httpTimeout with
  | some .null, _ | none, .unchecked .null => none
  | none, _ => some settings.timeoutText
  | some value, _ => some value.display

def baseOf : Option Json → Except ClientError Url
  | none => .ok {}
  | some (.str text) =>
    match do (← Url.parse text).asBase with
    | .ok base => .ok base
    | .error e => .error (.url e)
  | some value => .error (.argument (Headers.typeError
      ("Invalid type for url.  Expected str or httpx.URL, got <class '" ++ value.kind ++ "'>: " ++
        value.display)))

def ClientSpec.build (spec : ClientSpec) : Except ClientError Client := do
  let layerSpec : LayerSpec :=
    { retryer := spec.retryer, delay := spec.delay, settings := spec.settings }
  let layer ← layerSpec.build.mapError .build
  let base ← baseOf spec.baseUrl
  (Headers.check (spec.headers.getD .null)).mapError .argument
  return {
    stack :=
      { setting := spec.setting, layers := [layer], closeFailure := spec.closeFailure,
        budget := layerSpec.patience }
    layer
    base
    namesHost := Headers.haveHost (spec.headers.getD .null)
    timeout := timeoutText spec.timeout spec.settings }

def Client.creation (c : Client) : Notice :=
  .created (c.stack.setting.mode = .suspending) c.stack.describe
    (c.layer.settings.httpTimeout.json fun x => .str x.text)

structure ClientOrder where
  method : String
  url : String
  json : Option Json
  feed : Feed

inductive ClientStep where
  | close
  | request (order : ClientOrder)

structure ClientResponse where
  status : Int
  closed : Bool
  content : List Char
  request : Request

inductive ClientResult where
  | closed
  | response (r : ClientResponse)
  | raised (e : Failure)

structure ClientReport where
  result : ClientResult
  events : List Event
  ledger : Ledger

namespace Client

def bodyOf : Option Json → Except FailureSpec String
  | none => .ok ""
  | some value =>
    if value.isFinite then .ok (value.render .compact)
    else .error (.of .valueError (some "Out of range float values are not JSON compliant"))

def requestOf (c : Client) (order : ClientOrder) : Except FailureSpec Request := do
  let url ← (do c.base.under (← Url.parse order.url)).mapError UrlError.failure
  let body ← bodyOf order.json
  if !c.namesHost then url.checkHost.mapError UrlError.failure
  return {
    method := Text.upper order.method
    url := url.text
    maker := .client
    body }

def closedText : String := "Cannot send a request, as the client has been closed."

/-- Reads the body of a response; when that fails the response is closed and the failure raised, or
the one that closing raises. -/
def finish (c : Client) (call : Nat) (request : Request) (r : ResponseRef) :
    Work ClientResult := do
  let mode := c.stack.setting.mode
  match ← Work.read mode call r.id with
  | .error e =>
    match ← Work.close mode call r.id with
    | .ok () => return .raised e
    | .error e' => return .raised e'
  | .ok () =>
    let response := ((← get).response? r.id).getD default
    return .response ⟨r.status, response.closed, response.content, request⟩

/-- Whether a response has a stream of the other mode, which a client does not take. -/
def isForeign (mode : Mode) (r : Response) : Bool :=
  match r.body with
  | .memory _ => false
  | .stream s => s.mode ≠ mode

def request (c : Client) (closed : Bool) (call : Nat) (order : ClientOrder) :
    Work ClientResult := do
  match c.requestOf order with
  | .error e => return .raised (← Work.fail call e)
  | .ok request =>
    if closed then
      return .raised (← Work.fail call (.of .runtimeError (some closedText)))
    else
      match ← c.stack.reply ⟨call, request, order.feed⟩ with
      | .raised e => return .raised e
      | .nothing => return .raised (← Work.fail call Session.noReply)
      | .response r =>
        let response := ((← get).response? r.id).getD default
        if isForeign c.stack.setting.mode response then
          return .raised (← Work.fail call (.of .assertionError none))
        else
          match Cookies.complaint? request.url with
          | some complaint =>
            return .raised (← Work.fail call (.of .valueError (some complaint)))
          | none => finish c call request r

def close (c : Client) (closed : Bool) (call : Nat) : Work ClientResult := do
  if closed then return .closed
  else
    match ← c.stack.close call with
    | .ok () => return .closed
    | .error e => return .raised e

def step (c : Client) (closed : Bool) (call : Nat) : ClientStep → Work ClientResult
  | .close => close c closed call
  | .request order => request c closed call order

def closedAfter (closed : Bool) : ClientStep → Bool
  | .close => true
  | .request _ => closed

def run (c : Client) : (closed : Bool) → (call : Nat) → Ledger → List ClientStep →
    List ClientReport
  | _, _, _, [] => []
  | closed, call, l, st :: rest =>
    let (result, l') := step c closed call st l
    ⟨result, l'.eventsSince l, l'⟩ :: run c (closedAfter closed st) (call + 1) l' rest

end Client

end HttpRetry
