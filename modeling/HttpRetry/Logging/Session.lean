import HttpRetry.Logging.Setup
import HttpRetry.Session
set_option autoImplicit false

namespace HttpRetry.Logging

inductive Step where
  | configure (settings : Settings)
  | emit (logger : String) (level : Level) (bound fields : Members) (event : String)
  | message (logger : String) (level : Level) (template : String) (args : List Json)
  | context (fields : Members)
  | request (stack : Stack) (order : Order)

inductive Result where
  | configured
  | nothing
  | status (n : Int)
  | failed (spec : FailureSpec)
  | raised (e : Failure) (ledger : Ledger)

structure Report where
  result : Result
  lines : List String
  setup : Setup

def registerAll (s : Setup) (events : List Event) : Setup :=
  events.foldl (fun s event =>
    match event with
    | .logged _ _ entry => s.register entry.notice.loggerName
    | _ => s) s

def relay (s : Setup) (events : List Event) : List String :=
  events.flatMap fun
    | .logged _ _ entry => (s.emitNotice entry).toOption.getD []
    | _ => []

def request (s : Setup) (stack : Stack) (order : Order) : Report :=
  let (result, l) := Session.request stack 0 order false {}
  let s := registerAll s l.trace
  let lines := relay s l.trace
  match result with
  | .response view _ => ⟨.status view.ref.status, lines, s⟩
  | .raised e => ⟨.raised e l, lines, s⟩
  | _ => ⟨.nothing, lines, s⟩

def reportOf (s : Setup) (result : Result) : Except FailureSpec (List String) → Report
  | .ok lines => ⟨result, lines, s⟩
  | .error spec => ⟨.failed spec, [], s⟩

def takenName? (own : List String) (fields : Members) : Option String :=
  (fields.find? fun (name, _) => own.contains name).map (·.1)

def multipleValues (method name : String) : FailureSpec :=
  .of .typeError (some (method ++ "() got multiple values for argument " ++ Text.quoted name))

def clash? (level : Level) (bound fields : Members) : Option FailureSpec :=
  ((takenName? ["self"] bound).map (multipleValues "BoundLoggerLazyProxy.bind")).or
    (((takenName? ["self", "event"] fields).map
      (multipleValues ("BoundLogger." ++ level.name))).or
        ((takenName? ["method_name"] fields).map
          (multipleValues "BoundLogger._proxy_to_logger")))

def step (s : Setup) : Step → Report
  | .configure settings =>
    match s.configure settings with
    | .ok s => reportOf (s.register setupLogger) .configured (s.announce settings)
    | .error spec => ⟨.failed spec, [], s⟩
  | .emit logger level bound fields event =>
    let s := s.register logger
    match clash? level bound fields with
    | some spec => ⟨.failed spec, [], s⟩
    | none => reportOf s .nothing (s.emitEvent logger level bound fields event)
  | .message logger level template args =>
    let s := s.register logger
    ⟨.nothing, s.emitMessage logger level template args, s⟩
  | .context fields => ⟨.nothing, [], { s with context := fields }⟩
  | .request stack order => request s stack order

def run (s : Setup) : List Step → List Report
  | [] => []
  | st :: rest =>
    let report := step s st
    report :: run report.setup rest

end HttpRetry.Logging
