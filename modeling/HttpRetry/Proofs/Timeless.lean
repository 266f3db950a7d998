import HttpRetry.Schedule
set_option autoImplicit false

namespace HttpRetry

mutual

def Failure.timeless : Failure → Failure
  | .aborted id attempt => .aborted id attempt.timeless
  | .exhausted id attempt => .exhausted id attempt.timeless
  | .turned id text original => .turned id text original.timeless
  | e => e

def Attempt.timeless : Attempt → Attempt
  | ⟨_, count, some e, request, response, h⟩ => ⟨none, count, some e.timeless, request, response, h⟩
  | ⟨_, count, none, request, response, h⟩ => ⟨none, count, none, request, response, h⟩

end

namespace Failure

@[simp] theorem kind_timeless (e : Failure) : e.timeless.kind = e.kind := by cases e <;> rfl

theorem text_timeless (e : Failure) : e.timeless.text = e.text := by
  match e with
  | .raised .. | .detailed .. | .turned .. => rfl
  | .aborted id ⟨start, count, none, request, response, h⟩ => rfl
  | .aborted id ⟨start, count, some last, request, response, h⟩ => rfl
  | .exhausted id ⟨start, count, none, request, response, h⟩ => rfl
  | .exhausted id ⟨start, count, some last, request, response, h⟩ =>
    have ih := text_timeless last
    simp only [timeless, Attempt.timeless, text, ih, typeName, kind_timeless]

end Failure

namespace Attempt

@[simp] theorem error_timeless (a : Attempt) : a.timeless.error = a.error.map Failure.timeless := by
  obtain ⟨start, count, error, request, response, h⟩ := a
  cases error <;> rfl

@[simp] theorem count_timeless (a : Attempt) : a.timeless.count = a.count := by
  obtain ⟨start, count, error, request, response, h⟩ := a
  cases error <;> rfl

@[simp] theorem request_timeless (a : Attempt) : a.timeless.request = a.request := by
  obtain ⟨start, count, error, request, response, h⟩ := a
  cases error <;> rfl

@[simp] theorem response_timeless (a : Attempt) : a.timeless.response = a.response := by
  obtain ⟨start, count, error, request, response, h⟩ := a
  cases error <;> rfl

@[simp] theorem status?_timeless (a : Attempt) : a.timeless.status? = a.status? := by
  simp [status?]

end Attempt

theorem Failure.details?_timeless (e : Failure) : e.timeless.details? = e.details? := by
  have reported (a : Attempt) : reportedKind a.timeless = reportedKind a := by
    unfold reportedKind
    rw [Attempt.error_timeless]
    cases a.error with
    | none => rfl
    | some last => simp [typeName]
  cases e with
  | raised id kind text => rfl
  | detailed id text details => rfl
  | aborted id a => simp [timeless, details?]
  | exhausted id a => simp [timeless, details?, reported]
  | turned id text original => rfl

def Reply.timeless : Reply → Reply
  | .raised e => .raised e.timeless
  | reply => reply

def Notice.timeless : Notice → Notice
  | .requestError count e => .requestError count e.timeless
  | .retryerError count decision e => .retryerError count decision e.timeless
  | .drainError count e => .drainError count e.timeless
  | .aborting count e => .aborting count e.timeless
  | n => n

theorem Notice.fields_timeless (n : Notice) : n.timeless.fields = n.fields := by
  have errors (e : Failure) : errorFields e.timeless = errorFields e := by
    simp [errorFields, Failure.typeName, Failure.text_timeless]
  cases n with
  | requestError count e => simp [timeless, fields, errors]
  | retryerError count decision e => simp [timeless, fields, errors]
  | drainError count e => simp [timeless, fields, errors]
  | aborting count e => simp [timeless, fields, errors]
  | _ => rfl

def LogEntry.timeless (entry : LogEntry) :
    LogEntry := { entry with notice := entry.notice.timeless }

def Event.timeless : Event → Event
  | .entered call layer _ => .entered call layer none
  | .received call layer reply => .received call layer reply.timeless
  | .asked call layer attempt _ scripted => .asked call layer attempt.timeless none scripted
  | .answered call layer attempt decision => .answered call layer attempt.timeless decision
  | .delaying call layer attempt => .delaying call layer attempt.timeless
  | .delayed call layer attempt .. => .delayed call layer attempt.timeless 0 0
  | .left call layer reply => .left call layer reply.timeless
  | .logged call layer entry => .logged call layer entry.timeless
  | e => e

@[simp] theorem Event.call_timeless (e : Event) : e.timeless.call = e.call := by cases e <;> rfl

def Frame.timeless (f : Frame) : Frame := { f with start := none }

def Suspended.timeless : Suspended → Suspended
  | .sending frames => .sending (frames.map Frame.timeless)
  | .beforeDelay delay attempt _ f outer inner =>
    .beforeDelay delay attempt.timeless 0 f.timeless (outer.map Frame.timeless) inner
  | .afterDelay attempt _ f outer inner =>
    .afterDelay attempt.timeless 0 f.timeless (outer.map Frame.timeless) inner
  | .ready f outer inner => .ready f.timeless (outer.map Frame.timeless) inner

def Stage.timeless : Stage → Stage
  | .waiting => .waiting
  | .running s => .running s.timeless
  | .ended reply => .ended reply.timeless

end HttpRetry
