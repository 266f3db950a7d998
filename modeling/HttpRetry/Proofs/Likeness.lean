import HttpRetry.Schedule
/-!
Two runs that do alike. Failures are known by identities that may be given out differently in each of
the runs, so a likeness says which failure of one run is which of the other, and learns more of this
as the runs go on.
-/
set_option autoImplicit false

namespace HttpRetry

/-- Which failures of one run are which of another. -/
abbrev Naming := FailureId → FailureId → Prop

/-- In what ways two runs may differ, and what may come up in them. -/
structure Likeness where
  /-- Clocks give the same times in both. -/
  dated : Prop := True
  /-- Time passes in the same way. -/
  timed : Prop := True
  /-- Failures may come up that would be taken for the end of a routine. -/
  endings : Prop := True
  /-- Which responses may come up. -/
  reach : ResponseId → Prop := fun _ => True
  /-- The layers of the second run are found there in the first. -/
  layer : Nat → Nat := id

def Likeness.Admits (k : Likeness) (kind : FailureKind) : Prop := kind.family = .ending → k.endings

namespace Likeness

variable {k : Likeness} {mode mode' : Mode} {kind : FailureKind}

theorem admits (k : Likeness) (h : kind.family ≠ .ending) : k.Admits kind :=
  fun ending => absurd ending h

theorem objects_routine (modes : k.endings → mode' = mode) (admitted : k.Admits kind) :
    mode'.routine.objection? kind.family = mode.routine.objection? kind.family := by
  by_cases same : mode' = mode
  · rw [same]
  · have plain : kind.family ≠ .ending := fun ending => same (modes (admitted ending))
    revert plain
    cases mode <;> cases mode' <;> cases kind.family <;> simp [Mode.routine, Routine.objection?]

theorem objects_reader (modes : k.endings → mode' = mode) (admitted : k.Admits kind)
    (read : mode' = mode ∨ kind.family ≠ .asyncEnding) :
    mode'.reader.objection? kind.family = mode.reader.objection? kind.family := by
  by_cases same : mode' = mode
  · rw [same]
  · have plain : kind.family ≠ .ending := fun ending => same (modes (admitted ending))
    have plain' := read.resolve_left same
    revert plain plain'
    cases mode <;> cases mode' <;> cases kind.family <;> simp [Mode.reader, Routine.objection?]

end Likeness

mutual

inductive Failure.Alike (k : Likeness) (ids : Naming) : Failure → Failure → Prop
  | raised {id id' : FailureId} {kind : FailureKind} {text : String} (named : ids id id')
    (admitted : k.Admits kind) :
    Failure.Alike k ids (.raised id kind text) (.raised id' kind text)
  | detailed {id id' : FailureId} {text : String} {details : Members} (named : ids id id') :
    Failure.Alike k ids (.detailed id text details) (.detailed id' text details)
  | aborted {id id' : FailureId} {a a' : Attempt} (named : ids id id')
    (attempt : Attempt.Alike k ids a a') : Failure.Alike k ids (.aborted id a) (.aborted id' a')
  | exhausted {id id' : FailureId} {a a' : Attempt} (named : ids id id')
    (attempt : Attempt.Alike k ids a a') : Failure.Alike k ids (.exhausted id a) (.exhausted id' a')
  | turned {id id' : FailureId} {text : String} {e e' : Failure} (named : ids id id')
    (original : Failure.Alike k ids e e') :
    Failure.Alike k ids (.turned id text e) (.turned id' text e')

inductive Attempt.Alike (k : Likeness) (ids : Naming) : Attempt → Attempt → Prop
  | clean {start start' : Option Timestamp} {count : Nat} {request : Request}
    {response : Option ResponseRef} {h : 1 ≤ count} (dated : k.dated → start = start')
    (reached : ∀ r, response = some r → k.reach r.id) :
    Attempt.Alike k ids ⟨start, count, none, request, response, h⟩
      ⟨start', count, none, request, response, h⟩
  | failed {start start' : Option Timestamp} {count : Nat} {e e' : Failure} {request : Request}
    {response : Option ResponseRef} {h : 1 ≤ count} (dated : k.dated → start = start')
    (reached : ∀ r, response = some r → k.reach r.id) (error : Failure.Alike k ids e e') :
    Attempt.Alike k ids ⟨start, count, some e, request, response, h⟩
      ⟨start', count, some e', request, response, h⟩

end

section
variable {k : Likeness} {ids ids' : Naming}

mutual

theorem Failure.Alike.mono (le : Subrelation ids ids') {e e' : Failure} :
    e.Alike k ids e' → e.Alike k ids' e'
  | .raised named admitted => .raised (le named) admitted
  | .detailed named => .detailed (le named)
  | .aborted named attempt => .aborted (le named) (Attempt.Alike.mono le attempt)
  | .exhausted named attempt => .exhausted (le named) (Attempt.Alike.mono le attempt)
  | .turned named original => .turned (le named) (Failure.Alike.mono le original)

theorem Attempt.Alike.mono (le : Subrelation ids ids') {a a' : Attempt} :
    a.Alike k ids a' → a.Alike k ids' a'
  | .clean dated reached => .clean dated reached
  | .failed dated reached error => .failed dated reached (Failure.Alike.mono le error)

end

mutual

/-- The same in both runs where the runs give out the same identities at the same times. -/
theorem Failure.Alike.eq (dated : k.dated) (same : ∀ a b, ids a b → a = b) {e e' : Failure} :
    e.Alike k ids e' → e' = e
  | .raised named _ => by rw [same _ _ named]
  | .detailed named => by rw [same _ _ named]
  | .aborted named attempt => by rw [same _ _ named, Attempt.Alike.eq dated same attempt]
  | .exhausted named attempt => by rw [same _ _ named, Attempt.Alike.eq dated same attempt]
  | .turned named original => by rw [same _ _ named, Failure.Alike.eq dated same original]

theorem Attempt.Alike.eq (dated : k.dated) (same : ∀ a b, ids a b → a = b) {a a' : Attempt} :
    a.Alike k ids a' → a' = a
  | .clean start _ => by rw [start dated]
  | .failed start _ error => by rw [start dated, Failure.Alike.eq dated same error]

end

namespace Failure.Alike

variable {e e' : Failure}

theorem id (h : e.Alike k ids e') : ids e.id e'.id := by
  cases h <;> assumption

theorem kind (h : e.Alike k ids e') : e'.kind = e.kind := by
  cases h <;> rfl

theorem isTurned (h : e.Alike k ids e') : e'.isTurned = e.isTurned := by
  cases h <;> rfl

theorem admitted (h : e.Alike k ids e') : k.Admits e.kind := by
  cases h with
  | raised named admitted => exact admitted
  | _ => exact k.admits Family.noConfusion

theorem typeName (h : e.Alike k ids e') : e'.typeName = e.typeName :=
  congrArg FailureKind.name h.kind

theorem isInterrupt (h : e.Alike k ids e') : e'.isInterrupt = e.isInterrupt :=
  congrArg FailureKind.isInterrupt h.kind

theorem isTransport (h : e.Alike k ids e') : e'.isTransport = e.isTransport :=
  congrArg FailureKind.isTransport h.kind

theorem isSwallowed (h : e.Alike k ids e') : e'.isSwallowed = e.isSwallowed :=
  congrArg FailureKind.isSwallowed h.kind

theorem text {e e' : Failure} : e.Alike k ids e' → e'.text = e.text
  | .raised .. | .detailed _ | .aborted _ (.clean ..) | .aborted _ (.failed ..)
  | .exhausted _ (.clean ..) | .turned .. => rfl
  | .exhausted _ (.failed _ _ error) => by
    simp only [Failure.text, error.text, error.typeName]

theorem details? (h : e.Alike k ids e') : e'.details? = e.details? := by
  cases h with
  | raised => rfl
  | detailed => rfl
  | turned => rfl
  | aborted named attempt =>
    cases attempt with
    | clean => rfl
    | failed => rfl
  | exhausted named attempt =>
    cases attempt with
    | clean => rfl
    | failed dated reached error =>
      simp only [Failure.details?, reportedKind, error.kind, error.typeName, Attempt.status?]

theorem outOf {routine routine' : Routine} (h : e.Alike k ids e')
    (same : routine'.objection? e.kind.family = routine.objection? e.kind.family) :
    (e.outOf routine).Alike k ids (e'.outOf routine') := by
  unfold Failure.outOf
  rw [h.kind, same]
  cases routine.objection? e.kind.family with
  | none => exact h
  | some text => exact .turned h.id h

theorem outOf_routine {mode mode' : Mode} (modes : k.endings → mode' = mode)
    (h : e.Alike k ids e') : (e.outOf mode.routine).Alike k ids (e'.outOf mode'.routine) :=
  h.outOf (Likeness.objects_routine modes h.admitted)

theorem is {c c' : Failure} (h : e.Alike k ids e') (cause : c.Alike k ids c')
    (unique : c.id = e.id ↔ c'.id = e'.id) : c'.is e' = c.is e := by
  simp [Failure.is, h.isTurned, cause.isTurned, unique]

end Failure.Alike

theorem FailureSpec.failure_alike (shared : ∀ name, ids (.shared name) (.shared name))
    (spec : FailureSpec) (admitted : k.Admits spec.kind) {fresh fresh' : FailureId}
    (named : ids fresh fresh') : (spec.failure fresh).Alike k ids (spec.failure fresh') := by
  have made : ∀ {id id'}, ids id id' →
      Failure.Alike k ids
        (if spec.kind = .retryBase then .detailed id spec.text [] else .raised id spec.kind spec.text)
        (if spec.kind = .retryBase then .detailed id' spec.text []
          else .raised id' spec.kind spec.text) := by
    intro id id' named
    split
    · exact .detailed named
    · exact .raised named admitted
  unfold failure
  cases spec.name with
  | some name => exact made (shared name)
  | none => exact made named

namespace Attempt.Alike

variable {a a' : Attempt}

theorem count (h : a.Alike k ids a') : a'.count = a.count := by
  cases h <;> rfl

theorem response (h : a.Alike k ids a') : a'.response = a.response := by
  cases h <;> rfl

theorem reached (h : a.Alike k ids a') {r : ResponseRef} (has : a.response = some r) :
    k.reach r.id := by
  cases h with
  | clean dated reached => exact reached r has
  | failed dated reached => exact reached r has

theorem start (h : a.Alike k ids a') (dated : k.dated) : a.start = a'.start := by
  cases h with
  | clean same => exact same dated
  | failed same => exact same dated

theorem status? (h : a.Alike k ids a') : a'.status? = a.status? := by
  rw [Attempt.status?, h.response]
  rfl

theorem error (h : a.Alike k ids a') : Option.Rel (Failure.Alike k ids) a.error a'.error := by
  cases h with
  | clean => exact .none
  | failed dated reached error => exact .some error

theorem of_error {start start' : Option Timestamp} {count : Nat} {request : Request}
    {response : Option ResponseRef} {error error' : Option Failure} (h : 1 ≤ count)
    (dated : k.dated → start = start') (reached : ∀ r, response = some r → k.reach r.id)
    (errors : Option.Rel (Failure.Alike k ids) error error') :
    Attempt.Alike k ids ⟨start, count, error, request, response, h⟩
      ⟨start', count, error', request, response, h⟩ := by
  cases errors with
  | none => exact .clean dated reached
  | some error => exact .failed dated reached error

theorem isNone_error (h : a.Alike k ids a') : a'.error.isNone = a.error.isNone := by
  cases h <;> rfl

theorem decide (h : a.Alike k ids a') (policy : DefaultPolicy) :
    policy.decide a' = policy.decide a := by
  have retryable : policy.isRetryable a' = policy.isRetryable a := by
    cases h with
    | clean => rfl
    | failed dated reached error => exact error.isTransport
  rw [DefaultPolicy.decide, DefaultPolicy.decide, retryable, h.count]

end Attempt.Alike

end

section
variable (k : Likeness) (ids : Naming)

inductive Reply.Alike : Reply → Reply → Prop
  | response (r : ResponseRef) (reached : k.reach r.id) : Reply.Alike (.response r) (.response r)
  | raised {e e' : Failure} (error : e.Alike k ids e') : Reply.Alike (.raised e) (.raised e')
  | nothing : Reply.Alike .nothing .nothing

inductive Verdict.Alike : Verdict → Verdict → Prop
  | finished {reply reply' : Reply} (alike : reply.Alike k ids reply') :
    Verdict.Alike (.finished reply) (.finished reply')
  | again {attempt attempt' : Attempt} (alike : attempt.Alike k ids attempt') :
    Verdict.Alike (.again attempt) (.again attempt')

/-- Results that are both fine, as `V` says, or both failures. -/
inductive ResultAlike {α : Type} (V : α → α → Prop) : Except Failure α → Except Failure α → Prop
  | ok {a a' : α} (value : V a a') : ResultAlike V (.ok a) (.ok a')
  | error {e e' : Failure} (error : e.Alike k ids e') : ResultAlike V (.error e) (.error e')

abbrev Ended : Except Failure Unit → Except Failure Unit → Prop :=
  ResultAlike k ids fun _ _ => True

def DecidedAlike (answer answer' : Decision × Option Failure) : Prop :=
  answer'.1 = answer.1 ∧ Option.Rel (Failure.Alike k ids) answer.2 answer'.2

inductive Notice.Alike : Notice → Notice → Prop
  | retrying (count : Nat) : Notice.Alike (.retrying count) (.retrying count)
  | requestError (count : Nat) {e e' : Failure} (error : e.Alike k ids e') :
    Notice.Alike (.requestError count e) (.requestError count e')
  | retryerError (count : Nat) (decision : Decision) {e e' : Failure} (error : e.Alike k ids e') :
    Notice.Alike (.retryerError count decision e) (.retryerError count decision e')
  | drainError (count : Nat) {e e' : Failure} (error : e.Alike k ids e') :
    Notice.Alike (.drainError count e) (.drainError count e')
  | aborting (count : Nat) {e e' : Failure} (error : e.Alike k ids e') :
    Notice.Alike (.aborting count e) (.aborting count e')
  | delaying (count : Nat) : Notice.Alike (.delaying count) (.delaying count)
  | outOfAttempts (count : Nat) (cap : Json) (status : Option Int) :
    Notice.Alike (.outOfAttempts count cap status) (.outOfAttempts count cap status)
  | created (suspending : Bool) (stack : String) (timeout : Json) :
    Notice.Alike (.created suspending stack timeout) (.created suspending stack timeout)

inductive Event.Alike : Event → Event → Prop
  | entered (call : Nat) {i j : Nat} (layer : i = k.layer j) {start start' : Option Timestamp}
    (dated : k.dated → start = start') :
    Event.Alike (.entered call i start) (.entered call j start')
  | refused (call : Nat) {i j : Nat} (layer : i = k.layer j) :
    Event.Alike (.refused call i) (.refused call j)
  | bound (call : Nat) {i j : Nat} (layer : i = k.layer j) (request : Request) :
    Event.Alike (.bound call i request) (.bound call j request)
  | sent (call : Nat) (request : Request) : Event.Alike (.sent call request) (.sent call request)
  | received (call : Nat) {i j : Nat} (layer : i = k.layer j) {reply reply' : Reply}
    (alike : reply.Alike k ids reply') :
    Event.Alike (.received call i reply) (.received call j reply')
  | asked (call : Nat) {i j : Nat} (layer : i = k.layer j) {attempt attempt' : Attempt}
    (alike : attempt.Alike k ids attempt') {elapsed elapsed' : Option Int}
    (dated : k.dated → elapsed = elapsed') (scripted : Bool) :
    Event.Alike (.asked call i attempt elapsed scripted) (.asked call j attempt' elapsed' scripted)
  | answered (call : Nat) {i j : Nat} (layer : i = k.layer j) {attempt attempt' : Attempt}
    (alike : attempt.Alike k ids attempt') (decision : Decision) :
    Event.Alike (.answered call i attempt decision) (.answered call j attempt' decision)
  | releasing (call : Nat) {i j : Nat} (layer : i = k.layer j) (response : ResponseId) :
    Event.Alike (.releasing call i response) (.releasing call j response)
  | delaying (call : Nat) {i j : Nat} (layer : i = k.layer j) {attempt attempt' : Attempt}
    (alike : attempt.Alike k ids attempt') :
    Event.Alike (.delaying call i attempt) (.delaying call j attempt')
  | delayed (call : Nat) {i j : Nat} (layer : i = k.layer j) {attempt attempt' : Attempt}
    (alike : attempt.Alike k ids attempt') {began ended began' ended' : Rat}
    (timed : k.timed → began' = began ∧ ended' = ended) :
    Event.Alike (.delayed call i attempt began ended) (.delayed call j attempt' began' ended')
  | left (call : Nat) {i j : Nat} (layer : i = k.layer j) {reply reply' : Reply}
    (alike : reply.Alike k ids reply') : Event.Alike (.left call i reply) (.left call j reply')
  | streamClosed (call : Nat) (response : ResponseId) (reads bytes : Nat) :
    Event.Alike (.streamClosed call response reads bytes) (.streamClosed call response reads bytes)
  | transportClosed (call : Nat) : Event.Alike (.transportClosed call) (.transportClosed call)
  | logged (call : Nat) {i j : Nat} (layer : i = k.layer j) (sink : Sink)
    (request : Option Request) {notice notice' : Notice} (alike : notice.Alike k ids notice') :
    Event.Alike (.logged call i ⟨sink, request, notice⟩) (.logged call j ⟨sink, request, notice'⟩)

end

section
variable {k : Likeness} {ids ids' : Naming} (le : Subrelation ids ids')

include le

theorem Reply.Alike.mono {reply reply' : Reply} (h : reply.Alike k ids reply') :
    reply.Alike k ids' reply' := by
  cases h with
  | response r reached => exact .response r reached
  | raised error => exact .raised (error.mono le)
  | nothing => exact .nothing

theorem errors_mono {error error' : Option Failure}
    (h : Option.Rel (Failure.Alike k ids) error error') :
    Option.Rel (Failure.Alike k ids') error error' := by
  cases h with
  | none => exact .none
  | some h => exact .some (h.mono le)

theorem DecidedAlike.mono {answer answer' : Decision × Option Failure}
    (h : DecidedAlike k ids answer answer') : DecidedAlike k ids' answer answer' :=
  ⟨h.1, errors_mono le h.2⟩

theorem ResultAlike.mono {α : Type} {V V' : α → α → Prop} (weaker : ∀ a a', V a a' → V' a a')
    {result result' : Except Failure α} (h : ResultAlike k ids V result result') :
    ResultAlike k ids' V' result result' := by
  cases h with
  | ok value => exact .ok (weaker _ _ value)
  | error h => exact .error (h.mono le)

theorem Notice.Alike.mono {n n' : Notice} (h : n.Alike k ids n') : n.Alike k ids' n' := by
  cases h with
  | retrying count => exact .retrying count
  | requestError count error => exact .requestError count (error.mono le)
  | retryerError count decision error => exact .retryerError count decision (error.mono le)
  | drainError count error => exact .drainError count (error.mono le)
  | aborting count error => exact .aborting count (error.mono le)
  | delaying count => exact .delaying count
  | outOfAttempts count cap status => exact .outOfAttempts count cap status
  | created suspending stack timeout => exact .created suspending stack timeout

theorem Event.Alike.mono {e e' : Event} (h : e.Alike k ids e') : e.Alike k ids' e' := by
  cases h with
  | entered call layer dated => exact .entered call layer dated
  | refused call layer => exact .refused call layer
  | bound call layer request => exact .bound call layer request
  | sent call request => exact .sent call request
  | received call layer reply => exact .received call layer (reply.mono le)
  | asked call layer attempt dated scripted =>
    exact .asked call layer (attempt.mono le) dated scripted
  | answered call layer attempt decision => exact .answered call layer (attempt.mono le) decision
  | releasing call layer response => exact .releasing call layer response
  | delaying call layer attempt => exact .delaying call layer (attempt.mono le)
  | delayed call layer attempt timed => exact .delayed call layer (attempt.mono le) timed
  | left call layer reply => exact .left call layer (reply.mono le)
  | streamClosed call response reads bytes => exact .streamClosed call response reads bytes
  | transportClosed call => exact .transportClosed call
  | logged call layer sink request notice =>
    exact .logged call layer sink request (notice.mono le)

end

section
variable {k : Likeness} {ids : Naming}

namespace Reply.Alike

variable {reply reply' : Reply}

theorem response? (h : reply.Alike k ids reply') : reply'.response? = reply.response? := by
  cases h <;> rfl

theorem reached (h : reply.Alike k ids reply') {r : ResponseRef}
    (has : reply.response? = some r) : k.reach r.id := by
  cases h with
  | response r' reached =>
    cases has
    exact reached
  | _ => cases has

theorem isInterrupt (h : reply.Alike k ids reply') : reply'.isInterrupt = reply.isInterrupt := by
  cases h with
  | raised error => exact error.isInterrupt
  | _ => rfl

theorem outOf {mode mode' : Mode} (modes : k.endings → mode' = mode)
    (h : reply.Alike k ids reply') :
    (reply.outOf mode.routine).Alike k ids (reply'.outOf mode'.routine) := by
  cases h with
  | response r reached => exact .response r reached
  | raised error => exact .raised (error.outOf_routine modes)
  | nothing => exact .nothing

theorem eq (dated : k.dated) (same : ∀ a b, ids a b → a = b) (h : reply.Alike k ids reply') :
    reply' = reply := by
  cases h with
  | response r => rfl
  | raised error => rw [error.eq dated same]
  | nothing => rfl

end Reply.Alike

theorem Notice.Alike.eq (dated : k.dated) (same : ∀ a b, ids a b → a = b) {n n' : Notice}
    (h : n.Alike k ids n') : n' = n := by
  cases h with
  | requestError count error => rw [error.eq dated same]
  | retryerError count decision error => rw [error.eq dated same]
  | drainError count error => rw [error.eq dated same]
  | aborting count error => rw [error.eq dated same]
  | _ => rfl

theorem Event.Alike.eq (dated : k.dated) (timed : k.timed) (same : ∀ a b, ids a b → a = b)
    (layers : ∀ i, k.layer i = i) {e e' : Event} (h : e.Alike k ids e') : e' = e := by
  cases h with
  | entered call layer start => rw [layer, layers, start dated]
  | refused call layer => rw [layer, layers]
  | bound call layer request => rw [layer, layers]
  | sent call request => rfl
  | received call layer reply => rw [layer, layers, reply.eq dated same]
  | asked call layer attempt elapsed scripted =>
    rw [layer, layers, attempt.eq dated same, elapsed dated]
  | answered call layer attempt decision => rw [layer, layers, attempt.eq dated same]
  | releasing call layer response => rw [layer, layers]
  | delaying call layer attempt => rw [layer, layers, attempt.eq dated same]
  | delayed call layer attempt times =>
    rw [layer, layers, attempt.eq dated same, (times timed).1, (times timed).2]
  | left call layer reply => rw [layer, layers, reply.eq dated same]
  | streamClosed call response reads bytes => rfl
  | transportClosed call => rfl
  | logged call layer sink request notice => rw [layer, layers, notice.eq dated same]

theorem Notice.Alike.isBound {n n' : Notice} (h : n.Alike k ids n') : n'.isBound = n.isBound := by
  cases h <;> rfl

theorem Notice.Alike.fields {n n' : Notice} (h : n.Alike k ids n') : n'.fields = n.fields := by
  cases h with
  | requestError count error => simp only [Notice.fields, errorFields, error.typeName, error.text]
  | retryerError count decision error =>
    simp only [Notice.fields, errorFields, error.typeName, error.text]
  | drainError count error => simp only [Notice.fields, errorFields, error.typeName, error.text]
  | aborting count error => simp only [Notice.fields, errorFields, error.typeName, error.text]
  | _ => rfl

end

end HttpRetry
