import HttpRetry.Proofs.Likeness.Parallel
/-!
Layers that do alike, each in its run: from tied ledgers, one round of the one comes to what one round
of the other comes to, if their reports, their counts and their releases do.
-/
set_option autoImplicit false

namespace HttpRetry

open Work

def Call.fed (call : Call) (feed : Feed) : Call := { call with feed }

/-- The kinds of the failures that the parts of a layer may raise or give. -/
inductive Layer.Raises (layer : Layer) : FailureKind → Prop
  | clock {use : ClockUse} {now : Rat} {spec : FailureSpec}
    (fails : layer.clock.dial use now = .error spec) : Layer.Raises layer spec.kind
  | retryer {answers : Nat → Answer} {asked : Nat} {spec : FailureSpec}
    (own : layer.retryer = .scripted answers ∨ layer.retryer = .timed answers)
    (raises : answers asked = .raises spec ∨ ∃ decision, answers asked = .decided decision (.given spec)) :
    Layer.Raises layer spec.kind
  | delayer {delay : Delayer} {asked : Nat} {spec : FailureSpec} (own : layer.delay = some delay)
    (fails : (delay asked).failure = some spec) : Layer.Raises layer spec.kind
  | forced {spec : FailureSpec} (own : layer.forced = some spec) : Layer.Raises layer spec.kind

/-- Two layers, each in its stack, that judge and wait alike, and whose reports, counts and releases
keep the tie of the ledgers, each in its run of a call. -/
structure Place.Alike (k : Likeness) (R : Tie) (s s' : Setting) (call : Call) (feed : Feed)
    (p p' : Place) : Prop where
  index : p.index = k.layer p'.index
  retryer : p'.layer.retryer = p.layer.retryer
  delay : p'.layer.delay = p.layer.delay
  forced : p'.layer.forced = p.layer.forced
  raises : ∀ {kind}, p.layer.Raises kind → k.Admits kind
  asks : ∀ {ids l l'}, R ids l l' → (∀ policy, p.layer.retryer ≠ .standard policy) →
    l'.asks p'.index = l.asks p.index
  peeks : ∀ {ids l l'}, R ids l l' → ∀ answers, p.layer.retryer = .timed answers →
    ReadingAlike k (p.layer.clock.peek l) (p'.layer.clock.peek l')
  waits : ∀ {ids l l'}, R ids l l' → ∀ delay, p.layer.delay = some delay →
    delay (l'.delays p'.index) = delay (l.delays p.index)
  report : ∀ {ids l l'}, R ids l l' → ∀ {n n'}, n.Alike k ids n' →
    Likens R Any (p.report call n) (p'.report (call.fed feed) n') ids l l'
  counted : ∀ {ids l l'}, R ids l l' → ∀ method decision,
    R ids (p.measured (·.countAttempt method decision) l)
      (p'.measured (·.countAttempt method decision) l')
  delayed : ∀ {ids l l'}, R ids l l' → ∀ {began ended began' ended'},
    (k.timed → began' = began ∧ ended' = ended) →
      R ids (p.measured (·.observeDelay (s.timer.between began ended)) l)
        (p'.measured (·.observeDelay (s'.timer.between began' ended')) l')
  release : ∀ {ids l l'}, R ids l l' → ∀ {attempt attempt'}, attempt.Alike k ids attempt' →
    Likens R (Ended k) (p.release s.mode call attempt) (p'.release s'.mode (call.fed feed) attempt')
      ids l l'

section
variable {k : Likeness} {R : Tie} {s s' : Setting} {call : Call} {feed : Feed} {p p' : Place}
  {ids : Naming} {l l' : Ledger}

namespace Place

variable (h : Parallel k call.id R) (modes : k.endings → s'.mode = s.mode)
  (index : p.index = k.layer p'.index) (tied : R ids l l')

include h index tied

theorem likens_leave {reply reply' : Reply} (alike : reply.Alike k ids reply') :
    Likens R Any (p.leave call reply) (p'.leave (call.fed feed) reply') ids l l' :=
  h.likens_note tied rfl (.left call.id index alike)

include modes

theorem likens_leaveWith (spec : FailureSpec) (admitted : k.Admits spec.kind) :
    Likens R (Failure.Alike k) (p.leaveWith s.mode call spec)
      (p'.leaveWith s'.mode (call.fed feed) spec) ids l l' := by
  refine likens_bind (h.likens_fail tied spec admitted) fun _ e e' _ _ _ error tied => ?_
  have error := error.outOf_routine modes
  refine likens_bind (likens_leave h index tied (.raised error)) fun _ _ _ _ _ le _ tied => ?_
  exact likens_pure (error.mono le) tied

omit index modes in
theorem likens_useClock (key : p'.layer.clock.key = p.layer.clock.key) (f : ClockUse → ClockUse) :
    Likens R Any (p.useClock f) (p'.useClock f) ids l l' := by
  refine likens_modify ?_
  rw [key]
  exact h.useClock tied p.layer.clock.key f

theorem likens_refuse (key : p'.layer.clock.key = p.layer.clock.key) (spec : FailureSpec)
    (admitted : k.Admits spec.kind) :
    Likens R (Failure.Alike k) (p.refuse s.mode call spec)
      (p'.refuse s'.mode (call.fed feed) spec) ids l l' := by
  refine likens_bind (likens_useClock h tied key .failed) fun _ _ _ _ _ _ _ tied => ?_
  refine likens_bind (h.likens_note tied rfl (.refused call.id index)) fun _ _ _ _ _ _ _ tied => ?_
  exact likens_leaveWith h modes index tied spec admitted

abbrev Entered (k : Likeness) (ids : Naming) :
    Except Failure (Option Timestamp) → Except Failure (Option Timestamp) → Prop :=
  ResultAlike k ids fun start start' => k.dated → start = start'

/-- Layers that bind their loggers alike, and whose clocks are one and read alike, enter alike. -/
theorem likens_enter (key : p'.layer.clock.key = p.layer.clock.key)
    (binds : ∀ {ids l l'}, R ids l l' → Likens R Any (p.bind call) (p'.bind (call.fed feed)) ids l l')
    (reads : ∀ {ids l l'}, R ids l l' →
      ReadingAlike k (p.layer.clock.peek l) (p'.layer.clock.peek l')) :
    Likens R (Entered k) (p.enter s.mode call) (p'.enter s'.mode (call.fed feed)) ids l l' := by
  refine likens_bind (binds tied) fun _ _ _ l₁ l₁' _ _ tied => likens_get ?_
  have readings := reads tied
  revert readings
  cases p.layer.clock.peek l₁ with
  | error spec =>
    cases p'.layer.clock.peek l₁' with
    | ok t =>
      intro readings
      cases readings
    | error spec' =>
      intro readings
      cases readings with
      | fails _ admitted =>
        exact likens_bind (likens_refuse h modes index tied key spec admitted)
          fun _ _ _ _ _ _ error tied => likens_pure (.error error) tied
  | ok t =>
    cases p'.layer.clock.peek l₁' with
    | error spec =>
      intro readings
      cases readings
    | ok t' =>
      intro readings
      cases readings with
      | gives dated =>
        refine likens_bind (likens_useClock h tied key .read) fun _ _ _ _ _ _ _ tied => ?_
        refine likens_bind (h.likens_note tied rfl (.entered call.id index dated))
          fun _ _ _ _ _ _ _ tied => ?_
        exact likens_pure (.ok dated) tied

end Place

namespace Place.Alike

variable (t : p.Alike k R s s' call feed p') (h : Parallel k call.id R) (tied : R ids l l')

include t h tied

theorem likens_errorOf {reply reply' : Reply} (alike : reply.Alike k ids reply') :
    Likens R (fun ids => Option.Rel (Failure.Alike k ids)) (p.errorOf call reply)
      (p'.errorOf (call.fed feed) reply') ids l l' := by
  cases alike with
  | raised error => exact likens_pure (.some error) tied
  | nothing => exact likens_pure .none tied
  | response r reached =>
    unfold errorOf
    simp only [t.forced]
    cases forced : p.layer.forced with
    | none => exact likens_pure .none tied
    | some spec =>
      exact likens_map (h.likens_fail tied spec (t.raises (.forced forced)))
        fun _ _ _ error => .some error

theorem likens_attemptOf {start start' : Option Timestamp} (dated : k.dated → start = start')
    (made : Nat) {reply reply' : Reply} (alike : reply.Alike k ids reply') :
    Likens R (Attempt.Alike k) (p.attemptOf call start made reply)
      (p'.attemptOf (call.fed feed) start' made reply') ids l l' := by
  refine likens_bind (t.likens_errorOf h tied alike) fun _ _ _ _ _ _ errors tied => ?_
  rw [alike.response?]
  exact likens_pure (.of_error _ dated (fun _ => alike.reached) errors) tied

abbrev Answered (k : Likeness) (ids : Naming) :
    Except Failure (Decision × Option Failure) → Except Failure (Decision × Option Failure) → Prop :=
  ResultAlike k ids (DecidedAlike k ids)

omit t in
theorem likens_take {attempt attempt' : Attempt} (alike : attempt.Alike k ids attempt')
    (answer : Answer) (admitted : ∀ spec,
      answer = .raises spec ∨ (∃ decision, answer = .decided decision (.given spec)) →
        k.Admits spec.kind) :
    Likens R (Answered k) (take call attempt answer) (take (call.fed feed) attempt' answer)
      ids l l' := by
  have raises (spec : FailureSpec) (admitted : k.Admits spec.kind) :
      Likens R (Answered k) (do return .error (← Work.fail call.id spec))
        (do return .error (← Work.fail call.id spec)) ids l l' :=
    likens_bind (h.likens_fail tied spec admitted) fun _ _ _ _ _ _ error tied =>
      likens_pure (.error error) tied
  rcases answer with ⟨decision, source⟩ | spec | shown
  · cases source with
    | nothing => exact likens_pure (.ok ⟨rfl, .none⟩) tied
    | own => exact likens_pure (.ok ⟨rfl, alike.error⟩) tied
    | given spec =>
      exact likens_bind (h.likens_fail tied spec (admitted spec (.inr ⟨decision, rfl⟩)))
        fun _ _ _ _ _ _ error tied => likens_pure (.ok ⟨rfl, .some error⟩) tied
  · exact raises spec (admitted spec (.inl rfl))
  · exact raises _ (k.admits Family.noConfusion)

theorem likens_consult {attempt attempt' : Attempt} (alike : attempt.Alike k ids attempt')
    {elapsed elapsed' : Option Int} (dated : k.dated → elapsed = elapsed') {answers : Nat → Answer}
    (own : p.layer.retryer = .scripted answers ∨ p.layer.retryer = .timed answers) :
    Likens R (Answered k) (p.consult call attempt elapsed answers)
      (p'.consult (call.fed feed) attempt' elapsed' answers) ids l l' := by
  have listed : ∀ policy, p.layer.retryer ≠ .standard policy := by
    rintro policy standard
    rcases own with own | own
    · rw [own] at standard
      cases standard
    · rw [own] at standard
      cases standard
  refine likens_get ?_
  rw [t.asks tied listed]
  refine likens_bind (h.likens_note tied rfl (.asked call.id t.index alike dated true))
    fun _ _ _ _ _ le _ tied => ?_
  have asked := h.ask tied p'.index
  rw [← t.index] at asked
  refine likens_bind (likens_modify asked) fun _ _ _ _ _ le' _ tied => ?_
  exact likens_take h tied ((alike.mono le).mono le') _ fun spec raises =>
    t.raises (.retryer own raises)

theorem likens_ask {attempt attempt' : Attempt} (alike : attempt.Alike k ids attempt') :
    Likens R (Answered k) (p.ask call attempt) (p'.ask (call.fed feed) attempt') ids l l' := by
  unfold ask
  rw [t.retryer]
  cases retryer : p.layer.retryer with
  | standard policy =>
    refine likens_bind (h.likens_note tied rfl (.asked call.id t.index alike (fun _ => rfl) false))
      fun ids₁ _ _ _ _ le _ tied => ?_
    have alike := alike.mono le
    rw [alike.decide policy]
    cases policy.decide attempt with
    | abort =>
      simp only [alike.count, alike.status?]
      refine likens_bind (t.report tied (.outOfAttempts _ _ _)) fun _ _ _ _ _ le' _ tied => ?_
      refine likens_bind (h.likens_freshFailure tied) fun _ id id' _ _ le'' named tied => ?_
      have exhausted := Failure.Alike.exhausted named ((alike.mono le').mono le'')
      exact likens_pure (.ok ⟨rfl, .some exhausted⟩) tied
    | ignore => exact likens_pure (.ok ⟨rfl, .none⟩) tied
    | retry => exact likens_pure (.ok ⟨rfl, .none⟩) tied
  | scripted answers => exact t.likens_consult h tied alike (fun _ => rfl) (.inl retryer)
  | timed answers =>
    refine likens_get ?_
    have readings := t.peeks tied answers retryer
    revert readings
    cases p.layer.clock.peek l with
    | error spec =>
      cases p'.layer.clock.peek l' with
      | ok now =>
        intro readings
        cases readings
      | error spec' =>
        intro readings
        cases readings with
        | fails _ admitted =>
          exact likens_bind (h.likens_fail tied spec admitted) fun _ _ _ _ _ _ error tied =>
            likens_pure (.error error) tied
    | ok now =>
      cases p'.layer.clock.peek l' with
      | error spec =>
        intro readings
        cases readings
      | ok now' =>
        intro readings
        cases readings with
        | gives dated =>
          refine t.likens_consult h tied alike (fun same => ?_) (.inr retryer)
          rw [dated same, alike.start same]

omit h in
theorem likens_mention {attempt attempt' : Attempt} (alike : attempt.Alike k ids attempt')
    (decision : Decision) {error error' : Option Failure}
    (errors : Option.Rel (Failure.Alike k ids) error error') :
    Likens R Any (p.mention call attempt decision error)
      (p'.mention (call.fed feed) attempt' decision error') ids l l' := by
  cases errors with
  | none => exact likens_pure trivial tied
  | some error =>
    unfold mention
    rw [alike.count]
    exact t.report tied (.retryerError _ decision error)

theorem likens_decide {attempt attempt' : Attempt} (alike : attempt.Alike k ids attempt') :
    Likens R (Answered k) (p.decide call attempt) (p'.decide (call.fed feed) attempt') ids l l' := by
  refine likens_bind (t.likens_ask h tied alike) fun _ answer answer' _ _ le answers tied => ?_
  have alike := alike.mono le
  cases answers with
  | error error => exact likens_pure (.error error) tied
  | @ok answer answer' decided =>
    obtain ⟨decision, error⟩ := answer
    obtain ⟨decision', error'⟩ := answer'
    obtain ⟨rfl, errors⟩ := decided
    refine likens_bind (t.likens_mention tied alike _ errors) fun _ _ _ _ _ le' _ tied => ?_
    refine likens_bind (h.likens_note tied rfl (.answered call.id t.index (alike.mono le') _))
      fun _ _ _ _ _ le'' _ tied => ?_
    refine likens_bind (likens_modify (t.counted tied _ _)) fun _ _ _ _ _ le''' _ tied => ?_
    exact likens_pure (.ok ⟨rfl, errors_mono (fun h => le''' (le'' (le' h))) errors⟩) tied

omit t in
theorem likens_settle {attempt attempt' : Attempt} (alike : attempt.Alike k ids attempt') :
    Likens R (Reply.Alike k) (settle call attempt) (settle (call.fed feed) attempt') ids l l' := by
  unfold settle
  cases alike with
  | failed dated reached error => exact likens_pure (.raised error) tied
  | @clean start start' count request response one_le dated reached =>
    cases response with
    | some r => exact likens_pure (.response r (reached r rfl)) tied
    | none => exact h.likens_raised tied _ (k.admits Family.noConfusion)

omit t in
theorem likens_chain {attempt attempt' : Attempt} (alike : attempt.Alike k ids attempt')
    {error error' : Failure} (errors : error.Alike k ids error') :
    Likens R Any (chain attempt error) (chain attempt' error') ids l l' := by
  unfold chain
  cases alike with
  | clean dated reached => exact likens_pure trivial tied
  | @failed start start' count cause cause' request response one_le dated reached causes =>
    simp only
    rw [errors.is causes (h.unique tied causes.id errors.id)]
    split
    · exact likens_pure trivial tied
    · exact h.likens_setCause tied errors.id causes

theorem likens_abort {attempt attempt' : Attempt} (alike : attempt.Alike k ids attempt')
    {error error' : Option Failure} (errors : Option.Rel (Failure.Alike k ids) error error') :
    Likens R (Failure.Alike k) (p.abort call attempt error)
      (p'.abort (call.fed feed) attempt' error') ids l l' := by
  have chosen : Likens R (Failure.Alike k) (abortError call attempt error)
        (abortError (call.fed feed) attempt' error') ids l l' := by
    cases errors with
    | some error => exact likens_pure error tied
    | none =>
      refine likens_bind (h.likens_freshFailure tied) fun _ _ _ _ _ le named tied => ?_
      exact likens_pure (.aborted named (alike.mono le)) tied
  refine likens_bind chosen fun _ _ _ _ _ le error tied => ?_
  have alike := alike.mono le
  rw [alike.count]
  refine likens_bind (t.report tied (.aborting _ error)) fun _ _ _ _ _ le' _ tied => ?_
  refine likens_bind (likens_chain h tied (alike.mono le') (error.mono le'))
    fun _ _ _ _ _ le'' _ tied => ?_
  exact likens_pure ((error.mono le').mono le'') tied

theorem likens_resolve {attempt attempt' : Attempt} (alike : attempt.Alike k ids attempt')
    {answer answer' : Except Failure (Decision × Option Failure)}
    (answers : Answered k ids answer answer') :
    Likens R (Verdict.Alike k) (p.resolve call attempt answer)
      (p'.resolve (call.fed feed) attempt' answer') ids l l' := by
  cases answers with
  | error error => exact likens_pure (.finished (.raised error)) tied
  | @ok answer answer' decided =>
    obtain ⟨decision, error⟩ := answer
    obtain ⟨decision', error'⟩ := answer'
    obtain ⟨rfl, errors⟩ := decided
    cases decision' with
    | ignore =>
      exact likens_bind (likens_settle h tied alike) fun _ _ _ _ _ _ reply tied =>
        likens_pure (.finished reply) tied
    | abort =>
      exact likens_bind (t.likens_abort h tied alike errors) fun _ _ _ _ _ _ error tied =>
        likens_pure (.finished (.raised error)) tied
    | retry => exact likens_pure (.again alike) tied

omit t h tied in
theorem passes_alike {attempt attempt' : Attempt} (alike : attempt.Alike k ids attempt')
    {answer answer' : Except Failure (Decision × Option Failure)}
    (answers : Answered k ids answer answer') : attempt'.passes answer' = attempt.passes answer := by
  cases answers with
  | error error => rfl
  | @ok answer answer' decided =>
    obtain ⟨decision, error⟩ := answer
    obtain ⟨decision', error'⟩ := answer'
    obtain ⟨rfl, errors⟩ := decided
    cases decision' with
    | ignore => exact alike.isNone_error
    | _ => rfl

theorem likens_follow {attempt attempt' : Attempt} (alike : attempt.Alike k ids attempt')
    {answer answer' : Except Failure (Decision × Option Failure)}
    (answers : Answered k ids answer answer') :
    Likens R (Verdict.Alike k) (p.follow s.mode call attempt answer)
      (p'.follow s'.mode (call.fed feed) attempt' answer') ids l l' := by
  unfold follow
  rw [passes_alike alike answers]
  split
  · exact t.likens_resolve h tied alike answers
  · refine likens_bind (t.release tied alike) fun ids₁ result result' _ _ le released tied => ?_
    cases released with
    | error error => exact likens_pure (.finished (.raised error)) tied
    | ok same =>
      have answers : Answered k ids₁ answer answer' := by
        cases answers with
        | error error => exact .error (error.mono le)
        | ok decided => exact .ok (decided.mono le)
      exact t.likens_resolve h tied (alike.mono le) answers

theorem likens_weigh {start start' : Option Timestamp} (dated : k.dated → start = start')
    (made : Nat) {reply reply' : Reply} (alike : reply.Alike k ids reply') :
    Likens R (fun ids weighed weighed' => weighed.1.Alike k ids weighed'.1 ∧
        Answered k ids weighed.2 weighed'.2)
      (p.weigh call start made reply) (p'.weigh (call.fed feed) start' made reply') ids l l' := by
  have reported : Likens R Any (p.reportError call made reply)
      (p'.reportError (call.fed feed) made reply') ids l l' := by
    cases alike with
    | raised error => exact t.report tied (.requestError _ error)
    | response r reached => exact likens_pure trivial tied
    | nothing => exact likens_pure trivial tied
  refine likens_bind reported fun _ _ _ _ _ le _ tied => ?_
  refine likens_bind (t.likens_attemptOf h tied dated made (alike.mono le))
    fun _ attempt attempt' _ _ _ attempts tied => ?_
  refine likens_bind (t.likens_decide h tied attempts) fun _ _ _ _ _ le answers tied => ?_
  exact likens_pure ⟨attempts.mono le, answers⟩ tied

theorem likens_judge {start start' : Option Timestamp} (dated : k.dated → start = start')
    (made : Nat) {reply reply' : Reply} (alike : reply.Alike k ids reply') :
    Likens R (Verdict.Alike k) (p.judge s call start made reply)
      (p'.judge s' (call.fed feed) start' made reply') ids l l' := by
  unfold judge
  rw [alike.isInterrupt]
  split
  · exact likens_pure (.finished alike) tied
  · exact likens_bind (t.likens_weigh h tied dated made alike) fun _ _ _ _ _ _ weighed tied =>
      t.likens_follow h tied weighed.1 weighed.2

theorem likens_conclude (modes : k.endings → s'.mode = s.mode) {start start' : Option Timestamp}
    (dated : k.dated → start = start') (made : Nat) {reply reply' : Reply}
    (alike : reply.Alike k ids reply') :
    Likens R (Verdict.Alike k) (p.conclude s call start made reply)
      (p'.conclude s' (call.fed feed) start' made reply') ids l l' := by
  refine likens_bind (h.likens_note tied rfl (.received call.id t.index alike))
    fun ids₁ _ _ l₁ l₁' le _ tied => ?_
  refine likens_bind (t.likens_judge h tied dated made (alike.mono le))
    fun _ _ _ _ _ _ verdict tied => ?_
  cases verdict with
  | finished alike =>
    have alike := alike.outOf modes
    refine likens_bind (likens_leave h t.index tied alike) fun _ _ _ _ _ le _ tied => ?_
    exact likens_pure (.finished (alike.mono le)) tied
  | again alike => exact likens_pure (.again alike) tied

theorem likens_delayWork (modes : k.endings → s'.mode = s.mode) {delay : Delayer}
    (own : p.layer.delay = some delay) {attempt attempt' : Attempt}
    (alike : attempt.Alike k ids attempt') :
    Likens R (Ended k) (p.delayWork s.mode delay call attempt)
      (p'.delayWork s'.mode delay (call.fed feed) attempt') ids l l' := by
  refine likens_bind (h.likens_note tied rfl (.delaying call.id t.index alike))
    fun _ _ _ l₁ l₁' le _ tied => likens_get ?_
  have waited := h.delay tied p'.index
  rw [← t.index] at waited
  simp only [t.waits tied delay own]
  refine likens_bind (likens_modify waited) fun _ _ _ _ _ le' _ tied => ?_
  refine likens_bind (h.likens_advance tied _) fun _ _ _ _ _ le'' _ tied => ?_
  cases fails : (delay (l₁.delays p.index)).failure with
  | none => exact likens_pure (.ok trivial) tied
  | some spec =>
    exact likens_bind
      (likens_leaveWith h modes t.index tied spec (t.raises (.delayer own fails)))
      fun _ _ _ _ _ _ error tied => likens_pure (.error error) tied

theorem likens_delayDone {attempt attempt' : Attempt} (alike : attempt.Alike k ids attempt')
    {began began' : Rat} (same : k.timed → began' = began) :
    Likens R Any (p.delayDone s.timer call attempt began)
      (p'.delayDone s'.timer (call.fed feed) attempt' began') ids l l' := by
  refine likens_get ?_
  have times : k.timed → began' = began ∧ l'.now = l.now := fun timed =>
    ⟨same timed, h.now timed tied⟩
  refine likens_bind (h.likens_note tied rfl (.delayed call.id t.index alike times))
    fun _ _ _ _ _ _ _ tied => ?_
  exact likens_modify (t.delayed tied times)

theorem likens_waitBlocking (modes : k.endings → s'.mode = s.mode) {attempt attempt' : Attempt}
    (alike : attempt.Alike k ids attempt') :
    Likens R (Ended k) (p.waitBlocking s call attempt) (p'.waitBlocking s' (call.fed feed) attempt')
      ids l l' := by
  unfold waitBlocking
  rw [t.delay]
  cases own : p.layer.delay with
  | none => exact likens_pure (.ok trivial) tied
  | some delay =>
    simp only [alike.count]
    refine likens_bind (t.report tied (.delaying _)) fun _ _ _ l₁ l₁' le _ tied => likens_get ?_
    have alike := alike.mono le
    have same : k.timed → l₁'.now = l₁.now := fun timed => h.now timed tied
    refine likens_bind (t.likens_delayWork h tied modes own alike)
      fun _ result result' _ _ le' worked tied => ?_
    cases worked with
    | error error => exact likens_pure (.error error) tied
    | ok _ =>
      refine likens_bind (t.likens_delayDone h tied (alike.mono le') same)
        fun _ _ _ _ _ _ _ tied => ?_
      exact likens_pure (.ok trivial) tied

omit h in
theorem likens_announce (made : Nat) :
    Likens R Any (p.announce call made) (p'.announce (call.fed feed) made) ids l l' := by
  unfold announce
  split
  · exact likens_pure trivial tied
  · exact t.report tied (.retrying _)

end Place.Alike

end

end HttpRetry
