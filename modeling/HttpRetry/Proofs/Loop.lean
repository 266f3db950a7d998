import HttpRetry.Proofs.Blame
import HttpRetry.Proofs.Gentle
import HttpRetry.Proofs.Milestones
/-!
The meaning of a whole run of one layer's loop, over any outcomes, any answers of its retryer and
any waits of its delayer: which steps it takes, in which order, and how it ends.
-/
set_option autoImplicit false

namespace HttpRetry

open Work

/-- A layer around the innermost transport whose retryer gives these answers. It forces no errors on
attempts, and its limit on what is read of a body is a whole number. -/
structure Place.Scripted (p : Place) (answers : Nat → Answer) : Prop where
  retryer : p.layer.retryer = .scripted answers
  unforced : p.layer.forced = none
  limited : p.layer.limitFailure? = none

structure Call.Gentle (call : Call) : Prop where
  streams : call.Streams Stream.Gentle
  raises : ∀ n spec, (call.feed n).act = .raise spec → spec.kind.isInterrupt = false

def Reply.attempt (reply : Reply) (start : Option Timestamp) (made : Nat) (request : Request) :
    Attempt :=
  ⟨start, made + 1, reply.error?, request, reply.response?, Nat.succ_pos made⟩

theorem Reply.attempt_out {routine : Routine} {reply : Reply} (out : reply.outOf routine = reply)
    (start : Option Timestamp) (made : Nat) (request : Request) (e : Failure)
    (has : (reply.attempt start made request).error = some e) : e.outOf routine = e := by
  cases reply with
  | raised e' =>
    cases has
    simpa [Reply.outOf] using out
  | response r => cases has
  | nothing => cases has

/-- What a layer makes of an answer. Failures made on the spot have some identity. -/
def Answer.Means (attempt : Attempt) :
    Answer → Except Failure (Decision × Option Failure) → Prop
  | .decided decision .nothing, result => result = .ok (decision, none)
  | .decided decision .own, result => result = .ok (decision, attempt.error)
  | .decided decision (.given spec), result => ∃ id, result = .ok (decision, some (spec.failure id))
  | .raises spec, result => ∃ id, result = .error (spec.failure id)
  | .foreign shown, result => ∃ id, result = .error (FailureSpec.failure
      (.of .typeError (some ("Retryer returned " ++ shown ++ ", expected a Decision"))) id)

def ErrorSource.Raises (attempt : Attempt) (e : Failure) : ErrorSource → Prop
  | .given spec => ∃ id, e = spec.failure id
  | .own =>
    match attempt.error with
    | some cause => e = cause
    | none => ∃ id, e = .aborted id attempt
  | .nothing => ∃ id, e = .aborted id attempt

/-- What ends a call at an attempt: its outcome if it is ignored, the retryer's error or one of the
loop's own, with the attempt's error as its cause, if it is aborted, and else what the delayer or
the retryer raises, or the complaint about an answer that is no decision. What the policies raise
leaves the routine that the call runs in. -/
def Ends (routine : Routine) (attempt : Attempt) (failure : Option FailureSpec) (reply : Reply)
    (l : Ledger) : Answer → Prop
  | .decided .ignore _ =>
    match attempt.error, attempt.response with
    | some e, _ => reply = .raised e
    | none, some r => reply = .response r
    | none, none => ∃ id, reply = .raised (FailureSpec.failure
        (.of .typeError (some "Wrapped transport returned neither a response nor an error")) id)
  | .decided .abort source =>
    ∃ e, reply = .raised (e.outOf routine) ∧ source.Raises attempt e ∧
      ∀ own, attempt.error = some own → own.is e = false → l.cause? e.id = some own
  | .decided .retry _ =>
    ∃ spec id, failure = some spec ∧ reply = .raised ((spec.failure id).outOf routine)
  | .raises spec => ∃ id, reply = .raised ((spec.failure id).outOf routine)
  | .foreign shown => ∃ id, reply = .raised (FailureSpec.failure
      (.of .typeError (some ("Retryer returned " ++ shown ++ ", expected a Decision"))) id)

theorem Ends.leave {routine : Routine} {attempt : Attempt} {failure : Option FailureSpec}
    {reply : Reply} {l : Ledger} {answer : Answer}
    (out : ∀ e, attempt.error = some e → e.outOf routine = e)
    (h : Ends .function attempt failure reply l answer) :
    Ends routine attempt failure (reply.outOf routine) l answer := by
  have complaint (message : Option String) (id : FailureId) :
      (Reply.raised ((FailureSpec.of .typeError message).failure id)).outOf routine =
        .raised ((FailureSpec.of .typeError message).failure id) :=
    congrArg Reply.raised (Failure.outOf_of_general routine (by rw [FailureSpec.kind_failure]; rfl))
  rcases answer with ⟨_ | _ | _, source⟩ | spec | shown
  · unfold Ends at h ⊢
    cases failed : attempt.error with
    | some e =>
      rw [failed] at h
      obtain rfl : reply = .raised e := h
      exact congrArg Reply.raised (out e failed)
    | none =>
      rw [failed] at h
      cases got : attempt.response with
      | some r =>
        rw [got] at h
        obtain rfl : reply = .response r := h
        rfl
      | none =>
        rw [got] at h
        obtain ⟨id, rfl⟩ := h
        exact ⟨id, complaint _ id⟩
  · obtain ⟨spec, id, has, rfl⟩ := h
    exact ⟨spec, id, has, by rw [Failure.outOf_function]; rfl⟩
  · obtain ⟨e, rfl, rest⟩ := h
    exact ⟨e, by rw [Failure.outOf_function]; rfl, rest⟩
  · obtain ⟨id, rfl⟩ := h
    exact ⟨id, by rw [Failure.outOf_function]; rfl⟩
  · obtain ⟨id, rfl⟩ := h
    exact ⟨id, complaint _ id⟩

theorem Answer.Means.abort {attempt : Attempt} {source : ErrorSource} {error : Option Failure}
    (means : (Answer.decided .abort source).Means attempt (.ok (.abort, error))) {e : Failure}
    (raised : error = some e ∨ error = none ∧ ∃ id, e = .aborted id attempt) :
    source.Raises attempt e := by
  cases source with
  | nothing =>
    cases means
    rcases raised with h | ⟨_, h⟩
    · cases h
    · exact h
  | own =>
    cases means
    unfold ErrorSource.Raises
    cases hown : attempt.error with
    | none =>
      rw [hown] at raised
      rcases raised with h | ⟨_, h⟩
      · cases h
      · exact h
    | some own =>
      rw [hown] at raised
      rcases raised with h | ⟨h, _⟩
      · exact (Option.some.inj h).symm
      · cases h
  | given spec =>
    obtain ⟨id, h⟩ := means
    cases h
    rcases raised with h | ⟨h, _⟩
    · exact ⟨id, (Option.some.inj h).symm⟩
    · cases h

def Verdict.Follows (routine : Routine) (attempt : Attempt) (verdict : Verdict) (l : Ledger) :
    Answer → Prop
  | .decided .retry _ => verdict = .again attempt
  | answer => ∃ ending, verdict = .finished ending ∧ Ends routine attempt none ending l answer

theorem Verdict.Follows.retry_or {routine : Routine} {attempt : Attempt} {verdict : Verdict}
    {l : Ledger} {answer : Answer} (h : verdict.Follows routine attempt l answer) :
    (∃ source, answer = .decided .retry source ∧ verdict = .again attempt) ∨
      ∃ ending, verdict = .finished ending ∧ Ends routine attempt none ending l answer ∧
        ∀ source, answer ≠ .decided .retry source := by
  rcases answer with ⟨_ | _ | _, source⟩ | spec | shown
  · exact .inr (h.imp fun _ h => ⟨h.1, h.2, fun _ h => by cases h⟩)
  · exact .inl ⟨source, rfl, h⟩
  · exact .inr (h.imp fun _ h => ⟨h.1, h.2, fun _ h => by cases h⟩)
  · exact .inr (h.imp fun _ h => ⟨h.1, h.2, fun _ h => by cases h⟩)
  · exact .inr (h.imp fun _ h => ⟨h.1, h.2, fun _ h => by cases h⟩)

theorem Verdict.Follows.final {routine : Routine} {attempt : Attempt} {verdict : Verdict}
    {l : Ledger} {answer : Answer} (h : verdict.Follows routine attempt l answer)
    (final : ∀ source, answer ≠ .decided .retry source) :
    ∃ ending, verdict = .finished ending ∧ Ends routine attempt none ending l answer := by
  rcases h.retry_or with ⟨source, h, _⟩ | ⟨ending, h, ends, _⟩
  · exact absurd h (final source)
  · exact ⟨ending, h, ends⟩

theorem Verdict.Follows.of_ends {routine : Routine} {attempt : Attempt} {ending : Reply}
    {l : Ledger} {answer : Answer} (final : ∀ source, answer ≠ .decided .retry source)
    (ends : Ends routine attempt none ending l answer) :
    (Verdict.finished ending).Follows routine attempt l answer := by
  rcases answer with ⟨_ | _ | _, source⟩ | spec | shown
  · exact ⟨_, rfl, ends⟩
  · exact absurd rfl (final source)
  · exact ⟨_, rfl, ends⟩
  · exact ⟨_, rfl, ends⟩
  · exact ⟨_, rfl, ends⟩

def Reply.released (reply : Reply) : List Milestone :=
  match reply.response? with
  | some r => [.releasing r.id]
  | none => []

def Answer.asked (attempt : Attempt) : Answer → List Milestone
  | .decided decision _ => [.asked attempt, .answered attempt decision]
  | _ => [.asked attempt]

def Answer.release (reply : Reply) : Answer → List Milestone
  | .decided .ignore _ => []
  | _ => reply.released

def Place.waiting (p : Place) (attempt : Attempt) : List Milestone :=
  if p.layer.delay.isSome then [.delaying attempt, .delayed attempt] else []

def Place.delayFailure (p : Place) (delays : Nat) : Option FailureSpec :=
  p.layer.delay.bind fun delay => (delay delays).failure

/-- Whether the loop goes on after an answer: it is a retry, and the delayer raises nothing. -/
def Place.GoesOn (p : Place) (answer : Answer) (delays : Nat) : Prop :=
  (∃ source, answer = .decided .retry source) ∧ p.delayFailure delays = none

def Place.waits (p : Place) : Nat := if p.layer.delay.isSome then 1 else 0

def Place.onward (p : Place) (request : Request) (reply : Reply) (attempt : Attempt) :
    List Milestone :=
  [.sent request, .received reply, .asked attempt, .answered attempt .retry] ++ reply.released ++
    p.waiting attempt

def Answer.last (answer : Answer) (request : Request) (reply : Reply) (attempt : Attempt)
    (ending : Reply) : List Milestone :=
  [.sent request, .received reply] ++ answer.asked attempt ++ answer.release reply ++
    (match answer with
      | .decided .retry _ => [.delaying attempt]
      | _ => []) ++ [.left ending]

def Call.Hands (call : Call) (mode : Mode) (sent : Nat) (reply : Reply) : Prop :=
  ∃ l, (perform mode call.id (call.feed sent).act l).1.outOf mode.routine = reply

/-- Where a run stands in the lists that it is given, with streams as they are to be. -/
structure At (p : Place) (call : Call) (position : Position) (l : Ledger) : Prop where
  position : l.position p call = position
  streams : l.Streams Stream.Gentle

section
variable {p : Place} {call : Call} {l l' : Ledger} {pos : Position}

theorem At.calm (h : At p call pos l) (hc : call.Streams Stream.Gentle)
    (changes : Changes call (fun _ => True) .calm l l') : At p call pos l' :=
  ⟨changes.position.trans h.position, changes.streams hc h.streams⟩

theorem At.note (h : At p call pos l) (e : Event) :
    At p call { pos with milestones := pos.milestones ++ e.milestone?.toList } (l.note e) := by
  refine ⟨?_, h.streams⟩
  rw [Ledger.position_note, ← h.position]
  rfl

theorem At.ask (h : At p call pos l) : At p call { pos with asks := pos.asks + 1 }
    { l with asks := updateAt l.asks p.index (· + 1) } := by
  obtain ⟨rfl, streams⟩ := h
  exact ⟨by simp [Ledger.position, Ledger.milestones, Ledger.trace], streams⟩

theorem At.delay (h : At p call pos l) : At p call { pos with delays := pos.delays + 1 }
    { l with delays := updateAt l.delays p.index (· + 1) } := by
  obtain ⟨rfl, streams⟩ := h
  exact ⟨by simp [Ledger.position, Ledger.milestones, Ledger.trace], streams⟩

theorem At.send (h : At p call pos l) : At p call { pos with sends := pos.sends + 1 }
    (l.adjustCall call.id fun c => { c with sends := c.sends + 1 }) := by
  obtain ⟨rfl, streams⟩ := h
  refine ⟨?_, streams⟩
  simp [Ledger.position, Ledger.milestones, Ledger.trace, Ledger.adjustCall]

theorem At.measured (h : At p call pos l) (q : Place) (f : Metrics → Metrics) :
    At p call pos (q.measured f l) := by
  unfold Place.measured
  split
  · exact ⟨h.position, h.streams⟩
  · exact h

theorem Work.Makes.stays {α : Type} {w : Work α} (hw : w.Makes call (fun _ => True) .calm l)
    (hc : call.Streams Stream.Gentle) (h : At p call pos l) :
    w.Yields l fun _ l' => At p call pos l' :=
  Yields.mono hw fun _ _ changes => h.calm hc changes

end

namespace Place

variable {p : Place} {s : Setting} {call : Call} {l : Ledger} {pos : Position}
variable {answers : Nat → Answer}

theorem fail_eq (spec : FailureSpec) :
    (fail call.id spec).Yields l fun e _ => ∃ id, e = spec.failure id := ⟨_, rfl⟩

theorem take_means (attempt : Attempt) (answer : Answer) :
    (take call attempt answer).Yields l fun result _ => answer.Means attempt result := by
  rcases answer with ⟨decision, source⟩ | spec | shown
  · cases source with
    | nothing => rfl
    | own => rfl
    | given spec => exact ⟨_, rfl⟩
  · exact ⟨_, rfl⟩
  · exact ⟨_, rfl⟩

theorem attemptOf_eq (unforced : p.layer.forced = none) (start : Option Timestamp) (made : Nat)
    (reply : Reply) : (p.attemptOf call start made reply).Yields l fun attempt l' =>
      attempt = reply.attempt start made call.request ∧ l' = l := by
  cases reply with
  | raised e => exact ⟨rfl, rfl⟩
  | nothing => exact ⟨rfl, rfl⟩
  | response r =>
    unfold attemptOf errorOf
    rw [unforced]
    exact ⟨rfl, rfl⟩

theorem ask_course (hp : p.Scripted answers) (hc : call.Streams Stream.Gentle) (attempt : Attempt)
    (h : At p call pos l) :
    (p.ask call attempt).Yields l fun result l' =>
      (answers pos.asks).Means attempt result ∧
      At p call
        { pos with
          asks := pos.asks + 1
          milestones := pos.milestones ++ [.asked attempt] } l' := by
  have count : l.asks p.index = pos.asks := congrArg Position.asks h.position
  unfold ask
  rw [hp.retryer]
  refine yields_get (yields_note (yields_modify ?_))
  rw [count]
  have asked := (h.note (.asked call.id p.index attempt none true)).ask
  exact ((take_means attempt (answers pos.asks)).and
    ((take_makes attempt (answers pos.asks)).stays hc asked))

theorem decide_course (hp : p.Scripted answers) (hc : call.Streams Stream.Gentle)
    (attempt : Attempt) (h : At p call pos l) :
    (p.decide call attempt).Yields l fun result l' =>
      (answers pos.asks).Means attempt result ∧
      At p call { pos with
        asks := pos.asks + 1
        milestones := pos.milestones ++ (answers pos.asks).asked attempt } l' := by
  refine yields_bind (ask_course hp hc attempt h) fun result l₁ h₁ => ?_
  obtain ⟨means, at₁⟩ := h₁
  cases answer : answers pos.asks with
  | decided decision source =>
    rw [answer] at means
    obtain ⟨error, rfl⟩ : ∃ error, result = .ok (decision, error) := by
      cases source with
      | nothing => exact ⟨_, means⟩
      | own => exact ⟨_, means⟩
      | given spec => exact ⟨_, means.choose_spec⟩
    refine yields_bind ((mention_makes attempt decision error).stays hc at₁) fun _ l₂ at₂ => ?_
    refine yields_note (yields_modify (yields_pure ⟨means, ?_⟩))
    have noted := at₂.note (.answered call.id p.index attempt decision)
    simp only [List.append_assoc] at noted
    exact noted.measured p _
  | raises spec =>
    rw [answer] at means
    obtain ⟨id, rfl⟩ := means
    exact yields_pure ⟨⟨id, rfl⟩, at₁⟩
  | foreign shown =>
    rw [answer] at means
    obtain ⟨id, rfl⟩ := means
    exact yields_pure ⟨⟨id, rfl⟩, at₁⟩

theorem weigh_course (hp : p.Scripted answers) (hc : call.Streams Stream.Gentle)
    (start : Option Timestamp) (made : Nat) (reply : Reply) (h : At p call pos l) :
    (p.weigh call start made reply).Yields l fun weighed l' =>
      weighed.1 = reply.attempt start made call.request ∧
      (answers pos.asks).Means (reply.attempt start made call.request) weighed.2 ∧
      At p call { pos with
        asks := pos.asks + 1
        milestones := pos.milestones ++
          (answers pos.asks).asked (reply.attempt start made call.request) } l' := by
  refine yields_bind ((reportError_makes made reply).stays hc h) fun _ l₁ h₁ => ?_
  refine yields_bind (attemptOf_eq hp.unforced start made reply) fun attempt l₂ h₂ => ?_
  obtain ⟨rfl, rfl⟩ := h₂
  refine yields_bind (decide_course hp hc _ h₁) fun result l₃ h₃ => ?_
  exact yields_pure ⟨rfl, h₃⟩

theorem release_course (limited : p.layer.limitFailure? = none)
    (hc : call.Streams Stream.Gentle) (mode : Mode) {attempt : Attempt} {reply : Reply}
    (hr : attempt.response = reply.response?) (h : At p call pos l) :
    (p.release mode call attempt).Yields l fun result l' => result = .ok () ∧
      At p call { pos with milestones := pos.milestones ++ reply.released } l' := by
  refine ⟨release_ok h.streams limited attempt, ?_⟩
  unfold Reply.released
  rw [← hr]
  cases ha : attempt.response with
  | none =>
    unfold release
    rw [ha]
    simpa [pure_apply] using h
  | some r =>
    rw [release_of_some ha]
    have noted := h.note (.releasing call.id p.index r.id)
    have discards :
      At p call _ (p.discard mode call r (l.note (.releasing call.id p.index r.id))).2 :=
      (discard_makes trivial mode).stays hc noted
    exact (tolerate_makes attempt _).stays hc discards

/-- An abort raises the retryer's error or one of the loop's own, and chains it to the attempt's
error. -/
theorem abort_course (hc : call.Streams Stream.Gentle) (attempt : Attempt) (error : Option Failure)
    (h : At p call pos l) :
    (p.abort call attempt error).Yields l fun e l' => At p call pos l' ∧
      (error = some e ∨ error = none ∧ ∃ id, e = .aborted id attempt) ∧
      ∀ own, attempt.error = some own → own.is e = false → l'.cause? e.id = some own := by
  have stays := (abort_makes (p := p) attempt error).stays hc h
  refine (stays.and ((abort_raises attempt error).and (abort_cause attempt error))).mono ?_
  rintro e l' ⟨at', raised, cause⟩
  refine ⟨at', raised, fun own failed ne => ?_⟩
  have chained := cause fun other h => by
    obtain rfl : own = other := Option.some.inj (failed.symm.trans h)
    exact ne
  rwa [failed] at chained

/-- An attempt that does not pass is released; no failure is given a cause by that. -/
theorem follow_rejected (limited : p.layer.limitFailure? = none)
    (hc : call.Streams Stream.Gentle) {mode : Mode} {attempt : Attempt} (reply : Reply)
    (hr : attempt.response = reply.response?) {result : Except Failure (Decision × Option Failure)}
    (rejected : attempt.passes result = false)
    {Q : Verdict → Ledger → Prop} (h : At p call pos l)
    (hq : ∀ l₁, At p call { pos with milestones := pos.milestones ++ reply.released } l₁ →
      l.Blameless call.id l₁ → (p.resolve call attempt result).Yields l₁ Q) :
    (p.follow mode call attempt result).Yields l Q := by
  unfold follow
  rw [rejected]
  simp only [Bool.false_eq_true, if_false]
  have releases := (release_course limited hc mode hr h).and (release_excuses attempt)
  refine yields_bind releases fun released l₁ h₁ => ?_
  obtain ⟨⟨rfl, at₁⟩, blameless, -⟩ := h₁
  exact hq l₁ at₁ blameless

/-- What follows an answer: the release that it asks for, and then the end or a further round. -/
theorem follow_course (limited : p.layer.limitFailure? = none)
    (hc : call.Streams Stream.Gentle) (mode : Mode) (start : Option Timestamp) (made : Nat)
    (reply : Reply) {answer : Answer} {result : Except Failure (Decision × Option Failure)}
    (means : answer.Means (reply.attempt start made call.request) result) (h : At p call pos l) :
    (p.follow mode call (reply.attempt start made call.request) result).Yields l fun verdict l' =>
      At p call { pos with milestones := pos.milestones ++ answer.release reply } l' ∧
      verdict.Follows .function (reply.attempt start made call.request) l' answer := by
  cases answer with
  | raises spec =>
    obtain ⟨id, rfl⟩ := means
    exact follow_rejected limited hc _ rfl rfl h fun l₁ at₁ _ =>
      yields_pure ⟨at₁, _, rfl, id, by rw [Failure.outOf_function]⟩
  | foreign shown =>
    obtain ⟨id, rfl⟩ := means
    exact follow_rejected limited hc _ rfl rfl h fun l₁ at₁ _ => yields_pure ⟨at₁, _, rfl, id, rfl⟩
  | decided decision source =>
    obtain ⟨error, rfl⟩ : ∃ error, result = .ok (decision, error) := by
      cases source with
      | nothing => exact ⟨_, means⟩
      | own => exact ⟨_, means⟩
      | given spec => exact ⟨_, means.choose_spec⟩
    cases decision with
    | retry => exact follow_rejected limited hc _ rfl rfl h fun l₁ at₁ _ => yields_pure ⟨at₁, rfl⟩
    | ignore =>
      cases reply with
      | raised e =>
        exact follow_rejected limited hc (.raised e) rfl rfl h fun l₁ at₁ _ =>
          yields_pure ⟨at₁, .raised e, rfl, rfl⟩
      | response r => exact yields_pure ⟨by simpa [Answer.release] using h, _, rfl, rfl⟩
      | nothing =>
        have settled : (settle call (Reply.nothing.attempt start made call.request)).Yields l
            fun ending l' => At p call pos l' ∧
              Ends .function (Reply.nothing.attempt start made call.request) none ending l'
                (.decided .ignore source) :=
          yields_bind (((fail_makes _).stays hc h).and (fail_eq _)) fun e l' h' =>
            yields_pure ⟨h'.1, h'.2.imp fun _ => congrArg Reply.raised⟩
        refine yields_bind settled fun ending l' h' => yields_pure ⟨?_, ending, rfl, h'.2⟩
        simpa [Answer.release] using h'.1
    | abort =>
      refine follow_rejected limited hc _ rfl rfl h fun l₁ at₁ _ => ?_
      refine yields_bind (abort_course hc _ error at₁) fun e l₂ h₂ => yields_pure ?_
      obtain ⟨at₂, raised, chained⟩ := h₂
      exact ⟨at₂, _, rfl, e, by rw [Failure.outOf_function], means.abort raised, chained⟩

def handedOn : Verdict → List Milestone
  | .finished ending => [.left ending]
  | .again _ => []

theorem finish_course {mode : Mode} {attempt : Attempt} {answer : Answer} {verdict : Verdict}
    (out : ∀ e, attempt.error = some e → e.outOf mode.routine = e)
    (follows : verdict.Follows .function attempt l answer) (h : At p call pos l) :
    (p.finish mode call verdict).Yields l fun verdict' l' =>
      verdict'.Follows mode.routine attempt l' answer ∧
      At p call { pos with milestones := pos.milestones ++ handedOn verdict' } l' := by
  cases verdict with
  | again attempt' =>
    refine yields_pure ⟨?_, by simpa [handedOn] using h⟩
    rcases follows.retry_or with ⟨source, rfl, same⟩ | ⟨_, h, _⟩
    · exact same
    · cases h
  | finished ending =>
    refine yields_note (yields_pure ⟨?_, h.note (.left call.id p.index _)⟩)
    rcases follows.retry_or with ⟨_, _, h⟩ | ⟨ending', h, ends, final⟩
    · cases h
    · obtain rfl := Verdict.finished.inj h
      exact .of_ends final (ends.leave out)

theorem conclude_course (hp : p.Scripted answers) (hc : call.Streams Stream.Gentle) {s : Setting}
    (start : Option Timestamp) (made : Nat) {reply : Reply} (hr : reply.isInterrupt = false)
    (out : reply.outOf s.mode.routine = reply) (h : At p call pos l) :
    (p.conclude s call start made reply).Yields l fun verdict l' =>
      verdict.Follows s.mode.routine (reply.attempt start made call.request) l'
        (answers pos.asks) ∧
      At p call { pos with
        asks := pos.asks + 1
        milestones := pos.milestones ++ ([.received reply] ++
          (answers pos.asks).asked (reply.attempt start made call.request) ++
          (answers pos.asks).release reply ++ handedOn verdict) } l' := by
  have weighs :=
    weigh_course hp hc start made reply (h.note (.received call.id p.index reply))
  refine yields_conclude hr weighs ?_
  rintro attempt result l₁ ⟨rfl, means, at₁⟩
  refine yields_bind (follow_course hp.limited hc s.mode start made reply means at₁)
    fun verdict l₂ h₂ => ?_
  obtain ⟨at₂, follows⟩ := h₂
  refine (finish_course (Reply.attempt_out out start made _) follows at₂).mono fun verdict' l₃ h₃ => ?_
  obtain ⟨follows, at₃⟩ := h₃
  refine ⟨follows, ?_⟩
  simpa only [Event.milestone?, Option.toList_some, List.append_assoc] using at₃

theorem transmit_course (hc : call.Gentle) (mode : Mode) (h : At p call pos l) :
    (call.transmit mode).Yields l fun reply l' =>
      call.Hands mode pos.sends reply ∧ reply.isInterrupt = false ∧
      reply.outOf mode.routine = reply ∧
      At p call { pos with
        sends := pos.sends + 1
        milestones := pos.milestones ++ [.sent call.request] } l' := by
  have sent := (h.note (.sent call.id call.request)).send
  refine yields_note ?_
  have counted : (nextSend call.id).Yields (l.note (.sent call.id call.request)) fun n l' =>
      n = pos.sends ∧ At p call { pos with
        sends := pos.sends + 1
        milestones := pos.milestones ++ [.sent call.request] } l' :=
    ⟨congrArg Position.sends h.position, sent⟩
  refine yields_bind counted fun n l₁ h₁ => ?_
  obtain ⟨rfl, at₁⟩ := h₁
  refine yields_bind ((advance_makes _).stays hc.streams at₁) fun _ l₂ at₂ => ?_
  have performs : (perform mode call.id (call.feed pos.sends).act).Brings call (fun _ => True) .calm
      l₂ _ := perform_brings call.confined_all mode pos.sends
  have mild : (perform mode call.id (call.feed pos.sends).act).Yields l₂ _ :=
    perform_notInterrupt hc.streams at₂.streams (hc.raises pos.sends)
  have performed : (perform mode call.id (call.feed pos.sends).act).Yields l₂ fun reply l' =>
      call.Hands mode pos.sends (reply.outOf mode.routine) ∧ reply.isInterrupt = false ∧
      At p call { pos with
        sends := pos.sends + 1
        milestones := pos.milestones ++ [.sent call.request] } l' :=
    ⟨⟨l₂, rfl⟩, mild, at₂.calm hc.streams performs.1⟩
  refine yields_bind performed fun reply l₃ h₃ => ?_
  obtain ⟨hands, mild, at₃⟩ := h₃
  exact yields_pure ⟨hands, (Reply.isInterrupt_outOf _ _).trans mild, Reply.outOf_outOf _ _, at₃⟩

theorem delayWork_course (hc : call.Streams Stream.Gentle) (delay : Delayer) (attempt : Attempt)
    (h : At p call pos l) :
    (p.delayWork s.mode delay call attempt).Yields l fun result l' =>
      match (delay pos.delays).failure with
      | none => result = .ok () ∧ At p call { pos with
          delays := pos.delays + 1
          milestones := pos.milestones ++ [.delaying attempt] } l'
      | some spec => ∃ id, result = .error ((spec.failure id).outOf s.mode.routine) ∧
          At p call { pos with
            delays := pos.delays + 1
            milestones := pos.milestones ++
              [.delaying attempt, .left (.raised ((spec.failure id).outOf s.mode.routine))] } l' := by
  have noted := h.note (.delaying call.id p.index attempt)
  have count : (l.note (.delaying call.id p.index attempt)).delays p.index = pos.delays :=
    congrArg Position.delays noted.position
  refine yields_note (yields_get (yields_modify ?_))
  have asked := noted.delay
  rw [count]
  refine yields_bind ((advance_makes _).stays hc asked) fun _ l₁ at₁ => ?_
  cases (delay pos.delays).failure with
  | none => exact yields_pure ⟨rfl, at₁⟩
  | some spec =>
    have leaves : (p.leaveWith s.mode call spec).Yields l₁ fun e l' => ∃ id,
        e = (spec.failure id).outOf s.mode.routine ∧
        At p call { pos with
          delays := pos.delays + 1
          milestones := pos.milestones ++ [.delaying attempt] ++ [.left (.raised e)] } l' := by
      refine yields_bind (((fail_makes spec).stays hc at₁).and (fail_eq spec)) fun e l₂ h₂ => ?_
      obtain ⟨at₂, id, rfl⟩ := h₂
      exact yields_note (yields_pure ⟨id, rfl, at₂.note (.left call.id p.index _)⟩)
    refine yields_bind leaves fun e l₂ h₂ => ?_
    obtain ⟨id, rfl, left⟩ := h₂
    refine yields_pure ⟨id, rfl, ?_⟩
    simpa only [Event.milestone?, Option.toList_some, List.append_assoc, List.cons_append,
      List.nil_append] using left

theorem wait_course (hc : call.Streams Stream.Gentle) (attempt : Attempt) (h : At p call pos l) :
    (p.waitBlocking s call attempt).Yields l fun result l' =>
      match p.delayFailure pos.delays with
      | none => result = .ok () ∧ At p call { pos with
          delays := pos.delays + p.waits
          milestones := pos.milestones ++ p.waiting attempt } l'
      | some spec => ∃ id, result = .error ((spec.failure id).outOf s.mode.routine) ∧
          At p call { pos with
            delays := pos.delays + p.waits
            milestones := pos.milestones ++
              [.delaying attempt, .left (.raised ((spec.failure id).outOf s.mode.routine))] } l' := by
  unfold waitBlocking delayFailure waits waiting
  cases p.layer.delay with
  | none => exact yields_pure ⟨rfl, by simpa using h⟩
  | some delay =>
    have reports : (p.report call (.delaying attempt.count)).Makes call (fun _ => True) .calm l :=
      report_makes fun _ _ _ _ => rfl
    refine yields_bind (reports.stays hc h) fun _ l₁ at₁ => yields_get ?_
    refine yields_bind (delayWork_course hc delay attempt at₁) fun result l₂ h₂ => ?_
    simp only [Option.bind_some, Option.isSome_some, if_true]
    cases hf : (delay pos.delays).failure with
    | none =>
      rw [hf] at h₂
      obtain ⟨rfl, at₂⟩ := h₂
      have done : (p.delayDone s.timer call attempt l₁.now).Yields l₂ fun _ l' => At p call { pos with
          delays := pos.delays + 1
          milestones := pos.milestones ++ [.delaying attempt] ++ [.delayed attempt] } l' := by
        refine yields_get (yields_note ?_)
        exact (at₂.note (.delayed call.id p.index attempt l₁.now l₂.now)).measured p
          (·.observeDelay (s.timer.between l₁.now l₂.now))
      refine yields_bind done fun _ l₃ at₃ => yields_pure ⟨rfl, ?_⟩
      simpa only [List.append_assoc, List.singleton_append] using at₃
    | some spec =>
      rw [hf] at h₂
      obtain ⟨id, rfl, at₂⟩ := h₂
      exact yields_pure ⟨id, rfl, at₂⟩

end Place

end HttpRetry
