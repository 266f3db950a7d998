import HttpRetry.Proofs.Interrupts
import HttpRetry.Proofs.Loop.Run
import HttpRetry.Proofs.Stepwise.Converse
/-!
What becomes of a call when responses that a layer rejects cannot be read or closed. A failure of a
swallowed family is reported, and the call goes on as if there were none; any other one ends it.
-/
set_option autoImplicit false

namespace HttpRetry

open Work

structure Place.Orderly (p : Place) : Prop where
  decides : ∀ answers, p.layer.retryer = .scripted answers ∨ p.layer.retryer = .timed answers →
    ∀ asked, ∃ decision source, answers asked = .decided decision source
  delayer : ∀ delays, p.delayFailure delays = none

def Retryer.Gives (attempt : Attempt) (asked : Nat) (decision : Decision) (error : Option Failure) :
    Retryer → Prop
  | .standard policy => decision = policy.decide attempt ∧
    match decision with
    | .abort => ∃ id, error = some (.exhausted id attempt)
    | _ => error = none
  | .scripted answers | .timed answers => (∃ source, answers asked = .decided decision source) ∧
    (answers asked).Means attempt (.ok (decision, error))

structure Place.Answers (p : Place) (call : Call) (start : Option Timestamp)
    (made : Nat) (reply : Reply) (l : Ledger) (attempt : Attempt) (decision : Decision)
    (error : Option Failure) (l' : Ledger) : Prop where
  notInterrupt : reply.isInterrupt = false
  fits : Place.Fits call start made reply attempt
  raised : ∀ e, reply = .raised e → attempt.error = some e
  gives : p.layer.retryer.Gives attempt (l.asks p.index) decision error
  weighed : p.weighed call start made reply l = ((attempt, .ok (decision, error)), l')

section
variable (p : Place) (mode : Mode) (call : Call) (attempt : Attempt)

/-- An attempt's response, if it has one, is read and closed. That fails with what closing raises,
or else with what reading raises. -/
inductive Place.Discards (l : Ledger) : Except Failure Unit → Ledger → Prop
  | none (bare : attempt.response = none) : Discards l (.ok ()) l
  | some {r : ResponseRef} {drained closed : Except Failure Unit} {l₁ l₂ : Ledger}
      (has : attempt.response = some r)
      (reads : p.drain mode call r (l.note (.releasing call.id p.index r.id)) = (drained, l₁))
      (closes : close mode call.id r.id l₁ = (closed, l₂)) :
      Discards l (discarded drained closed) l₂

/-- An attempt that is not handed on is released. What that comes to is a failure only if one
outside the swallowed families was raised; one within them is reported and counted. -/
inductive Place.Releases (l : Ledger) : Except Failure Unit → Ledger → Prop
  | clean {l' : Ledger} (h : p.Discards mode call attempt l (.ok ()) l') : Releases l (.ok ()) l'
  | swallowed {e : Failure} {l' : Ledger} (h : p.Discards mode call attempt l (.error e) l')
      (within : e.isSwallowed = true) :
      Releases l (.ok ()) (p.measured Metrics.countDrainError (l'.note (.logged call.id p.index
        ⟨p.layer.sink, some call.request, .drainError attempt.count e⟩)))
  | broken {e : Failure} {l' : Ledger} (h : p.Discards mode call attempt l (.error e) l')
      (outside : e.isSwallowed = false) : Releases l (.error e) l'

end

/-- What a round comes to over what its send came to. But for interrupts and for sends that came to
neither a response nor an error, the layer is done with the call in three ways only: it hands on an
attempt that the retryer ignored, it raises the error of one that he aborted, or the release of one
has failed outside the swallowed families. -/
inductive Place.Judges (p : Place) (s : Setting) (call : Call) (start : Option Timestamp)
    (made : Nat) (reply : Reply) (l : Ledger) : Verdict → Ledger → Prop
  | interrupted {e : Failure} (is : reply = .raised e) (interrupt : e.isInterrupt = true) :
      Judges p s call start made reply l (.finished (.raised e))
        ((l.note (.received call.id p.index reply)).note (.left call.id p.index reply))
  | returned {attempt : Attempt} {error : Option Failure} {r : ResponseRef} {l₁ : Ledger}
      (answers : p.Answers call start made reply l attempt .ignore error l₁)
      (clean : attempt.error = none) (has : attempt.response = some r) :
      Judges p s call start made reply l (.finished (.response r))
        (l₁.note (.left call.id p.index (.response r)))
  | raised {attempt : Attempt} {error : Option Failure} {e : Failure} {l₁ l₂ : Ledger}
      (answers : p.Answers call start made reply l attempt .ignore error l₁)
      (failed : attempt.error = some e) (releases : p.Releases s.mode call attempt l₁ (.ok ()) l₂) :
      Judges p s call start made reply l (.finished (.raised (e.outOf s.mode.routine)))
        (l₂.note (.left call.id p.index (.raised (e.outOf s.mode.routine))))
  | neither {attempt : Attempt} {error : Option Failure} {e : Failure} {l' : Ledger}
      (answers : ∃ l₁, p.Answers call start made reply l attempt .ignore error l₁)
      (is : reply = .nothing) (complains : e.kind = .typeError) :
      Judges p s call start made reply l (.finished (.raised e)) l'
  | aborted {attempt : Attempt} {error : Option Failure} {e : Failure} {l₁ l₂ l₃ : Ledger}
      (answers : p.Answers call start made reply l attempt .abort error l₁)
      (releases : p.Releases s.mode call attempt l₁ (.ok ()) l₂)
      (raised : error = some e ∨ error = none ∧ ∃ id, e = .aborted id attempt)
      (aborts : p.abort call attempt error l₂ = (e, l₃)) :
      Judges p s call start made reply l (.finished (.raised (e.outOf s.mode.routine)))
        (l₃.note (.left call.id p.index (.raised (e.outOf s.mode.routine))))
  | broken {attempt : Attempt} {decision : Decision} {error : Option Failure} {e : Failure}
      {l₁ l₂ : Ledger} (answers : p.Answers call start made reply l attempt decision error l₁)
      (rejected : attempt.passes (.ok (decision, error)) = false)
      (releases : p.Releases s.mode call attempt l₁ (.error e) l₂) :
      Judges p s call start made reply l (.finished (.raised (e.outOf s.mode.routine)))
        (l₂.note (.left call.id p.index (.raised (e.outOf s.mode.routine))))
  | again {attempt : Attempt} {error : Option Failure} {l₁ l₂ : Ledger}
      (answers : p.Answers call start made reply l attempt .retry error l₁)
      (releases : p.Releases s.mode call attempt l₁ (.ok ()) l₂) :
      Judges p s call start made reply l (.again attempt) l₂

/-- The rounds of a layer from the one after `made` others. It makes a further round exactly where
the retryer asks for one and the release has not failed, and pauses where its budget is used up or
the transport that it wraps has paused. -/
inductive Place.Goes (p : Place) (s : Setting) (call : Call) (start : Option Timestamp)
    (next : Send) : (budget made : Nat) → Ledger → Option Reply → Ledger → Prop
  | spent {made : Nat} {l : Ledger} : Goes p s call start next 0 made l none l
  | paused {budget made : Nat} {l l' : Ledger}
      (sends : (do p.announce call made; next : Send) l = (none, l')) :
      Goes p s call start next (budget + 1) made l none l'
  | ended {budget made : Nat} {reply ending : Reply} {l l₁ l' : Ledger}
      (sends : (do p.announce call made; next : Send) l = (some reply, l₁))
      (judges : p.Judges s call start made reply l₁ (.finished ending) l') :
      Goes p s call start next (budget + 1) made l (some ending) l'
  | again {budget made : Nat} {reply : Reply} {attempt : Attempt} {result : Option Reply}
      {l l₁ l₂ l₃ l' : Ledger} (sends : (do p.announce call made; next : Send) l = (some reply, l₁))
      (judges : p.Judges s call start made reply l₁ (.again attempt) l₂)
      (waits : p.waitBlocking s call attempt l₂ = (.ok (), l₃))
      (goes : Goes p s call start next budget (made + 1) l₃ result l') :
      Goes p s call start next (budget + 1) made l result l'

namespace Place

variable {p : Place} {s : Setting} {call : Call} {mode : Mode} {l : Ledger}

theorem discard_discards {attempt : Attempt} {r : ResponseRef} (has : attempt.response = some r) :
    (p.discard mode call r).Yields (l.note (.releasing call.id p.index r.id))
      (p.Discards mode call attempt l) := by
  unfold Yields
  rw [discard_apply]
  exact .some has rfl rfl

theorem release_releases (attempt : Attempt) :
    (p.release mode call attempt).Yields l (p.Releases mode call attempt l) := by
  cases has : attempt.response with
  | none =>
    unfold release
    rw [has]
    exact .clean (.none has)
  | some r =>
    unfold Yields
    rw [release_of_some has]
    have discards : (p.discard mode call r).Yields _ (p.Discards mode call attempt l) :=
      discard_discards has
    unfold Yields at discards
    generalize p.discard mode call r (l.note (.releasing call.id p.index r.id)) = discarded
      at discards ⊢
    obtain ⟨result, l₁⟩ := discarded
    cases result with
    | ok u => exact .clean discards
    | error e =>
      unfold tolerate
      cases within : e.isSwallowed with
      | true =>
        simp only [within, if_true]
        exact .swallowed discards within
      | false =>
        simp only [within, Bool.false_eq_true, if_false]
        exact .broken discards within

theorem consult_gives {attempt : Attempt} (elapsed : Option Int) {answers : Nat → Answer}
    (decides : ∀ asked, ∃ decision source, answers asked = .decided decision source) :
    (p.consult call attempt elapsed answers).Yields l fun result _ => ∃ decision error,
      result = .ok (decision, error) ∧
        Retryer.Gives attempt (l.asks p.index) decision error (.scripted answers) := by
  refine yields_get (yields_note (yields_modify ?_))
  refine (take_means attempt (answers (l.asks p.index))).mono fun result _ means => ?_
  obtain ⟨decision, source, answer⟩ := decides (l.asks p.index)
  obtain ⟨error, rfl⟩ : ∃ error, result = .ok (decision, error) := by
    rw [answer] at means
    cases source with
    | nothing => exact ⟨_, means⟩
    | own => exact ⟨_, means⟩
    | given spec => exact ⟨_, means.choose_spec⟩
  exact ⟨decision, error, rfl, ⟨source, answer⟩, means⟩

theorem ask_gives (hp : p.Orderly) (steady : p.layer.clock.IsSteady)
    (attempt : Attempt) :
    (p.ask call attempt).Yields l fun result _ => ∃ decision error,
      result = .ok (decision, error) ∧
        p.layer.retryer.Gives attempt (l.asks p.index) decision error := by
  unfold ask
  cases retryer : p.layer.retryer with
  | standard policy =>
    refine yields_note ?_
    cases decided : policy.decide attempt with
    | ignore => exact yields_pure ⟨_, _, rfl, decided.symm, rfl⟩
    | retry => exact yields_pure ⟨_, _, rfl, decided.symm, rfl⟩
    | abort =>
      refine yields_bind (P := fun _ _ => True) trivial fun _ _ _ => ?_
      refine yields_bind (P := fun _ _ => True) trivial fun id _ _ => yields_pure ?_
      exact ⟨_, _, rfl, decided.symm, id, rfl⟩
  | scripted answers =>
    exact consult_gives _ (hp.decides answers (.inl retryer))
  | timed answers =>
    refine yields_get ?_
    obtain ⟨now, shows⟩ := steady (l.clocks p.layer.clock.key) l.now
    have peeked : p.layer.clock.peek l = .ok now := shows
    rw [peeked]
    exact consult_gives _ (hp.decides answers (.inr retryer))

theorem decide_gives (hp : p.Orderly) (steady : p.layer.clock.IsSteady)
    (attempt : Attempt) :
    (p.decide call attempt).Yields l fun result _ => ∃ decision error,
      result = .ok (decision, error) ∧
        p.layer.retryer.Gives attempt (l.asks p.index) decision error := by
  refine yields_bind (ask_gives hp steady attempt) ?_
  rintro answer l₁ ⟨decision, error, rfl, gives⟩
  refine yields_bind (P := fun _ _ => True) trivial fun _ _ _ => yields_note (yields_modify ?_)
  exact yields_pure ⟨decision, error, rfl, gives⟩

theorem weighed_answers (call : Call) (l : Ledger) (hp : p.Orderly)
    (steady : p.layer.clock.IsSteady) (start : Option Timestamp) (made : Nat) {reply : Reply}
    (plain : reply.isInterrupt = false) :
    ∃ attempt decision error l', p.Answers call start made reply l attempt decision error l' := by
  have answers : (p.weigh call start made reply).Yields
      (l.note (.received call.id p.index reply)) fun weighed _ =>
        Fits call start made reply weighed.1 ∧
        (∀ e, reply = .raised e → weighed.1.error = some e) ∧
        ∃ decision error, weighed.2 = .ok (decision, error) ∧
          p.layer.retryer.Gives weighed.1 (l.asks p.index) decision error := by
    have reports : (p.reportError call made reply).Yields
        (l.note (.received call.id p.index reply)) fun _ l' => l'.asks = l.asks := by
      cases reply with
      | raised e =>
        unfold reportError report
        split
        · rfl
        · rfl
      | response r => rfl
      | nothing => rfl
    refine yields_bind reports fun _ l₁ asks => ?_
    have makes : (p.attemptOf call start made reply).Yields l₁ fun attempt l' =>
        Fits call start made reply attempt ∧
        (∀ e, reply = .raised e → attempt.error = some e) ∧ l'.asks = l₁.asks := by
      have errs : (p.errorOf call reply).Yields l₁ fun error l' =>
          (∀ e, reply = .raised e → error = some e) ∧ l'.asks = l₁.asks := by
        cases reply with
        | raised e => exact ⟨fun e' h => by cases h; rfl, rfl⟩
        | nothing => exact ⟨fun e' h => (by cases h), rfl⟩
        | response r =>
          refine ⟨fun e' h => (by cases h), ?_⟩
          unfold errorOf
          split
          · rfl
          · rfl
      exact yields_bind errs fun error l₂ h => yields_pure ⟨⟨rfl, rfl, rfl, rfl⟩, h⟩
    refine yields_bind makes ?_
    rintro attempt l₂ ⟨fits, raised, same⟩
    refine yields_bind (decide_gives hp steady attempt) ?_
    rintro answer l₃ ⟨decision, error, rfl, gives⟩
    rw [same, asks] at gives
    exact yields_pure ⟨fits, raised, decision, error, rfl, gives⟩
  obtain ⟨fits, raised, decision, error, ok, gives⟩ := answers
  exact ⟨_, decision, error, _, plain, fits, raised, gives, Prod.ext (Prod.ext rfl ok) rfl⟩

theorem judges_passed {start : Option Timestamp} {made : Nat} {reply : Reply} {attempt : Attempt}
    {error : Option Failure} {l₁ : Ledger}
    (answers : p.Answers call start made reply l attempt .ignore error l₁)
    (clean : attempt.error = none) :
    (p.resolve call attempt (.ok (.ignore, error)) >>= p.finish s.mode call).Yields l₁
      (p.Judges s call start made reply l) := by
  cases has : attempt.response with
  | some r =>
    have settles : settle call attempt = pure (.response r) := by
      unfold settle
      rw [clean, has]
    unfold resolve
    simp only [settles]
    exact .returned answers clean has
  | none =>
    have is : reply = .nothing := by
      have bare := answers.fits.response
      rw [has] at bare
      cases reply with
      | response r => cases bare
      | nothing => rfl
      | raised e =>
        have failed := answers.raised e rfl
        rw [clean] at failed
        cases failed
    have settles : (settle call attempt).Yields l₁ fun ending _ =>
        ∃ e, ending = .raised e ∧ e.kind = .typeError := by
      unfold settle
      rw [clean, has]
      exact ⟨_, rfl, rfl⟩
    refine yields_bind (yields_bind settles ?_)
      (P := fun verdict _ => ∃ e, verdict = .finished (.raised e) ∧ e.kind = .typeError) ?_
    · rintro ending l₂ ⟨e, rfl, complains⟩
      exact yields_pure ⟨e, rfl, complains⟩
    · rintro verdict l₂ ⟨e, rfl, complains⟩
      refine yields_note (yields_pure ?_)
      rw [Reply.outOf, Failure.outOf_of_general _ (by rw [complains]; rfl)]
      exact .neither ⟨l₁, answers⟩ is complains

/-- Where the release of an attempt has not failed, the call goes on or ends as the retryer
answered. -/
theorem judges_released {start : Option Timestamp} {made : Nat} {reply : Reply} {attempt : Attempt}
    {decision : Decision} {error : Option Failure} {l₁ l₂ : Ledger}
    (answers : p.Answers call start made reply l attempt decision error l₁)
    (rejected : attempt.passes (.ok (decision, error)) = false)
    (releases : p.Releases s.mode call attempt l₁ (.ok ()) l₂) :
    (p.resolve call attempt (.ok (decision, error)) >>= p.finish s.mode call).Yields l₂
      (p.Judges s call start made reply l) := by
  cases decision with
  | retry => exact .again answers releases
  | abort =>
    have raised : (p.abort call attempt error).Yields l₂ _ := abort_raises attempt error
    exact .aborted answers releases raised rfl
  | ignore =>
    obtain ⟨e, failed⟩ : ∃ e, attempt.error = some e := by
      cases own : attempt.error with
      | none => simp [Attempt.passes, own] at rejected
      | some e => exact ⟨e, rfl⟩
    have settles : settle call attempt = pure (.raised e) := by
      unfold settle
      rw [failed]
    unfold resolve
    simp only [settles]
    exact .raised answers failed releases

theorem conclude_judges (hp : p.Orderly) (steady : p.layer.clock.IsSteady)
    (start : Option Timestamp) (made : Nat) (reply : Reply) :
    (p.conclude s call start made reply).Yields l (p.Judges s call start made reply l) := by
  cases plain : reply.isInterrupt with
  | true =>
    cases reply with
    | raised e =>
      unfold Yields
      rw [conclude_interrupt s start made plain]
      exact .interrupted rfl plain
    | response r => cases plain
    | nothing => cases plain
  | false =>
    obtain ⟨attempt, decision, error, l₁, answers⟩ :=
      weighed_answers call l hp steady start made plain
    have weighs : (p.weigh call start made reply).Yields _ fun w l' =>
        (w, l') = ((attempt, .ok (decision, error)), l₁) := answers.weighed
    refine yields_conclude plain weighs ?_
    rintro _ _ _ ⟨⟩
    cases passes : attempt.passes (.ok (decision, error)) with
    | true =>
      rw [follow_of_passes passes]
      cases decision with
      | ignore => exact judges_passed answers (by simpa [Attempt.passes] using passes)
      | retry => cases passes
      | abort => cases passes
    | false =>
      have releases : (p.release s.mode call attempt).Yields l₁ _ := release_releases attempt
      unfold Yields at releases ⊢
      rw [bind_apply, follow_of_rejected passes]
      generalize p.release s.mode call attempt l₁ = released at releases ⊢
      obtain ⟨result, l₂⟩ := released
      cases result with
      | error e => exact .broken answers passes releases
      | ok u => exact judges_released answers passes releases

theorem waitBlocking_ok (hp : p.Orderly) (attempt : Attempt) :
    (p.waitBlocking s call attempt).Yields l fun result _ => result = .ok () := by
  have quiet := hp.delayer
  unfold delayFailure at quiet
  unfold waitBlocking
  cases delayed : p.layer.delay with
  | none => rfl
  | some delay =>
    rw [delayed] at quiet
    refine yields_bind (P := fun _ _ => True) trivial fun _ l₁ _ => yields_get ?_
    have works : (p.delayWork s.mode delay call attempt).Yields l₁ fun result _ => result = .ok () := by
      refine yields_note (yields_get (yields_modify ?_))
      refine yields_bind (P := fun _ _ => True) trivial fun _ _ _ => ?_
      have none : (delay ((l₁.note (.delaying call.id p.index attempt)).delays p.index)).failure =
          none := quiet _
      rw [none]
      rfl
    refine yields_bind works fun result l₂ ok => ?_
    rw [ok]
    exact yields_bind (P := fun _ _ => True) trivial fun _ _ _ => rfl

theorem rounds_goes (hp : p.Orderly) (steady : p.layer.clock.IsSteady)
    (start : Option Timestamp) (next : Send) (budget made : Nat) :
    (p.rounds s call start next budget made).Yields l fun result l' =>
      p.Goes s call start next budget made l result l' := by
  induction budget generalizing made l with
  | zero => exact .spent
  | succ budget ih =>
    unfold Yields
    cases sends : next (p.announce call made l).2 with
    | mk sent l₁ =>
    cases sent with
    | none =>
      have paused : p.rounds s call start next (budget + 1) made l = (none, l₁) := by
        rw [rounds, bind_apply, bind_apply, sends]
        rfl
      rw [paused]
      exact .paused sends
    | some reply =>
      have judges : (p.conclude s call start made reply).Yields l₁ _ :=
        conclude_judges hp steady start made reply
      cases concluded : p.conclude s call start made reply l₁ with
      | mk verdict l₂ =>
      rw [Yields, concluded] at judges
      cases verdict with
      | finished ending =>
        rw [rounds_of_finished sends (congrArg Prod.fst concluded) budget, concluded]
        exact .ended sends judges
      | again attempt =>
        have waits : (p.waitBlocking s call attempt).Yields l₂ _ := waitBlocking_ok hp attempt
        rw [rounds_of_again s start budget sends concluded]
        cases waited : p.waitBlocking s call attempt l₂ with
        | mk result l₃ =>
        rw [Yields, waited] at waits
        obtain rfl : result = .ok () := waits
        exact .again sends judges waited (ih (made + 1))

end Place

/-- Only what the retryer has ignored or aborted ends a call, or else a failure to release a
response that is outside the swallowed families. Whatever a layer wraps, its loop goes on and ends
by the rules for its rounds. A call through it is that loop, and it ends step by step exactly where
it ends while the caller waits, with the same. Step by step each reply is judged by the same rules,
whatever else has happened since the send, and handed outward or followed by a wait. -/
theorem calls_end_as_answered {s : Setting} {p : Place} (hp : p.Orderly)
    (steady : p.layer.clock.IsSteady) (call : Call) :
    (∀ start next budget made l, p.Goes s call start next budget made l
      (p.rounds s call start next budget made l).1 (p.rounds s call start next budget made l).2) ∧
    (∀ inner l, ∃ start l₁, p.enter s.mode call l = (.ok start, l₁) ∧ ∀ budget,
      sendThrough s call budget (p :: inner) l =
        p.rounds s call start (sendThrough s call budget inner) budget 0 l₁) ∧
    (∀ inner l ending l', (∃ fuel, sendStepwise s call fuel (p :: inner) l = (some ending, l')) ↔
      ∃ budget, sendThrough s call budget (p :: inner) l = (some ending, l')) ∧
    ∀ start made reply l outer inner, ∃ verdict l₁, p.Judges s call start made reply l verdict l₁ ∧
      Suspended.deliver s call (⟨p, start, made⟩ :: outer) inner reply l =
        match verdict with
        | .finished ending => Suspended.deliver s call outer (p :: inner) ending l₁
        | .again attempt =>
          Suspended.wait call ⟨p, start, made⟩ outer inner attempt l₁ := by
  refine ⟨fun start next budget made l => Place.rounds_goes hp steady start next budget made,
    fun inner l => ?_, fun inner l ending l' => ⟨?_, ?_⟩,
    fun start made reply l outer inner => ?_⟩
  · obtain ⟨start, reading⟩ := steady (l.clocks p.layer.clock.key) l.now
    have entered : p.enter s.mode call l = _ := Place.enter_of_reading reading
    exact ⟨start, _, entered, fun budget => sendThrough_cons entered budget inner⟩
  · rintro ⟨fuel, ends⟩
    exact sendThrough_of_sendStepwise ends
  · rintro ⟨budget, ends⟩
    exact ⟨_, sendStepwise_eq_sendThrough ends (Nat.le_refl _)⟩
  · have judges : (p.conclude s call start made reply).Yields l _ :=
      Place.conclude_judges hp steady start made reply
    cases concluded : p.conclude s call start made reply l with
    | mk verdict l₁ =>
    rw [Yields, concluded] at judges
    refine ⟨verdict, l₁, judges, ?_⟩
    cases verdict with
    | finished ending =>
      rw [Suspended.deliver_of_finished (f := ⟨p, start, made⟩) (congrArg Prod.fst concluded) outer
        inner, concluded]
    | again attempt =>
      exact Suspended.deliver_of_again (f := ⟨p, start, made⟩) concluded outer inner

theorem calls_end_as_answered_busy :
    ∃ start l₁ l', patient.Goes ⟨.blocking, .binary⟩ busyCall start
      (some <$> busyCall.transmit .blocking) 2 0 l₁ (some (.response ⟨⟨0, 1⟩, 200⟩)) l' := by
  have orderly : patient.Orderly := by
    refine ⟨fun answers same asked => ?_, fun _ => rfl⟩
    rcases same with same | same
    case inr => cases same
    cases same
    by_cases first : asked = 0
    · exact ⟨.retry, .nothing, if_pos first⟩
    · exact ⟨.ignore, .nothing, if_neg first⟩
  obtain ⟨goes, enters, -, -⟩ := @calls_end_as_answered ⟨.blocking, .binary⟩ _ orderly
    (fun _ _ => ⟨none, rfl⟩) busyCall
  obtain ⟨start, l₁, -, runs⟩ := enters [] {}
  have ends : (sendThrough ⟨.blocking, .binary⟩ busyCall 2 [patient] {}).1 =
      some (.response ⟨⟨0, 1⟩, 200⟩) := rfl
  have course := goes start (some <$> busyCall.transmit .blocking) 2 0 l₁
  rw [runs 2] at ends
  change (patient.rounds _ busyCall start (some <$> busyCall.transmit .blocking) 2 0 l₁).1 = _
    at ends
  rw [ends] at course
  exact ⟨start, l₁, _, course⟩

def garbledCall : Call where
  id := 0
  request := { method := "GET", url := "http://example.test/" }
  feed := fun sent =>
    { act :=
        if sent = 0 then
          .respond 503
            ⟨.blocking, [.text "busy"], some (.of .valueError (some "bad frame")), none⟩ .fresh
        else .respondText 200 "ok" }

def Event.decision? : Event → Option Decision
  | .answered _ _ _ decision => some decision
  | _ => none

/-- The failure to read a response that is to be followed by a further send reaches the caller, and
there is no further send. -/
theorem garbled_response_ends_call :
    let run := sendThrough ⟨.blocking, .binary⟩ garbledCall 2 [oneRetry] {}
    (∃ e, run.1 = some (.raised e) ∧ e.kind = .valueError ∧ e.isInterrupt = false) ∧
    run.2.trace.filterMap Event.decision? = [.retry] ∧ (run.2.calls 0).sends = 1 := by
  intro run
  exact ⟨⟨_, rfl, rfl, rfl⟩, by decide +kernel, by decide +kernel⟩

end HttpRetry
