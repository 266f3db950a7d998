import HttpRetry.Proofs.Sound
import HttpRetry.Proofs.Round
import HttpRetry.Proofs.Stepwise.Converse
set_option autoImplicit false

namespace HttpRetry

open Work

def Event.isSend : Event → Bool
  | .sent .. => true
  | _ => false

namespace Ledger

/-- From one state of the ledger to a later one no response is built, read or closed, and nothing
is sent. -/
structure Quiet (l l' : Ledger) : Prop where
  responses : l'.responses = l.responses
  journal : ∃ later, l'.journal = later ++ l.journal ∧ ∀ e ∈ later, e.isSend = false

namespace Quiet

variable {l l' l'' : Ledger}

theorem refl (l : Ledger) : l.Quiet l := ⟨rfl, [], rfl, fun _ h => absurd h List.not_mem_nil⟩

theorem trans (h : l.Quiet l') (h' : l'.Quiet l'') : l.Quiet l'' := by
  obtain ⟨later, eq, none⟩ := h.journal
  obtain ⟨later', eq', none'⟩ := h'.journal
  refine ⟨h'.responses.trans h.responses, later' ++ later, ?_, fun e mem => ?_⟩
  · rw [eq', eq, List.append_assoc]
  · rcases List.mem_append.mp mem with mem | mem
    · exact none' e mem
    · exact none e mem

theorem of_eq (responses : l'.responses = l.responses) (journal : l'.journal = l.journal) :
    l.Quiet l' :=
  ⟨responses, [], journal, fun _ h => absurd h List.not_mem_nil⟩

theorem note (l : Ledger) {e : Event} (h : e.isSend = false) : l.Quiet (l.note e) := by
  refine ⟨rfl, [e], rfl, fun e' mem => ?_⟩
  rw [List.mem_singleton.mp mem]
  exact h

theorem measured (p : Place) (f : Metrics → Metrics) (l : Ledger) : l.Quiet (p.measured f l) := by
  unfold Place.measured
  split
  · exact of_eq rfl rfl
  · exact refl l

theorem response? (h : l.Quiet l') (id : ResponseId) : l'.response? id = l.response? id :=
  congrArg (List.lookup id) h.responses

end Quiet

end Ledger

def Call.mute (call : Call) : Call := { call with feed := fun _ => { act := .nothing } }

theorem Call.mute_builds (call : Call) (r : Response) : ¬ call.mute.Builds r := by
  rintro ⟨n, ⟨status, text, h, -⟩ | ⟨status, stream, how, h, -⟩⟩
  · cases h
  · cases h

theorem Event.isSend_of_not_isMark {e : Event} (h : e.isMark = false) : e.isSend = false := by
  cases e with
  | sent call request => cases h
  | _ => rfl

theorem Changes.quiet {call : Call} {l l' : Ledger}
    (h : Changes call.mute (fun _ => False) (.round false) l l') : l.Quiet l' := by
  induction h with
  | refl => exact .refl l
  | tail _ change ih =>
    refine ih.trans ?_
    cases change with
    | note own plain =>
      refine .note _ (Event.isSend_of_not_isMark ?_)
      simp only [Event.isPlain, Bool.and_eq_true, Bool.not_eq_true'] at plain
      exact plain.1.2
    | @step _ _ e own isStep =>
      refine .note _ ?_
      cases e with
      | sent call request => cases isStep
      | _ => rfl
    | answer p attempt decision own => exact (Ledger.Quiet.note _ rfl).trans (.measured p _ _)
    | drainFailure p count e => exact (Ledger.Quiet.note _ rfl).trans (.measured p _ _)
    | delayed p timer attempt began ended => exact (Ledger.Quiet.note _ rfl).trans (.measured p _ _)
    | build built => exact absurd built (call.mute_builds _)
    | consume within taken => exact within.elim
    | load within => exact within.elim
    | close within known streamed opened => exact within.elim
    | _ => exact .of_eq rfl rfl

namespace Place

variable {p : Place} {s : Setting} {call : Call} {start : Option Timestamp} {made : Nat}
  {reply : Reply} {l l' : Ledger} {r : ResponseRef}

/-- An attempt without an error was made of a send that raised none, by a layer that forces none. -/
theorem attemptOf_error (h : (p.attemptOf call start made (.response r) l).1.error = none) :
    p.layer.forced = none := by
  cases forced : p.layer.forced with
  | none => rfl
  | some spec =>
    have error : (p.attemptOf call start made (.response r) l).1.error =
        (p.errorOf call (.response r) l).1 := rfl
    rw [error] at h
    unfold errorOf at h
    rw [forced] at h
    cases h

/-- What a layer weighs is an attempt with the response that it was handed, and weighing is quiet. -/
theorem weigh_quiet :
    (p.weigh call start made reply).Yields l fun weighed l' =>
      weighed.1.response = reply.response? ∧ l.Quiet l' := by
  have brought : (p.weigh call.mute start made reply).Brings call.mute (fun _ => False)
      (.round false) l (fun w => Fits call.mute start made reply w.1) :=
    weigh_brings start made reply
  exact ⟨brought.2.response, brought.1.quiet⟩

theorem settle_response {attempt : Attempt} (h : (settle call attempt l).1 = .response r) :
    attempt.response = some r ∧ attempt.error = none ∧ (settle call attempt l).2 = l := by
  unfold settle at h ⊢
  cases error : attempt.error with
  | some e =>
    rw [error] at h
    cases h
  | none =>
    cases response : attempt.response with
    | none =>
      rw [error, response] at h
      cases h
    | some r' =>
      rw [error, response] at h
      cases h
      exact ⟨rfl, rfl, rfl⟩

theorem resolve_response {attempt : Attempt} {answer : Except Failure (Decision × Option Failure)}
    (ends : (p.resolve call attempt answer l).1 = .finished (.response r)) :
    attempt.response = some r ∧ attempt.error = none ∧ attempt.passes answer = true ∧
      (p.resolve call attempt answer l).2 = l := by
  rcases answer with e | ⟨_ | _ | _, error⟩
  · cases ends
  · have settled : (settle call attempt l).1 = .response r := by injection ends
    obtain ⟨response, error, same⟩ := settle_response settled
    exact ⟨response, error, by simp [Attempt.passes, error], same⟩
  · cases ends
  · cases ends

theorem follow_response {mode : Mode} {attempt : Attempt}
    {answer : Except Failure (Decision × Option Failure)}
    (ends : (p.follow mode call attempt answer l).1 = .finished (.response r)) :
    attempt.response = some r ∧ attempt.error = none ∧
      p.follow mode call attempt answer l = (.finished (.response r), l) := by
  cases passes : attempt.passes answer with
  | true =>
    rw [follow_of_passes passes] at ends ⊢
    obtain ⟨response, error, -, same⟩ := resolve_response ends
    exact ⟨response, error, Prod.ext ends same⟩
  | false =>
    rw [follow_of_rejected passes] at ends
    cases released : (p.release mode call attempt l).1 with
    | error e =>
      rw [released] at ends
      cases ends
    | ok u =>
      rw [released] at ends
      obtain ⟨-, -, passed, -⟩ := resolve_response ends
      rw [passes] at passed
      cases passed

/-- A layer that ends with a response was handed that response, forces no error, and touched
nothing. -/
theorem conclude_response
    (ends : (p.conclude s call start made reply l).1 = .finished (.response r)) :
    reply = .response r ∧ p.layer.forced = none ∧
      l.Quiet (p.conclude s call start made reply l).2 := by
  cases interrupt : reply.isInterrupt with
  | true =>
    cases reply with
    | raised e =>
      rw [conclude_interrupt s start made interrupt] at ends
      cases ends
    | response r' => cases interrupt
    | nothing => cases interrupt
  | false =>
    have weighs : (p.weigh call start made reply).Yields
        (l.note (.received call.id p.index reply)) fun weighed l' =>
          weighed.1.response = reply.response? ∧ (l.note _).Quiet l' := weigh_quiet
    obtain ⟨response, quiet⟩ := weighs
    rw [conclude_apply s start made interrupt] at ends ⊢
    have followed : (p.follow s.mode call (p.weighed call start made reply l).1.1
        (p.weighed call start made reply l).1.2 (p.weighed call start made reply l).2).1 =
        .finished (.response r) := by
      rw [bind_apply] at ends
      cases verdict : (p.follow s.mode call (p.weighed call start made reply l).1.1
        (p.weighed call start made reply l).1.2 (p.weighed call start made reply l).2).1 with
      | finished reply' =>
        rw [verdict] at ends
        exact congrArg Verdict.finished (Reply.outOf_eq_response.mp (by injection ends))
      | again attempt =>
        rw [verdict] at ends
        cases ends
    obtain ⟨attempted, error, follows⟩ := follow_response followed
    have handed : reply = .response r := by
      have same : reply.response? = some r := response.symm.trans attempted
      cases reply with
      | response r' => simpa [Reply.response?] using same
      | raised e => cases same
      | nothing => cases same
    subst handed
    refine ⟨rfl, attemptOf_error error, ?_⟩
    rw [bind_apply, follows]
    exact ((Ledger.Quiet.note l rfl).trans quiet).trans (.note _ rfl)

end Place

theorem Place.rounds_response {p : Place} {s : Setting} {call : Call} {start : Option Timestamp}
    {next : Send} {budget made : Nat} {r : ResponseRef} {l l' : Ledger}
    (sends : ∀ l, next.Makes call (fun _ => True) (.round true) l)
    (h : p.rounds s call start next budget made l = (some (.response r), l')) :
    p.layer.forced = none ∧ ∃ l₀ l₁, Changes call (fun _ => True) (.round true) l l₀ ∧
      next l₀ = (some (.response r), l₁) ∧ l₁.Quiet l' := by
  induction budget generalizing made l with
  | zero => cases h
  | succ budget ih =>
    have announced : (p.announce call made).Makes call (fun _ => True) (.round true) l :=
      announce_makes made
    cases handed : next (p.announce call made l).2 with
    | mk reply l₁ =>
    have sent := (sends _).at handed
    cases reply with
    | none =>
      rw [rounds, bind_apply, bind_apply, handed] at h
      cases h
    | some reply =>
      cases concluded : p.conclude s call start made reply l₁ with
      | mk verdict l₂ =>
      cases verdict with
      | finished ending =>
        have ends := congrArg Prod.fst concluded
        rw [rounds_of_finished handed ends budget, concluded] at h
        cases h
        obtain ⟨rfl, unforced, quiet⟩ := conclude_response ends
        rw [concluded] at quiet
        exact ⟨unforced, _, l₁, announced, handed, quiet⟩
      | again attempt =>
        have judged : Changes call (fun _ => True) (.round true) l₁ l₂ :=
          ((conclude_brings (fun _ _ => trivial) s start made).at concluded).1
        rw [rounds_of_again s start budget handed concluded] at h
        cases waits : p.waitBlocking s call attempt l₂ with
        | mk result l₃ =>
        have waited : Changes call (fun _ => True) (.round true) l₂ l₃ :=
          (waitBlocking_makes s attempt).at waits
        rw [waits] at h
        cases result with
        | error e => cases h
        | ok u =>
          obtain ⟨unforced, l₄, l₅, before, last, quiet⟩ := ih h
          have reached := announced.trans (sent.trans (judged.trans waited))
          exact ⟨unforced, l₄, l₅, reached.trans before, last, quiet⟩

/-- A response that a call comes to is that of its last send, in a stack that forces no error. -/
theorem sendThrough_response {s : Setting} {call : Call} {budget : Nat} {places : List Place}
    {r : ResponseRef} {l l' : Ledger}
    (h : sendThrough s call budget places l = (some (.response r), l')) :
    (∀ p ∈ places, p.layer.forced = none) ∧
      ∃ l₀ l₁, Changes call (fun _ => True) (.round true) l l₀ ∧
        call.transmit s.mode l₀ = (.response r, l₁) ∧ l₁.Quiet l' := by
  induction places generalizing l l' with
  | nil =>
    rw [sendThrough, map_apply, Prod.mk.injEq, Option.some.injEq] at h
    have sent : call.transmit s.mode l = (.response r, l') := Prod.ext h.1 h.2
    exact ⟨fun p mem => absurd mem List.not_mem_nil, l, l', .refl, sent, .refl l'⟩
  | cons p inner ih =>
    cases entered : p.enter s.mode call l with
    | mk result l₁ =>
    have enters : Changes call (fun _ => True) (.round true) l l₁ :=
      (Place.enter_makes s.mode).at entered
    rw [sendThrough, bind_apply, entered] at h
    cases result with
    | error e => cases h
    | ok start =>
      obtain ⟨unforced, l₂, l₃, before, last, quiet⟩ := Place.rounds_response
        (fun l => (sendThrough_brings call.confined_all s budget inner).mono fun _ _ h => h.1) h
      obtain ⟨below, l₄, l₅, before', last', quiet'⟩ := ih last
      refine ⟨fun q mem => ?_, l₄, l₅, enters.trans (before.trans before'), last',
        quiet'.trans quiet⟩
      rcases List.mem_cons.mp mem with rfl | mem
      · exact unforced
      · exact below q mem

end HttpRetry
