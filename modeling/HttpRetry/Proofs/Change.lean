import Mathlib.Logic.Relation
import HttpRetry.Interleaving
import HttpRetry.Proofs.Yields
/-!
What a call can do to the ledger, said once: each piece of a call's work is a chain of changes of a
few kinds. What no change of a call touches, no call touches; what every change keeps, every run
keeps.
-/
set_option autoImplicit false

namespace HttpRetry

/-- The responses that the outcomes of a call's sends can build. -/
def Call.Builds (call : Call) (r : Response) : Prop :=
  ∃ n, (∃ status text, (call.feed n).act = .respondText status text ∧ r = .ofText status text) ∨
    ∃ status stream preparation, (call.feed n).act = .respond status stream preparation ∧
      r = .ofStream status stream

def Event.isCounted : Event → Bool
  | .streamClosed .. | .answered .. | .delayed .. => true
  | .logged _ _ ⟨_, _, .drainError ..⟩ => true
  | _ => false

/-- Events that mark where in a run a layer or the innermost transport takes over. -/
def Event.isMark : Event → Bool
  | .entered .. | .sent .. | .received .. | .delaying .. | .left .. => true
  | _ => false

def Event.isStep : Event → Bool
  | .asked .. | .releasing .. => true
  | _ => false

def Event.isPlain (e : Event) : Bool := !e.isCounted && !e.isMark && !e.isStep

/-- How much of a run some work may be: parts of the steps of rounds only, or such steps, and then
also what connects rounds and layers. -/
inductive Scope where
  | calm
  | round (marks : Bool)

/-- One change that a call makes, to responses among those it can reach. -/
inductive Change (call : Call) (reach : ResponseId → Prop) : Scope → Ledger → Ledger → Prop
  | note {scope : Scope} {l : Ledger} {e : Event} (own : e.call = call.id)
    (plain : e.isPlain = true) : Change call reach scope l (l.note e)
  | step {marks : Bool} {l : Ledger} {e : Event} (own : e.call = call.id)
    (isStep : e.isStep = true) : Change call reach (.round marks) l (l.note e)
  | mark {l : Ledger} {e : Event} (own : e.call = call.id) (isMark : e.isMark = true) :
    Change call reach (.round true) l (l.note e)
  | answer {marks : Bool} {l : Ledger} (p : Place) (attempt : Attempt) (decision : Decision)
    (own : attempt.request = call.request) :
    Change call reach (.round marks) l (p.measured (·.countAttempt call.request.method decision)
      (l.note (.answered call.id p.index attempt decision)))
  | drainFailure {scope : Scope} {l : Ledger} (p : Place) (count : Nat) (e : Failure) :
    Change call reach scope l (p.measured Metrics.countDrainError
      (l.note (.logged call.id p.index ⟨p.layer.sink, some call.request, .drainError count e⟩)))
  | delayed {marks : Bool} {l : Ledger} (p : Place) (timer : Timer) (attempt : Attempt)
    (began ended : Rat) :
    Change call reach (.round marks) l (p.measured (·.observeDelay (timer.between began ended))
      (l.note (.delayed call.id p.index attempt began ended)))
  | advance {scope : Scope} {l : Ledger} (seconds : Rat) :
    Change call reach scope l { l with now := l.now + seconds }
  | useClock {scope : Scope} {l : Ledger} (key : Nat) (f : ClockUse → ClockUse) :
    Change call reach scope l (l.adjustClock key f)
  | ask {marks : Bool} {l : Ledger} (layer : Nat) :
    Change call reach (.round marks) l { l with asks := updateAt l.asks layer (· + 1) }
  | delay {marks : Bool} {l : Ledger} (layer : Nat) :
    Change call reach (.round marks) l { l with delays := updateAt l.delays layer (· + 1) }
  | send {marks : Bool} {l : Ledger} :
    Change call reach (.round marks) l
      (l.adjustCall call.id fun c => { c with sends := c.sends + 1 })
  | fail {scope : Scope} {l : Ledger} :
    Change call reach scope l (l.adjustCall call.id fun c => { c with failures := c.failures + 1 })
  | cause {scope : Scope} {l : Ledger} (id : FailureId) (e : Failure) :
    Change call reach scope l { l with causes := (id, e) :: l.causes }
  | build {scope : Scope} {l : Ledger} {r : Response} (built : call.Builds r) :
    Change call reach scope l (l.build call.id r)
  | consume {scope : Scope} {l : Ledger} {id : ResponseId} (within : reach id)
    (taken : List Chunk) : Change call reach scope l (l.adjustResponse id (.drawn taken))
  | load {scope : Scope} {l : Ledger} {id : ResponseId} (within : reach id) :
    Change call reach scope l (l.adjustResponse id .kept)
  | close {scope : Scope} {l : Ledger} {id : ResponseId} {r : Response} {s : Stream}
    (within : reach id) (known : l.response? id = some r) (streamed : r.body = .stream s)
    (opened : r.closed = false) :
    Change call reach scope l
      ((l.adjustResponse id .shut).note (.streamClosed call.id id r.reads r.bytes))

abbrev Changes (call : Call) (reach : ResponseId → Prop) (scope : Scope) : Ledger → Ledger → Prop :=
  Relation.ReflTransGen (Change call reach scope)

variable {call : Call} {reach : ResponseId → Prop} {scope : Scope} {l : Ledger}

abbrev Work.Makes {α : Type} (w : Work α) (call : Call) (reach : ResponseId → Prop) (scope : Scope)
    (l : Ledger) : Prop :=
  w.Yields l fun _ l' => Changes call reach scope l l'

namespace Work

variable {α β : Type}

theorem makes_pure (b : β) : Makes (pure b) call reach scope l := .refl

theorem makes_bind {w : Work α} {f : α → Work β} (hw : w.Makes call reach scope l)
    (hf : ∀ a l', (f a).Makes call reach scope l') : (w >>= f).Makes call reach scope l :=
  yields_bind hw fun a l' h => (hf a l').mono fun _ _ h' => h.trans h'

theorem makes_map {w : Work α} {f : α → β} (hw : w.Makes call reach scope l) :
    (f <$> w).Makes call reach scope l := hw

theorem makes_modify {f : Ledger → Ledger} (h : Change call reach scope l (f l)) :
    Makes (modify f) call reach scope l := .single h

theorem note_makes {e : Event} (own : e.call = call.id) (plain : e.isPlain = true) :
    (note e).Makes call reach scope l := .single (.note own plain)

theorem step_makes {marks : Bool} {e : Event} (own : e.call = call.id) (isStep : e.isStep = true) :
    (note e).Makes call reach (.round marks) l := .single (.step own isStep)

theorem mark_makes {e : Event} (own : e.call = call.id) (isMark : e.isMark = true) :
    (note e).Makes call reach (.round true) l := .single (.mark own isMark)

theorem fail_makes (spec : FailureSpec) :
    (fail call.id spec).Makes call reach scope l := .single .fail

theorem freshFailure_makes : (freshFailure call.id).Makes call reach scope l := .single .fail

theorem advance_makes (seconds : Rat) : (advance seconds).Makes call reach scope l :=
  .single (.advance seconds)

theorem setCause_makes (id : FailureId) (e : Failure) : (setCause id e).Makes call reach scope l :=
  .single (.cause id e)

theorem nextSend_makes {marks : Bool} : (nextSend call.id).Makes call reach (.round marks) l :=
  .single .send

theorem failWith_makes (routine : Routine) (spec : FailureSpec) :
    (failWith routine call.id spec).Makes call reach scope l :=
  makes_bind (fail_makes spec) fun _ _ => makes_pure _

theorem close_makes {id : ResponseId} (within : reach id) (mode : Mode) :
    (close mode call.id id).Makes call reach scope l := by
  refine yields_get ?_
  split
  · exact makes_pure _
  · rename_i r known
    split
    · exact makes_pure _
    · rename_i s streamed
      split
      · exact failWith_makes _ _
      · split
        · exact makes_pure _
        · rename_i opened
          have shut : Change call reach scope l _ :=
            .close within known streamed (by simpa using opened)
          refine Yields.mono (P := fun _ l' => Changes call reach scope _ l') ?_ fun _ _ h =>
            h.head shut
          split
          · exact makes_pure _
          · exact failWith_makes _ _

theorem iterate_makes {id : ResponseId} (within : reach id) (mode : Mode) (limit : Option Nat)
    (atLimit : Option FailureSpec) :
    (iterate mode call.id limit atLimit id).Makes call reach scope l := by
  refine yields_get ?_
  split
  · exact makes_pure _
  · split
    · exact failWith_makes _ _
    · split
      · exact failWith_makes _ _
      · split
        · exact makes_pure _
        · split
          · exact failWith_makes _ _
          · refine makes_bind (makes_modify (.consume within _)) fun _ _ => ?_
            split
            · exact failWith_makes _ _
            · split
              · exact makes_pure _
              · exact makes_bind (close_makes within mode) fun _ _ => makes_pure _

theorem read_makes {id : ResponseId} (within : reach id) (mode : Mode) :
    (read mode call.id id).Makes call reach scope l := by
  refine yields_get ?_
  split
  · exact makes_pure _
  · split
    · exact makes_pure _
    · refine makes_bind (iterate_makes within mode none none) fun result _ => ?_
      split
      · exact makes_bind (makes_modify (.load within)) fun _ _ => makes_pure _
      · exact makes_pure _

theorem prepare_makes {id : ResponseId} (within : reach id) (mode : Mode) (how : Preparation) :
    (prepare mode call.id id how).Makes call reach scope l := by
  cases how with
  | fresh => exact makes_pure _
  | read => exact read_makes within mode
  | begun => exact iterate_makes within mode (some 1) none
  | closed => exact close_makes within mode

end Work

def Reply.Within (reach : ResponseId → Prop) (reply : Reply) : Prop :=
  ∀ r, reply.response? = some r → reach r.id

theorem Reply.within_raised (e : Failure) : (Reply.raised e).Within reach := by
  intro r h
  simp [Reply.response?] at h

theorem Reply.within_nothing : Reply.nothing.Within reach := by
  intro r h
  simp [Reply.response?] at h

theorem Reply.Within.outOf {reply : Reply} (h : reply.Within reach) (routine : Routine) :
    (reply.outOf routine).Within reach := by
  intro r hr
  rw [Reply.response?_outOf] at hr
  exact h r hr

theorem Reply.within_response {r : ResponseRef} (h : reach r.id) :
    (Reply.response r).Within reach := by
  intro r' h'
  simp only [Reply.response?, Option.some.injEq] at h'
  exact h' ▸ h

/-- A call reaches the responses built for it, and all others if its sends may return any. -/
structure Call.Confined (call : Call) (reach : ResponseId → Prop) : Prop where
  own : ∀ serial, reach ⟨call.id, serial⟩
  again : ∀ n index, (call.feed n).act = .again index → ∀ id, reach id

theorem Call.confined_all (call : Call) : call.Confined fun _ => True :=
  ⟨fun _ => trivial, fun _ _ _ _ => trivial⟩

abbrev Work.Brings {α : Type} (w : Work α) (call : Call) (reach : ResponseId → Prop) (scope : Scope)
    (l : Ledger) (V : α → Prop) : Prop :=
  w.Yields l fun a l' => Changes call reach scope l l' ∧ V a

namespace Work

variable {α β : Type} {V : β → Prop}

theorem brings_pure {b : β} (h : V b) : Brings (pure b) call reach scope l V := ⟨.refl, h⟩

theorem brings_bind {w : Work α} {f : α → Work β} {U : α → Prop}
    (hw : w.Brings call reach scope l U) (hf : ∀ a l', U a → (f a).Brings call reach scope l' V) :
    (w >>= f).Brings call reach scope l V :=
  yields_bind hw fun a l' h => (hf a l' h.2).mono fun _ _ h' => ⟨h.1.trans h'.1, h'.2⟩

theorem Makes.then {w : Work α} {f : α → Work β} (hw : w.Makes call reach scope l)
    (hf : ∀ a l', (f a).Brings call reach scope l' V) : (w >>= f).Brings call reach scope l V :=
  yields_bind hw fun a l' h => (hf a l').mono fun _ _ h' => ⟨h.trans h'.1, h'.2⟩

theorem fail_raised (spec : FailureSpec) :
    Brings (do return Reply.raised (← fail call.id spec)) call reach scope l (·.Within reach) :=
  ⟨fail_makes spec, Reply.within_raised _⟩

theorem perform_brings (hc : call.Confined reach) (mode : Mode) (n : Nat) :
    (perform mode call.id (call.feed n).act).Brings call reach scope l (·.Within reach) := by
  cases h : (call.feed n).act with
  | raise spec => exact fail_raised spec
  | nothing => exact ⟨.refl, Reply.within_nothing⟩
  | again index =>
    refine yields_get ?_
    split
    · exact ⟨.refl, Reply.within_response (hc.again n index h _)⟩
    · exact fail_raised _
  | repeated serial =>
    refine yields_get ?_
    split
    · exact ⟨.refl, Reply.within_response (hc.own serial)⟩
    · exact fail_raised _
  | respondText status text =>
    exact ⟨.single (.build ⟨n, .inl ⟨status, text, h, rfl⟩⟩), Reply.within_response (hc.own _)⟩
  | respond status stream how =>
    have built : Change call reach scope l (l.build call.id (.ofStream status stream)) :=
      .build ⟨n, .inr ⟨status, stream, how, h, rfl⟩⟩
    have added : (addResponse call.id (.ofStream status stream)).Brings call reach scope l
      (reach ·) :=
      ⟨.single built, hc.own _⟩
    refine brings_bind added fun id l' within => ?_
    refine Makes.then (prepare_makes within mode how) fun result _ => ?_
    split
    · exact brings_pure (Reply.within_response within)
    · exact brings_pure (Reply.within_raised _)

end Work

theorem Call.transmit_brings (hc : call.Confined reach) (mode : Mode) :
    (call.transmit mode).Brings call reach (.round true) l (·.Within reach) := by
  refine Work.Makes.then (Work.mark_makes rfl rfl) fun _ _ => ?_
  refine Work.Makes.then Work.nextSend_makes fun n _ => ?_
  refine Work.Makes.then (Work.advance_makes _) fun _ _ => ?_
  exact Work.brings_bind (Work.perform_brings hc mode n) fun _ _ h => Work.brings_pure (h.outOf _)

end HttpRetry
