import HttpRetry.Proofs.Sound
import HttpRetry.Proofs.Round
/-!
Work on the body of one response: reading, draining and closing it. It touches this response and the
count of failures, and all that is seen of it is that the stream was closed. Given that the stream
fails, if it does, in ways that a layer swallows, so does the work.
-/
set_option autoImplicit false

namespace HttpRetry

structure Stream.Gentle (s : Stream) : Prop where
  reading : ∀ spec, s.failure = some spec → spec.kind.isSwallowed = true
  closing : ∀ spec, s.closeFailure = some spec → spec.kind.isSwallowed = true

def Mild (result : Except Failure Unit) : Prop := ∀ e, result = .error e → e.isSwallowed = true

theorem mild_ok : Mild (.ok ()) := fun _ h => by cases h

theorem Mild.tolerated {result : Except Failure Unit} (h : Mild result) :
    tolerated result = .ok () := by
  cases result with
  | ok u => rfl
  | error e => simp [HttpRetry.tolerated, h e rfl]

theorem Mild.outOf {result : Except Failure Unit} (h : Mild result) (routine : Routine) :
    Mild (result.mapError (·.outOf routine)) := by
  cases result with
  | ok u => exact mild_ok
  | error e =>
    intro e' failed
    cases failed
    exact Failure.isSwallowed_outOf routine (h e rfl)

def Response.Keeps (f : Response → Response) : Prop :=
  ∀ r, (f r).status = r.status ∧ (f r).body = r.body

def Event.isClosing : Event → Bool
  | .streamClosed .. => true
  | _ => false

namespace Ledger

theorem adjust_id (id : ResponseId) (responses : List (ResponseId × Response)) :
    adjust id (fun r => r) responses = responses := by
  induction responses with
  | nil => rfl
  | cons entry rest ih =>
    obtain ⟨i, r⟩ := entry
    unfold adjust
    split
    · rfl
    · rw [ih]

theorem adjust_adjust (id : ResponseId) (f g : Response → Response)
    (responses : List (ResponseId × Response)) :
    adjust id g (adjust id f responses) = adjust id (fun r => g (f r)) responses := by
  induction responses with
  | nil => rfl
  | cons entry rest ih =>
    obtain ⟨i, r⟩ := entry
    by_cases same : i = id
    · simp [adjust, same]
    · simp [adjust, same, ih]

/-- From one state of the ledger to a later one, one response was worked on and nothing else was done
but to make failures. -/
structure Stirred (id : ResponseId) (l l' : Ledger) : Prop where
  responses : ∃ f, Response.Keeps f ∧ l'.responses = adjust id f l.responses
  journal : ∃ closings, l'.journal = closings ++ l.journal ∧ ∀ e ∈ closings, e.isClosing = true
  causes : l'.causes = l.causes
  now : l'.now = l.now
  clocks : l'.clocks = l.clocks
  asks : l'.asks = l.asks
  delays : l'.delays = l.delays
  metrics : l'.metrics = l.metrics
  sends : ∀ call, (l'.calls call).sends = (l.calls call).sends
  built : ∀ call, (l'.calls call).built = (l.calls call).built
  failures : ∀ call, (l.calls call).failures ≤ (l'.calls call).failures

namespace Stirred

variable {id : ResponseId} {l l' l'' : Ledger}

theorem refl (id : ResponseId) (l : Ledger) : Stirred id l l where
  responses := ⟨fun r => r, fun _ => ⟨rfl, rfl⟩, (adjust_id id l.responses).symm⟩
  journal := ⟨[], rfl, fun _ h => absurd h List.not_mem_nil⟩
  causes := rfl
  now := rfl
  clocks := rfl
  asks := rfl
  delays := rfl
  metrics := rfl
  sends _ := rfl
  built _ := rfl
  failures _ := Nat.le_refl _

theorem trans (h : Stirred id l l') (h' : Stirred id l' l'') : Stirred id l l'' where
  responses := by
    obtain ⟨f, keeps, eq⟩ := h.responses
    obtain ⟨g, keeps', eq'⟩ := h'.responses
    refine ⟨fun r => g (f r), fun r => ?_, by rw [eq', eq, adjust_adjust]⟩
    exact ⟨(keeps' _).1.trans (keeps r).1, (keeps' _).2.trans (keeps r).2⟩
  journal := by
    obtain ⟨closings, eq, closing⟩ := h.journal
    obtain ⟨closings', eq', closing'⟩ := h'.journal
    refine ⟨closings' ++ closings, by rw [eq', eq, List.append_assoc], fun e mem => ?_⟩
    exact (List.mem_append.mp mem).elim (closing' e) (closing e)
  causes := h'.causes.trans h.causes
  now := h'.now.trans h.now
  clocks := h'.clocks.trans h.clocks
  asks := h'.asks.trans h.asks
  delays := h'.delays.trans h.delays
  metrics := h'.metrics.trans h.metrics
  sends call := (h'.sends call).trans (h.sends call)
  built call := (h'.built call).trans (h.built call)
  failures call := Nat.le_trans (h.failures call) (h'.failures call)

theorem adjust (id : ResponseId) {f : Response → Response} (keeps : Response.Keeps f)
    (l : Ledger) : Stirred id l (l.adjustResponse id f) :=
  { refl id l with responses := ⟨f, keeps, rfl⟩ }

theorem closing (id : ResponseId) {e : Event} (closing : e.isClosing = true) (l : Ledger) :
    Stirred id l (l.note e) := by
  refine { refl id l with journal := ⟨[e], rfl, fun e' mem => ?_⟩ }
  rw [List.mem_singleton.mp mem]
  exact closing

theorem failing (id : ResponseId) (call : Nat) (l : Ledger) :
    Stirred id l (l.adjustCall call fun c => { c with failures := c.failures + 1 }) := by
  refine { refl id l with
    sends := updateAt_keeps CallState.sends (fun _ => by rfl) l.calls call
    built := updateAt_keeps CallState.built (fun _ => by rfl) l.calls call
    failures := fun other => ?_ }
  show (l.calls other).failures ≤ (updateAt l.calls call _ other).failures
  unfold updateAt
  split
  · exact Nat.le_succ _
  · exact Nat.le_refl _

theorem response?_self (h : Stirred id l l') {r : Response} (known : l.response? id = some r) :
    ∃ r', l'.response? id = some r' ∧ r'.status = r.status ∧ r'.body = r.body := by
  obtain ⟨f, keeps, eq⟩ := h.responses
  refine ⟨f r, ?_, keeps r⟩
  have found := lookup_adjust_self id f l.responses
  rw [← eq] at found
  exact found.trans (congrArg (Option.map f) known)

theorem response?_none (h : Stirred id l l') {other : ResponseId}
    (unknown : l.response? other = none) : l'.response? other = none := by
  obtain ⟨f, -, eq⟩ := h.responses
  have found := l.response?_adjustResponse id other f
  rw [unknown, Option.map_none] at found
  exact (congrArg (List.lookup other) eq).trans found

end Stirred

def GentleAt (l : Ledger) (id : ResponseId) : Prop :=
  ∀ r s, l.response? id = some r → r.body = .stream s → s.Gentle

theorem Stirred.gentleAt {id : ResponseId} {l l' : Ledger} (h : Stirred id l l')
    (gentle : l.GentleAt id) : l'.GentleAt id := by
  intro r' s known streamed
  cases before : l.response? id with
  | none =>
    rw [h.response?_none before] at known
    cases known
  | some r =>
    obtain ⟨r'', known', -, body⟩ := h.response?_self before
    rw [known'] at known
    cases known
    exact gentle r s before (body.symm.trans streamed)

end Ledger

namespace Work

variable {α β : Type} {mode : Mode} {call : Nat} {l : Ledger} {id : ResponseId} {g : Prop}

/-- Started in `l`, the work stirs one response only, and comes to a value as `V` says. -/
def Stirs (id : ResponseId) (V : α → Prop) (w : Work α) (l : Ledger) : Prop :=
  w.Yields l fun a l' => V a ∧ l.Stirred id l'

theorem stirs_pure {V : α → Prop} {a : α} (value : V a) : Stirs id V (pure a) l :=
  ⟨value, .refl id l⟩

theorem stirs_bind {U : α → Prop} {V : β → Prop} {w : Work α} {f : α → Work β}
    (hw : w.Stirs id U l) (hf : ∀ a l', l.Stirred id l' → U a → (f a).Stirs id V l') :
    (w >>= f).Stirs id V l := by
  obtain ⟨value, stirred⟩ := hw
  obtain ⟨value', stirred'⟩ := hf _ _ stirred value
  exact ⟨value', stirred.trans stirred'⟩

theorem stirs_get {V : α → Prop} {f : Ledger → Work α} (h : (f l).Stirs id V l) :
    ((get : Work Ledger) >>= f).Stirs id V l := h

theorem adjustResponse_stirs {f : Response → Response} (keeps : Response.Keeps f) :
    (adjustResponse id f).Stirs id (fun _ => True) l := ⟨trivial, .adjust id keeps l⟩

theorem note_stirs {e : Event} (closing : e.isClosing = true) :
    (note e).Stirs id (fun _ => True) l := ⟨trivial, .closing id closing l⟩

theorem failWith_stirs {routine : Routine} {spec : FailureSpec}
    (swallowed : g → spec.kind.isSwallowed = true) :
    (failWith routine call spec).Stirs id (fun result => g → Mild result) l := by
  refine ⟨fun h e failed => ?_, .failing id call l⟩
  cases failed
  refine Failure.isSwallowed_outOf routine ?_
  simpa [Failure.isSwallowed] using swallowed h

theorem close_stirs (gentle : g → l.GentleAt id) :
    (close mode call id).Stirs id (fun result => g → Mild result) l := by
  refine stirs_get ?_
  split
  · exact stirs_pure fun _ => mild_ok
  · rename_i r known
    split
    · exact stirs_pure fun _ => mild_ok
    · rename_i s streamed
      split
      · exact failWith_stirs fun _ => rfl
      · split
        · exact stirs_pure fun _ => mild_ok
        · refine stirs_bind (adjustResponse_stirs fun _ => ⟨rfl, rfl⟩) fun _ _ _ _ => ?_
          refine stirs_bind (note_stirs rfl) fun _ _ _ _ => ?_
          split
          · exact stirs_pure fun _ => mild_ok
          · rename_i spec fails
            exact failWith_stirs fun h => (gentle h r s known streamed).closing spec fails

theorem iterate_stirs (gentle : g → l.GentleAt id) (limit : Option Nat)
    {atLimit : Option FailureSpec}
    (mild : g → ∀ spec, atLimit = some spec → spec.kind.isSwallowed = true) :
    (iterate mode call limit atLimit id).Stirs id (fun result => g → Mild result) l := by
  refine stirs_get ?_
  split
  · exact stirs_pure fun _ => mild_ok
  · rename_i r known
    split
    · exact failWith_stirs fun _ => rfl
    · split
      · exact failWith_stirs fun _ => rfl
      · split
        · exact stirs_pure fun _ => mild_ok
        · rename_i s streamed
          split
          · exact failWith_stirs fun _ => rfl
          · refine stirs_bind (adjustResponse_stirs fun _ => ⟨rfl, rfl⟩) fun _ l₁ drawn _ => ?_
            split
            · rename_i spec fails
              refine failWith_stirs fun h => ?_
              split at fails
              · exact mild h spec fails
              · exact (gentle h r s known streamed).reading spec fails
            · split
              · exact stirs_pure fun _ => mild_ok
              · exact stirs_bind (close_stirs fun h => drawn.gentleAt (gentle h))
                  fun _ _ _ mild => stirs_pure fun h => (mild h).outOf _

theorem read_stirs (gentle : g → l.GentleAt id) :
    (read mode call id).Stirs id (fun result => g → Mild result) l := by
  refine stirs_get ?_
  split
  · exact stirs_pure fun _ => mild_ok
  · split
    · exact stirs_pure fun _ => mild_ok
    · refine stirs_bind (iterate_stirs gentle none fun _ _ h => by cases h)
        fun result _ _ mild => ?_
      split
      · exact stirs_bind (adjustResponse_stirs fun _ => ⟨rfl, rfl⟩) fun _ _ _ _ =>
          stirs_pure fun _ => mild_ok
      · exact stirs_pure mild

theorem prepare_stirs (gentle : g → l.GentleAt id) (how : Preparation) :
    (prepare mode call id how).Stirs id (fun result => g → Mild result) l := by
  cases how with
  | fresh => exact stirs_pure fun _ => mild_ok
  | read => exact read_stirs gentle
  | begun => exact iterate_stirs gentle (some 1) fun _ _ h => by cases h
  | closed => exact close_stirs gentle

end Work

namespace Place

open Work

variable {p : Place} {mode : Mode} {call : Call} {l : Ledger} {r : ResponseRef} {g : Prop}

theorem drain_stirs (limited : g → p.layer.limitFailure? = none) (gentle : g → l.GentleAt r.id) :
    (p.drain mode call r).Stirs r.id (fun result => g → Mild result) l := by
  refine stirs_get ?_
  split
  · exact stirs_pure fun _ => mild_ok
  · split
    · exact stirs_pure fun _ => mild_ok
    · refine iterate_stirs gentle _ fun h spec fails => ?_
      rw [limited h] at fails
      cases fails

theorem discard_stirs (limited : g → p.layer.limitFailure? = none) (gentle : g → l.GentleAt r.id) :
    (p.discard mode call r).Stirs r.id (fun result => g → Mild result) l := by
  refine stirs_bind (drain_stirs limited gentle) fun drained l₁ stirred mild => ?_
  refine stirs_bind (close_stirs fun h => stirred.gentleAt (gentle h)) fun closed _ _ mild' => ?_
  cases closed with
  | error e => exact stirs_pure mild'
  | ok u => exact stirs_pure mild

end Place

end HttpRetry
