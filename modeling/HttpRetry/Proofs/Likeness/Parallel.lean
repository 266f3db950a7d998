import HttpRetry.Proofs.Likeness
set_option autoImplicit false

namespace HttpRetry

/-- A relation of ledgers that may depend on which failures are which. -/
abbrev Tie := Naming → Ledger → Ledger → Prop

namespace Work

variable {α β γ δ : Type} {R : Tie}

/-- Started in two ledgers, two pieces of work come to values as `V` says and to ledgers that are
tied, where more failures may be known to be which. -/
def Likens (R : Tie) (V : Naming → α → β → Prop) (w : Work α) (w' : Work β) (ids : Naming)
    (l l' : Ledger) : Prop :=
  ∃ ids', Subrelation ids ids' ∧ V ids' (w l).1 (w' l').1 ∧ R ids' (w l).2 (w' l').2

variable {ids : Naming} {l l' : Ledger} {V : Naming → α → β → Prop} {W : Naming → γ → δ → Prop}

theorem likens_pure {a : α} {b : β} (value : V ids a b) (tied : R ids l l') :
    Likens R V (pure a) (pure b) ids l l' := ⟨ids, fun h => h, value, tied⟩

theorem likens_bind {w : Work α} {w' : Work β} {f : α → Work γ} {f' : β → Work δ}
    (hw : Likens R V w w' ids l l')
    (hf : ∀ ids' a b l₁ l₁', Subrelation ids ids' → V ids' a b → R ids' l₁ l₁' →
      Likens R W (f a) (f' b) ids' l₁ l₁') : Likens R W (w >>= f) (w' >>= f') ids l l' := by
  obtain ⟨ids₁, le₁, value, tied⟩ := hw
  obtain ⟨ids₂, le₂, value', tied'⟩ := hf ids₁ _ _ _ _ le₁ value tied
  exact ⟨ids₂, fun h => le₂ (le₁ h), value', tied'⟩

theorem likens_map {w : Work α} {w' : Work β} {f : α → γ} {f' : β → δ}
    (hw : Likens R V w w' ids l l') (hf : ∀ ids' a b, V ids' a b → W ids' (f a) (f' b)) :
    Likens R W (f <$> w) (f' <$> w') ids l l' := by
  obtain ⟨ids₁, le, value, tied⟩ := hw
  exact ⟨ids₁, le, hf _ _ _ value, tied⟩

theorem likens_get {f f' : Ledger → Work γ} {W : Naming → γ → γ → Prop}
    (h : Likens R W (f l) (f' l') ids l l') :
    Likens R W ((get : Work Ledger) >>= f) ((get : Work Ledger) >>= f') ids l l' := h

theorem likens_noted {e e' : Event} {f : Unit → Work γ} {f' : Unit → Work δ}
    (h : Likens R W (f ()) (f' ()) ids (l.note e) (l'.note e')) :
    Likens R W (note e >>= f) (note e' >>= f') ids l l' := h

def Any : Naming → Unit → Unit → Prop := fun _ _ _ => True

theorem likens_modify {g g' : Ledger → Ledger} (tied : R ids (g l) (g' l')) :
    Likens R Any (modify g) (modify g') ids l l' := ⟨ids, fun h => h, trivial, tied⟩

theorem Likens.weaken {R' : Tie} {w : Work α} {w' : Work β} (h : Likens R V w w' ids l l')
    (weaker : ∀ {ids l l'}, R ids l l' → R' ids l l') : Likens R' V w w' ids l l' := by
  obtain ⟨ids', le, value, tied⟩ := h
  exact ⟨ids', le, value, weaker tied⟩

theorem Likens.mono {V' : Naming → α → β → Prop} {w : Work α} {w' : Work β}
    (h : Likens R V w w' ids l l') (weaker : ∀ ids a b, V ids a b → V' ids a b) :
    Likens R V' w w' ids l l' := by
  obtain ⟨ids', le, value, tied⟩ := h
  exact ⟨ids', le, weaker ids' _ _ value, tied⟩

theorem Likens.at {w : Work α} {w' : Work β} (h : Likens R V w w' ids l l') {a : α} {l₁ : Ledger}
    (ends : w l = (a, l₁)) :
    ∃ ids' b l₁', w' l' = (b, l₁') ∧ Subrelation ids ids' ∧ V ids' a b ∧ R ids' l₁ l₁' := by
  obtain ⟨ids', le, value, tied⟩ := h
  rw [ends] at value tied
  exact ⟨ids', _, _, rfl, le, value, tied⟩

end Work

/-- Two readings of clocks: both give a time, or both fail in one way. -/
inductive ReadingAlike (k : Likeness) :
    Except FailureSpec (Option Timestamp) → Except FailureSpec (Option Timestamp) → Prop
  | gives {t t' : Option Timestamp} (dated : k.dated → t = t') : ReadingAlike k (.ok t) (.ok t')
  | fails (spec : FailureSpec) (admitted : k.Admits spec.kind) :
    ReadingAlike k (.error spec) (.error spec)

theorem ReadingAlike.refl {k : Likeness} {reading : Except FailureSpec (Option Timestamp)}
    (admitted : ∀ spec, reading = .error spec → k.Admits spec.kind) :
    ReadingAlike k reading reading := by
  cases reading with
  | ok t => exact .gives fun _ => rfl
  | error spec => exact .fails spec (admitted spec rfl)

/-- A tie of ledgers, kept by all that a layer does in the name of a call other than to count and to
release a response. -/
structure Parallel (k : Likeness) (call : Nat) (R : Tie) : Prop where
  shared : ∀ {ids l l'}, R ids l l' → ∀ name, ids (.shared name) (.shared name)
  unique : ∀ {ids l l'}, R ids l l' → ∀ {a a' b b'}, ids a a' → ids b b' → (a = b ↔ a' = b')
  now : k.timed → ∀ {ids l l'}, R ids l l' → l'.now = l.now
  fresh : ∀ {ids l l'}, R ids l l' → ∃ ids', Subrelation ids ids' ∧
    ids' (.fresh call (l.calls call).failures) (.fresh call (l'.calls call).failures) ∧
    R ids' (l.adjustCall call fun c => { c with failures := c.failures + 1 })
      (l'.adjustCall call fun c => { c with failures := c.failures + 1 })
  note : ∀ {ids l l'}, R ids l l' → ∀ {e e'}, e.call = call → e.Alike k ids e' →
    R ids (l.note e) (l'.note e')
  useClock : ∀ {ids l l'}, R ids l l' → ∀ key f, R ids (l.adjustClock key f) (l'.adjustClock key f)
  ask : ∀ {ids l l'}, R ids l l' → ∀ i,
    R ids { l with asks := updateAt l.asks (k.layer i) (· + 1) }
      { l' with asks := updateAt l'.asks i (· + 1) }
  delay : ∀ {ids l l'}, R ids l l' → ∀ i,
    R ids { l with delays := updateAt l.delays (k.layer i) (· + 1) }
      { l' with delays := updateAt l'.delays i (· + 1) }
  advance : ∀ {ids l l'}, R ids l l' → ∀ seconds,
    R ids { l with now := l.now + seconds } { l' with now := l'.now + seconds }
  cause : ∀ {ids l l'}, R ids l l' → ∀ {id id' e e'}, ids id id' → e.Alike k ids e' →
    R ids { l with causes := (id, e) :: l.causes } { l' with causes := (id', e') :: l'.causes }

/-- Between two states of the ledger nothing was sent or built, and no response was touched. -/
structure Ledger.Rests (l m : Ledger) : Prop where
  responses : m.responses = l.responses
  sends : ∀ call, (m.calls call).sends = (l.calls call).sends
  built : ∀ call, (m.calls call).built = (l.calls call).built

theorem Ledger.Rests.of_eq {l m : Ledger} (responses : m.responses = l.responses)
    (calls : m.calls = l.calls) : l.Rests m :=
  ⟨responses, fun _ => by rw [calls], fun _ => by rw [calls]⟩

theorem Ledger.Rests.response? {l m : Ledger} (h : l.Rests m) (id : ResponseId) :
    m.response? id = l.response? id := congrArg (List.lookup id) h.responses

theorem Ledger.Rests.failing (l : Ledger) (call : Nat) :
    l.Rests (l.adjustCall call fun c => { c with failures := c.failures + 1 }) where
  responses := rfl
  sends := updateAt_keeps CallState.sends (fun _ => by rfl) l.calls call
  built := updateAt_keeps CallState.built (fun _ => by rfl) l.calls call

theorem Parallel.and {k : Likeness} {call : Nat} {R : Tie} (h : Parallel k call R)
    {I : Ledger → Ledger → Prop}
    (stable : ∀ {l l' m m'}, I l l' → l.Rests m → l'.Rests m' → I m m') :
    Parallel k call fun ids l l' => R ids l l' ∧ I l l' where
  shared tied := h.shared tied.1
  unique tied := h.unique tied.1
  now timed _ _ _ tied := h.now timed tied.1
  fresh tied := by
    obtain ⟨ids', le, named, tied'⟩ := h.fresh tied.1
    exact ⟨ids', le, named, tied', stable tied.2 (.failing _ call) (.failing _ call)⟩
  note tied _ _ own alike :=
    ⟨h.note tied.1 own alike, stable tied.2 (.of_eq rfl rfl) (.of_eq rfl rfl)⟩
  useClock tied key f :=
    ⟨h.useClock tied.1 key f, stable tied.2 (.of_eq rfl rfl) (.of_eq rfl rfl)⟩
  ask tied i := ⟨h.ask tied.1 i, stable tied.2 (.of_eq rfl rfl) (.of_eq rfl rfl)⟩
  delay tied i := ⟨h.delay tied.1 i, stable tied.2 (.of_eq rfl rfl) (.of_eq rfl rfl)⟩
  advance tied seconds :=
    ⟨h.advance tied.1 seconds, stable tied.2 (.of_eq rfl rfl) (.of_eq rfl rfl)⟩
  cause tied _ _ _ _ named alike :=
    ⟨h.cause tied.1 named alike, stable tied.2 (.of_eq rfl rfl) (.of_eq rfl rfl)⟩

namespace Parallel

open Work

variable {k : Likeness} {call : Nat} {R : Tie} (h : Parallel k call R) {ids : Naming}
  {l l' : Ledger} (tied : R ids l l')

include h tied

theorem likens_note {e e' : Event} (own : e.call = call) (alike : e.Alike k ids e') :
    Likens R Any (Work.note e) (Work.note e') ids l l' :=
  likens_modify (h.note tied own alike)

theorem likens_advance (seconds : Rat) :
    Likens R Any (Work.advance seconds) (Work.advance seconds) ids l l' :=
  likens_modify (h.advance tied seconds)

theorem likens_freshFailure :
    Likens R (fun ids => ids) (freshFailure call) (freshFailure call) ids l l' := by
  obtain ⟨ids', le, named, tied'⟩ := h.fresh tied
  exact ⟨ids', le, named, tied'⟩

theorem likens_fail (spec : FailureSpec) (admitted : k.Admits spec.kind) :
    Likens R (Failure.Alike k) (fail call spec) (fail call spec) ids l l' := by
  obtain ⟨ids', le, named, tied'⟩ := h.fresh tied
  exact ⟨ids', le, spec.failure_alike (fun name => h.shared tied' name) admitted named, tied'⟩

theorem likens_failWith {routine routine' : Routine} (spec : FailureSpec)
    (admitted : k.Admits spec.kind)
    (same : routine'.objection? spec.kind.family = routine.objection? spec.kind.family) :
    Likens R (Ended k) (failWith routine call spec) (failWith routine' call spec) ids l l' := by
  obtain ⟨ids', le, named, tied'⟩ := h.fresh tied
  have made : (spec.failure (.fresh call (l.calls call).failures)).Alike k ids'
      (spec.failure (.fresh call (l'.calls call).failures)) :=
    spec.failure_alike (fun name => h.shared tied' name) admitted named
  exact ⟨ids', le, .error (made.outOf (by rwa [FailureSpec.kind_failure])), tied'⟩

theorem likens_raised (spec : FailureSpec) (admitted : k.Admits spec.kind) :
    Likens R (Reply.Alike k) (do return Reply.raised (← fail call spec))
      (do return Reply.raised (← fail call spec)) ids l l' :=
  likens_bind (h.likens_fail tied spec admitted) fun _ _ _ _ _ _ error tied =>
    likens_pure (.raised error) tied

theorem likens_setCause {id id' : FailureId} {e e' : Failure} (named : ids id id')
    (error : e.Alike k ids e') : Likens R Any (setCause id e) (setCause id' e') ids l l' :=
  likens_modify (h.cause tied named error)

end Parallel

end HttpRetry
