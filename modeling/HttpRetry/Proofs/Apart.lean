import HttpRetry.Proofs.Sound
set_option autoImplicit false

namespace HttpRetry

namespace Ledger

def eventsOf (l : Ledger) (call : Nat) : List Event := l.trace.filter (·.call = call)

theorem eventsOf_note_self (l : Ledger) (e : Event) :
    (l.note e).eventsOf e.call = l.eventsOf e.call ++ [e] := by
  simp [eventsOf]

end Ledger

variable {call : Call} {reach : ResponseId → Prop} {scope : Scope} {l l' : Ledger}

/-- Every event that a call's changes add is the call's own. -/
theorem Change.journal_own (h : Change call reach scope l l') :
    l'.journal = l.journal ∨ ∃ e : Event, e.call = call.id ∧ l'.journal = e :: l.journal := by
  cases h with
  | note own plain => exact .inr ⟨_, own, rfl⟩
  | step own isStep => exact .inr ⟨_, own, rfl⟩
  | mark own isMark => exact .inr ⟨_, own, rfl⟩
  | answer p attempt decision own => exact .inr ⟨_, rfl, by rw [Ledger.journal_measured]; rfl⟩
  | drainFailure p count e => exact .inr ⟨_, rfl, by rw [Ledger.journal_measured]; rfl⟩
  | delayed p timer attempt began ended => exact .inr ⟨_, rfl, by rw [Ledger.journal_measured]; rfl⟩
  | close within known streamed opened => exact .inr ⟨_, rfl, rfl⟩
  | _ => exact .inl rfl

theorem Change.calls_of_ne (h : Change call reach scope l l') {other : Nat} (ne : other ≠ call.id) :
    l'.calls other = l.calls other := by
  cases h with
  | send => exact updateAt_of_ne (g := fun c : CallState => { c with sends := c.sends + 1 }) ne
  | fail => exact updateAt_of_ne (g := fun c : CallState =>
    { c with failures := c.failures + 1 }) ne
  | build built =>
    exact updateAt_of_ne (g := fun c : CallState => { c with built := c.built + 1 }) ne
  | answer p attempt decision own => rw [Ledger.calls_measured]; rfl
  | drainFailure p count e => rw [Ledger.calls_measured]; rfl
  | delayed p timer attempt began ended => rw [Ledger.calls_measured]; rfl
  | _ => rfl

theorem Change.response?_of_ne (h : Change call reach scope l l')
    (own : ∀ id, reach id → id.call = call.id) {id : ResponseId} (ne : id.call ≠ call.id) :
    l'.response? id = l.response? id := by
  have foreign : ∀ {id' : ResponseId}, reach id' → id ≠ id' := by
    rintro id' within rfl
    exact ne (own id within)
  cases h with
  | build built =>
    rw [Ledger.response?_build]
    have h : id ≠ ⟨call.id, (l.calls call.id).built⟩ := by
      rintro rfl
      exact ne rfl
    simp [h]
  | consume within taken => exact l.response?_adjustResponse_of_ne (foreign within) _
  | load within => exact l.response?_adjustResponse_of_ne (foreign within) _
  | close within known streamed opened => exact l.response?_adjustResponse_of_ne (foreign within) _
  | answer p attempt decision own => rw [Ledger.response?_measured]; rfl
  | drainFailure p count e => rw [Ledger.response?_measured]; rfl
  | delayed p timer attempt began ended => rw [Ledger.response?_measured]; rfl
  | _ => rfl

namespace Changes

theorem calls_of_ne (h : Changes call reach scope l l') {other : Nat} (ne : other ≠ call.id) :
    l'.calls other = l.calls other := by
  induction h with
  | refl => rfl
  | tail _ h ih => rw [h.calls_of_ne ne, ih]

theorem response?_of_ne (h : Changes call reach scope l l')
    (own : ∀ id, reach id → id.call = call.id) {id : ResponseId} (ne : id.call ≠ call.id) :
    l'.response? id = l.response? id := by
  induction h with
  | refl => rfl
  | tail _ h ih => rw [h.response?_of_ne own ne, ih]

theorem eventsOf_of_ne (h : Changes call reach scope l l') {other : Nat} (ne : other ≠ call.id) :
    l'.eventsOf other = l.eventsOf other := by
  induction h with
  | refl => rfl
  | tail _ h ih =>
    rw [← ih]
    rcases h.journal_own with same | ⟨e, own, added⟩
    · simp only [Ledger.eventsOf, Ledger.trace, same]
    · have foreign : e.call ≠ other := own ▸ ne.symm
      simp [Ledger.eventsOf, Ledger.trace, added, foreign]

theorem trace_isPrefix (h : Changes call reach scope l l') : l.trace <+: l'.trace := by
  induction h with
  | refl => exact List.prefix_rfl
  | tail _ h ih =>
    refine ih.trans ?_
    rcases h.journal_own with same | ⟨e, own, added⟩
    · simp only [Ledger.trace, same, List.prefix_rfl]
    · simp only [Ledger.trace, added, List.reverse_cons]
      exact List.prefix_append _ _

theorem call_of_mem (h : Changes call reach scope l l') {e : Event} (mem : e ∈ l'.journal) :
    e ∈ l.journal ∨ e.call = call.id := by
  induction h with
  | refl => exact .inl mem
  | tail _ h ih =>
    rcases h.journal_own with same | ⟨e', own, added⟩
    · exact ih (same ▸ mem)
    · rcases List.mem_cons.mp (added ▸ mem) with rfl | mem
      · exact .inr own
      · exact ih mem

end Changes

end HttpRetry
