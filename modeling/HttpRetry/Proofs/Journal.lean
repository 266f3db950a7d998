import HttpRetry.Proofs.Passage
set_option autoImplicit false

namespace HttpRetry

def Notice.isDrainError : Notice → Bool
  | .drainError .. => true
  | _ => false

/-- Something holds of each event with those before it. -/
def Always (P : List Event → Event → Prop) : List Event → Prop
  | [] => True
  | e :: earlier => P earlier e ∧ Always P earlier

theorem Always.at {P : List Event → Event → Prop} {journal : List Event} (always : Always P journal)
    {e : Event} {earlier : List Event} (h : e :: earlier <:+ journal) : P earlier e := by
  induction journal with
  | nil => simp at h
  | cons latest rest ih =>
    rcases List.suffix_cons_iff.mp h with same | h
    · cases same
      exact always.1
    · exact ih always.2 h

theorem Always.of_mem {P : Event → Prop} {journal : List Event}
    (always : Always (fun _ e => P e) journal) {e : Event} (mem : e ∈ journal) : P e := by
  obtain ⟨later, earlier, rfl⟩ := List.append_of_mem mem
  exact always.at (List.suffix_append later _)

section
variable {P : List Event → Event → Prop}

theorem Always.suffix {P : List Event → Event → Prop} {journal now : List Event}
    (always : Always P journal) (h : now <:+ journal) : Always P now := by
  obtain ⟨later, rfl⟩ := h
  induction later with
  | nil => exact always
  | cons e rest ih => exact ih always.2

theorem Always.append {news j : List Event} (new : ∀ e ∈ news, ∀ earlier, P earlier e)
    (always : Always P j) : Always P (news ++ j) := by
  induction news with
  | nil => exact always
  | cons e rest ih =>
    obtain ⟨first, rest⟩ := List.forall_mem_cons.mp new
    exact ⟨first _, ih rest⟩

end

theorem Place.reports_keep (p : Place) (call : Call) (ns : List Notice) {P : List Event → Prop}
    {j : List Event}
    (each : ∀ n ∈ ns, ∀ j, P j → P (.logged call.id p.index (p.entry call n) :: j)) (h : P j) :
    P ((ns.map fun n => .logged call.id p.index (p.entry call n)).reverse ++ j) := by
  induction ns generalizing j with
  | nil => exact h
  | cons n rest ih =>
    obtain ⟨first, others⟩ := List.forall_mem_cons.mp each
    simpa using ih others (first j h)

def Event.concerns (call : Nat) (e : Event) : Bool := e.call == call && !e.isAside

def AtRest (call : Nat) (events : List Event) : Prop := ∀ e ∈ events, e.concerns call = false

/-- Journals that grow by events of a call, and by what happens to responses. -/
inductive Grows (c : Nat) (j : List Event) : List Event → Prop
  | refl : Grows c j j
  | cons {e : Event} {j' : List Event} (own : e.call = c ∨ e.isAside = true) (h : Grows c j j') :
      Grows c j (e :: j')

section
variable {s : Setting} {call : Call} {pt pt' : Point} {l l' : Ledger} {c : Nat} {e : Event}
  {j j' news : List Event}

theorem Event.concerns_aside (aside : e.isAside = true) : e.concerns c = false := by
  simp [concerns, aside]

theorem Grows.append (own : ∀ e ∈ news, e.call = c ∨ e.isAside = true) (h : Grows c j j') :
    Grows c j (news ++ j') := by
  induction news with
  | nil => exact h
  | cons e rest ih =>
    obtain ⟨first, rest⟩ := List.forall_mem_cons.mp own
    exact .cons first (ih rest)

theorem Ledger.Unmoved.grows (h : l.Unmoved l') (c : Nat) : Grows c l.journal l'.journal := by
  obtain ⟨asides, journal, aside⟩ := h.journal
  rw [journal]
  exact .append (fun e mem => .inr (aside e mem)) .refl

theorem Takes.grows (takes : Takes s call pt l pt' l') :
    Grows call.id l.journal l'.journal := by
  cases takes with
  | pause unmoved => exact unmoved.grows call.id
  | answered gives =>
    rw [Place.journal_answered]
    refine .cons (.inl rfl) (.append (fun e mem => .inl ?_) (.cons (.inl rfl) .refl))
    simp only [List.mem_reverse, List.mem_map] at mem
    obtain ⟨n, -, rfl⟩ := mem
    rfl
  | refuse => exact .cons (.inl rfl) (.cons (.inl rfl) .refl)
  | interrupted => exact .cons (.inl rfl) (.cons (.inl rfl) .refl)
  | raised => exact .cons (.inl rfl) (.cons (.inl rfl) .refl)
  | fail => exact .cons (.inl rfl) (.cons (.inl rfl) .refl)
  | abort =>
    rw [Place.journal_leaving, Attempt.journal_blaming]
    exact .cons (.inl rfl) (.cons (.inl rfl) .refl)
  | tolerate =>
    rw [Place.journal_failingDrain]
    exact .cons (.inl rfl) .refl
  | done =>
    rw [Place.journal_delayed]
    exact .cons (.inl rfl) .refl
  | _ => first | exact .refl | exact .cons (.inl rfl) .refl

theorem Grows.atRest {other : Nat} (h : Grows other j j') (ne : c ≠ other) :
    ∃ news, j' = news ++ j ∧ AtRest c news := by
  induction h with
  | refl => exact ⟨[], rfl, by simp [AtRest]⟩
  | @cons e j' own _ ih =>
    obtain ⟨news, split, still⟩ := ih
    refine ⟨e :: news, by simp [split], ?_⟩
    have apart : e.concerns c = false := by
      rcases own with own | aside
      · simp [Event.concerns, own, Ne.symm ne]
      · exact Event.concerns_aside aside
    simpa [AtRest, apart] using still

theorem Ledger.Unmoved.atRest (h : l.Unmoved l') (c : Nat) :
    ∃ news, l'.journal = news ++ l.journal ∧ AtRest c news := by
  obtain ⟨asides, journal, aside⟩ := h.journal
  exact ⟨asides, journal, fun e mem => Event.concerns_aside (aside e mem)⟩

theorem AtRest.append {news' : List Event} (still : AtRest c news) (still' : AtRest c news') :
    AtRest c (news ++ news') := by
  intro e mem
  exact (List.mem_append.mp mem).elim (still e) (still' e)

end

end HttpRetry
