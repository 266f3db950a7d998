import HttpRetry.Proofs.Change.Layer
/-!
What holds of the responses in every ledger that calls can bring about: each is built once, keeps
its status and body, and its stream is closed at most once, which is when the response is marked
closed.
-/
set_option autoImplicit false

namespace HttpRetry

def Event.closes (id : ResponseId) : Event → Bool
  | .streamClosed _ i .. => i = id
  | _ => false

def Response.due (r : Response) : Nat :=
  match r.body with
  | .memory _ => 0
  | .stream _ => if r.closed then 1 else 0

namespace Ledger

def closings (l : Ledger) (id : ResponseId) : Nat := l.journal.countP (Event.closes id)

theorem closings_streamClosed (l : Ledger) (call : Nat) (i id : ResponseId) (reads bytes : Nat) :
    (l.note (.streamClosed call i reads bytes)).closings id =
      l.closings id + if i = id then 1 else 0 := by
  simp [closings, note, List.countP_cons, Event.closes]

@[simp] theorem response?_note (l : Ledger) (e : Event) (id : ResponseId) :
    (l.note e).response? id = l.response? id := rfl

@[simp] theorem response?_adjustCall (l : Ledger) (call : Nat) (f : CallState → CallState)
    (id : ResponseId) : (l.adjustCall call f).response? id = l.response? id := rfl

@[simp] theorem response?_measured (p : Place) (f : Metrics → Metrics) (l : Ledger)
    (id : ResponseId) : (p.measured f l).response? id = l.response? id := by
  unfold Place.measured
  split
  · rfl
  · rfl

@[simp] theorem journal_measured (p : Place) (f : Metrics → Metrics) (l : Ledger) :
    (p.measured f l).journal = l.journal := by
  unfold Place.measured
  split
  · rfl
  · rfl

@[simp] theorem calls_measured (p : Place) (f : Metrics → Metrics) (l : Ledger) :
    (p.measured f l).calls = l.calls := by
  unfold Place.measured
  split
  · rfl
  · rfl

theorem response?_build (l : Ledger) (call : Nat) (r : Response) (id : ResponseId) :
    (l.build call r).response? id = (l.response? id).or
      (if id = ⟨call, (l.calls call).built⟩ then some r else none) := by
  unfold response? build
  rw [List.lookup_append]
  by_cases h : id = ⟨call, (l.calls call).built⟩
  · simp [h]
  · have h' : (id == ⟨call, (l.calls call).built⟩) = false := by simpa using h
    simp [h, List.lookup_cons, h']

theorem response?_build_self (l : Ledger) (call : Nat) (r : Response) :
    ((l.build call r).response? ⟨call, (l.calls call).built⟩).isSome := by
  simp [response?_build]

theorem response?_isSome {l : Ledger} {id : ResponseId} {r : Response} (h : (id, r) ∈ l.responses) :
    (l.response? id).isSome := by
  rw [Option.isSome_iff_ne_none]
  intro hn
  have absent := List.lookup_eq_none_iff.mp hn (id, r) h
  simp at absent

theorem response?_adjustResponse (l : Ledger) (id id' : ResponseId) (f : Response → Response) :
    (l.adjustResponse id f).response? id' =
      (l.response? id').map fun r => if id' = id then f r else r := by
  by_cases h : id' = id
  · subst h
    simp
  · simp [response?_adjustResponse_of_ne l h, h]

def IsShut (l : Ledger) (id : ResponseId) : Prop := ∃ r, l.response? id = some r ∧ r.closed = true

def HasStream (l : Ledger) (id : ResponseId) : Prop :=
  ∃ r s, l.response? id = some r ∧ r.body = .stream s

def Streams (l : Ledger) (P : Stream → Prop) : Prop :=
  ∀ id r s, l.response? id = some r → r.body = .stream s → P s

def Numbered (l : Ledger) : Prop :=
  ∀ id, (l.calls id.call).built ≤ id.serial → l.response? id = none

/-- What holds of the responses of every ledger that calls in a mode can bring about. -/
structure Sound (mode : Mode) (l : Ledger) : Prop where
  unbuilt : ∀ id, (l.calls id.call).built ≤ id.serial → l.response? id = none
  matched : l.Streams fun s => s.mode = mode
  memory : ∀ id r text, l.response? id = some r → r.body = .memory text → r.closed = true
  counted : ∀ id, l.closings id = ((l.response? id).map Response.due).getD 0

theorem sound_empty (mode : Mode) : Sound mode {} where
  unbuilt := fun _ _ => rfl
  matched := fun _ _ _ h => by cases h
  memory := fun _ _ _ h => by cases h
  counted := fun _ => rfl

end Ledger

def Call.Streams (call : Call) (P : Stream → Prop) : Prop :=
  ∀ r, call.Builds r → ∀ s, r.body = .stream s → P s

def Call.Matches (call : Call) (mode : Mode) : Prop := call.Streams fun s => s.mode = mode

theorem Call.Builds.cases {call : Call} {r : Response} (h : call.Builds r) :
    (∃ text, r.body = .memory text ∧ r.closed = true) ∨
      (∃ s, r.body = .stream s ∧ r.closed = false) := by
  obtain ⟨n, ⟨status, text, _, rfl⟩ | ⟨status, stream, how, _, rfl⟩⟩ := h
  · exact .inl ⟨text, rfl, rfl⟩
  · exact .inr ⟨stream, rfl, rfl⟩

/-- What a response can become: its status and body stay, and once closed it is closed. -/
structure Response.Becomes (r r' : Response) : Prop where
  status : r'.status = r.status
  body : r'.body = r.body
  closed : r.closed = true → r'.closed = true

theorem Response.Becomes.refl (r : Response) : r.Becomes r := ⟨rfl, rfl, id⟩

theorem Response.Becomes.trans {r r' r'' : Response} (h : r.Becomes r') (h' : r'.Becomes r'') :
    r.Becomes r'' :=
  ⟨h'.status.trans h.status, h'.body.trans h.body, fun hc => h'.closed (h.closed hc)⟩

inductive Ledger.Turns (call : Call) (l l' : Ledger) : Prop
  | leaves (responses : ∀ id, l'.response? id = l.response? id)
    (built : ∀ c, (l'.calls c).built = (l.calls c).built)
    (closings : ∀ id, l'.closings id = l.closings id)
  | builds (r : Response) (from_ : call.Builds r) (eq : l' = l.build call.id r)
  | reads (id : ResponseId) (f : Response → Response) (becomes : ∀ r : Response, r.Becomes (f r))
    (closed : ∀ r, (f r).closed = r.closed) (eq : l' = l.adjustResponse id f)
  | closes (id : ResponseId) (r : Response) (s : Stream) (known : l.response? id = some r)
    (streamed : r.body = .stream s) (opened : r.closed = false)
    (eq : l' = (l.adjustResponse id .shut).note (.streamClosed call.id id r.reads r.bytes))

namespace Change

variable {call : Call} {reach : ResponseId → Prop} {scope : Scope} {l l' : Ledger} {mode : Mode}

theorem closings_note {e : Event} (h : ∀ id, e.closes id = false) (id : ResponseId) :
    (l.note e).closings id = l.closings id := by
  simp [Ledger.closings, Ledger.note, h id]

theorem closes_of_isPlain {e : Event} (plain : e.isPlain = true) (id : ResponseId) :
    e.closes id = false := by
  cases e with
  | streamClosed call i reads bytes => simp [Event.isPlain, Event.isCounted] at plain
  | _ => rfl

theorem closes_of_isStep {e : Event} (step : e.isStep = true) (id : ResponseId) :
    e.closes id = false := by
  cases e with
  | streamClosed call i reads bytes => simp [Event.isStep] at step
  | _ => rfl

theorem closes_of_isMark {e : Event} (mark : e.isMark = true) (id : ResponseId) :
    e.closes id = false := by
  cases e with
  | streamClosed call i reads bytes => simp [Event.isMark] at mark
  | _ => rfl

theorem turns (h : Change call reach scope l l') : l.Turns call l' := by
  cases h with
  | note own plain =>
    exact .leaves (fun _ => rfl) (fun _ => rfl) (closings_note (closes_of_isPlain plain))
  | step own isStep =>
    exact .leaves (fun _ => rfl) (fun _ => rfl) (closings_note (closes_of_isStep isStep))
  | mark own isMark =>
    exact .leaves (fun _ => rfl) (fun _ => rfl) (closings_note (closes_of_isMark isMark))
  | answer p attempt decision own =>
    exact .leaves (fun _ => by simp) (fun _ => by simp; rfl)
      (fun _ => by simp [Ledger.closings, Ledger.note, Event.closes])
  | drainFailure p count e =>
    exact .leaves (fun _ => by simp) (fun _ => by simp; rfl)
      (fun _ => by simp [Ledger.closings, Ledger.note, Event.closes])
  | delayed p timer attempt began ended =>
    exact .leaves (fun _ => by simp) (fun _ => by simp; rfl)
      (fun _ => by simp [Ledger.closings, Ledger.note, Event.closes])
  | send =>
    refine .leaves (fun _ => rfl) (fun c => ?_) (fun _ => rfl)
    by_cases hc : c = call.id
    · simp [Ledger.adjustCall, updateAt, hc]
    · simp [Ledger.adjustCall, updateAt, hc]
  | fail =>
    refine .leaves (fun _ => rfl) (fun c => ?_) (fun _ => rfl)
    by_cases hc : c = call.id
    · simp [Ledger.adjustCall, updateAt, hc]
    · simp [Ledger.adjustCall, updateAt, hc]
  | build built => exact .builds _ built rfl
  | consume within taken =>
    exact .reads _ (.drawn taken) (fun _ => ⟨rfl, rfl, id⟩) (fun _ => rfl) rfl
  | load within => exact .reads _ .kept (fun _ => ⟨rfl, rfl, id⟩) (fun _ => rfl) rfl
  | close within known streamed opened => exact .closes _ _ _ known streamed opened rfl
  | _ => exact .leaves (fun _ => rfl) (fun _ => rfl) (fun _ => rfl)

end Change

namespace Ledger.Turns

variable {call : Call} {l l' : Ledger} {mode : Mode}

theorem response (h : l.Turns call l') {id : ResponseId} {r : Response}
    (hr : l.response? id = some r) : ∃ r', l'.response? id = some r' ∧ r.Becomes r' := by
  cases h with
  | leaves responses built closings => exact ⟨r, (responses id).trans hr, .refl r⟩
  | builds r₀ from_ eq =>
    refine ⟨r, ?_, .refl r⟩
    rw [eq, response?_build, hr]
    rfl
  | reads id₀ f becomes closed eq =>
    refine ⟨if id = id₀ then f r else r, by rw [eq, response?_adjustResponse, hr]; rfl, ?_⟩
    split
    · exact becomes r
    · exact .refl r
  | closes id₀ r₀ s known streamed opened eq =>
    refine ⟨if id = id₀ then r.shut else r, ?_, ?_⟩
    · rw [eq, response?_note, response?_adjustResponse, hr]
      rfl
    · split
      · exact ⟨rfl, rfl, fun _ => rfl⟩
      · exact .refl r

theorem response_inv (h : l.Turns call l') {id : ResponseId} {r' : Response}
    (hr : l'.response? id = some r') :
    (∃ r, l.response? id = some r ∧ r.Becomes r') ∨ (l.response? id = none ∧ call.Builds r') := by
  cases hl : l.response? id with
  | some r =>
    obtain ⟨r'', hr'', hb⟩ := h.response hl
    rw [hr] at hr''
    cases hr''
    exact .inl ⟨r, rfl, hb⟩
  | none =>
    refine .inr ⟨rfl, ?_⟩
    cases h with
    | leaves responses built closings => rw [responses, hl] at hr; cases hr
    | builds r₀ from_ eq =>
      rw [eq, response?_build, hl] at hr
      split at hr
      · cases hr
        exact from_
      · cases hr
    | reads id₀ f becomes closed eq => rw [eq, response?_adjustResponse, hl] at hr; cases hr
    | closes id₀ r₀ s known streamed opened eq =>
      rw [eq, response?_note, response?_adjustResponse, hl] at hr
      cases hr

theorem streams (h : l.Turns call l') {P : Stream → Prop} (hc : call.Streams P)
    (hl : l.Streams P) : l'.Streams P := by
  intro id r' s hr hs
  rcases h.response_inv hr with ⟨r, hr₀, hb⟩ | ⟨_, hb⟩
  · exact hl id r s hr₀ (hb.body ▸ hs)
  · exact hc r' hb s hs

theorem numbered (h : l.Turns call l') (hl : l.Numbered) : l'.Numbered := by
  intro id hid
  cases h with
  | leaves responses built closings => rw [responses]; exact hl id (built id.call ▸ hid)
  | builds r from_ eq =>
    subst eq
    rw [response?_build]
    by_cases hc : id.call = call.id
    · simp only [build, hc, updateAt_self] at hid
      have hne : ¬ id = ⟨call.id, (l.calls call.id).built⟩ := by
        intro e
        rw [e] at hid
        dsimp only at hid
        omega
      have hlt : (l.calls id.call).built ≤ id.serial := by rw [hc]; omega
      simp [hl id hlt, hne]
    · have hne : ¬ id = ⟨call.id, (l.calls call.id).built⟩ := fun e => hc (by rw [e])
      simp only [build, updateAt_of_ne hc] at hid
      simp [hl id hid, hne]
  | reads id₀ f becomes closed eq =>
    subst eq
    rw [response?_adjustResponse, hl id hid]
    rfl
  | closes id₀ r s known streamed opened eq =>
    subst eq
    rw [response?_note, response?_adjustResponse, hl id hid]
    rfl

/-- Whether a response is closed decides how often its stream should have been closed. -/
theorem due_of_becomes {r r' : Response} (hb : r.Becomes r') (hc : r'.closed = r.closed) :
    r'.due = r.due := by
  simp [Response.due, hb.body, hc]

theorem closings_close {id₀ id : ResponseId} {r : Response} {s : Stream}
    (counted : l.closings id = ((l.response? id).map Response.due).getD 0)
    (known : l.response? id₀ = some r) (streamed : r.body = .stream s) (opened : r.closed = false) :
    ((l.adjustResponse id₀ .shut).note (.streamClosed call.id id₀ r.reads r.bytes)).closings id =
      (((l.adjustResponse id₀ .shut).response? id).map Response.due).getD 0 := by
  rw [closings_streamClosed, response?_adjustResponse]
  show l.closings id + _ = _
  rw [counted]
  by_cases h : id = id₀
  · subst h
    rw [known]
    simp [Response.due, Response.shut, streamed, opened]
  · have h' : ¬ id₀ = id := fun e => h e.symm
    simp [h, h']

theorem sound (h : l.Turns call l') (hm : call.Matches mode) (hs : l.Sound mode) :
    l'.Sound mode where
  unbuilt := h.numbered hs.unbuilt
  matched := h.streams hm hs.matched
  memory := by
    intro id r' text hr ht
    rcases h.response_inv hr with ⟨r, hr₀, hb⟩ | ⟨_, hb⟩
    · exact hb.closed (hs.memory id r text hr₀ (hb.body ▸ ht))
    · rcases hb.cases with ⟨_, _, hc⟩ | ⟨s, hs', _⟩
      · exact hc
      · rw [hs'] at ht
        cases ht
  counted := by
    intro id
    cases h with
    | leaves responses built closings => rw [closings, responses]; exact hs.counted id
    | builds r from_ eq =>
      have due : r.due = 0 := by
        rcases from_.cases with ⟨text, ht, _⟩ | ⟨s, hs', hc⟩
        · simp [Response.due, ht]
        · simp [Response.due, hs', hc]
      subst eq
      rw [response?_build]
      show l.closings id = _
      rw [hs.counted id]
      cases hl : l.response? id with
      | some r₀ => rfl
      | none =>
        by_cases hid : id = ⟨call.id, (l.calls call.id).built⟩
        · simp [hid, due]
        · simp [hid]
    | reads id₀ f becomes closed eq =>
      subst eq
      rw [response?_adjustResponse]
      show l.closings id = _
      rw [hs.counted id]
      cases hl : l.response? id with
      | none => rfl
      | some r₀ =>
        by_cases hid : id = id₀
        · simp [hid, due_of_becomes (becomes r₀) (closed r₀)]
        · simp [hid]
    | closes id₀ r s known streamed opened eq =>
      subst eq
      exact closings_close (hs.counted id) known streamed opened

end Ledger.Turns

namespace Changes

variable {call : Call} {reach : ResponseId → Prop} {scope : Scope} {l l' : Ledger} {mode : Mode}

theorem sound (h : Changes call reach scope l l') (hm : call.Matches mode) (hs : l.Sound mode) :
    l'.Sound mode := by
  induction h with
  | refl => exact hs
  | tail _ h ih => exact h.turns.sound hm ih

theorem numbered (h : Changes call reach scope l l') (hl : l.Numbered) : l'.Numbered := by
  induction h with
  | refl => exact hl
  | tail _ h ih => exact h.turns.numbered ih

theorem streams (h : Changes call reach scope l l') {P : Stream → Prop} (hc : call.Streams P)
    (hl : l.Streams P) : l'.Streams P := by
  induction h with
  | refl => exact hl
  | tail _ h ih => exact h.turns.streams hc ih

theorem response (h : Changes call reach scope l l') {id : ResponseId} {r : Response}
    (hr : l.response? id = some r) : ∃ r', l'.response? id = some r' ∧ r.Becomes r' := by
  induction h with
  | refl => exact ⟨r, hr, .refl r⟩
  | tail _ h ih =>
    obtain ⟨r', hr', hb⟩ := ih
    obtain ⟨r'', hr'', hb'⟩ := h.turns.response hr'
    exact ⟨r'', hr'', hb.trans hb'⟩

theorem known (h : Changes call reach scope l l') {id : ResponseId}
    (known : (l.response? id).isSome) : (l'.response? id).isSome := by
  obtain ⟨r, hr⟩ := Option.isSome_iff_exists.mp known
  obtain ⟨r', hr', _⟩ := h.response hr
  simp [hr']

theorem isShut (h : Changes call reach scope l l') {id : ResponseId} (hs : l.IsShut id) :
    l'.IsShut id := by
  obtain ⟨r, hr, hc⟩ := hs
  obtain ⟨r', hr', hb⟩ := h.response hr
  exact ⟨r', hr', hb.closed hc⟩

theorem hasStream_iff (h : Changes call reach scope l l') {id : ResponseId}
    (known : (l.response? id).isSome) : l'.HasStream id ↔ l.HasStream id := by
  obtain ⟨r, hr⟩ := Option.isSome_iff_exists.mp known
  obtain ⟨r', hr', hb⟩ := h.response hr
  constructor
  · rintro ⟨r'', s, hr'', hs⟩
    rw [hr'] at hr''
    cases hr''
    exact ⟨r, s, hr, hb.body ▸ hs⟩
  · rintro ⟨r'', s, hr'', hs⟩
    rw [hr] at hr''
    cases hr''
    exact ⟨r', s, hr', hb.body.trans hs⟩

end Changes

end HttpRetry
