import HttpRetry.Proofs.Likeness.Reading
import HttpRetry.Proofs.Lockstep
import HttpRetry.Proofs.Stirred
/-!
Runs that differ in the bodies of some responses. What is done to such a response is not the same in
both, but all that comes of it are closed streams, reports that a body could not be drained, and
failures that are dropped; everything else is alike.
-/
set_option autoImplicit false

namespace HttpRetry

open Work

def Event.isDrain : Event → Bool
  | .streamClosed .. => true
  | .logged _ _ ⟨_, _, .drainError ..⟩ => true
  | _ => false

theorem Event.Alike.isDrain {k : Likeness} {ids : Naming} {e e' : Event} (h : e.Alike k ids e') :
    e'.isDrain = e.isDrain := by
  cases h with
  | logged call layer sink request alike =>
    cases alike with
    | drainError count error => rfl
    | _ => rfl
  | _ => rfl

theorem Event.isDrain_of_isClosing {e : Event} (h : e.isClosing = true) : e.isDrain = true := by
  cases e with
  | streamClosed call response reads bytes => rfl
  | _ => cases h

namespace Ledger

def dealings (l : Ledger) : List Event := l.journal.filter fun e => !e.isDrain

def Made (l : Ledger) : FailureId → Prop
  | .shared _ => True
  | .fresh call serial => serial < (l.calls call).failures

theorem dealings_note (l : Ledger) {e : Event} (h : e.isDrain = false) :
    (l.note e).dealings = e :: l.dealings :=
  List.filter_cons_of_pos (by simp [h])

theorem dealings_drained (l : Ledger) {e : Event} (h : e.isDrain = true) :
    (l.note e).dealings = l.dealings :=
  List.filter_cons_of_neg (by simp [h])

theorem Made.mono {l l' : Ledger} {id : FailureId} (h : l.Made id)
    (grown : ∀ call, (l.calls call).failures ≤ (l'.calls call).failures) : l'.Made id := by
  cases id with
  | shared name => trivial
  | fresh call serial => exact Nat.lt_of_lt_of_le h (grown call)

theorem Made.ne_fresh {l : Ledger} {id : FailureId} (h : l.Made id) (call : Nat) :
    id ≠ .fresh call (l.calls call).failures := by
  rintro rfl
  exact Nat.lt_irrefl _ h

theorem Numbered.adjust {l : Ledger} (h : l.Numbered) (id : ResponseId)
    (f : Response → Response) : (l.adjustResponse id f).Numbered := by
  intro other free
  rw [response?_adjustResponse, h other free, Option.map_none]

theorem Numbered.build {l : Ledger} (h : l.Numbered) (call : Nat) (r : Response) :
    (l.build call r).Numbered := by
  intro id free
  have grown : (l.calls id.call).built ≤ ((l.build call r).calls id.call).built := by
    show _ ≤ (updateAt l.calls call (fun c => { c with built := c.built + 1 }) id.call).built
    unfold updateAt
    split
    · exact Nat.le_succ _
    · exact Nat.le_refl _
  have other : id ≠ ⟨call, (l.calls call).built⟩ := by
    rintro rfl
    have here : ((l.build call r).calls call).built = (l.calls call).built + 1 :=
      congrArg CallState.built (updateAt_self l.calls call fun c => { c with built := c.built + 1 })
    exact absurd (here ▸ free) (Nat.not_succ_le_self _)
  rw [response?_build, h id (Nat.le_trans grown free), if_neg other]
  rfl

/-- The response that was built last can be looked up. -/
theorem Numbered.response?_build {l : Ledger} (h : l.Numbered) (call : Nat) (r : Response) :
    (l.build call r).response? ⟨call, (l.calls call).built⟩ = some r := by
  rw [Ledger.response?_build, h ⟨call, _⟩ (Nat.le_refl _), if_pos rfl]
  rfl

/-- From one state of the ledger to a later one, one response was worked on, and this was done with:
failures were made, and those to drain it reported and counted. -/
structure Cleared (id : ResponseId) (l l' : Ledger) : Prop where
  responses : ∃ f, Response.Keeps f ∧ l'.responses = adjust id f l.responses
  dealings : l'.dealings = l.dealings
  causes : l'.causes = l.causes
  now : l'.now = l.now
  clocks : l'.clocks = l.clocks
  asks : l'.asks = l.asks
  delays : l'.delays = l.delays
  attempts : l'.metrics.attempts = l.metrics.attempts
  delay : l'.metrics.delay = l.metrics.delay
  sends : ∀ call, (l'.calls call).sends = (l.calls call).sends
  built : ∀ call, (l'.calls call).built = (l.calls call).built
  failures : ∀ call, (l.calls call).failures ≤ (l'.calls call).failures

theorem Stirred.cleared {id : ResponseId} {l l' : Ledger} (h : Stirred id l l') :
    Cleared id l l' where
  responses := h.responses
  dealings := by
    obtain ⟨closings, journal, closing⟩ := h.journal
    have none : closings.filter (fun e => !e.isDrain) = [] :=
      List.filter_eq_nil_iff.mpr fun e mem => by
        simp [Event.isDrain_of_isClosing (closing e mem)]
    unfold Ledger.dealings
    rw [journal, List.filter_append, none, List.nil_append]
  causes := h.causes
  now := h.now
  clocks := h.clocks
  asks := h.asks
  delays := h.delays
  attempts := congrArg Metrics.attempts h.metrics
  delay := congrArg Metrics.delay h.metrics
  sends := h.sends
  built := h.built
  failures := h.failures

namespace Cleared

variable {id : ResponseId} {l l' : Ledger}

theorem reported (h : Cleared id l l') (p : Place) (call count : Nat) (sink : Sink)
    (request : Option Request) (e : Failure) :
    Cleared id l (l'.note (.logged call p.index ⟨sink, request, .drainError count e⟩)) :=
  { h with dealings := (l'.dealings_drained rfl).trans h.dealings }

theorem counted (h : Cleared id l l') (p : Place) :
    Cleared id l (p.measured Metrics.countDrainError l') := by
  unfold Place.measured
  split
  · exact { h with }
  · exact h

theorem numbered (h : Cleared id l l') (numbered : l.Numbered) : l'.Numbered := by
  intro other free
  obtain ⟨f, -, eq⟩ := h.responses
  rw [h.built] at free
  have none := numbered.adjust id f other free
  exact (congrArg (List.lookup other) eq).trans none

end Cleared

end Ledger

theorem updateAt_alike {α β : Type} (field : α → β) {g : α → α} {f f' : Nat → α}
    (same : ∀ j, field (f' j) = field (f j))
    (counts : ∀ a a', field a' = field a → field (g a') = field (g a)) (i j : Nat) :
    field (updateAt f' i g j) = field (updateAt f i g j) := by
  unfold updateAt
  split
  · exact counts _ _ (same j)
  · exact same j

/-- Which bodies of a response may be exchanged for one another. -/
abbrev Exchange := ResponseId → Body → Body → Prop

/-- A response in both runs: the same, or with two bodies that are exchanged for one another. -/
def Dressed (exchange : Exchange) (id : ResponseId) (r r' : Response) : Prop :=
  r' = r ∨ r'.status = r.status ∧ exchange id r.body r'.body

theorem Dressed.status {exchange : Exchange} {id : ResponseId} {r r' : Response}
    (h : Dressed exchange id r r') : r'.status = r.status := by
  rcases h with rfl | ⟨status, -⟩
  · rfl
  · exact status

/-- Before anything is done, only failures that go by a name are known to be the same. -/
def Naming.initial : Naming := fun a b => a = b ∧ ∃ name, a = .shared name

/-- Two ledgers that are alike but for the bodies of some responses and for what becomes of them. -/
structure Redressed (exchange : Exchange) (ids : Naming) (l l' : Ledger) : Prop where
  shared : ∀ name, ids (.shared name) (.shared name)
  unique : ∀ {a a' b b'}, ids a a' → ids b b' → (a = b ↔ a' = b')
  made : ∀ {a a'}, ids a a' → l.Made a ∧ l'.Made a'
  now : l'.now = l.now
  clocks : l'.clocks = l.clocks
  asks : l'.asks = l.asks
  delays : l'.delays = l.delays
  sends : ∀ call, (l'.calls call).sends = (l.calls call).sends
  built : ∀ call, (l'.calls call).built = (l.calls call).built
  numbered : l.Numbered ∧ l'.Numbered
  responses : List.Forall₂ (EntryAlike (Dressed exchange)) l.responses l'.responses
  causes : List.Forall₂ (fun c c' : FailureId × Failure =>
    ids c.1 c'.1 ∧ c.2.Alike lockstep ids c'.2) l.causes l'.causes
  attempts : l'.metrics.attempts = l.metrics.attempts
  delay : l'.metrics.delay = l.metrics.delay
  dealings : List.Forall₂ (Event.Alike lockstep ids) l.dealings l'.dealings

structure DressedAt (exchange : Exchange) (id : ResponseId) (l l' : Ledger) : Prop where
  known : ∃ r r', l.response? id = some r ∧ l'.response? id = some r' ∧ r'.status = r.status ∧
    exchange id r.body r'.body

def Body.Gentle : Body → Prop
  | .memory _ => True
  | .stream s => s.Gentle

theorem Ledger.gentleAt_of_body {l : Ledger} {id : ResponseId} {r : Response}
    (known : l.response? id = some r) (gentle : r.body.Gentle) : l.GentleAt id := by
  intro r' s known' streamed
  obtain rfl : r = r' := Option.some.inj (known.symm.trans known')
  rw [streamed] at gentle
  exact gentle

namespace Redressed

variable {exchange : Exchange} {ids : Naming} {l l' l₁ l₁' : Ledger} {id : ResponseId}

theorem empty (exchange : Exchange) : Redressed exchange Naming.initial {} {} where
  shared name := ⟨rfl, name, rfl⟩
  unique := by
    rintro a _ b _ ⟨rfl, -⟩ ⟨rfl, -⟩
    exact Iff.rfl
  made := by
    rintro _ _ ⟨rfl, name, rfl⟩
    exact ⟨trivial, trivial⟩
  now := rfl
  clocks := rfl
  asks := rfl
  delays := rfl
  sends _ := rfl
  built _ := rfl
  numbered := ⟨fun _ _ => rfl, fun _ _ => rfl⟩
  responses := .nil
  causes := .nil
  attempts := rfl
  delay := rfl
  dealings := .nil

theorem response? (tied : Redressed exchange ids l l') (id : ResponseId) :
    l'.response? id = l.response? id ∨ DressedAt exchange id l l' := by
  have found := lookup_alike tied.responses id
  unfold Ledger.response?
  cases known : List.lookup id l.responses with
  | none =>
    cases known' : List.lookup id l'.responses with
    | none => exact .inl rfl
    | some r' =>
      rw [known, known'] at found
      cases found
  | some r =>
    cases known' : List.lookup id l'.responses with
    | none =>
      rw [known, known'] at found
      cases found
    | some r' =>
      rw [known, known'] at found
      cases found with
      | some alike =>
        rcases alike with rfl | dressed
        · exact .inl rfl
        · exact .inr ⟨r, r', known, known', dressed⟩

theorem status? (tied : Redressed exchange ids l l') (id : ResponseId) :
    (l'.response? id).map (·.status) = (l.response? id).map (·.status) := by
  rcases tied.response? id with same | ⟨r, r', known, known', status, -⟩
  · rw [same]
  · rw [known, known', Option.map_some, Option.map_some, status]

theorem fresh (tied : Redressed exchange ids l l') (call : Nat) :
    ∃ ids', Subrelation ids ids' ∧
      ids' (.fresh call (l.calls call).failures) (.fresh call (l'.calls call).failures) ∧
      Redressed exchange ids' (l.adjustCall call fun c => { c with failures := c.failures + 1 })
        (l'.adjustCall call fun c => { c with failures := c.failures + 1 }) := by
  let next := FailureId.fresh call (l.calls call).failures
  let next' := FailureId.fresh call (l'.calls call).failures
  have grows := Ledger.Stirred.failing ⟨call, 0⟩ call l
  have grows' := Ledger.Stirred.failing ⟨call, 0⟩ call l'
  have newer {m : Ledger} : (m.adjustCall call fun c => { c with failures := c.failures + 1 }).Made
      (.fresh call (m.calls call).failures) := by
    show (m.calls call).failures < (updateAt m.calls call _ call).failures
    rw [updateAt_self]
    exact Nat.lt_succ_self _
  have le : Subrelation ids fun a b => ids a b ∨ a = next ∧ b = next' := .inl
  refine ⟨_, le, .inr ⟨rfl, rfl⟩, { tied with
    shared := fun name => .inl (tied.shared name)
    unique := ?_
    made := ?_
    sends := updateAt_alike CallState.sends tied.sends (fun _ _ h => by exact h) call
    built := updateAt_alike CallState.built tied.built (fun _ _ h => by exact h) call
    numbered := ?_
    causes := tied.causes.imp fun c c' h => ⟨le h.1, h.2.mono le⟩
    dealings := tied.dealings.imp fun e e' h => h.mono le }⟩
  · rintro a a' b b' (ha | ⟨rfl, rfl⟩) (hb | ⟨rfl, rfl⟩)
    · exact tied.unique ha hb
    · have old := tied.made ha
      exact iff_of_false (old.1.ne_fresh call) (old.2.ne_fresh call)
    · have old := tied.made hb
      exact iff_of_false (old.1.ne_fresh call).symm (old.2.ne_fresh call).symm
    · exact iff_of_true rfl rfl
  · rintro a a' (h | ⟨rfl, rfl⟩)
    · exact ⟨(tied.made h).1.mono grows.failures, (tied.made h).2.mono grows'.failures⟩
    · exact ⟨newer, newer⟩
  · exact ⟨grows.cleared.numbered tied.numbered.1, grows'.cleared.numbered tied.numbered.2⟩

theorem note (tied : Redressed exchange ids l l') {e e' : Event} (alike : e.Alike lockstep ids e') :
    Redressed exchange ids (l.note e) (l'.note e') := by
  refine { tied with dealings := ?_ }
  cases drain : e.isDrain with
  | true =>
    rw [l.dealings_drained drain, l'.dealings_drained (alike.isDrain.trans drain)]
    exact tied.dealings
  | false =>
    rw [l.dealings_note drain, l'.dealings_note (alike.isDrain.trans drain)]
    exact .cons alike tied.dealings

theorem parallel (exchange : Exchange) (call : Nat) : Parallel lockstep call (Redressed exchange) where
  shared tied := tied.shared
  unique tied _ _ _ _ := tied.unique
  now _ _ _ _ tied := tied.now
  fresh tied := tied.fresh call
  note tied _ _ _ := tied.note
  useClock tied key f := { tied with clocks := congrArg (updateAt · key f) tied.clocks }
  ask tied i := { tied with asks := congrArg (updateAt · i (· + 1)) tied.asks }
  delay tied i := { tied with delays := congrArg (updateAt · i (· + 1)) tied.delays }
  advance tied seconds := { tied with now := congrArg (· + seconds) tied.now }
  cause tied _ _ _ _ named alike := { tied with causes := .cons ⟨named, alike⟩ tied.causes }

theorem reads (tied : Redressed exchange ids l l') (clock : Clock) :
    ReadingAlike lockstep (clock.peek l) (clock.peek l') := by
  have same : clock.peek l' = clock.peek l := by
    unfold Clock.peek
    rw [tied.clocks, tied.now]
  rw [same]
  exact .refl fun _ _ _ => trivial

theorem build (tied : Redressed exchange ids l l') (call : Nat) {r r' : Response}
    (alike : Dressed exchange ⟨call, (l.calls call).built⟩ r r') :
    Redressed exchange ids (l.build call r) (l'.build call r') := by
  have failures (m : Ledger) (r : Response) (other : Nat) :
      (m.calls other).failures ≤ ((m.build call r).calls other).failures :=
    Nat.le_of_eq (updateAt_keeps CallState.failures (fun _ => by rfl) m.calls call other).symm
  refine { tied with
    made := fun h => ⟨(tied.made h).1.mono (failures l r), (tied.made h).2.mono (failures l' r')⟩
    sends := updateAt_alike CallState.sends tied.sends (fun _ _ h => by exact h) call
    built := updateAt_alike CallState.built tied.built (fun _ _ h => congrArg (· + 1) h) call
    numbered := ⟨tied.numbered.1.build call r, tied.numbered.2.build call r'⟩
    responses := ?_ }
  have last : List.Forall₂ (EntryAlike (Dressed exchange)) [(⟨call, (l.calls call).built⟩, r)]
      [(⟨call, (l'.calls call).built⟩, r')] := .cons ⟨by rw [tied.built], alike⟩ .nil
  exact List.rel_append tied.responses last

theorem replays (exchange : Exchange) (mode : Mode) :
    Replays lockstep (Redressed exchange) mode mode where
  adjust tied id same f _ := { tied with
    numbered := ⟨tied.numbered.1.adjust id f, tied.numbered.2.adjust id f⟩
    responses := adjust_alike tied.responses fun _ _ known known' =>
      .inl (congrArg f (Option.some.inj (known'.symm.trans (same.eq.trans known)))) }
  counted tied method decision :=
    { tied with attempts := congrArg (Metrics.bump (method, decision)) tied.attempts }
  drained tied := { tied with }

theorem resends (exchange : Exchange) (mode : Mode) (call : Call) :
    Resends lockstep (Redressed exchange) mode mode call where
  toReplays := replays exchange mode
  confined := call.confined_all
  sends tied := tied.sends call.id
  send tied := by
    let sent (m : Ledger) := m.adjustCall call.id fun c => { c with sends := c.sends + 1 }
    have failures (m : Ledger) (other : Nat) :
        (m.calls other).failures ≤ ((sent m).calls other).failures :=
      Nat.le_of_eq (updateAt_keeps CallState.failures (fun _ => by rfl) m.calls call.id other).symm
    have built (m : Ledger) (other : Nat) :
        ((sent m).calls other).built = (m.calls other).built :=
      updateAt_keeps CallState.built (fun _ => by rfl) m.calls call.id other
    exact { tied with
      made := fun h => ⟨(tied.made h).1.mono (failures _), (tied.made h).2.mono (failures _)⟩
      sends := updateAt_alike CallState.sends tied.sends (fun _ _ h => congrArg (· + 1) h) call.id
      built := updateAt_alike CallState.built tied.built (fun _ _ h => by exact h) call.id
      numbered := ⟨fun id free => tied.numbered.1 id (built _ id.call ▸ free),
        fun id free => tied.numbered.2 id (built _ id.call ▸ free)⟩ }
  built tied := tied.built call.id
  build tied r r' alike := by
    obtain rfl := alike.eq
    refine ⟨tied.build call.id (.inl rfl), .of_eq trivial ?_⟩
    rw [tied.numbered.1.response?_build, ← tied.built, tied.numbered.2.response?_build]
  listed tied _ index _ := by
    rw [← List.getElem?_map, ← List.getElem?_map, refs_alike tied.responses Dressed.status]
  known tied serial := tied.status? ⟨call.id, serial⟩

/-- Where a response has exchanged bodies, work on it keeps the runs alike, whatever it does in each
of them. -/
theorem cleared (tied : Redressed exchange ids l l') (dressed : DressedAt exchange id l l')
    (clears : l.Cleared id l₁) (clears' : l'.Cleared id l₁') : Redressed exchange ids l₁ l₁' where
  shared := tied.shared
  unique := tied.unique
  made h := ⟨(tied.made h).1.mono clears.failures, (tied.made h).2.mono clears'.failures⟩
  now := by rw [clears.now, clears'.now, tied.now]
  clocks := by rw [clears.clocks, clears'.clocks, tied.clocks]
  asks := by rw [clears.asks, clears'.asks, tied.asks]
  delays := by rw [clears.delays, clears'.delays, tied.delays]
  sends call := by rw [clears.sends, clears'.sends, tied.sends]
  built call := by rw [clears.built, clears'.built, tied.built]
  numbered := ⟨clears.numbered tied.numbered.1, clears'.numbered tied.numbered.2⟩
  responses := by
    obtain ⟨f, keeps, eq⟩ := clears.responses
    obtain ⟨f', keeps', eq'⟩ := clears'.responses
    obtain ⟨r, r', known, known', status, exchanged⟩ := dressed
    rw [eq, eq']
    refine adjust_alike tied.responses fun r₁ r₁' found found' => ?_
    obtain rfl : r = r₁ := Option.some.inj (known.symm.trans found)
    obtain rfl : r' = r₁' := Option.some.inj (known'.symm.trans found')
    refine .inr ⟨?_, ?_⟩
    · rw [(keeps r).1, (keeps' r').1, status]
    · rw [(keeps r).2, (keeps' r').2]
      exact exchanged
  causes := by
    rw [clears.causes, clears'.causes]
    exact tied.causes
  attempts := by rw [clears.attempts, clears'.attempts, tied.attempts]
  delay := by rw [clears.delay, clears'.delay, tied.delay]
  dealings := by
    rw [clears.dealings, clears'.dealings]
    exact tied.dealings

end Redressed

end HttpRetry
