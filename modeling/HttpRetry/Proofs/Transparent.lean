import HttpRetry.Proofs.Endings
import HttpRetry.Proofs.Inserted
import HttpRetry.Proofs.Modes
set_option autoImplicit false

namespace HttpRetry

open Work

structure Layer.LetsPass (layer : Layer) : Prop where
  retryer : layer.retryer = (.scripted fun _ => .decided .ignore .nothing) ∨
    layer.retryer = .timed fun _ => .decided .ignore .nothing
  unforced : layer.forced = none

/-- What a layer notes that lets every attempt pass: it takes up calls, is handed replies, logs those
that are errors, has its retryer ignore them, and hands them on. -/
def Event.isPassing : Event → Bool
  | .entered .. | .bound .. | .received .. | .asked .. | .left .. => true
  | .answered _ _ _ decision => decision = .ignore
  | .logged _ _ ⟨_, _, .requestError ..⟩ => true
  | _ => false

def Passing (own : List Event) : Prop := ∀ e ∈ own, e.isPassing = true

theorem Passing.append {own own' : List Event} (h : Passing own) (h' : Passing own') :
    Passing (own ++ own') := fun e mem => (List.mem_append.mp mem).elim (h e) (h' e)

theorem Passing.reverse {own : List Event} (h : Passing own) : Passing own.reverse :=
  fun e mem => h e (List.mem_reverse.mp mem)

namespace Place

variable {p : Place} (call : Call)

theorem passing_entering (start : Option Timestamp) : Passing (p.entering call start) := by
  unfold entering
  split
  · simp [Passing, Event.isPassing]
  · simp [Passing, Event.isPassing]

theorem passing_handing (start : Option Timestamp) (elapsed : Option Int) (scripted : Bool)
    (reply : Reply) : Passing (p.handing call start elapsed scripted reply) := by
  unfold handing mentions
  split
  · simp [Passing, Event.isPassing]
  · cases reply with
    | raised e => simp [Passing, Event.isPassing]
    | response r => simp [Passing, Event.isPassing]
    | nothing => simp [Passing, Event.isPassing]

/-- Such a retryer may also look at a clock, one that does not fail. -/
theorem ignores_letsPass (passes : p.layer.LetsPass) (steady : p.layer.clock.IsSteady)
    (attempt : Attempt) : p.Ignores call attempt true := by
  intro l
  have consults (elapsed : Option Int) :
      (p.consult call attempt elapsed fun _ => .decided .ignore .nothing).Yields l fun answer l' =>
        answer = .ok (.ignore, none) ∧
          ∃ elapsed, l.Aside p [.asked call.id p.index attempt elapsed true] l' := by
    have asked := Ledger.Aside.note (p := p) l (e := .asked call.id p.index attempt elapsed true) rfl
      fun _ _ => rfl
    exact ⟨rfl, _, asked.trans (.ask p _)⟩
  unfold ask
  rcases passes.retryer with scripted | timed
  · rw [scripted]
    exact consults none
  · obtain ⟨now, reads⟩ := steady (l.clocks p.layer.clock.key) l.now
    have peeked : p.layer.clock.peek l = .ok now := reads
    rw [timed]
    refine yields_get ?_
    rw [peeked]
    exact consults _

end Place

theorem Work.perform_ne_nothing {mode : Mode} {call : Nat} {act : Act} (some : act ≠ .nothing)
    (l : Ledger) : (perform mode call act).Yields l fun reply _ => reply ≠ .nothing := by
  cases act with
  | nothing => exact absurd rfl some
  | raise spec => exact Reply.noConfusion
  | again index =>
    refine yields_get ?_
    split
    · exact Reply.noConfusion
    · exact Reply.noConfusion
  | repeated serial =>
    refine yields_get ?_
    split
    · exact Reply.noConfusion
    · exact Reply.noConfusion
  | respondText status text => exact Reply.noConfusion
  | respond status stream how =>
    refine yields_after fun id l₁ => yields_after fun result l₂ => ?_
    cases result with
    | ok u => exact Reply.noConfusion
    | error e => exact Reply.noConfusion

theorem Call.transmit_ne_nothing {call : Call} (yields : ∀ n, (call.feed n).act ≠ .nothing)
    (mode : Mode) (l : Ledger) : (call.transmit mode l).1 ≠ .nothing := fun same =>
  perform_ne_nothing (yields _) _ (Reply.outOf_eq_nothing.mp same)

theorem sendThrough_ne_nothing {s : Setting} {call : Call}
    (yields : ∀ n, (call.feed n).act ≠ .nothing) (budget : Nat) (places : List Place) (l : Ledger) :
    (sendThrough s call budget places l).1 ≠ some .nothing := by
  cases places with
  | nil => exact fun same => Call.transmit_ne_nothing yields s.mode l (Option.some.inj same)
  | cons p inner => exact sendThrough_cons_ne_nothing budget inner l

section
variable {t : Place} {layers : List Layer} (steady : t.layer.SteadyAmong layers)
  (passes : t.layer.LetsPass) (s : Setting) {call : Call}
  (yields : ∀ n, (call.feed n).act ≠ .nothing) (budget : Nat)

include steady passes yields

theorem sends_letsPass {inner : List Layer} (among : ∀ layer ∈ inner, layer ∈ layers) :
    Send.Alike (insertion t layers) (Inserted t layers Passing) .never call call.feed
      (sendThrough s call (budget + 1) (t :: placesFrom (t.index + 1) inner))
      (sendThrough s call (budget + 1) (placesFrom t.index inner)) := by
  refine ⟨sendThrough_acts _ _, sendThrough_acts _ _, fun {ids l l'} tied => ?_⟩
  obtain ⟨start, ids', sent, sent', le, through, below, alike, stays, goes⟩ :=
    tied.hands steady passes.unforced true s budget among fun l reply sends => by
      have some : reply ≠ .nothing := by
        rintro rfl
        exact sendThrough_ne_nothing yields _ _ l sends
      exact ⟨some, fun start => Place.ignores_letsPass call passes steady.own _⟩
  have tied' : Inserted t layers Passing ids' sent.2 sent'.2 := by
    cases ends : sent.1 with
    | none =>
      refine (stays ends).weaken fun own same => ?_
      rw [same]
      exact (t.passing_entering call start).reverse.append tied.own
    | some reply =>
      obtain ⟨elapsed, handed⟩ := goes reply ends
      refine handed.weaken fun own same => ?_
      rw [same]
      have passing := (t.passing_entering call start).append
        (t.passing_handing call start elapsed true reply)
      exact passing.reverse.append tied.own
  rw [← through] at alike tied'
  rw [← below] at alike tied'
  exact .inl ⟨ids', le, alike, tied'⟩

/-- Stacks with the layer in and without it send alike. -/
theorem stacks_letPass {outer inner : List Layer} (index : t.index = outer.length)
    (among : ∀ layer ∈ outer ++ inner, layer ∈ layers) :
    Send.Alike (insertion t layers) (Inserted t layers Passing) .never call call.feed
      (sendThrough s call (budget + 1) (placesFrom 0 (outer ++ t.layer :: inner)))
      (sendThrough s call (budget + 1) (placesFrom 0 (outer ++ inner))) := by
  obtain ⟨above, under⟩ := List.forall_mem_append.mp among
  have kept : ∀ n < outer.length, 0 + n = skip t.index (0 + n) := by
    intro n lt
    rw [Nat.zero_add, skip_of_lt (index ▸ lt)]
  have below := sends_letsPass steady passes s yields budget under
  have sends := (Inserted.course steady Passing s call).sendThrough (budget + 1)
    (Inserted.shifted_places above kept) below
  rw [placesFrom_append, placesFrom_append, Nat.zero_add, placesFrom, ← index]
  exact sends

end

namespace Send.Alike

variable {k : Likeness} {R : Tie} {s : Setting} {call : Call} {places places' : List Place}
  (alike : ∀ budget, Send.Alike k R .never call call.feed (sendThrough s call (budget + 1) places)
    (sendThrough s call (budget + 1) places')) {ids : Naming} {l l' : Ledger} (tied : R ids l l')
  {budget : Nat} {reply : Reply} {l₁ : Ledger}

include alike tied

theorem second (h : s.send places budget call l = (some reply, l₁)) :
    ∃ budget' reply' l₁', s.send places' budget' call l' = (some reply', l₁') ∧
      ∃ ids', reply.Alike k ids' reply' ∧ R ids' l₁ l₁' := by
  obtain ⟨budget, through⟩ := Setting.sendThrough_of_send h
  have through := sendThrough_more s (Nat.le_succ budget) places l l₁ reply through
  obtain ⟨ids', sent, l₁', through', -, same, tied'⟩ := ((alike budget).tracks tied).likens.at through
  cases same with
  | some reply =>
    obtain ⟨budget', sent⟩ := Setting.send_of_sendThrough through'
    exact ⟨budget', _, l₁', sent, ids', reply, tied'⟩

theorem first (h : s.send places' budget call l' = (some reply, l₁)) :
    ∃ budget' reply' l₁', s.send places budget' call l = (some reply', l₁') ∧
      ∃ ids', reply'.Alike k ids' reply ∧ R ids' l₁' l₁ := by
  obtain ⟨budget, through⟩ := Setting.sendThrough_of_send h
  have through := sendThrough_more s (Nat.le_succ budget) places' l' l₁ reply through
  obtain ⟨ids', -, same, tied'⟩ := ((alike budget).tracks tied).likens
  rw [through] at same tied'
  cases sends : sendThrough s call (budget + 1) places l with
  | mk sent l₁' =>
  rw [sends] at same tied'
  cases same with
  | some reply =>
    obtain ⟨budget', sent⟩ := Setting.send_of_sendThrough sends
    exact ⟨budget', _, l₁', sent, ids', reply, tied'⟩

end Send.Alike

/-- What two stacks come to for the same requests, which differ in an additional layer that lets pass:
the same responses and failures, the latter with the same causes, and the same events and records but
for what the layer notes and counts by itself. -/
structure Transparent (t : Place) (layers : List Layer) (replies replies' : List Reply)
    (l l' : Ledger) : Prop where
  replies : List.Forall₂ (Reply.Alike (insertion t layers) fun a b => a = b) replies replies'
  ledgers : Inserted t layers Passing (fun a b => a = b) l l'

theorem Transparent.snoc {t : Place} {layers : List Layer} {replies replies' : List Reply}
    {reply reply' : Reply} {l l' l₁ l₁' : Ledger} {ids : Naming}
    (h : Transparent t layers replies replies' l l')
    (alike : reply.Alike (insertion t layers) ids reply')
    (tied : Inserted t layers Passing ids l₁ l₁') :
    Transparent t layers (replies ++ [reply]) (replies' ++ [reply']) l₁ l₁' := by
  have same : ids = fun a b => a = b := funext fun a => funext fun b => propext (tied.named a b)
  subst same
  exact ⟨List.rel_append h.replies (.cons alike .nil), tied⟩

/-- A layer whose retryer answers that every attempt is final is transparent wherever it stands: all
requests come to the same with it as without it, and the other layers do the same at the same times. -/
theorem passing_layer_transparent (s : Setting) {layer : Layer} (passes : layer.LetsPass)
    {outer inner : List Layer} (steady : layer.SteadyAmong (outer ++ inner)) {calls : List Call}
    (yields : ∀ call ∈ calls, ∀ n, (call.feed n).act ≠ .nothing) :
    (∀ replies l, Served s (placesFrom 0 (outer ++ layer :: inner)) calls {} replies l →
      ∃ replies' l', Served s (placesFrom 0 (outer ++ inner)) calls {} replies' l' ∧
        Transparent ⟨outer.length, layer⟩ (outer ++ inner) replies replies' l l') ∧
    ∀ replies' l', Served s (placesFrom 0 (outer ++ inner)) calls {} replies' l' →
      ∃ replies l, Served s (placesFrom 0 (outer ++ layer :: inner)) calls {} replies l ∧
        Transparent ⟨outer.length, layer⟩ (outer ++ inner) replies replies' l l' := by
  have start : Transparent ⟨outer.length, layer⟩ (outer ++ inner) [] [] {} {} :=
    ⟨.nil, .empty _ _ fun _ mem => absurd mem List.not_mem_nil⟩
  have alike {call} (mem : call ∈ calls) (budget : Nat) :=
    stacks_letPass (t := ⟨outer.length, layer⟩) steady passes s (yields call mem) budget rfl
      fun _ mem => mem
  refine ⟨fun replies l served => ?_, fun replies' l' served => ?_⟩
  · refine Served.follows (R := fun _ replies replies' l l' =>
      Transparent ⟨outer.length, layer⟩ (outer ++ inner) replies replies' l l') ?_ start served
    intro call mem done replies replies' l l' budget reply l₁ tied sent
    obtain ⟨budget', reply', l₁', sent', ids, same, tied'⟩ :=
      Send.Alike.second (alike mem) tied.ledgers sent
    exact ⟨budget', reply', l₁', sent', tied.snoc same tied'⟩
  · refine Served.follows (R := fun _ replies' replies l' l =>
      Transparent ⟨outer.length, layer⟩ (outer ++ inner) replies replies' l l') ?_ start served
    intro call mem done replies' replies l' l budget reply' l₁' tied sent
    obtain ⟨budget', reply, l₁, sent', ids, same, tied'⟩ :=
      Send.Alike.first (alike mem) tied.ledgers sent
    exact ⟨budget', reply, l₁, sent', tied.snoc same tied'⟩

def lenient : Layer := { oneRetry.layer with retryer := .scripted fun _ => .decided .ignore .nothing }

/-- The additional layer is below one that sends once more, so that it is passed twice. -/
theorem passing_layer_transparent_inside :
    ∃ replies l l',
      Served ⟨.blocking, .binary⟩ (placesFrom 0 ([oneRetry.layer] ++ [])) [brokenCall] {}
        [.response ⟨⟨0, 1⟩, 200⟩] l' ∧
      Served ⟨.blocking, .binary⟩ (placesFrom 0 ([oneRetry.layer] ++ [lenient])) [brokenCall] {}
        replies l ∧
      Transparent ⟨1, lenient⟩ [oneRetry.layer] replies [.response ⟨⟨0, 1⟩, 200⟩] l l' := by
  have yields : ∀ call ∈ [brokenCall], ∀ n, (call.feed n).act ≠ .nothing := by
    intro call mem n
    rw [List.mem_singleton.mp mem]
    show (if n = 0 then Act.respond _ _ _ else _) ≠ _
    split
    · exact Act.noConfusion
    · exact Act.noConfusion
  have passes : lenient.LetsPass := ⟨.inl rfl, rfl⟩
  have steady : lenient.SteadyAmong ([oneRetry.layer] ++ []) :=
    ⟨fun _ _ => ⟨none, rfl⟩, List.forall_mem_singleton.mpr fun _ _ _ => ⟨none, rfl⟩⟩
  obtain ⟨-, adds⟩ := passing_layer_transparent ⟨.blocking, .binary⟩ passes steady yields
  obtain ⟨l', served⟩ : ∃ l', Served ⟨.blocking, .binary⟩ (placesFrom 0 ([oneRetry.layer] ++ []))
      [brokenCall] {} [.response ⟨⟨0, 1⟩, 200⟩] l' := ⟨_, .request 2 rfl .nothing⟩
  obtain ⟨replies, l, served', transparent⟩ := adds _ _ served
  exact ⟨replies, l, l', served, served', transparent⟩

end HttpRetry
