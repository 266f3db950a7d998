import HttpRetry.Proofs.Likeness.Reading
import HttpRetry.Proofs.Likeness.Run
import HttpRetry.Proofs.Modes
import HttpRetry.Proofs.Passing
/-!
A stack with one layer more. What the two stacks do is compared but for what the additional layer
does by itself.
-/
set_option autoImplicit false

namespace HttpRetry

open Work

/-- The place of a layer once another one is put in at `k`. -/
def skip (k i : Nat) : Nat := if i < k then i else i + 1

theorem skip_of_lt {k i : Nat} (h : i < k) : skip k i = i := if_pos h

theorem skip_of_le {k i : Nat} (h : k ≤ i) : skip k i = i + 1 := if_neg (Nat.not_lt.mpr h)

theorem skip_ne (k i : Nat) : skip k i ≠ k := by
  unfold skip
  split
  · omega
  · omega

theorem skip_injective {k i j : Nat} (h : skip k i = skip k j) : i = j := by
  unfold skip at h
  split at h
  · split at h
    · exact h
    · omega
  · split at h
    · omega
    · omega

/-- Whether a clock shows the same at the same time, however it was used before. -/
def Clock.IsPure (clock : Clock) : Prop := ∀ use use' now, clock.dial use now = clock.dial use' now

/-- The clock of a layer never fails, nor do those of others that are the same one. -/
structure Layer.SteadyAmong (layer : Layer) (others : List Layer) : Prop where
  own : layer.clock.IsSteady
  shared : ∀ other ∈ others, other.clock.key = layer.clock.key → other.clock.IsSteady

/-- With another layer in, the others read its clock more often and have other places. -/
abbrev insertion (t : Place) (layers : List Layer) : Likeness :=
  { dated := ∀ layer ∈ layers, layer.clock.key = t.layer.clock.key → layer.clock.IsPure
    layer := skip t.index }

theorem Event.Alike.layer? {k : Likeness} {ids : Naming} {e e' : Event} (h : e.Alike k ids e') :
    e.layer? = e'.layer?.map k.layer := by
  cases h with
  | sent => rfl
  | streamClosed => rfl
  | transportClosed => rfl
  | _ => simp only [Event.layer?, Option.map_some, *]

namespace Ledger

def eventsAt (l : Ledger) (k : Nat) : List Event := l.journal.filter (·.layer? = some k)

def eventsOff (l : Ledger) (k : Nat) : List Event := l.journal.filter (·.layer? ≠ some k)

end Ledger

/-- Two ledgers that differ in what one layer, which the second stack lacks, has done by itself: its
events, of which `P` says what is known, the readings of its clock, the state of its retryer and the
attempts it has counted. Start times differ only where a clock is shared that depends on how it was
used. -/
structure Inserted (t : Place) (layers : List Layer) (P : List Event → Prop) (ids : Naming)
    (l l' : Ledger) : Prop where
  named : ∀ a b, ids a b ↔ a = b
  own : P (l.eventsAt t.index)
  others : List.Forall₂ (Event.Alike (insertion t layers) ids) (l.eventsOff t.index) l'.journal
  responses : l'.responses = l.responses
  causes : List.Forall₂ (fun c c' : FailureId × Failure =>
    c'.1 = c.1 ∧ c.2.Alike (insertion t layers) ids c'.2) l.causes l'.causes
  now : l'.now = l.now
  clocks : ∀ key, key ≠ t.layer.clock.key → l'.clocks key = l.clocks key
  asks : ∀ i, l'.asks i = l.asks (skip t.index i)
  delays : ∀ i, l'.delays i = l.delays (skip t.index i)
  calls : l'.calls = l.calls
  drainErrors : l'.metrics.drainErrors = l.metrics.drainErrors
  delay : l'.metrics.delay = l.metrics.delay
  attempts : ∀ method decision, l.metrics.attemptCount method decision =
    l'.metrics.attemptCount method decision +
      (l.eventsAt t.index).countP (t.counts method decision)

theorem placesFrom_append (i : Nat) (outer inner : List Layer) :
    placesFrom i (outer ++ inner) = placesFrom i outer ++ placesFrom (i + outer.length) inner := by
  induction outer generalizing i with
  | nil => rfl
  | cons layer outer ih =>
    have rest : i + 1 + outer.length = i + (layer :: outer).length := by
      rw [List.length_cons]
      omega
    rw [List.cons_append, placesFrom, ih, rest]
    rfl

namespace Inserted

variable {t : Place} {layers : List Layer} {P P' : List Event → Prop} {ids : Naming}
  {l l' l₁ : Ledger}

theorem empty (t : Place) (layers : List Layer) (start : P []) :
    Inserted t layers P (fun a b => a = b) {} {} :=
  ⟨fun _ _ => Iff.rfl, start, .nil, rfl, .nil, rfl, fun _ _ => rfl, fun _ => rfl, fun _ => rfl, rfl,
    rfl, rfl, fun _ _ => rfl⟩

theorem weaken (tied : Inserted t layers P ids l l') (weaker : ∀ own, P own → P' own) :
    Inserted t layers P' ids l l' := { tied with own := weaker _ tied.own }

theorem aside (tied : Inserted t layers P ids l l') {own : List Event} (h : l.Aside t own l₁)
    (known : P' (own ++ l.eventsAt t.index)) : Inserted t layers P' ids l₁ l' := by
  have at_ : l₁.eventsAt t.index = own ++ l.eventsAt t.index := by
    unfold Ledger.eventsAt
    rw [h.journal, List.filter_append]
    congr 1
    exact List.filter_eq_self.mpr fun e mem => by simp [h.mine e mem]
  have off : l₁.eventsOff t.index = l.eventsOff t.index := by
    unfold Ledger.eventsOff
    rw [h.journal, List.filter_append]
    have none : own.filter (·.layer? ≠ some t.index) = [] :=
      List.filter_eq_nil_iff.mpr fun e mem => by simp [h.mine e mem]
    rw [none, List.nil_append]
  refine ⟨tied.named, at_ ▸ known, off ▸ tied.others, tied.responses.trans h.responses.symm,
    h.causes ▸ tied.causes, tied.now.trans h.now.symm, fun key other => ?_, fun i => ?_, fun i => ?_,
    tied.calls.trans h.calls.symm, tied.drainErrors.trans h.drainErrors.symm,
    tied.delay.trans h.delay.symm, fun method decision => ?_⟩
  · rw [tied.clocks key other, h.clocks key other]
  · rw [tied.asks, h.asks _ (skip_ne t.index i)]
  · rw [tied.delays, h.delays]
  · rw [h.attempts, tied.attempts, at_, List.countP_append]
    omega

theorem eventsAt_note {e : Event} (other : e.layer? ≠ some t.index) :
    (l.note e).eventsAt t.index = l.eventsAt t.index :=
  List.filter_cons_of_neg (by simpa using other)

theorem eventsOff_note {e : Event} (other : e.layer? ≠ some t.index) :
    (l.note e).eventsOff t.index = e :: l.eventsOff t.index :=
  List.filter_cons_of_pos (by simpa using other)

theorem note (tied : Inserted t layers P ids l l') {e e' : Event}
    (alike : e.Alike (insertion t layers) ids e') :
    Inserted t layers P ids (l.note e) (l'.note e') := by
  have other : e.layer? ≠ some t.index := by
    rw [alike.layer?]
    cases e'.layer? with
    | none => simp
    | some i => simpa using skip_ne t.index i
  have at_ := eventsAt_note (l := l) other
  have off := eventsOff_note (l := l) other
  exact { tied with
    own := at_ ▸ tied.own
    others := off ▸ .cons alike tied.others
    attempts := fun method decision => at_ ▸ tied.attempts method decision }

theorem updateAt_skip {f f' : Nat → Nat} {k : Nat} (same : ∀ i, f' i = f (skip k i)) (i j : Nat) :
    updateAt f' i (· + 1) j = updateAt f (skip k i) (· + 1) (skip k j) := by
  unfold updateAt
  by_cases eq : j = i
  · subst eq
    simp [same]
  · have ne : skip k j ≠ skip k i := fun h => eq (skip_injective h)
    simp [eq, ne, same]

theorem parallel (t : Place) (layers : List Layer) (P : List Event → Prop) (call : Nat) :
    Parallel (insertion t layers) call (Inserted t layers P) where
  shared tied _ := (tied.named _ _).mpr rfl
  unique tied a a' b b' ha hb := by
    rw [(tied.named _ _).mp ha, (tied.named _ _).mp hb]
  now _ _ _ _ tied := tied.now
  fresh := by
    intro ids l l' tied
    refine ⟨ids, fun h => h, ?_, ?_⟩
    · rw [tied.named, tied.calls]
    · exact { tied with calls := by simp only [Ledger.adjustCall, tied.calls] }
  note tied _ _ _ alike := tied.note alike
  useClock tied key f := { tied with
    clocks := fun key' other => by
      simp only [Ledger.adjustClock, updateAt, tied.clocks key' other] }
  ask tied i := { tied with asks := updateAt_skip tied.asks i }
  delay tied i := { tied with delays := updateAt_skip tied.delays i }
  advance tied seconds := { tied with now := by rw [tied.now] }
  cause tied id id' _ _ named alike :=
    { tied with causes := .cons ⟨((tied.named _ _).mp named).symm, alike⟩ tied.causes }

theorem reads (steady : t.layer.SteadyAmong layers) (tied : Inserted t layers P ids l l')
    {layer : Layer} (mem : layer ∈ layers) :
    ReadingAlike (insertion t layers) (layer.clock.peek l) (layer.clock.peek l') := by
  by_cases shared : layer.clock.key = t.layer.clock.key
  · have steady := steady.shared layer mem shared
    obtain ⟨time, reads⟩ := steady (l.clocks layer.clock.key) l.now
    obtain ⟨time', reads'⟩ := steady (l'.clocks layer.clock.key) l'.now
    unfold Clock.peek
    rw [reads, reads']
    refine .gives fun pure => ?_
    have same := pure layer mem shared (l.clocks layer.clock.key) (l'.clocks layer.clock.key) l.now
    rw [reads, ← tied.now, reads', Except.ok.injEq] at same
    exact same
  · have same : layer.clock.peek l' = layer.clock.peek l := by
      unfold Clock.peek
      rw [tied.clocks _ shared, tied.now]
    rw [same]
    exact .refl fun _ _ _ => trivial

theorem response? (tied : Inserted t layers P ids l l') (id : ResponseId) :
    l'.response? id = l.response? id := congrArg (List.lookup id) tied.responses

theorem resends (t : Place) (layers : List Layer) (P : List Event → Prop) (mode : Mode) (call : Call) :
    Resends (insertion t layers) (Inserted t layers P) mode mode call where
  adjust tied id _ f _ :=
    { tied with responses := by simp only [Ledger.adjustResponse, tied.responses] }
  counted := by
    intro ids l l' tied method decision
    refine { tied with attempts := fun method' decision' => ?_ }
    have count := l.metrics.attemptCount_counted true method decision method' decision'
    have count' := l'.metrics.attemptCount_counted true method decision method' decision'
    rw [if_pos rfl] at count count'
    rw [count, count', tied.attempts]
    exact Nat.add_right_comm ..
  drained tied := { tied with drainErrors := congrArg (· + 1) tied.drainErrors }
  confined := call.confined_all
  sends tied := by rw [tied.calls]
  send tied := { tied with calls := by simp only [Ledger.adjustCall, tied.calls] }
  built tied := by rw [tied.calls]
  build := by
    intro ids l l' tied r r' alike
    obtain rfl := alike.eq
    have responses : (l'.build call.id r').responses = (l.build call.id r').responses := by
      simp only [Ledger.build, tied.responses, tied.calls]
    refine ⟨{ tied with responses, calls := ?_ }, ?_⟩
    · simp only [Ledger.build, tied.calls]
    · exact .of_eq trivial (congrArg (List.lookup _) responses)
  listed tied n index _ := by rw [tied.responses]
  known tied serial := by rw [tied.response?]

structure Shifted (t : Place) (layers : List Layer) (p p' : Place) : Prop where
  index : p.index = skip t.index p'.index
  layer : p'.layer = p.layer
  mem : p.layer ∈ layers

theorem course (steady : t.layer.SteadyAmong layers) (P : List Event → Prop) (s : Setting)
    (call : Call) :
    Course (insertion t layers) (Inserted t layers P) .never s s call call.feed
      (Shifted t layers) where
  parallel := parallel t layers P call.id
  modes _ := rfl
  layers := by
    intro p p' shifted
    have h := parallel t layers P call.id
    have w := (resends t layers P s.mode call).toReplays
    refine Place.alike_of_layer h w shifted.index shifted.layer (fun _ _ => trivial)
      (fun tied _ => ?_) (fun tied _ _ => tied.reads steady shifted.mem) (fun tied delay _ => ?_)
      (fun tied _ _ _ _ times => ?_) fun tied _ _ alike => ?_
    · rw [tied.asks, shifted.index]
    · rw [tied.delays, shifted.index]
    · obtain ⟨rfl, rfl⟩ := times trivial
      exact { tied with delay := congrArg (Histogram.observe · _) tied.delay }
    · exact Place.likens_release h w (fun _ => rfl) shifted.index shifted.layer alike
        (fun r _ => .of_eq trivial (tied.response? r.id)) tied
  enters := by
    intro p p' shifted ids l l' tied
    have h := parallel t layers P call.id
    refine (Place.likens_enter h (fun _ => rfl) shifted.index tied (by rw [shifted.layer])
      (Place.likens_binds h shifted.index shifted.layer) fun tied => ?_).tracks
    rw [shifted.layer]
    exact tied.reads steady shifted.mem
  stays lost := lost.elim

theorem shifted_places {others : List Layer} (among : ∀ layer ∈ others, layer ∈ layers) {i j : Nat}
    (places : ∀ n < others.length, i + n = skip t.index (j + n)) :
    List.Forall₂ (Shifted t layers) (placesFrom i others) (placesFrom j others) := by
  induction others generalizing i j with
  | nil => exact .nil
  | cons layer inner ih =>
    obtain ⟨first, among⟩ := List.forall_mem_cons.mp among
    have rest : ∀ n < inner.length, i + 1 + n = skip t.index (j + 1 + n) := by
      intro n lt
      have next := places (n + 1) (Nat.succ_lt_succ lt)
      rw [Nat.add_assoc, Nat.add_assoc, Nat.add_comm 1 n]
      exact next
    exact .cons ⟨places 0 (Nat.zero_lt_succ _), rfl, first⟩ (ih among rest)

/-- The layers below the additional one, and the innermost transport, do alike. -/
theorem sends_below (steady : t.layer.SteadyAmong layers) (P : List Event → Prop) (s : Setting)
    (call : Call) (budget : Nat) {inner : List Layer} (among : ∀ layer ∈ inner, layer ∈ layers) :
    Send.Alike (insertion t layers) (Inserted t layers P) .never call call.feed
      (sendThrough s call budget (placesFrom (t.index + 1) inner))
      (sendThrough s call budget (placesFrom t.index inner)) := by
  have shifted : ∀ n < inner.length, t.index + 1 + n = skip t.index (t.index + n) := by
    intro n _
    rw [skip_of_le (Nat.le_add_right t.index n)]
    omega
  have transmits : Transmits (insertion t layers) (Inserted t layers P) s s call call.feed :=
    (resends t layers P s.mode call).likens_transmit (parallel t layers P call.id) (fun _ => rfl)
      (.refl trivial call.feed)
  have sends := (course steady P s call).sendThrough budget (shifted_places among shifted)
    (sendThrough_nil_alike budget transmits)
  rw [List.append_nil, List.append_nil] at sends
  exact sends

/-- Where the additional layer hands on what the send below it comes to, a send through it does as
the send below it, and what the layer notes is one passage. -/
theorem hands (steady : t.layer.SteadyAmong layers) (unforced : t.layer.forced = none)
    (scripted : Bool) (s : Setting) {call : Call} (budget : Nat) {inner : List Layer}
    (among : ∀ layer ∈ inner, layer ∈ layers)
    (ignores : ∀ l reply, (sendThrough s call (budget + 1)
        (placesFrom (t.index + 1) inner) l).1 = some reply → reply ≠ .nothing ∧
      ∀ start, t.Ignores call (reply.attempt start 0 call.request) scripted)
    (tied : Inserted t layers P ids l l') :
    ∃ start ids' sent sent', Subrelation ids ids' ∧
      sendThrough s call (budget + 1) (t :: placesFrom (t.index + 1) inner) l = sent ∧
      sendThrough s call (budget + 1) (placesFrom t.index inner) l' = sent' ∧
      Sent.Alike (insertion t layers) ids' sent.1 sent'.1 ∧
      (sent.1 = none → Inserted t layers (· = (t.entering call start).reverse ++ l.eventsAt t.index)
        ids' sent.2 sent'.2) ∧
      ∀ reply, sent.1 = some reply → ∃ elapsed, Inserted t layers
        (· = (t.entering call start ++ t.handing call start elapsed scripted reply).reverse ++
          l.eventsAt t.index) ids' sent.2 sent'.2 := by
  obtain ⟨start, l₁, enters, passes⟩ := sendThrough_handing unforced steady.own scripted s call
    budget (placesFrom (t.index + 1) inner) l
  have entered : Inserted t layers (· = (t.entering call start).reverse ++ l.eventsAt t.index) ids l₁
      l' := tied.aside enters rfl
  obtain ⟨ids', le, alike, tied'⟩ :=
    ((sends_below steady _ s call (budget + 1) among).tracks entered).likens
  cases sends : sendThrough s call (budget + 1) (placesFrom (t.index + 1) inner) l₁ with
  | mk sent l₂ =>
  rw [sends] at alike tied'
  obtain ⟨stays, goes⟩ := passes sent l₂ sends
  cases sent with
  | none => exact ⟨start, ids', _, _, le, stays rfl, rfl, alike, fun _ => tied', fun _ h => (by cases h)⟩
  | some reply =>
    obtain ⟨some, ignores⟩ := ignores l₁ reply (congrArg Prod.fst sends)
    obtain ⟨elapsed, l₃, through, handed⟩ := goes reply rfl some fun _ => ignores start
    have passage : (t.handing call start elapsed scripted reply).reverse ++ l₂.eventsAt t.index =
        (t.entering call start ++ t.handing call start elapsed scripted reply).reverse ++
          l.eventsAt t.index := by
      rw [tied'.own, List.reverse_append, List.append_assoc]
    refine ⟨start, ids', _, _, le, through, rfl, alike, fun h => (by cases h), fun reply' h => ?_⟩
    cases h
    exact ⟨elapsed, tied'.aside handed passage⟩

end Inserted

/-- If one stack follows another through every send, it follows it through all requests. -/
theorem Served.follows {s : Setting} {places places' : List Place}
    {R : List Call → List Reply → List Reply → Ledger → Ledger → Prop} {calls : List Call}
    (sends : ∀ call ∈ calls, ∀ {done replies replies' l l' budget reply l₁},
      R done replies replies' l l' → s.send places budget call l = (some reply, l₁) →
      ∃ budget' reply' l₁', s.send places' budget' call l' = (some reply', l₁') ∧
        R (done ++ [call]) (replies ++ [reply]) (replies' ++ [reply']) l₁ l₁')
    {l l' l₁ : Ledger} {replies : List Reply} (start : R [] [] [] l l')
    (served : Served s places calls l replies l₁) :
    ∃ replies' l₁', Served s places' calls l' replies' l₁' ∧ R calls replies replies' l₁ l₁' := by
  have goes : ∀ (later : List Call) {done replies₀ replies₀' l l' replies}, (∀ c ∈ later, c ∈ calls) →
      R done replies₀ replies₀' l l' → Served s places later l replies l₁ →
      ∃ replies' l₁', Served s places' later l' replies' l₁' ∧
        R (done ++ later) (replies₀ ++ replies) (replies₀' ++ replies') l₁ l₁' := by
    intro later
    induction later with
    | nil =>
      rintro done replies₀ replies₀' l l' replies - related ⟨⟩
      refine ⟨[], l', .nothing, ?_⟩
      rw [List.append_nil, List.append_nil, List.append_nil]
      exact related
    | cons call later ih =>
      rintro done replies₀ replies₀' l l' replies among related (_ | ⟨budget, sent, rest⟩)
      obtain ⟨budget', reply', l₂', sent', after⟩ :=
        sends call (among call List.mem_cons_self) related sent
      obtain ⟨replies', l₁', rest', last⟩ :=
        ih (fun c mem => among c (List.mem_cons_of_mem _ mem)) after rest
      refine ⟨reply' :: replies', l₁', .request budget' sent' rest', ?_⟩
      rw [List.append_assoc, List.append_assoc, List.append_assoc] at last
      exact last
  exact goes calls (fun _ mem => mem) start served

end HttpRetry
