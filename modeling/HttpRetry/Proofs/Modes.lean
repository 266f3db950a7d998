import HttpRetry.Proofs.Interrupts
import HttpRetry.Proofs.Likeness.Reading
import HttpRetry.Proofs.Likeness.Run
import HttpRetry.Proofs.Lockstep
import HttpRetry.Proofs.Stepwise.Converse
/-!
The two modes of sending. A stack does the same in both of them if each is given streams of its own
kind, and if nothing is raised that a routine of one of the modes would take for its end.
-/
set_option autoImplicit false

namespace HttpRetry

open Work

def Stream.inMode (mode : Mode) (s : Stream) : Stream := { s with mode }

def Body.inMode (mode : Mode) : Body → Body
  | .memory text => .memory text
  | .stream s => .stream (s.inMode mode)

def Response.inMode (mode : Mode) (r : Response) : Response := { r with body := r.body.inMode mode }

def Act.inMode (mode : Mode) : Act → Act
  | .respond status stream how => .respond status (stream.inMode mode) how
  | act => act

def Outcome.inMode (mode : Mode) (outcome : Outcome) : Outcome :=
  { outcome with act := outcome.act.inMode mode }

def Call.inMode (mode : Mode) (call : Call) : Call :=
  call.fed fun n => (call.feed n).inMode mode

def Ledger.inMode (mode : Mode) (l : Ledger) : Ledger :=
  { l with responses := l.responses.map fun entry => (entry.1, entry.2.inMode mode) }

/-- A stream that does not raise what a reader in either mode would take for its end. -/
def Stream.Neutral (s : Stream) : Prop :=
  ∀ spec, s.failure = some spec ∨ s.closeFailure = some spec →
    spec.kind.family ≠ .ending ∧ spec.kind.family ≠ .asyncEnding

def Body.Neutral : Body → Prop
  | .memory _ => True
  | .stream s => s.Neutral

def Act.Neutral : Act → Prop
  | .raise spec => spec.kind.family ≠ .ending
  | .respond _ stream _ => stream.Neutral
  | _ => True

def Layer.Neutral (layer : Layer) : Prop := ∀ {kind}, layer.Raises kind → kind.family ≠ .ending

def Call.Neutral (call : Call) : Prop := ∀ n, (call.feed n).act.Neutral

def Ledger.Neutral (l : Ledger) : Prop := ∀ entry ∈ l.responses, entry.2.body.Neutral

/-- Runs in which nothing comes up that would be taken for the end of a routine. -/
abbrev modal : Likeness := { endings := False }

/-- Two ledgers that differ in the kind of their streams only: each has those of its mode. -/
structure Modal (mode mode' : Mode) (l l' : Ledger) : Prop where
  responses : List.Forall₂ (EntryAlike fun _ => Response.Alike modal mode mode') l.responses
    l'.responses
  causes : l'.causes = l.causes
  now : l'.now = l.now
  clocks : l'.clocks = l.clocks
  asks : l'.asks = l.asks
  delays : l'.delays = l.delays
  calls : l'.calls = l.calls
  metrics : l'.metrics = l.metrics
  journal : l'.journal = l.journal

section
variable {mode mode' : Mode}

theorem Stream.Neutral.inMode {s : Stream} (h : s.Neutral) :
    (s.inMode mode).Alike modal mode mode' (s.inMode mode') where
  modes := .inl ⟨rfl, rfl⟩
  chunks := rfl
  failure := rfl
  closeFailure := rfl
  raises spec raised := ⟨fun ending => (h spec raised).1 ending, .inr (h spec raised).2⟩

theorem Body.Neutral.inMode {body : Body} (h : body.Neutral) :
    (body.inMode mode).Alike modal mode mode' (body.inMode mode') := by
  cases body with
  | memory text => exact .memory text
  | stream s => exact .stream (Stream.Neutral.inMode h)

theorem Act.Neutral.inMode {act : Act} (h : act.Neutral) :
    (act.inMode mode).Alike modal mode mode' (act.inMode mode') := by
  cases act with
  | raise spec => exact .raise spec h
  | nothing => exact .nothing
  | again index => exact .again index
  | repeated serial => exact .repeated serial
  | respondText status text => exact .respondText status text
  | respond status stream how => exact .respond status (Stream.Neutral.inMode h) how

theorem Ledger.Neutral.inMode {l : Ledger} (h : l.Neutral) :
    Modal mode mode' (l.inMode mode) (l.inMode mode') := by
  refine ⟨?_, rfl, rfl, rfl, rfl, rfl, rfl, rfl, rfl⟩
  show List.Forall₂ _ (l.responses.map _) (l.responses.map _)
  rw [List.forall₂_map_left_iff, List.forall₂_map_right_iff, List.forall₂_same]
  exact fun entry mem => ⟨rfl, rfl, (h entry mem).inMode, rfl, rfl, rfl, rfl, rfl, rfl⟩

theorem Response.Alike.inMode {k : Likeness} {r r' : Response} (h : r.Alike k mode mode' r') :
    r'.inMode mode = r.inMode mode := by
  obtain ⟨status, bodies, consumed, closed, loaded, reads, bytes, closes⟩ := h
  have body : r'.body.inMode mode = r.body.inMode mode := by
    rcases bodies.cases with ⟨text, body, body'⟩ | ⟨s, s', body, body', -, chunks, failure, closing, -⟩
    · rw [body, body']
    · simp only [body, body', Body.inMode, Stream.inMode, chunks, failure, closing]
  simp only [Response.inMode, body, status, consumed, closed, loaded, reads, bytes, closes]

namespace Modal

variable {l l' : Ledger}

theorem inMode (h : Modal mode mode' l l') : l'.inMode mode = l.inMode mode := by
  have responses : (l'.responses.map fun entry => (entry.1, entry.2.inMode mode)) =
      l.responses.map fun entry => (entry.1, entry.2.inMode mode) := by
    have entries := h.responses
    generalize l.responses = known at entries
    generalize l'.responses = known' at entries
    induction entries with
    | nil => rfl
    | cons first _ ih => rw [List.map_cons, List.map_cons, ih, first.same, first.alike.inMode]
  obtain ⟨-, causes, now, clocks, asks, delays, calls, metrics, journal⟩ := h
  simp only [Ledger.inMode, responses, causes, now, clocks, asks, delays, calls, metrics, journal]

theorem response? (h : Modal mode mode' l l') (id : ResponseId) :
    KnownAlike modal mode mode' (l.response? id) (l'.response? id) := lookup_alike h.responses id

theorem lockstep : Lockstep (Modal mode mode') where
  now h := h.now
  clocks h := h.clocks
  asks h := h.asks
  delays h := h.delays
  calls h := h.calls
  note h e := { h with journal := congrArg (e :: ·) h.journal }
  useClock h key f := { h with clocks := congrArg (updateAt · key f) h.clocks }
  ask h i := { h with asks := congrArg (updateAt · i (· + 1)) h.asks }
  delay h i := { h with delays := congrArg (updateAt · i (· + 1)) h.delays }
  advance h seconds := { h with now := congrArg (· + seconds) h.now }
  adjustCall h call f := { h with calls := congrArg (updateAt · call f) h.calls }
  cause h id e := { h with causes := congrArg ((id, e) :: ·) h.causes }

theorem parallel (call : Nat) : Parallel modal call (Together (Modal mode mode')) :=
  lockstep.parallel trivial trivial rfl call

theorem build (h : Modal mode mode' l l') (call : Nat) {r r' : Response}
    (alike : r.Alike modal mode mode' r') : Modal mode mode' (l.build call r) (l'.build call r') := by
  have entry : EntryAlike (fun _ => Response.Alike modal mode mode')
      (⟨call, (l.calls call).built⟩, r) (⟨call, (l'.calls call).built⟩, r') :=
    ⟨by rw [h.calls], alike⟩
  exact { h with
    responses := List.rel_append h.responses (.cons entry .nil)
    calls := by simp only [Ledger.build, h.calls] }

variable (mode mode') in
theorem resends (call : Call) : Resends modal (Together (Modal mode mode')) mode mode' call where
  adjust tied id _ _ use :=
    ⟨tied.1, { tied.2 with
      responses := adjust_alike tied.2.responses fun r r' known known' => by
        have same := lookup_alike tied.2.responses id
        rw [known, known'] at same
        cases same with
        | some alike => exact alike.used use }⟩
  counted tied method decision :=
    ⟨tied.1, { tied.2 with metrics := congrArg (·.countAttempt method decision) tied.2.metrics }⟩
  drained tied := ⟨tied.1, { tied.2 with metrics := congrArg Metrics.countDrainError tied.2.metrics }⟩
  confined := call.confined_all
  sends tied := by rw [tied.2.calls]
  send tied := ⟨tied.1, lockstep.adjustCall tied.2 call.id _⟩
  built tied := by rw [tied.2.calls]
  build tied _ _ alike := by
    have after := tied.2.build call.id alike
    exact ⟨⟨tied.1, after⟩, after.response? _⟩
  listed tied _ index _ := by
    rw [← List.getElem?_map, ← List.getElem?_map,
      refs_alike tied.2.responses fun alike => Response.Alike.status alike]
  known tied serial := by
    rcases (tied.2.response? ⟨call.id, serial⟩).cases with ⟨known, known'⟩ | ⟨r, r', known, known', alike⟩
    · rw [known, known']
    · rw [known, known', Option.map_some, Option.map_some, alike.status]

variable (mode mode') in
theorem course (timer : Timer) (call : Call) (feed : Feed) :
    Course modal (Together (Modal mode mode')) .never ⟨mode, timer⟩ ⟨mode', timer⟩ call feed
      fun p p' => p' = p ∧ p.layer.Neutral where
  parallel := parallel call.id
  modes := False.elim
  layers := by
    rintro p _ ⟨rfl, neutral⟩
    have w := (resends mode mode' call).toReplays
    refine Place.alike_of_layer (parallel call.id) w rfl rfl (fun raised ending => neutral raised ending)
      (fun tied _ => by rw [tied.2.asks]) (fun tied _ _ => lockstep.reads tied.2 neutral)
      (fun tied _ _ => by rw [tied.2.delays]) (fun tied _ _ _ _ times => ?_) fun tied _ _ alike => ?_
    · obtain ⟨rfl, rfl⟩ := times trivial
      exact ⟨tied.1, { tied.2 with metrics := congrArg (Metrics.observeDelay · _) tied.2.metrics }⟩
    · exact Place.likens_release (parallel call.id) w False.elim rfl rfl alike
        (fun r _ => tied.2.response? r.id) tied
  enters := by
    rintro p _ ⟨rfl, neutral⟩ ids l l' tied
    refine (Place.likens_enter (parallel call.id) False.elim rfl tied rfl (fun tied => ?_)
      fun tied => lockstep.reads tied.2 neutral).tracks
    exact Place.likens_binds (parallel call.id) rfl rfl tied
  stays := False.elim

/-- What a call comes to in one mode, it comes to in the other. -/
theorem send (h : Modal mode mode' l l') {timer : Timer} {places : List Place}
    (layers : ∀ p ∈ places, p.layer.Neutral) {call : Call} (feed : call.Neutral) {budget : Nat}
    {reply : Reply} {l₁ : Ledger}
    (sent : (Setting.mk mode timer).send places budget (call.inMode mode) l = (some reply, l₁)) :
    ∃ budget' l₁', (Setting.mk mode' timer).send places budget' (call.inMode mode') l' =
      (some reply, l₁') ∧ Modal mode mode' l₁ l₁' := by
  obtain ⟨budget, through⟩ := Setting.sendThrough_of_send sent
  let feed' : Feed := fun n => (call.feed n).inMode mode'
  have c := course mode mode' timer (call.inMode mode) feed'
  have transmits : Transmits modal (Together (Modal mode mode')) ⟨mode, timer⟩ ⟨mode', timer⟩
      (call.inMode mode) feed' :=
    (resends mode mode' (call.inMode mode)).likens_transmit (parallel call.id) False.elim
      fun n => ⟨rfl, (feed n).inMode⟩
  have same : List.Forall₂ (fun p p' : Place => p' = p ∧ p.layer.Neutral) places places :=
    List.forall₂_same.mpr fun p mem => ⟨rfl, layers p mem⟩
  have sends := c.sendThrough budget same (sendThrough_nil_alike budget transmits)
  rw [List.append_nil] at sends
  have started : Together (Modal mode mode') (fun a b => a = b) l l' := ⟨fun _ _ => Iff.rfl, h⟩
  obtain ⟨ids, sent', l₁', through', -, alike, named, after⟩ := (sends.tracks started).likens.at through
  obtain rfl := Sent.Alike.eq trivial (fun a b => (named a b).mp) alike
  obtain ⟨budget', sent'⟩ := Setting.send_of_sendThrough through'
  exact ⟨budget', l₁', sent', after⟩

end Modal

end

/-- Requests made one after another, each when the one before has come to its end, and what they
come to. -/
inductive Served (s : Setting) (places : List Place) :
    List Call → Ledger → List Reply → Ledger → Prop
  | nothing {l : Ledger} : Served s places [] l [] l
  | request {call : Call} {later : List Call} {l l₁ l' : Ledger} {reply : Reply}
    {replies : List Reply} (budget : Nat) (sent : s.send places budget call l = (some reply, l₁))
    (rest : Served s places later l₁ replies l') :
    Served s places (call :: later) l (reply :: replies) l'

/-- Requests through a stack come to the same replies in both modes, each given streams of its own
kind, as long as no part of a layer and no send raises or gives a failure that would end a routine,
and no stream raises one that would end a reader. They leave the same trace, counters, causes of
failures, clock readings and time, and responses that were read and closed alike. Apart from that the
clocks, retryers, delayers, sends and streams may fail in any way. -/
theorem modes_agree (mode mode' : Mode) (timer : Timer) {places : List Place}
    (layers : ∀ p ∈ places, p.layer.Neutral) {calls : List Call} (feeds : ∀ call ∈ calls, call.Neutral)
    {l l₁ : Ledger} (streams : l.Neutral) {replies : List Reply}
    (served : Served ⟨mode, timer⟩ places (calls.map (·.inMode mode)) (l.inMode mode) replies l₁) :
    ∃ l₁', Served ⟨mode', timer⟩ places (calls.map (·.inMode mode')) (l.inMode mode') replies l₁' ∧
      l₁'.trace = l₁.trace ∧ l₁'.metrics = l₁.metrics ∧ l₁'.inMode mode = l₁.inMode mode := by
  have lockstep : ∀ l₀ l₀' : Ledger, Modal mode mode' l₀ l₀' →
      Served ⟨mode, timer⟩ places (calls.map (·.inMode mode)) l₀ replies l₁ →
      ∃ l₁', Served ⟨mode', timer⟩ places (calls.map (·.inMode mode')) l₀' replies l₁' ∧
        Modal mode mode' l₁ l₁' := by
    clear served
    induction calls generalizing replies with
    | nil =>
      rintro l₀ l₀' related ⟨⟩
      exact ⟨l₀', .nothing, related⟩
    | cons call later ih =>
      rintro l₀ l₀' related (_ | ⟨budget, sent, rest⟩)
      obtain ⟨budget', l₂', sent', after⟩ := related.send layers (feeds call List.mem_cons_self) sent
      obtain ⟨l₁', rest', last⟩ :=
        ih (fun call mem => feeds call (List.mem_cons_of_mem _ mem)) _ _ after rest
      exact ⟨l₁', .request budget' sent' rest', last⟩
  obtain ⟨l₁', served', related⟩ := lockstep _ _ streams.inMode served
  exact ⟨l₁', served', congrArg List.reverse related.journal, related.metrics, related.inMode⟩

def brokenCall : Call where
  id := 0
  request := { method := "GET", url := "http://example.test/" }
  feed := fun sent =>
    { act :=
        if sent = 0 then
          .respond 503 ⟨.blocking, [.filler 3], some (.of .runtimeError (some "broken")),
            some (.of .osError (some "reset"))⟩ .fresh
        else .respondText 200 "ok" }

theorem modes_agree_broken :
    ∃ l₁ l₁', Served ⟨.blocking, .binary⟩ [oneRetry] [brokenCall.inMode .blocking] {}
        [.response ⟨⟨0, 1⟩, 200⟩] l₁ ∧
      Served ⟨.suspending, .binary⟩ [oneRetry] [brokenCall.inMode .suspending] {}
        [.response ⟨⟨0, 1⟩, 200⟩] l₁' ∧
      l₁'.trace = l₁.trace := by
  have layers : ∀ p ∈ [oneRetry], p.layer.Neutral := by
    intro p mem kind raises
    obtain rfl := List.mem_singleton.mp mem
    cases raises with
    | clock fails => cases fails
    | @retryer answers asked spec own raises =>
      obtain rfl : .listed [.decided .retry .nothing, .decided .ignore .nothing] = answers := by
        rcases own with own | own
        · exact Retryer.scripted.inj own
        · cases own
      rcases asked with _ | _ | asked
      · simp [Answer.listed] at raises
      · simp [Answer.listed] at raises
      · obtain rfl : .of .indexError (some "retryer script exhausted") = spec := by
          simpa [Answer.listed] using raises
        exact Family.noConfusion
    | delayer own => cases own
    | forced own => cases own
  have feeds : ∀ call ∈ [brokenCall], call.Neutral := by
    intro call mem n
    obtain rfl := List.mem_singleton.mp mem
    show Act.Neutral (if n = 0 then _ else _)
    split
    · rintro spec (raised | raised)
      · cases raised
        exact ⟨Family.noConfusion, Family.noConfusion⟩
      · cases raised
        exact ⟨Family.noConfusion, Family.noConfusion⟩
    · trivial
  obtain ⟨l₁, served⟩ : ∃ l₁, Served ⟨.blocking, .binary⟩ [oneRetry]
      ([brokenCall].map (·.inMode .blocking)) (({} : Ledger).inMode .blocking)
      [.response ⟨⟨0, 1⟩, 200⟩] l₁ := ⟨_, .request 2 rfl .nothing⟩
  obtain ⟨l₁', served', same, -⟩ := modes_agree .blocking .suspending .binary layers feeds
    (fun _ mem => by cases mem) served
  exact ⟨l₁, l₁', served, served', same⟩

def endingRetryer : Place :=
  { oneRetry with
    layer := { oneRetry.layer with
      retryer := .scripted fun _ => .raises (.of .stopIteration (some "no more")) } }

def servedCall : Call where
  id := 0
  request := { method := "GET", url := "http://example.test/" }
  feed := fun _ => { act := .respondText 200 "ok" }

/-- A routine that is a coroutine is not left by the failure that would end it: it reaches the caller
in one mode, and in the other an error of the program's state in its place. -/
theorem modes_differ_on_endings :
    let sent := fun mode : Mode =>
      ((Setting.mk mode .binary).send [endingRetryer] 4 (servedCall.inMode mode) {}).1
    sent .blocking = some (.raised (.raised (.fresh 0 0) .stopIteration "no more")) ∧
      sent .suspending = some (.raised (.turned (.fresh 0 0) "coroutine raised StopIteration"
        (.raised (.fresh 0 0) .stopIteration "no more"))) ∧
      sent .blocking ≠ sent .suspending := by
  intro sent
  refine ⟨rfl, rfl, fun same => ?_⟩
  exact Failure.noConfusion (Reply.raised.inj (Option.some.inj same))

end HttpRetry
