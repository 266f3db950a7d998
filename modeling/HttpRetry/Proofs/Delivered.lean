import HttpRetry.Proofs.Apart
import HttpRetry.Proofs.Interrupts
import HttpRetry.Proofs.Untouched.Steps
set_option autoImplicit false

namespace HttpRetry

open Work

def Call.asking (call : Call) (l : Ledger) : Ledger :=
  { (l.note (.sent call.id call.request)).adjustCall call.id fun c => { c with sends := c.sends + 1 }
    with now := l.now + (call.feed (l.calls call.id).sends).advance }

namespace Call

variable {call : Call} {mode : Mode} {l l' : Ledger} {r : ResponseRef}

theorem transmit_apply (call : Call) (mode : Mode) (l : Ledger) :
    call.transmit mode l = (do
      return (← perform mode call.id (call.feed (l.calls call.id).sends).act).outOf mode.routine)
        (call.asking l) := rfl

theorem built_asking (call : Call) (l : Ledger) :
    ((call.asking l).calls call.id).built = (l.calls call.id).built := by
  simp [asking, Ledger.adjustCall, Ledger.note]

theorem response?_asking (call : Call) (l : Ledger) (id : ResponseId) :
    (call.asking l).response? id = l.response? id := rfl

def nextId (call : Call) (l : Ledger) : ResponseId := ⟨call.id, (l.calls call.id).built⟩

theorem response?_nextId (numbered : l.Numbered) : l.response? (call.nextId l) = none :=
  numbered (call.nextId l) (Nat.le_refl _)

theorem response?_built (numbered : l.Numbered) (r : Response) :
    ((call.asking l).build call.id r).response? (call.nextId l) = some r := by
  have free : l.response? (call.nextId l) = none := response?_nextId numbered
  rw [Ledger.response?_build, built_asking, response?_asking, free]
  simp [nextId]

theorem transmit_text (mode : Mode) {status : Int} {text : String}
    (act : (call.feed (l.calls call.id).sends).act = .respondText status text) :
    call.transmit mode l = (.response ⟨call.nextId l, status⟩,
      (call.asking l).build call.id (.ofText status text)) := by
  rw [transmit_apply, act, nextId, ← built_asking]
  rfl

theorem transmit_stream {status : Int} {stream : Stream} {how : Preparation}
    (act : (call.feed (l.calls call.id).sends).act = .respond status stream how)
    (sent : call.transmit mode l = (.response r, l')) : r = ⟨call.nextId l, status⟩ := by
  rw [transmit_apply, act, perform, bind_apply, bind_apply, bind_apply] at sent
  have id : (addResponse call.id (.ofStream status stream) (call.asking l)).1 = call.nextId l := by
    rw [nextId, ← built_asking]
    rfl
  rw [id] at sent
  cases prepared : (prepare mode call.id (call.nextId l) how
    (addResponse call.id (.ofStream status stream) (call.asking l)).2).1 with
  | ok u =>
    rw [prepared] at sent
    cases sent
    rfl
  | error e =>
    rw [prepared] at sent
    cases sent

theorem transmit_fresh (mode : Mode) {status : Int} {stream : Stream}
    (act : (call.feed (l.calls call.id).sends).act = .respond status stream .fresh) :
    call.transmit mode l = (.response ⟨call.nextId l, status⟩,
      (call.asking l).build call.id (.ofStream status stream)) := by
  rw [transmit_apply, act, nextId, ← built_asking]
  rfl

end Call

/-- Whether a stream can be read to its end and closed in a mode. -/
structure Stream.Readable (mode : Mode) (s : Stream) : Prop where
  mode : s.mode = mode
  failure : s.failure = none
  closeFailure : s.closeFailure = none

def Response.readOut (status : Int) (stream : Stream) : Response :=
  ((Response.ofStream status stream).drawn stream.chunks).shut.kept

section
variable {mode : Mode} {l : Ledger} {id : ResponseId} {r : Response} {stream : Stream}

theorem close_readable (known : l.response? id = some r) (streamed : r.body = .stream stream)
    (readable : stream.Readable mode) (opened : r.closed = false) (call : Nat) :
    close mode call id l =
      (.ok (), (l.adjustResponse id .shut).note (.streamClosed call id r.reads r.bytes)) := by
  unfold close
  rw [get_apply, known]
  simp only [streamed, readable.mode, opened, readable.closeFailure, ne_eq, not_true_eq_false,
    if_false, Bool.false_eq_true]
  rfl

theorem iterate_readable {status : Int} (known : l.response? id = some (.ofStream status stream))
    (readable : stream.Readable mode) (call : Nat) :
    iterate mode call none none id l =
      (.ok (), ((l.adjustResponse id (.drawn stream.chunks)).adjustResponse id .shut).note
        (.streamClosed call id stream.chunks.length (totalSize stream.chunks))) := by
  have drawn : (l.adjustResponse id (.drawn stream.chunks)).response? id =
      some ((Response.ofStream status stream).drawn stream.chunks) := by simp [known]
  have closes := close_readable drawn rfl readable rfl call
  have ends : iterate mode call none none id l =
      (do return (← close mode call id).mapError (Failure.outOf mode.reader) : Work (Except Failure Unit))
        (l.adjustResponse id (.drawn stream.chunks)) := by
    unfold iterate
    rw [get_apply, known]
    simp only [Response.ofStream, takeChunks, readable.mode, readable.failure, ne_eq,
      not_true_eq_false, if_false, Bool.false_eq_true]
    rfl
  rw [ends, bind_apply, closes]
  simp only [Response.drawn, Response.ofStream, Nat.zero_add]
  rfl

/-- Reading a response that nobody has begun to read takes all of its body, in order. -/
theorem read_readable {status : Int} (known : l.response? id = some (.ofStream status stream))
    (readable : stream.Readable mode) (call : Nat) :
    (read mode call id).Yields l fun result l' =>
      result = .ok () ∧ l'.response? id = some (.readOut status stream) ∧
        l'.journal = .streamClosed call id stream.chunks.length (totalSize stream.chunks) ::
          l.journal := by
  have iterates := iterate_readable known readable call
  have reads : read mode call id l =
      (.ok (), ((((l.adjustResponse id (.drawn stream.chunks)).adjustResponse id .shut).note
        (.streamClosed call id stream.chunks.length (totalSize stream.chunks))).adjustResponse id
          .kept)) := by
    unfold Work.read
    rw [get_apply, known]
    have unread : (Response.ofStream status stream).loaded = false := rfl
    simp only [unread, Bool.false_eq_true, if_false]
    rw [bind_apply, iterates]
    rfl
  unfold Yields
  rw [reads]
  refine ⟨rfl, ?_, rfl⟩
  simp [known, Response.readOut]

end

/-- What a call receives with a response: its last send brought it, no layer has read or closed it
or any other since, and one that was built for this send is as it was built. -/
structure Delivered (mode : Mode) (call : Call) (r : ResponseRef) (before sent after : Ledger) :
    Prop where
  sends : call.transmit mode before = (.response r, sent)
  last : ∃ later, after.journal = later ++ sent.journal ∧ ∀ e ∈ later, e.isSend = false
  untouched : after.responses = sent.responses
  text : ∀ status text,
    (call.feed (before.calls call.id).sends).act = .respondText status text →
    r = ⟨call.nextId before, status⟩ ∧ before.response? r.id = none ∧
      after.response? r.id = some (.ofText status text)
  stream : ∀ status stream how,
    (call.feed (before.calls call.id).sends).act = .respond status stream how →
    r = ⟨call.nextId before, status⟩ ∧ before.response? r.id = none
  fresh : ∀ status stream,
    (call.feed (before.calls call.id).sends).act = .respond status stream .fresh →
    after.response? r.id = some (.ofStream status stream)
  readable : ∀ status stream,
    (call.feed (before.calls call.id).sends).act = .respond status stream .fresh →
    stream.Readable mode → (read mode call.id r.id).Yields after fun result l =>
      result = .ok () ∧ l.response? r.id = some (.readOut status stream) ∧
        l.journal = .streamClosed call.id r.id stream.chunks.length (totalSize stream.chunks) ::
          after.journal

theorem delivered {mode : Mode} {call : Call} {r : ResponseRef} {l₀ l₁ l' : Ledger}
    (numbered : l₀.Numbered) (sends : call.transmit mode l₀ = (.response r, l₁))
    (quiet : l₁.Quiet l') : Delivered mode call r l₀ l₁ l' := by
  have fresh : ∀ status stream,
      (call.feed (l₀.calls call.id).sends).act = .respond status stream .fresh →
      l'.response? r.id = some (.ofStream status stream) := by
    intro status stream act
    have transmits := Call.transmit_fresh mode act
    rw [sends] at transmits
    cases transmits
    rw [quiet.response?]
    exact call.response?_built numbered _
  refine ⟨sends, quiet.journal, quiet.responses, ?_, ?_, fresh, ?_⟩
  · intro status text act
    have transmits := Call.transmit_text mode act
    rw [sends] at transmits
    cases transmits
    refine ⟨rfl, Call.response?_nextId numbered, ?_⟩
    rw [quiet.response?]
    exact call.response?_built numbered _
  · intro status stream how act
    have same := Call.transmit_stream act sends
    subst same
    exact ⟨rfl, Call.response?_nextId numbered⟩
  · intro status stream act readable
    exact read_readable (fresh status stream act) readable call.id

/-- In every run of calls on a stack, whatever the retryers, the delayers and the streams do: a
response that a call ends with is the one that its last send brought, and is as it was brought; a
fresh one whose stream can be read reads back to all of its body. A call is never ended with a
response by being cancelled, nor in a stack with a layer that forces an error. -/
theorem responses_delivered_untouched (s : Setting) (places : List Place) (tasks : List Task)
    (moves : List Move) (waiting : ∀ t ∈ tasks, t.stage = .waiting) :
    (runMoves s places moves tasks).Yields {} fun tasks' l =>
      (∀ call budget r l', s.send places budget call l = (some (.response r), l') →
        ∃ before sent, l.trace <+: before.trace ∧
          Delivered s.mode call r before sent l') ∧
      (∀ t ∈ tasks', t.isEnded = false → ∀ r l',
        t.advance s places l = (.ended (.response r), l') →
        ∃ sent, Delivered s.mode t.call r l sent l') ∧
      (∀ t ∈ tasks', t.isEnded = false → ∀ r, (t.cancel s l).1 ≠ .ended (.response r)) ∧
      ((∃ p ∈ places, p.layer.forced.isSome) →
        (∀ call budget r, (s.send places budget call l).1 ≠ some (.response r)) ∧
        ∀ t ∈ tasks', ∀ r, t.stage ≠ .ended (.response r)) := by
  have numbered : Ledger.Numbered {} := fun _ _ => rfl
  have on : ∀ t ∈ tasks, t.stage.On places := by
    intro t mem
    rw [waiting t mem]
    trivial
  refine (runMoves_reaches moves numbered on).mono fun tasks' l reached => ?_
  obtain ⟨numbered, on⟩ := reached
  have sends : ∀ call budget r l', s.send places budget call l = (some (.response r), l') →
      (∀ p ∈ places, p.layer.forced = none) ∧
        ∃ l₀ l₁, Changes call (fun _ => True) (.round true) l l₀ ∧
          call.transmit s.mode l₀ = (.response r, l₁) ∧ l₁.Quiet l' := by
    intro call budget r l' h
    obtain ⟨budget, through⟩ := Setting.sendThrough_of_send h
    exact sendThrough_response through
  have barred : (∃ p ∈ places, p.layer.forced.isSome) → ¬ ∀ p ∈ places, p.layer.forced = none := by
    rintro ⟨p, mem, forces⟩ unforced
    rw [unforced p mem] at forces
    cases forces
  refine ⟨?_, ?_, ?_, ?_⟩
  · intro call budget r l' h
    obtain ⟨-, l₀, l₁, before, sent, quiet⟩ := sends call budget r l' h
    exact ⟨l₀, l₁, before.trace_isPrefix, delivered (before.numbered numbered) sent quiet⟩
  · intro t mem going r l' ends
    obtain ⟨-, l₁, sent, quiet⟩ := Task.advance_response (on t mem) going ends
    exact ⟨l₁, delivered numbered sent quiet⟩
  · exact fun t _ going r => Task.cancel_ne_response going
  · intro forces
    refine ⟨fun call budget r h => ?_, fun t mem r ended => ?_⟩
    · exact barred forces (sends call budget r _ (Prod.ext h rfl)).1
    · have known := on t mem
      rw [ended] at known
      exact barred forces (known r rfl)

def brokenStream : Stream := ⟨.blocking, [.filler 3], some (.of .runtimeError (some "broken")), none⟩

def okStream : Stream := ⟨.blocking, [.text "o", .text "k"], none, none⟩

def answeredCall : Call where
  id := 0
  request := { method := "GET", url := "http://example.test/" }
  feed := fun sent =>
    { act := if sent = 0 then .respond 503 brokenStream .fresh else .respond 200 okStream .fresh }

theorem responses_delivered_untouched_answered :
    ∃ after, (Setting.mk .blocking .binary).send [oneRetry] 2 answeredCall {} =
        (some (.response ⟨⟨0, 1⟩, 200⟩), after) ∧
      (Work.read .blocking 0 ⟨0, 1⟩).Yields after fun result l =>
        result = .ok () ∧ ∃ r, l.response? ⟨0, 1⟩ = some r ∧ r.content = ['o', 'k'] := by
  have waiting : ∀ t ∈ ([] : List Task), t.stage = .waiting := fun _ h => absurd h List.not_mem_nil
  obtain ⟨sends, -⟩ := responses_delivered_untouched ⟨.blocking, .binary⟩ [oneRetry] [] [] waiting
  obtain ⟨after, ends⟩ : ∃ after, (Setting.mk .blocking .binary).send [oneRetry] 2 answeredCall {} =
      (some (.response ⟨⟨0, 1⟩, 200⟩), after) := ⟨_, rfl⟩
  obtain ⟨before, sent, -, delivered⟩ := sends answeredCall 2 ⟨⟨0, 1⟩, 200⟩ after ends
  have act : (answeredCall.feed (before.calls answeredCall.id).sends).act =
      .respond 200 okStream .fresh := by
    by_cases first : (before.calls answeredCall.id).sends = 0
    · have built := (delivered.stream 503 brokenStream .fresh (by rw [first]; rfl)).1
      cases congrArg ResponseRef.status built
    · exact if_neg first
  have reads := delivered.readable 200 okStream act ⟨rfl, rfl, rfl⟩
  exact ⟨after, ends, reads.mono fun result l h => ⟨h.1, _, h.2.1, rfl⟩⟩

end HttpRetry
