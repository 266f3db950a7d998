import HttpRetry.Proofs.Draining
import HttpRetry.Proofs.Journal
import HttpRetry.Proofs.Passage.Layer
/-!
What a layer reports of a round: the lines, with their levels, texts and fields, that follow from what
the send came to, from the retryer's answer, from the release of the response and from what became of
the round. A round reports just these lines, whatever the state that it starts in.
-/
set_option autoImplicit false

namespace HttpRetry

open Work

structure Line where
  sink : Sink
  level : Level
  event : String
  fields : Members

def LogEntry.line (entry : LogEntry) : Line :=
  ⟨entry.sink, entry.notice.level, entry.notice.event, entry.fields⟩

namespace Verdict

def error? : Verdict → Option Failure
  | .finished reply => reply.error?
  | .again _ => none

def outOf (routine : Routine) : Verdict → Verdict
  | .finished reply => .finished (reply.outOf routine)
  | .again attempt => .again attempt

theorem outOf_eq_again {routine : Routine} {verdict : Verdict} {attempt : Attempt} :
    verdict.outOf routine = .again attempt ↔ verdict = .again attempt := by
  cases verdict <;> simp [outOf]

end Verdict

/-- What a layer makes of what a send came to. -/
structure Hearing where
  reply : Reply
  attempt : Attempt
  answer : Except Failure (Decision × Option Failure)
  /-- What reading and closing the response came to, as far as it had to be released. -/
  release : Except Failure Unit
  /-- What the round comes to, within the layer's routine. -/
  verdict : Verdict

/-- The retryer came to the decision, and no failure to release the response took its place. -/
def Hearing.follows (decision : Decision) (h : Hearing) : Bool :=
  match h.reply.isInterrupt, h.answer, tolerated h.release with
  | false, .ok (given, _), .ok () => given = decision
  | _, _, _ => false

namespace Hearing

variable {h : Hearing} {given : Decision} {error : Option Failure} {e : Failure}

theorem follows_answered (plain : h.reply.isInterrupt = false)
    (answered : h.answer = .ok (given, error)) (released : tolerated h.release = .ok ())
    (decision : Decision) : h.follows decision = decide (given = decision) := by
  simp [follows, plain, answered, released]

theorem follows_failed (failed : h.answer = .error e) (decision : Decision) :
    h.follows decision = false := by
  simp [follows, failed]

theorem follows_broken (broken : tolerated h.release = .error e) (decision : Decision) :
    h.follows decision = false := by
  simp [follows, broken]

theorem follows_interrupt (interrupt : h.reply.isInterrupt = true) (decision : Decision) :
    h.follows decision = false := by
  simp [follows, interrupt]

end Hearing

structure Hearing.Ends (h : Hearing) : Prop where
  again : ∀ attempt, h.verdict = .again attempt ↔ h.follows .retry = true ∧ attempt = h.attempt
  abort : h.follows .abort = true → ∃ e, h.verdict = .finished (.raised e)

/-- Where no answer is followed, the round is the last one. -/
theorem Hearing.ends_of_unfollowed {h : Hearing} {reply : Reply}
    (unfollowed : ∀ decision, h.follows decision = false) (finished : h.verdict = .finished reply) :
    h.Ends where
  again attempt := by simp [unfollowed, finished]
  abort := by simp [unfollowed]

namespace Place

/-- What releasing an attempt that was answered comes to: the failure of closing its response, or else
that of reading it. There may be nothing to release. -/
def emptied (p : Place) (mode : Mode) (call : Call) (attempt : Attempt)
    (answer : Except Failure (Decision × Option Failure)) (l : Ledger) : Except Failure Unit :=
  if attempt.passes answer then .ok ()
  else
    match attempt.response with
    | none => .ok ()
    | some r => discarded (p.drainedIn mode call r l).1 (p.closedIn mode call r l).1

def hearing (p : Place) (s : Setting) (call : Call) (start : Option Timestamp) (made : Nat)
    (reply : Reply) (l : Ledger) : Hearing :=
  let weighed := p.weighed call start made reply l
  { reply
    attempt := weighed.1.1
    answer := weighed.1.2
    release := p.emptied s.mode call weighed.1.1 weighed.1.2 weighed.2
    verdict := (p.judge s call start made reply (p.receiving call reply l)).1 }

section
variable (p : Place) (call : Call) (n : Nat)

def line (level : Level) (event : String) (more : Members) : Line :=
  ⟨p.layer.sink, level, event, ("method", .str call.request.method) ::
    ("url", .str call.request.url) :: ("attempt", .int n) :: more⟩

def naming (e : Failure) : Members := [("error_type", .str e.typeName), ("error", .str e.text)]

def openingLines : List Line := if n = 1 then [] else [p.line call n .debug "Retrying request" []]

def sendLines : Reply → List Line
  | .raised e => [p.line call n .info "Request error" (naming e)]
  | _ => []

def givingUpLines (attempt : Attempt) (decision : Decision) : List Line :=
  match p.layer.retryer, decision with
  | .standard policy, .abort => [⟨.standard, .debug, "Default retryer out of attempts",
      [("attempt", .int n), ("max_attempts", policy.shownCap.reported),
        ("status_code", Failure.optionalInt attempt.status?)]⟩]
  | _, _ => []

def answerLines (attempt : Attempt) : Except Failure (Decision × Option Failure) → List Line
  | .error _ => []
  | .ok (decision, none) => p.givingUpLines n attempt decision
  | .ok (decision, some e) => p.givingUpLines n attempt decision ++
      [p.line call n .info "Retryer error" (("decision", .str decision.value) :: naming e)]

def releaseLines : Except Failure Unit → List Line
  | .ok () => []
  | .error e =>
    if e.isSwallowed then
      [p.line call n .error "Error draining response body" (naming e)]
    else []

def abortLines (h : Hearing) : List Line :=
  if h.follows .abort then
    (h.verdict.error?.map fun e =>
      p.line call n .error "Aborting request" (naming e)).toList
  else []

def delayLines : List Line :=
  if p.layer.delay.isSome then [p.line call n .debug "Delaying before retry" []] else []

def pauseLines (h : Hearing) : List Line :=
  if h.follows .retry then p.delayLines call n else []

def concludingLines (h : Hearing) : List Line :=
  if h.reply.isInterrupt then []
  else p.sendLines call n h.reply ++ p.answerLines call n h.attempt h.answer ++
    (p.releaseLines call n h.release ++ p.abortLines call n h)

end

end Place

inductive Mark where
  | entered (start : Option Timestamp)
  | refused
  | received (reply : Reply)
  | told (line : Line)
  | left (reply : Reply)

def Event.mark? (call layer : Nat) : Event → Option Mark
  | .entered c i start => if call = c ∧ layer = i then some (.entered start) else none
  | .refused c i => if call = c ∧ layer = i then some .refused else none
  | .received c i reply => if call = c ∧ layer = i then some (.received reply) else none
  | .logged c i entry => if call = c ∧ layer = i then some (.told entry.line) else none
  | .left c i reply => if call = c ∧ layer = i then some (.left reply) else none
  | _ => none

def marks (call layer : Nat) (events : List Event) : List Mark :=
  (events.filterMap (Event.mark? call layer)).reverse

section
variable {c i : Nat} {e : Event} {events : List Event}

@[simp] theorem marks_nil : marks c i [] = [] := rfl

@[simp] theorem marks_append (later earlier : List Event) :
    marks c i (later ++ earlier) = marks c i earlier ++ marks c i later := by
  simp [marks]

@[simp] theorem marks_cons :
    marks c i (e :: events) = marks c i events ++ (e.mark? c i).toList := by
  rw [← List.singleton_append, marks_append]
  cases told : e.mark? c i <;> simp [marks, told]

theorem Event.mark?_foreign {e : Event} (still : e.concerns c = false) : e.mark? c i = none := by
  cases e <;> grind [Event.concerns, Event.isAside, Event.call, Event.mark?]

theorem AtRest.marks {news : List Event} (still : AtRest c news) : marks c i news = [] := by
  have none_ : news.filterMap (Event.mark? c i) = [] :=
    List.filterMap_eq_nil_iff.mpr fun e mem => Event.mark?_foreign (still e mem)
  simp [HttpRetry.marks, none_]

end

/-- From one state of the ledger to a later one, what events tell is all of one layer and one call. -/
def Ledger.Adds (c i : Nat) (ms : List Mark) (l l' : Ledger) : Prop :=
  ∃ news, l'.journal = news ++ l.journal ∧
    ∀ c' i', marks c' i' news = if c' = c ∧ i' = i then ms else []

namespace Ledger

variable {c i : Nat} {ms ms' : List Mark} {l l' l'' : Ledger} {e : Event}

namespace Adds

theorem of_same (h : l'.journal = l.journal) : l.Adds c i [] l' := ⟨[], h, by simp⟩

theorem refl (l : Ledger) : l.Adds c i [] l := of_same rfl

theorem trans (h : l.Adds c i ms l') (h' : l'.Adds c i ms' l'') : l.Adds c i (ms ++ ms') l'' := by
  obtain ⟨news, journal, told⟩ := h
  obtain ⟨news', journal', told'⟩ := h'
  refine ⟨news' ++ news, by rw [journal', journal, List.append_assoc], fun c' i' => ?_⟩
  rw [marks_append, told, told']
  split <;> simp

theorem congr (h : l.Adds c i ms l') (same : l''.journal = l'.journal) : l.Adds c i ms l'' := by
  simpa using h.trans (of_same same)

theorem silent (tells : ∀ c i, e.mark? c i = none) (l : Ledger) : l.Adds c i [] (l.note e) :=
  ⟨[e], rfl, fun c' i' => by simp [tells]⟩

theorem of_unmoved (h : l.Unmoved l') : l.Adds c i [] l' := by
  obtain ⟨asides, journal, aside⟩ := h.journal
  refine ⟨asides, journal, fun c' i' => ?_⟩
  rw [AtRest.marks fun e mem => Event.concerns_aside (aside e mem), ite_self]

theorem unmoved (h : l.Adds c i ms l') (still : l'.Unmoved l'') : l.Adds c i ms l'' := by
  simpa using h.trans (of_unmoved still)

theorem noted {m : Mark}
    (tells : ∀ c' i', e.mark? c' i' = if c' = c ∧ i' = i then some m else none) (l : Ledger) :
    l.Adds c i [m] (l.note e) := by
  refine ⟨[e], rfl, fun c' i' => ?_⟩
  rw [marks_cons, tells]
  split <;> rfl

theorem logged (p : Place) (call : Call) (n : Notice) (l : Ledger) :
    l.Adds call.id p.index [.told (p.entry call n).line] (p.logged call n l) :=
  noted (fun _ _ => rfl) l

end Adds

end Ledger

def Verdict.leaving (c i : Nat) : Verdict → List Event
  | .finished reply => [.left c i reply]
  | .again _ => []

namespace Place

variable {p : Place} {s : Setting} {call : Call} {start : Option Timestamp} {made : Nat} {l : Ledger}

theorem report_adds (n : Notice) :
    (p.report call n).Yields l fun _ l' => l.Adds call.id p.index [.told (p.entry call n).line] l' := by
  unfold Yields
  rw [report_eq]
  exact .logged p call n l

theorem reportError_adds {reply : Reply} :
    (p.reportError call made reply).Yields l fun _ l' =>
      l.Adds call.id p.index ((p.sendLines call (made + 1) reply).map .told) l' := by
  cases reply with
  | raised e => exact report_adds (.requestError (made + 1) e)
  | response r => exact .refl l
  | nothing => exact .refl l

theorem take_unmoved (attempt : Attempt) (answer : Answer) :
    (take call attempt answer).Yields l fun _ l' => l.Unmoved l' := by
  cases answer with
  | raises spec => exact .failing call.id l
  | foreign shown => exact .failing call.id l
  | decided decision source =>
    cases source with
    | nothing => exact .refl l
    | own => exact .refl l
    | given spec => exact .failing call.id l

theorem asked_adds (attempt : Attempt) (elapsed : Option Int) (scripted : Bool) (l : Ledger) :
    l.Adds call.id p.index [] (l.note (.asked call.id p.index attempt elapsed scripted)) :=
  .silent (fun _ _ => rfl) l

theorem consult_adds (attempt : Attempt) (elapsed : Option Int) (answers : Nat → Answer) :
    (p.consult call attempt elapsed answers).Yields l fun _ l' => l.Adds call.id p.index [] l' := by
  refine yields_get (yields_note (yields_modify ?_))
  refine (take_unmoved attempt _).mono fun answer l₁ unmoved => ?_
  refine Ledger.Adds.unmoved ?_ unmoved
  exact (asked_adds attempt elapsed true l).congr rfl

theorem ask_adds (attempt : Attempt) :
    (p.ask call attempt).Yields l fun answer l' => l.Adds call.id p.index (match answer with
      | .error _ => []
      | .ok (decision, _) => (p.givingUpLines attempt.count attempt decision).map .told) l' := by
  unfold ask givingUpLines
  cases p.layer.retryer with
  | standard policy =>
    refine yields_note ?_
    cases policy.decide attempt with
    | ignore => exact asked_adds attempt none false l
    | retry => exact asked_adds attempt none false l
    | abort =>
      refine yields_bind (report_adds (.outOfAttempts attempt.count policy.shownCap attempt.status?))
        fun _ l₁ told => ?_
      exact ((asked_adds attempt none false l).trans told).congr rfl
  | scripted answers =>
    refine (consult_adds attempt none answers).mono fun answer l' adds => ?_
    cases answer with
    | error e => exact adds
    | ok given => exact adds
  | timed answers =>
    refine yields_get ?_
    cases p.layer.clock.peek l with
    | error spec => exact .of_same rfl
    | ok now =>
      refine (consult_adds attempt (elapsed? now attempt.start) answers).mono fun answer l' adds => ?_
      cases answer with
      | error e => exact adds
      | ok given => exact adds

theorem decide_adds (attempt : Attempt) :
    (p.decide call attempt).Yields l fun answer l' =>
      l.Adds call.id p.index ((p.answerLines call attempt.count attempt answer).map .told) l' := by
  refine yields_bind (ask_adds attempt) fun answer l₁ asked => ?_
  rcases answer with e | ⟨decision, error⟩
  · exact asked
  · have mentions : (p.mention call attempt decision error).Yields l₁ fun _ l₂ =>
        l.Adds call.id p.index
          ((p.answerLines call attempt.count attempt (.ok (decision, error))).map .told) l₂ := by
      cases error with
      | none => exact asked
      | some e =>
        refine (report_adds (.retryerError attempt.count decision e)).mono fun _ l₂ told => ?_
        rw [answerLines, List.map_append]
        exact asked.trans told
    refine yields_bind mentions fun _ l₂ told => ?_
    have noted : l.Adds call.id p.index _ _ :=
      told.trans (.silent (e := .answered call.id p.index attempt decision) (fun _ _ => rfl) l₂)
    rw [List.append_nil] at noted
    exact noted.congr (Ledger.journal_measured ..)

variable (p call start made l) in
/-- A reply other than an interrupt is weighed as the attempt that it makes. -/
theorem weighed_adds (reply : Reply) :
    let w := p.weighed call start made reply l
    w.1.1.count = made + 1 ∧ (p.receiving call reply l).Adds call.id p.index
      ((p.sendLines call (made + 1) reply ++
        p.answerLines call (made + 1) w.1.1 w.1.2).map .told) w.2 := by
  have weighs : (p.weigh call start made reply).Yields (p.receiving call reply l)
      fun w l' => w.1.count = made + 1 ∧ (p.receiving call reply l).Adds call.id p.index
        ((p.sendLines call (made + 1) reply ++
          p.answerLines call (made + 1) w.1 w.2).map .told) l' := by
    refine yields_bind reportError_adds fun _ l₁ sent => ?_
    refine yields_bind (attemptOf_faults reply) fun attempt l₂ faults => ?_
    have count : attempt.count = made + 1 := faults.1.count
    refine yields_bind (decide_adds attempt) fun answer l₃ answered => ?_
    refine yields_pure ⟨count, ?_⟩
    rw [count] at answered
    rw [List.map_append]
    exact (sent.unmoved faults.2.2).trans answered
  exact weighs

theorem tolerate_adds (attempt : Attempt) (result : Except Failure Unit) :
    (p.tolerate call attempt result).Yields l fun result' l' => result' = tolerated result ∧
      l.Adds call.id p.index ((p.releaseLines call attempt.count result).map .told) l' := by
  unfold Yields
  refine ⟨tolerate_fst attempt result, ?_⟩
  cases result with
  | ok u => exact .refl l
  | error e =>
    cases swallowed : e.isSwallowed with
    | false =>
      rw [tolerate_snd swallowed]
      simpa [releaseLines, swallowed] using Ledger.Adds.refl l
    | true =>
      rw [tolerate_swallowed attempt swallowed]
      simp only [releaseLines, swallowed, if_true]
      exact (Ledger.Adds.logged p call (.drainError attempt.count e) l).congr
        (Ledger.journal_measured ..)

/-- A release comes to what emptying the response comes to, failures of the swallowed families aside. -/
theorem release_adds {mode : Mode} {attempt : Attempt}
    {answer : Except Failure (Decision × Option Failure)} (rejected : attempt.passes answer = false) :
    (p.release mode call attempt).Yields l fun result l' =>
      result = tolerated (p.emptied mode call attempt answer l) ∧
        l.Adds call.id p.index ((p.releaseLines call attempt.count
          (p.emptied mode call attempt answer l)).map .told) l' := by
  cases has : attempt.response with
  | none =>
    have empties : p.emptied mode call attempt answer l = .ok () := by simp [emptied, rejected, has]
    unfold release
    rw [has, empties]
    exact ⟨rfl, .refl l⟩
  | some r =>
    have empties : p.emptied mode call attempt answer l =
        discarded (p.drainedIn mode call r l).1 (p.closedIn mode call r l).1 := by
      simp [emptied, rejected, has]
    have discards := p.discard_unmoved mode call r (l.note (.releasing call.id p.index r.id))
    unfold Yields at discards ⊢
    rw [release_of_some has, empties]
    rw [discard_noted] at discards ⊢
    have begun : l.Adds call.id p.index [] (l.note (.releasing call.id p.index r.id)) :=
      .silent (fun _ _ => rfl) l
    obtain ⟨same, told⟩ : (p.tolerate call attempt _).Yields (p.closedIn mode call r l).2 _ :=
      tolerate_adds attempt (discarded (p.drainedIn mode call r l).1 (p.closedIn mode call r l).1)
    exact ⟨same, (begun.unmoved discards).trans told⟩

theorem resolve_adds {reply : Reply} (plain : reply.isInterrupt = false) (attempt : Attempt)
    (answer : Except Failure (Decision × Option Failure)) {release : Except Failure Unit}
    (released : tolerated release = .ok ()) :
    (p.resolve call attempt answer).Yields l fun verdict l' =>
      Hearing.Ends ⟨reply, attempt, answer, release, verdict⟩ ∧
        l.Adds call.id p.index ((p.abortLines call attempt.count
          ⟨reply, attempt, answer, release, verdict⟩).map .told) l' := by
  rcases answer with e | ⟨decision, error⟩
  · have follows := fun verdict => Hearing.follows_failed
      (h := ⟨reply, attempt, .error e, release, verdict⟩) rfl
    refine yields_pure ⟨Hearing.ends_of_unfollowed (follows _) rfl, ?_⟩
    simpa [abortLines, follows] using Ledger.Adds.refl l
  have follows := fun verdict => Hearing.follows_answered
    (h := ⟨reply, attempt, .ok (decision, error), release, verdict⟩) plain rfl released
  cases decision with
  | retry =>
    refine yields_pure ⟨⟨?_, ?_⟩, ?_⟩
    · simp [follows, eq_comm]
    · simp [follows]
    · simpa [abortLines, follows] using Ledger.Adds.refl l
  | ignore =>
    refine yields_bind (settle_unmoved attempt) fun reply' l₁ settled => yields_pure ⟨⟨?_, ?_⟩, ?_⟩
    · simp [follows]
    · simp [follows]
    · simpa [abortLines, follows] using Ledger.Adds.of_unmoved settled.2
  | abort =>
    refine yields_bind (p.abort_blaming attempt error) fun e l₁ blaming => ?_
    obtain ⟨l₀, unmoved, -, rfl⟩ := blaming
    refine yields_pure ⟨⟨?_, fun _ => ⟨e, rfl⟩⟩, ?_⟩
    · simp [follows]
    · have told := Ledger.Adds.logged p call (.aborting attempt.count e) l₀
      simp only [abortLines, follows, decide_true, if_true]
      exact ((Ledger.Adds.of_unmoved unmoved).trans told).congr (Attempt.journal_blaming ..)

/-- The failure of a release takes the place of all that would come of the answer. -/
theorem follow_adds {reply : Reply} (plain : reply.isInterrupt = false) (mode : Mode)
    (attempt : Attempt) (answer : Except Failure (Decision × Option Failure)) :
    (p.follow mode call attempt answer).Yields l fun verdict l' =>
      let h : Hearing := ⟨reply, attempt, answer, p.emptied mode call attempt answer l, verdict⟩
      h.Ends ∧ l.Adds call.id p.index ((p.releaseLines call attempt.count h.release ++
        p.abortLines call attempt.count h).map .told) l' := by
  cases passes : attempt.passes answer with
  | true =>
    have nothing : p.emptied mode call attempt answer l = .ok () := by simp [emptied, passes]
    rw [follow_of_passes passes, nothing]
    exact resolve_adds plain attempt answer rfl
  | false =>
    have releases : (p.release mode call attempt).Yields l _ := release_adds passes
    unfold Yields at releases ⊢
    rw [follow_of_rejected passes]
    generalize p.release mode call attempt l = released at releases ⊢
    obtain ⟨result, l₁⟩ := released
    obtain ⟨comes, told⟩ := releases
    cases result with
    | error e =>
      have follows := fun verdict => Hearing.follows_broken
        (h := ⟨reply, attempt, answer, p.emptied mode call attempt answer l, verdict⟩) comes.symm
      refine ⟨Hearing.ends_of_unfollowed (follows _) rfl, ?_⟩
      simpa [abortLines, follows] using told
    | ok u =>
      obtain ⟨ends, tells⟩ : (p.resolve call attempt answer).Yields l₁ _ :=
        resolve_adds plain attempt answer comes.symm
      refine ⟨ends, ?_⟩
      rw [List.map_append]
      exact told.trans tells

theorem finish_leaves (verdict : Verdict) :
    (p.finish s.mode call verdict).Yields l fun verdict' l' =>
      verdict' = verdict.outOf s.mode.routine ∧
        l'.journal = verdict'.leaving call.id p.index ++ l.journal := by
  cases verdict with
  | finished reply => exact ⟨rfl, rfl⟩
  | again attempt => exact ⟨rfl, rfl⟩

theorem judge_apply (start : Option Timestamp) (made : Nat) {reply : Reply}
    (plain : reply.isInterrupt = false) :
    p.judge s call start made reply (p.receiving call reply l) =
      p.follow s.mode call (p.weighed call start made reply l).1.1
        (p.weighed call start made reply l).1.2 (p.weighed call start made reply l).2 := by
  unfold judge
  rw [plain]
  rfl

variable (p s call start made l) in
/-- A round over a reply tells what it hears the reply as, and then ends the layer's part or goes on. -/
theorem conclude_adds (reply : Reply) :
    let h := p.hearing s call start made reply l
    (p.conclude s call start made reply).Yields l fun verdict l' =>
      h.Ends ∧ verdict = h.verdict.outOf s.mode.routine ∧
        ∃ l₁, (p.receiving call reply l).Adds call.id p.index
            ((p.concludingLines call (made + 1) h).map .told) l₁ ∧
          l'.journal = verdict.leaving call.id p.index ++ l₁.journal := by
  cases plain : reply.isInterrupt with
  | true =>
    cases reply with
    | response r => cases plain
    | nothing => cases plain
    | raised e =>
      have follows := Hearing.follows_interrupt (h := p.hearing s call start made (.raised e) l) plain
      have verdict : (p.hearing s call start made (.raised e) l).verdict = .finished (.raised e) := by
        simp [hearing, judge, plain]
        rfl
      unfold Yields
      rw [conclude_interrupt s start made plain]
      refine ⟨Hearing.ends_of_unfollowed follows verdict, ?_,
        p.receiving call (.raised e) l, ?_, rfl⟩
      · rw [verdict, Verdict.outOf, Reply.outOf, Failure.outOf_of_isInterrupt _ plain]
      · simpa [concludingLines, hearing, plain] using
          Ledger.Adds.refl (p.receiving call (.raised e) l)
  | false =>
    have weighs := p.weighed_adds call start made l reply
    unfold hearing Yields
    rw [conclude_apply s start made plain, judge_apply start made plain, bind_apply]
    generalize p.weighed call start made reply l = weighed at weighs
    obtain ⟨⟨attempt, answer⟩, l₁⟩ := weighed
    obtain ⟨count, weighed⟩ := weighs
    have follows : (p.follow s.mode call attempt answer).Yields l₁ _ :=
      follow_adds plain s.mode attempt answer
    unfold Yields at follows
    dsimp only at follows ⊢
    generalize p.follow s.mode call attempt answer l₁ = followed at follows
    obtain ⟨verdict, l₂⟩ := followed
    obtain ⟨ends, told⟩ := follows
    obtain ⟨left, journal⟩ : (p.finish s.mode call verdict).Yields l₂ _ := finish_leaves verdict
    refine ⟨ends, left, l₂, ?_, journal⟩
    have all := weighed.trans told
    rw [count] at all
    simpa [concludingLines, plain] using all

variable (p call l) in
theorem enter_adds :
    (p.enter s.mode call).Yields l fun entered l' => match entered with
      | .ok start => l.Adds call.id p.index [.entered start] l' ∧
          ∃ rest, l'.journal = .entered call.id p.index start :: rest
      | .error e => ∃ l₁ rest, l.Adds call.id p.index [.refused] l₁ ∧
          l₁.journal = .refused call.id p.index :: rest ∧
          l'.journal = .left call.id p.index (.raised e) :: l₁.journal := by
  have bound : l.Adds call.id p.index [] (p.bind call l).2 := .of_unmoved (p.bind_unmoved call l)
  refine yields_bind (P := fun _ l' => l' = (p.bind call l).2) rfl fun _ l₀ binds => ?_
  subst binds
  refine yields_get ?_
  cases p.layer.clock.peek (p.bind call l).2 with
  | error spec =>
    exact ⟨((p.useClock .failed (p.bind call l).2).2).note (.refused call.id p.index), _,
      (bound.congr rfl).trans (.noted (fun _ _ => rfl) _), rfl, rfl⟩
  | ok start =>
    refine ⟨bound.trans ?_, _, rfl⟩
    exact (Ledger.Adds.congr (.refl _) rfl).trans (.noted (fun _ _ => rfl) _)

variable (p call l) in
theorem delayWork_adds (delay : Delayer) (attempt : Attempt) :
    (p.delayWork s.mode delay call attempt).Yields l fun result l' => match result with
      | .ok () => l.Adds call.id p.index [] l'
      | .error e => ∃ l₁, l.Adds call.id p.index [] l₁ ∧
          l'.journal = .left call.id p.index (.raised e) :: l₁.journal := by
  have begun : l.Adds call.id p.index [] (l.note (.delaying call.id p.index attempt)) :=
    .silent (fun _ _ => rfl) l
  unfold delayWork
  refine yields_note (yields_get (yields_modify (yields_modify ?_)))
  cases (delay _).failure with
  | none => exact begun.congr rfl
  | some spec => exact ⟨_, begun, rfl⟩

end Place

end HttpRetry
