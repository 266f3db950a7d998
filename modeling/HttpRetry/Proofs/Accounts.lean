import HttpRetry.Proofs.Delays
import HttpRetry.Proofs.Histogram
import HttpRetry.Proofs.Independence
import HttpRetry.Proofs.Prompt
set_option autoImplicit false

namespace HttpRetry

/-- The decision that a retryer came to when it was asked, with the method of the request. Those of
layers that keep no counts do not count. -/
def Event.decided (layers : List Layer) (earlier : List Event) : Event → Option (String × Decision)
  | .asked _ i attempt _ _ =>
    if measuring layers i then do
      let layer ← layers[i]?
      let decision ← layer.retryer.decision? attempt (earlier.countP (Event.isListed i))
      return (attempt.request.method, decision)
    else none
  | _ => none

def decisions (layers : List Layer) : List Event → List (String × Decision)
  | [] => []
  | e :: earlier => (e.decided layers earlier).toList ++ decisions layers earlier

def Event.duration? (timer : Timer) (layers : List Layer) : Event → Option Rat
  | .delayed _ i _ began ended => if measuring layers i then some (timer.taken began ended) else none
  | _ => none

def durations (timer : Timer) (layers : List Layer) (journal : List Event) : List Rat :=
  journal.flatMap fun e => (e.duration? timer layers).toList

/-- The metrics are those of the journal. -/
structure Accounted (timer : Timer) (layers : List Layer) (metrics : Metrics)
    (journal : List Event) : Prop where
  attempts : ∀ method decision, metrics.attemptCount method decision =
    (decisions layers journal).count (method, decision)
  drainErrors : metrics.drainErrors = journal.countP (Event.drainErrors layers)
  delay : metrics.delay = .ofDurations (durations timer layers journal)

theorem Event.drainErrors_logged (layers : List Layer) (c i : Nat) (entry : LogEntry) :
    (Event.logged c i entry).drainErrors layers =
      (measuring layers i && entry.notice.isDrainError) := by
  obtain ⟨sink, request, notice⟩ := entry
  cases notice <;> simp [drainErrors, Notice.isDrainError]

theorem Retryer.Gives.decision? {retryer : Retryer} {attempt : Attempt} {asked : Nat}
    {decision : Decision} {error : Option Failure}
    (gives : retryer.Gives attempt asked decision error) :
    retryer.decision? attempt asked = some decision := by
  cases retryer with
  | standard policy => simp [Retryer.decision?, gives.1]
  | scripted answers =>
    obtain ⟨⟨source, answer⟩, -⟩ := gives
    simp [Retryer.decision?, answer, Answer.decision?]
  | timed answers =>
    obtain ⟨⟨source, answer⟩, -⟩ := gives
    simp [Retryer.decision?, answer, Answer.decision?]

namespace Accounted

variable {timer : Timer} {layers : List Layer} {calls : List Call} {m : Metrics}
  {j : List Event} {l : Ledger} {p : Place} {call : Call} {attempt : Attempt} {e : Event}

theorem cons (accounted : Accounted timer layers m j) (decided : e.decided layers j = none)
    (drains : e.drainErrors layers = false) (duration : e.duration? timer layers = none) :
    Accounted timer layers m (e :: j) := by
  constructor
  · intro method decision
    simp [decisions, decided, accounted.attempts]
  · simp [drains, accounted.drainErrors]
  · simp [durations, duration, accounted.delay]

theorem asides {asides : List Event} (aside : ∀ e ∈ asides, e.isAside = true)
    (accounted : Accounted timer layers m j) : Accounted timer layers m (asides ++ j) := by
  induction asides with
  | nil => exact accounted
  | cons e rest ih =>
    obtain ⟨first, rest⟩ := List.forall_mem_cons.mp aside
    cases e <;> simp [Event.isAside] at first <;> exact (ih rest).cons rfl rfl rfl

theorem report (accounted : Accounted timer layers m j) {n : Notice} (other : n.isDrainError = false)
    (p : Place) (call : Call) :
    Accounted timer layers m (.logged call.id p.index (p.entry call n) :: j) := by
  apply accounted.cons rfl
  · simp [Event.drainErrors_logged, other]
  · rfl

theorem reports (accounted : Accounted timer layers m j) {ns : List Notice}
    (other : ∀ n ∈ ns, n.isDrainError = false) (p : Place) (call : Call) :
    Accounted timer layers m
      ((ns.map fun n => .logged call.id p.index (p.entry call n)).reverse ++ j) := by
  apply p.reports_keep call ns _ accounted
  intro n mem j accounted
  exact accounted.report (other n mem) p call

theorem unanswered {elapsed : Option Int} {scripted : Bool} (hp : p.In layers)
    (silent : p.layer.retryer.decision? attempt (j.countP (Event.isListed p.index)) = none)
    (accounted : Accounted timer layers m j) :
    Accounted timer layers m (.asked call.id p.index attempt elapsed scripted :: j) := by
  have found : layers[p.index]? = some p.layer := hp
  apply accounted.cons
  · simp [Event.decided, found, silent]
  · rfl
  · rfl

theorem asked (elapsed : Option Int) (scripted : Bool) {decision : Decision} (hp : p.In layers)
    (own : attempt.request = call.request)
    (gives : p.layer.retryer.decision? attempt (j.countP (Event.isListed p.index)) = some decision)
    (accounted : Accounted timer layers m j) :
    Accounted timer layers (if p.layer.settings.measures then
        m.countAttempt call.request.method decision else m)
      (.asked call.id p.index attempt elapsed scripted :: j) := by
  have found : layers[p.index]? = some p.layer := hp
  constructor
  · intro method decision'
    rw [m.attemptCount_counted, accounted.attempts]
    cases measures : p.layer.settings.measures
    · simp [decisions, Event.decided, hp.measuring, measures]
    · simp [decisions, Event.decided, hp.measuring, measures, found, gives, own, List.count_cons]
  · cases p.layer.settings.measures <;>
      simpa [Event.drainErrors, Metrics.countAttempt] using accounted.drainErrors
  · cases p.layer.settings.measures <;> exact accounted.delay

theorem failingDrain (hp : p.In layers) (count : Nat) (e : Failure)
    (accounted : Accounted timer layers m j) :
    Accounted timer layers (if p.layer.settings.measures then m.countDrainError else m)
      (.logged call.id p.index (p.entry call (.drainError count e)) :: j) := by
  constructor
  · intro method decision
    cases p.layer.settings.measures <;> exact accounted.attempts method decision
  · cases measures : p.layer.settings.measures <;>
      simp [Event.drainErrors_logged, hp.measuring, measures, Notice.isDrainError,
        Metrics.countDrainError, accounted.drainErrors]
  · cases p.layer.settings.measures <;> exact accounted.delay

theorem delayed (hp : p.In layers) (began ended : Rat) (accounted : Accounted timer layers m j) :
    Accounted timer layers (if p.layer.settings.measures then
        m.observeDelay (timer.between began ended) else m)
      (.delayed call.id p.index attempt began ended :: j) := by
  rw [timer.between_eq]
  constructor
  · intro method decision
    cases p.layer.settings.measures <;> exact accounted.attempts method decision
  · cases p.layer.settings.measures <;>
      simpa [Event.drainErrors, Metrics.observeDelay] using accounted.drainErrors
  · cases measures : p.layer.settings.measures <;>
      simp [durations, Event.duration?, hp.measuring, measures, Metrics.observeDelay,
        Histogram.ofDurations, accounted.delay]

end Accounted

@[simp] theorem Place.metrics_leaving (p : Place) (call : Call) (reply : Reply) (l : Ledger) :
    (p.leaving call reply l).metrics = l.metrics := rfl

@[simp] theorem Attempt.metrics_blaming (attempt : Attempt) (error : Failure) (l : Ledger) :
    (attempt.blaming error l).metrics = l.metrics := by
  unfold blaming
  split
  · split <;> rfl
  · rfl

theorem Place.metrics_answered (p : Place) (call : Call) (attempt : Attempt) (elapsed : Option Int)
    (decision : Decision) (error : Option Failure) (l : Ledger) :
    (p.answered call attempt elapsed decision error l).metrics =
      if p.layer.settings.measures then l.metrics.countAttempt call.request.method decision
      else l.metrics := by
  simp [answered, answering, Place.measured_eq, Ledger.note, foldl_logged, asking]

/-- Each step counts what it does, and nothing else. -/
theorem Takes.accounted {layers : List Layer} {calls : List Call} {s : Setting} {call : Call}
    {pt pt' : Point} {l l' : Ledger} (takes : Takes s call pt l pt' l')
    (through : pt.Through layers) (owns : pt.Owns call) (reckoned : l.Reckoned layers calls)
    (accounted : Accounted s.timer layers l.metrics l.journal) :
    Accounted s.timer layers l'.metrics l'.journal := by
  cases takes with
  | pause unmoved =>
    obtain ⟨asides, journal, aside⟩ := unmoved.journal
    rw [journal, unmoved.metrics]
    exact accounted.asides aside
  | enter reads => exact accounted.cons rfl rfl rfl
  | refuse fails => exact (accounted.cons rfl rfl rfl).cons rfl rfl rfl
  | transmit => exact accounted.cons rfl rfl rfl
  | interrupted interrupt => exact (accounted.cons rfl rfl rfl).cons rfl rfl rfl
  | @raised f outer inner e attempt l plain fits faults =>
    have received : Accounted s.timer layers l.metrics (.received call.id f.place.index (.raised e) ::
      l.journal) := accounted.cons rfl rfl rfl
    exact received.report rfl f.place call
  | received unraised fits faults => exact accounted.cons rfl rfl rfl
  | @unanswered f outer inner attempt elapsed e l silent =>
    rw [reckoned.asks] at silent
    exact accounted.unanswered through.head.2.1 silent
  | @answered f outer inner attempt elapsed decision error l gives =>
    have decided := gives.decision?
    rw [reckoned.asks] at decided
    have asked := accounted.asked elapsed f.place.layer.retryer.isScripted through.head.2.1
      (owns f outer attempt rfl rfl).request decided
    have quiet : ∀ n ∈ f.place.layer.retryer.remarks attempt decision error,
        n.isDrainError = false := by
      intro n mem
      obtain ⟨_, rfl⟩ | ⟨_, -, rfl⟩ := Retryer.of_mem_remarks mem <;> rfl
    rw [Place.metrics_answered, Place.journal_answered]
    exact (asked.reports quiet f.place call).cons rfl rfl rfl
  | release rejected has => exact accounted.cons rfl rfl rfl
  | tolerate swallowed =>
    rw [Place.journal_failingDrain]
    simpa [Place.failingDrain, Place.measured_eq, Place.logged, Ledger.note] using
      accounted.failingDrain through.head.2.1 _ _
  | breakOff kept => exact accounted.cons rfl rfl rfl
  | reraise => exact accounted.cons rfl rfl rfl
  | settle settles => exact accounted.cons rfl rfl rfl
  | @abort f outer inner attempt error e l raises =>
    rw [Place.journal_leaving, Attempt.journal_blaming, Place.metrics_leaving,
      Attempt.metrics_blaming]
    exact (accounted.report rfl f.place call).cons rfl rfl rfl
  | delay delays => exact accounted.report rfl _ call
  | work works => exact accounted.cons rfl rfl rfl
  | fail fails => exact (accounted.cons rfl rfl rfl).cons rfl rfl rfl
  | done =>
    rw [Place.journal_delayed]
    simpa [Place.delayed, Place.measured_eq, Ledger.note] using
      accounted.delayed through.head.2.1 _ _
  | announce => exact accounted.report rfl _ call
  | thrown rests interrupt => exact accounted.cons rfl rfl rfl
  | _ => exact accounted

theorem Reached.accounted {s : Setting} {layers : List Layer} {calls : List Call}
    {initial : List (FailureId × Failure)} {points : Nat → Point} {l : Ledger}
    (distinct : (calls.map (·.id)).Nodup)
    (reached : Reached s (placesFrom 0 layers) calls initial points l) :
    Accounted s.timer layers l.metrics l.journal := by
  induction reached with
  | start => exact ⟨fun _ _ => rfl, rfl, rfl⟩
  | aside _ unmoved ih =>
    obtain ⟨asides, journal, aside⟩ := unmoved.journal
    rw [journal, unmoved.metrics]
    exact ih.asides aside
  | step before mem takes ih =>
    exact takes.accounted (before.through _) (before.owns distinct _ mem)
      (before.reckoned distinct) ih

structure Ledger.Balances (timer : Timer) (layers : List Layer) (calls : List Call) (l : Ledger) :
    Prop where
  /-- Attempts are the answers of retryers that are decisions, by method and decision. -/
  attempts : ∀ method decision, l.metrics.attemptCount method decision =
    (decisions layers l.journal).count (method, decision)
  drainErrors : l.metrics.drainErrors = l.journal.countP (Event.drainErrors layers)
  delays : l.metrics.delay.total = (durations timer layers l.journal).length
  /-- The sum that is kept and shown, a binary fraction as all sums on the way are. -/
  time : l.metrics.delay.sum = .sumOf (durations timer layers l.journal)
  buckets : l.metrics.delay.cumulative =
    Histogram.bounds.map (fun bound => (durations timer layers l.journal).countP (· ≤ bound)) ++
      [(durations timer layers l.journal).length]
  /-- A delayer that came back had been asked and did not fail; it is measured from the report of
  the wait to the time that has passed then. -/
  waited : ∀ c i attempt began ended earlier,
    .delayed c i attempt began ended :: earlier <:+ l.journal →
      Worked layers calls c i attempt began earlier ∧ ended = elapsed layers calls earlier
  /-- A delayer that was asked comes back, unless the call leaves the layer. -/
  resolves : Always Resolves l.journal
  /-- What interrupts a send is put to no retryer. -/
  interrupted : ∀ c i e later earlier, l.journal = later ++ .received c i (.raised e) :: earlier →
    e.isInterrupt = true → ∃ rest, later = rest ++ [.left c i (.raised e)]

/-- In every run of calls on a stack, whatever fails and whichever calls are cancelled, the metrics
account for what happened in the layers that keep counts, and for nothing else. -/
theorem metrics_account_for_runs (s : Setting) (layers : List Layer) (tasks : List Task)
    (ms : List Move) (initial : List (FailureId × Failure))
    (waiting : ∀ t ∈ tasks, t.stage = .waiting)
    (distinct : ((callsOf tasks ms).map (·.id)).Nodup) :
    (runMoves s (placesFrom 0 layers) ms tasks).Yields { causes := initial } fun _ l =>
      l.Balances s.timer layers (callsOf tasks ms) := by
  refine (runMoves_reached s _ tasks ms initial waiting distinct).mono fun tasks' l moved => ?_
  obtain ⟨points, reached, -⟩ := moved
  have accounted := reached.accounted distinct
  constructor
  · exact accounted.attempts
  · exact accounted.drainErrors
  · rw [accounted.delay, Histogram.total_ofDurations]
  · rw [accounted.delay, Histogram.sum_ofDurations]
  · rw [accounted.delay, Histogram.cumulative_ofDurations]
  · intro c i attempt began ended earlier happened
    exact (reached.delays distinct).at happened c i attempt began ended rfl
  · exact reached.resolves.1
  · intro c i e later earlier split interrupt
    obtain ⟨_, rest, left, rfl⟩ := reached.leaves distinct split fun next forces =>
      ⟨.raised e, forces e rfl interrupt, rfl⟩
    exact ⟨rest, left⟩

def uncounted : Layer := { hasty with settings := { metricsEnabled := .checked false } }

/-- Two calls through two layers of which the inner one counts. Their waits overlap, and the second is
cancelled in its wait. -/
theorem metrics_account_for_runs_overlapping :
    let layers := [uncounted, fair]
    let tasks : List Task := busyPair.map fun call => ⟨call, none, .waiting⟩
    let moves : List Move := [.resume 0, .resume 1, .resume 0, .resume 1, .resume 0, .resume 1,
      .resume 0, .cancel 1, .resume 0]
    let run := runMoves ⟨.suspending, .binary⟩ (placesFrom 0 layers) moves tasks {}
    (∀ t ∈ tasks, t.stage = .waiting) ∧ ((callsOf tasks moves).map (·.id)).Nodup ∧
      run.2.Balances .binary layers (callsOf tasks moves) ∧
      run.2.metrics.attempts = [(("GET", .retry), 2), (("GET", .ignore), 1)] ∧
      run.2.metrics.delay.sum = .finite false (2 ^ 52) (-52) ∧
      run.2.metrics.delay.cumulative = [0, 0, 0, 0, 1, 1, 1, 1, 1, 1, 1] := by
  intro layers tasks moves run
  have waiting : ∀ t ∈ tasks, t.stage = .waiting := by simp [tasks]
  have distinct : ((callsOf tasks moves).map (·.id)).Nodup := by decide
  have balances := metrics_account_for_runs ⟨.suspending, .binary⟩ layers tasks moves [] waiting
    distinct
  exact ⟨waiting, distinct, balances, by decide +kernel, by decide +kernel, by decide +kernel⟩

end HttpRetry
