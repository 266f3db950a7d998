import HttpRetry.Round
set_option autoImplicit false

namespace HttpRetry

def Place.In (p : Place) (layers : List Layer) : Prop := layers[p.index]? = some p.layer

theorem Place.In.eq {layers : List Layer} {p p' : Place} (within : p.In layers)
    (within' : p'.In layers) (same : p.index = p'.index) : p = p' := by
  obtain ⟨index, layer⟩ := p
  obtain ⟨index', layer'⟩ := p'
  obtain rfl : index = index' := same
  obtain rfl : layer = layer' := Option.some.inj (within.symm.trans within')
  rfl

def measuring (layers : List Layer) (layer : Nat) :
    Bool := (layers[layer]?).any (·.settings.measures)

def Event.attempts (layers : List Layer) (method : String) (decision : Decision) : Event → Bool
  | .answered _ layer attempt d =>
    measuring layers layer && (attempt.request.method, d) == (method, decision)
  | _ => false

def Event.drainErrors (layers : List Layer) : Event → Bool
  | .logged _ layer ⟨_, _, .drainError ..⟩ => measuring layers layer
  | _ => false

structure Ledger.Tallied (layers : List Layer) (l : Ledger) : Prop where
  attempts : ∀ method decision, l.metrics.attemptCount method decision =
    l.journal.countP (Event.attempts layers method decision)
  drainErrors : l.metrics.drainErrors = l.journal.countP (Event.drainErrors layers)

theorem Metrics.attemptCount_counted (m : Metrics) (measures : Bool) (method : String)
    (decision : Decision) (method' : String) (decision' : Decision) :
    (if measures then m.countAttempt method decision else m).attemptCount method' decision' =
      m.attemptCount method' decision' +
        if measures && (method, decision) == (method', decision') then 1 else 0 := by
  cases measures with
  | false => simp
  | true =>
    by_cases key : (method', decision') = (method, decision)
    · cases key
      simp
    · have other := m.attemptCount_countAttempt_of_ne key
      have ne : ((method, decision) == (method', decision')) = false := by
        simpa using Ne.symm key
      simp [other, ne]

variable {layers : List Layer} {call : Call} {l : Ledger}

theorem Place.measured_eq (p : Place) (f : Metrics → Metrics) (l : Ledger) :
    p.measured f l =
      { l with metrics := if p.layer.settings.measures then f l.metrics else l.metrics } := by
  unfold measured
  split
  · rfl
  · rfl

theorem Place.In.measuring {p : Place} (hp : p.In layers) :
    measuring layers p.index = p.layer.settings.measures := by
  rw [HttpRetry.measuring, hp]
  rfl

namespace Ledger.Tallied

theorem add (tallied : l.Tallied layers) (e : Event) {metrics : Metrics}
    (attempts : ∀ method decision, metrics.attemptCount method decision =
      l.metrics.attemptCount method decision + if e.attempts layers method decision then 1 else 0)
    (drainErrors : metrics.drainErrors =
      l.metrics.drainErrors + if e.drainErrors layers then 1 else 0) :
    ({ l.note e with metrics } : Ledger).Tallied layers := by
  refine ⟨fun method decision => ?_, ?_⟩
  · show metrics.attemptCount method decision = (e :: l.journal).countP _
    rw [List.countP_cons, attempts, tallied.attempts]
  · show metrics.drainErrors = (e :: l.journal).countP _
    rw [List.countP_cons, drainErrors, tallied.drainErrors]

theorem note (tallied : l.Tallied layers) {e : Event}
    (attempts : ∀ method decision, e.attempts layers method decision = false)
    (drainErrors : e.drainErrors layers = false) : (l.note e).Tallied layers := by
  refine tallied.add e (fun method decision => ?_) ?_
  · simp [attempts]
  · simp [drainErrors]

theorem answered {p : Place} (hp : p.In layers) {attempt : Attempt}
    (own : attempt.request = call.request) (decision : Decision) (tallied : l.Tallied layers) :
    (p.measured (·.countAttempt call.request.method decision)
      (l.note (.answered call.id p.index attempt decision))).Tallied layers := by
  rw [Place.measured_eq]
  refine tallied.add _ (fun method d => ?_) ?_
  · simp only [Event.attempts, hp.measuring, own]
    exact l.metrics.attemptCount_counted p.layer.settings.measures call.request.method decision method d
  · show (if _ then l.metrics.countAttempt _ _ else l.metrics).drainErrors = l.metrics.drainErrors
    split
    · rfl
    · rfl

theorem drainError {p : Place} (hp : p.In layers) (sink : Sink) (request : Option Request)
    (count : Nat) (e : Failure) (tallied : l.Tallied layers) :
    (p.measured Metrics.countDrainError
      (l.note (.logged call.id p.index ⟨sink, request, .drainError count e⟩))).Tallied layers := by
  rw [Place.measured_eq]
  refine tallied.add _ (fun method d => ?_) ?_
  · show (if _ then l.metrics.countDrainError else l.metrics).attemptCount method d = _
    split
    · rfl
    · rfl
  · simp only [Event.drainErrors, hp.measuring]
    show (if _ then l.metrics.countDrainError else l.metrics).drainErrors = _
    split
    · rfl
    · rfl

theorem delayed {p : Place} (timer : Timer) (attempt : Attempt) (began ended : Rat)
    (tallied : l.Tallied layers) :
    (p.measured (·.observeDelay (timer.between began ended))
      (l.note (.delayed call.id p.index attempt began ended))).Tallied layers := by
  rw [Place.measured_eq]
  refine tallied.add _ (fun method d => ?_) ?_
  · show (if _ then l.metrics.observeDelay _ else l.metrics).attemptCount method d = _
    split
    · rfl
    · rfl
  · show (if _ then l.metrics.observeDelay _ else l.metrics).drainErrors = _
    split
    · rfl
    · rfl

end Ledger.Tallied

end HttpRetry
