import HttpRetry.Proofs.Accounts
import HttpRetry.Proofs.Visit.Tracked
set_option autoImplicit false

namespace HttpRetry

def Event.Carries (layers : List Layer) (calls : List Call) : Event → Prop
  | .asked c i attempt _ _ => ∀ call ∈ calls, call.id = c → attempt.request = call.request ∧
      ∀ layer, layers[i]? = some layer → layer.forced = none →
        attempt.response = none ∨ attempt.error = none
  | _ => True

/-- The attempts of a visit are counted from one on without a gap, and all have its start time and the
call's own request. -/
structure Visit.Records (call : Call) (layer : Layer) (v : Visit) : Prop where
  counts : v.attempts.reverse.map (·.count) = List.range' 1 v.attempts.length
  starts : ∀ attempt ∈ v.attempts, attempt.start = v.start
  requests : ∀ attempt ∈ v.attempts, attempt.request = call.request
  single : layer.forced = none → ∀ attempt ∈ v.attempts,
    attempt.response = none ∨ attempt.error = none

theorem visit_records {depth i : Nat} {calls : List Call} {layers : List Layer} {call : Call}
    (mem : call ∈ calls) {layer : Layer} (found : layers[i]? = some layer) {journal : List Event}
    {v : Visit} (order : Always (Event.InOrder depth) journal)
    (carries : Always (fun _ e => e.Carries layers calls) journal)
    (at_ : visit depth call.id i journal = some v) : v.Records call layer := by
  obtain ⟨counts, starts⟩ := visit_counts order at_
  have own : ∀ attempt ∈ v.attempts, attempt.request = call.request ∧
      (layer.forced = none → attempt.response = none ∨ attempt.error = none) := by
    clear counts starts
    induction journal generalizing v with
    | nil => cases at_
    | cons e earlier ih =>
      obtain ⟨start, -, rfl⟩ | ⟨-, v, known, rfl⟩ := of_visit_cons at_
      · simp
      · have before := ih order.2 carries.2 known
        cases asks : e.asks? call.id i with
        | none => simpa [Visit.after, asks] using before
        | some attempt =>
          obtain ⟨elapsed, scripted, rfl⟩ := e.eq_asked asks
          obtain ⟨request, alone⟩ := carries.1 call mem rfl
          have same : (v.after depth call.id i (.asked call.id i attempt elapsed scripted)).attempts =
              attempt :: v.attempts := by simp [Visit.after, asks]
          rw [same]
          exact List.forall_mem_cons.mpr ⟨⟨request, alone layer found⟩, before⟩
  exact ⟨counts, starts, fun attempt mem => (own attempt mem).1,
    fun unforced attempt mem => (own attempt mem).2 unforced⟩

namespace Reached

variable {s : Setting} {layers : List Layer} {calls : List Call}
  {initial : List (FailureId × Failure)} {points : Nat → Point} {l : Ledger}

theorem carries (distinct : (calls.map (·.id)).Nodup)
    (reached : Reached s (placesFrom 0 layers) calls initial points l) :
    Always (fun _ e => e.Carries layers calls) l.journal := by
  apply reached.always
  · intro e aside earlier
    cases e <;> simp [Event.isAside, Event.Carries] at *
  · intro points l call e earlier before mem arises
    cases e <;> simp only [Event.Carries]
    obtain ⟨rfl, -, f, outer, frames, rfl, phase⟩ := arises
    have own : ∀ attempt, (points call.id).phase.attempt? = some attempt →
        attempt.Belongs call f := fun attempt => before.owns distinct call mem f outer attempt frames
    have belongs := own _ (by rw [phase]; rfl)
    intro call' mem' same
    obtain rfl : call' = call := List.inj_on_of_nodup_map distinct mem' mem same
    refine ⟨belongs.request, fun layer found unforced => belongs.single ?_⟩
    have here : layers[f.place.index]? = some f.place.layer :=
      ((before.through call'.id).head_of frames).2.1
    rw [Option.some.inj (here.symm.trans found)]
    exact unforced

/-- A layer takes up a call at the time that its clock shows then. -/
theorem starts (distinct : (calls.map (·.id)).Nodup)
    (reached : Reached s (placesFrom 0 layers) calls initial points l) :
    Always (fun earlier e => ∀ c i start, e = .entered c i start →
      readingAfter layers calls earlier i = some (.ok start)) l.journal := by
  apply reached.always
  · intro e aside earlier c i start same
    simp [same, Event.isAside] at aside
  · intro points l call e earlier before mem arises c i start same
    subst same
    obtain ⟨rfl, rfl, p, inner, waiting, rfl, reads⟩ := arises
    have hp : p.In layers := ((before.through call.id).next_of waiting).2.1
    rw [(before.reckoned distinct).reading hp, reads]

end Reached

structure Ledger.Records (s : Setting) (layers : List Layer) (calls : List Call) (l : Ledger) :
    Prop where
  /-- Each clock is read once for each time that a layer with it takes up a call, and fails once for
  each time that one does not. -/
  reads : ∀ key, l.clocks key = clockUse layers key l.journal
  /-- A layer that is not occupied with a call takes it up at the time that its clock shows. -/
  entered : ∀ c i start earlier, .entered c i start :: earlier <:+ l.journal →
    visit layers.length c i earlier = none ∧
      readingAfter layers calls earlier i = some (.ok start)
  /-- Where the clock fails instead, the call leaves the layer at once with that error, as it comes
  out of a routine of the mode. -/
  refused : ∀ c i later earlier, l.journal = later ++ .refused c i :: earlier →
    visit layers.length c i earlier = none ∧ ∃ spec id rest,
      readingAfter layers calls earlier i = some (.error spec) ∧
        later = rest ++ [.left c i (.raised ((spec.failure id).outOf s.mode.routine))]
  /-- All else that a layer does for a call, it does in a visit, and so does it count. -/
  inside : ∀ e i earlier, e :: earlier <:+ l.journal → e.actor? = some i →
    ∃ v, visit layers.length e.call i earlier = some v
  metrics : Accounted s.timer layers l.metrics l.journal
  /-- So does it send, each time for a round of its own, when all sends before are put to the
  retryer. -/
  sends : ∀ e c i earlier, e :: earlier <:+ l.journal →
    e.arrives layers.length c (i + 1) = true → ∃ v, visit layers.length c i earlier = some v ∧
      v.sends = v.attempts.length ∧ v.rounds = v.sends + 1
  /-- An attempt that is put to the retryer has the number of the visit's last send. -/
  asked : ∀ c i attempt elapsed scripted earlier,
    .asked c i attempt elapsed scripted :: earlier <:+ l.journal →
      ∃ v, visit layers.length c i earlier = some v ∧ attempt.count = v.sends ∧
        v.sends = v.attempts.length + 1
  attempts : ∀ call ∈ calls, ∀ i layer now v, layers[i]? = some layer → now <:+ l.journal →
    visit layers.length call.id i now = some v → v.Records call layer
  /-- What the retryer answers and the delayer is given is the attempt that the retryer was asked
  about last. -/
  shared : ∀ e i attempt earlier, e :: earlier <:+ l.journal → e.attempt? = some (i, attempt) →
    ∃ v, visit layers.length e.call i earlier = some v ∧ v.attempts.head? = some attempt
  /-- A call reaches the outermost layer once, and each layer below as often as the layer above it
  begins a round, but for one that it is still to send. -/
  first : ∀ c, l.journal.countP (Event.arrives layers.length c 0) ≤ 1
  entries : ∀ c i, i + 1 < layers.length → l.journal.countP (Event.begins c i) =
    l.journal.countP (Event.arrives layers.length c (i + 1)) +
      unsent (visit layers.length c i l.journal)

/-- A call is in no layer any more, and each layer below another one was reached as often as that one
began a round. -/
def Task.Gone (layers : List Layer) (l : Ledger) (t : Task) : Prop :=
  ∀ i, visit layers.length t.call.id i l.journal = none ∧ (i + 1 < layers.length →
    l.journal.countP (Event.begins t.call.id i) =
      l.journal.countP (Event.arrives layers.length t.call.id (i + 1)))

/-- In every run of calls on a stack, whatever fails and in whichever order calls go on, each visit of a
layer has a start time of its own and counts its attempts from one on; a call that has ended has no
visit left, so that each layer was entered as often as the one above it began a round. -/
theorem visits_keep_records (s : Setting) (layers : List Layer) (tasks : List Task)
    (ms : List Move) (initial : List (FailureId × Failure))
    (waiting : ∀ t ∈ tasks, t.stage = .waiting)
    (distinct : ((callsOf tasks ms).map (·.id)).Nodup) :
    (runMoves s (placesFrom 0 layers) ms tasks).Yields { causes := initial } fun tasks' l =>
      l.Records s layers (callsOf tasks ms) ∧ ∀ t ∈ tasks', t.isEnded = true → t.Gone layers l := by
  refine (runMoves_reached s _ tasks ms initial waiting distinct).mono fun tasks' l moved => ?_
  obtain ⟨points, reached, stands⟩ := moved
  have order := reached.inOrder distinct
  have carries := reached.carries distinct
  constructor
  · constructor
    · exact (reached.reckoned distinct).clocks
    · intro c i start earlier happened
      exact ⟨(order.at happened).1, (reached.starts distinct).at happened c i start rfl⟩
    · intro c i later earlier split
      have asks : ∀ next, (Event.refused c i).Forces s layers (callsOf tasks ms) earlier next →
          ∃ reply, next = .left c i reply ∧ ∃ spec id,
            readingAfter layers (callsOf tasks ms) earlier i = some (.error spec) ∧
              reply = .raised ((spec.failure id).outOf s.mode.routine) := by
        rintro next ⟨spec, id, reads, same⟩
        exact ⟨_, same, spec, id, reads, rfl⟩
      obtain ⟨_, rest, left, spec, id, reads, rfl⟩ := reached.leaves distinct split asks
      exact ⟨(order.at ⟨later, split.symm⟩).1, spec, id, rest, reads, left⟩
    · intro e i earlier happened acts
      exact (order.at happened).acting acts
    · exact reached.accounted distinct
    · intro e c i earlier happened arrives
      exact (order.at happened).arriving arrives
    · intro c i attempt elapsed scripted earlier happened
      obtain ⟨v, at_, sends, count, -⟩ := order.at happened
      exact ⟨v, at_, count, sends⟩
    · intro call mem i layer now v found moment at_
      exact visit_records mem found (order.suffix moment) (carries.suffix moment) at_
    · intro e i attempt earlier happened sees
      exact (order.at happened).seeing sees
    · exact fun c => countP_arrives_zero order
    · exact fun c i below => countP_begins below order
  · intro t mem ended i
    obtain ⟨own, stands⟩ := stands t mem
    have outside : (points t.call.id).frames = [] := by
      cases stage : t.stage <;> simp [Task.isEnded, stage] at ended
      rw [stage] at stands
      exact stands.1
    have gone : visit layers.length t.call.id i l.journal = none :=
      (reached.tracked distinct t.call own).below i (by simp [outside])
    refine ⟨gone, fun below => ?_⟩
    simp [countP_begins below order, gone, unsent]

def moody : Clock where
  key := 1
  dial use _ :=
    if use.failures = 0 then .error (.of { name := "ReadError", family := .transport } (some "no time"))
    else .ok (some ⟨0, some 0⟩)

/-- Two calls through two layers. The inner layer's clock fails when it is read for the first call, so
that the outer layer sends that call again and the inner one is entered anew; later this call is
cancelled while the inner layer waits. -/
theorem visits_keep_records_pair :
    let s : Setting := ⟨.suspending, .binary⟩
    let layers := [hasty, { fair with clock := moody }]
    let tasks : List Task := busyPair.map fun call => ⟨call, none, .waiting⟩
    let moves : List Move := [.resume 0, .resume 0, .resume 1, .resume 0, .resume 1, .resume 1,
      .cancel 0, .resume 1, .resume 1]
    let run := runMoves s (placesFrom 0 layers) moves tasks { causes := [] }
    (∀ t ∈ tasks, t.stage = .waiting) ∧ ((callsOf tasks moves).map (·.id)).Nodup ∧
      run.2.Records s layers (callsOf tasks moves) ∧
      (∀ t ∈ run.1, t.isEnded = true → t.Gone layers run.2) ∧
      run.2.clocks 0 = ⟨2, 0⟩ ∧ run.2.clocks 1 = ⟨2, 1⟩ ∧ run.1.all Task.isEnded = true := by
  intro s layers tasks moves run
  have waiting : ∀ t ∈ tasks, t.stage = .waiting := by simp [tasks]
  have distinct : ((callsOf tasks moves).map (·.id)).Nodup := by decide
  obtain ⟨records, gone⟩ := visits_keep_records s layers tasks moves [] waiting distinct
  exact ⟨waiting, distinct, records, gone, by decide +kernel, by decide +kernel, by decide +kernel⟩

end HttpRetry
