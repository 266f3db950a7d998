import HttpRetry.Proofs.Independence
import HttpRetry.Proofs.Prompt
import HttpRetry.Proofs.Visit.Tracked
set_option autoImplicit false

namespace HttpRetry

def Notice.aborts : Notice → Bool
  | .aborting .. => true
  | _ => false

/-- The error that an abort raises with a cause, and that cause: the error of the attempt that the abort
is about, if that is another one. -/
def Event.blames (depth : Nat) (earlier : List Event) : Event → Option (Failure × Failure)
  | .logged c i entry =>
    match entry.notice with
    | .aborting _ error => do
      let attempt ← (← visit depth c i earlier).attempts.head?
      let own ← attempt.error
      if own.is error then none else return (error, own)
    | _ => none
  | _ => none

def blamed (depth : Nat) : List Event → List (Failure × Failure)
  | [] => []
  | e :: earlier => (e.blames depth earlier).toList ++ blamed depth earlier

def causesOf (depth : Nat) (journal : List Event) : List (FailureId × Failure) :=
  (blamed depth journal).map (Prod.map Failure.id id)

def Event.releases (i : Nat) : Event → Bool
  | .releasing _ i' _ => i' == i
  | .logged _ i' entry => i' == i && entry.notice.isDrainError
  | _ => false

/-- A retryer has answered, and since then the call has not come further than to release the
attempt's response. An error that came with the decision was reported just before. -/
def Decides (c i : Nat) (attempt : Attempt) (decision : Decision) (error : Option Failure)
    (journal : List Event) : Prop :=
  ∃ since before, journal = since ++ .answered c i attempt decision :: before ∧
    (∀ e ∈ since, e.concerns c = true → e.releases i = true) ∧
    ∀ e, error = some e → ∃ entry rest, before = .logged c i entry :: rest ∧
      entry.notice = .retryerError attempt.count decision e

def Phase.answer? : Phase → Option (Attempt × Decision × Option Failure)
  | .judged attempt (.ok given) | .releasing attempt (.ok given) | .cleared attempt (.ok given) =>
    some (attempt, given)
  | _ => none

def Point.Decided (c : Nat) (journal : List Event) (pt : Point) : Prop :=
  ∀ f outer attempt decision error, pt.frames = f :: outer →
    pt.phase.answer? = some (attempt, decision, error) →
    Decides c f.place.index attempt decision error journal

section
variable {depth c i : Nat} {s : Setting} {layers : List Layer} {call : Call} {pt pt' : Point}
  {l l' : Ledger} {e : Event} {j news : List Event} {initial : List (FailureId × Failure)}

theorem Decides.later {attempt : Attempt} {decision : Decision} {error : Option Failure}
    (h : Decides c i attempt decision error j)
    (releases : ∀ e ∈ news, e.concerns c = true → e.releases i = true) :
    Decides c i attempt decision error (news ++ j) := by
  obtain ⟨since, before, split, earlier, mentioned⟩ := h
  refine ⟨news ++ since, before, by simp [split], ?_, mentioned⟩
  intro e mem
  exact (List.mem_append.mp mem).elim (releases e) (earlier e)

theorem Decides.cons {attempt : Attempt} {decision : Decision} {error : Option Failure}
    (h : Decides c i attempt decision error j)
    (releases : e.concerns c = true → e.releases i = true) :
    Decides c i attempt decision error (e :: j) := by
  show Decides c i attempt decision error ([e] ++ j)
  exact h.later (by simpa using releases)

theorem Point.Decided.later (h : pt.Decided c j) (still : AtRest c news) :
    pt.Decided c (news ++ j) := by
  intro f outer attempt decision error frames answered
  apply (h f outer attempt decision error frames answered).later
  intro e mem own
  simp [still e mem] at own

theorem Takes.decided (takes : Takes s call pt l pt' l') (h : pt.Decided call.id l.journal) :
    pt'.Decided call.id l'.journal := by
  intro f' outer' attempt' decision' error' frames answered
  cases takes with
  | pause unmoved =>
    obtain ⟨news, journal, still⟩ := unmoved.atRest call.id
    rw [journal]
    exact h.later still f' outer' attempt' decision' error' frames answered
  | @answered f outer inner attempt elapsed decision error l gives =>
    cases frames
    cases answered
    rw [Place.journal_answered]
    refine ⟨[], _, rfl, by simp, ?_⟩
    intro e given
    cases given
    simp [Retryer.remarks]
  | @pass f outer inner attempt answer l held =>
    cases answer with
    | error e => cases answered
    | ok given => exact h f' outer' attempt' decision' error' frames answered
  | @release f outer inner attempt answer r l rejected has =>
    cases answer with
    | error e => cases answered
    | ok given =>
      cases frames
      cases answered
      have decides := h f' outer' attempt' decision' error' rfl rfl
      exact decides.cons fun _ => by simp [Event.releases]
  | @released f outer inner attempt answer l =>
    cases answer with
    | error e => cases answered
    | ok given => exact h f' outer' attempt' decision' error' frames answered
  | @tolerate f outer inner attempt answer e l swallowed =>
    cases answer with
    | error e => cases answered
    | ok given =>
      cases frames
      cases answered
      have decides := h f' outer' attempt' decision' error' rfl rfl
      rw [Place.journal_failingDrain]
      exact decides.cons fun _ => by simp [Event.releases, Notice.isDrainError]
  | _ => cases answered

theorem Event.blames_logged {p : Place} {n : Notice} (other : n.aborts = false) :
    (Event.logged call.id p.index (p.entry call n)).blames depth j = none := by
  cases n <;> simp [Notice.aborts] at other <;> simp [blames]

theorem blamed_cons (plain : e.blames depth j = none) : blamed depth (e :: j) = blamed depth j := by
  simp [blamed, plain]

theorem blamed_append (plain : ∀ e ∈ news, ∀ earlier, e.blames depth earlier = none) :
    blamed depth (news ++ j) = blamed depth j := by
  induction news with
  | nil => rfl
  | cons e rest ih =>
    obtain ⟨first, later⟩ := List.forall_mem_cons.mp plain
    simp [blamed, first, ih later]

theorem Ledger.Unmoved.blamed (h : l.Unmoved l') :
    blamed depth l'.journal = blamed depth l.journal := by
  obtain ⟨asides, journal, aside⟩ := h.journal
  rw [journal, blamed_append]
  intro e mem earlier
  have aside := aside e mem
  cases e <;> simp [Event.isAside] at aside <;> rfl

theorem blamed_reports {p : Place} {ns : List Notice} (other : ∀ n ∈ ns, n.aborts = false) :
    blamed depth ((ns.map fun n => .logged call.id p.index (p.entry call n)).reverse ++ j) =
      blamed depth j := by
  apply blamed_append
  intro e mem earlier
  obtain ⟨n, remark, rfl⟩ := List.mem_map.mp (List.mem_reverse.mp mem)
  exact Event.blames_logged (other n remark)

/-- Each step gives the causes that its events tell of. -/
theorem Takes.causes (takes : Takes s call pt l pt' l') (through : pt.Through layers)
    (tracked : pt.Tracked layers.length call.id l.journal)
    (h : l.causes = causesOf layers.length l.journal ++ initial) :
    l'.causes = causesOf layers.length l'.journal ++ initial := by
  unfold causesOf at h ⊢
  cases takes with
  | pause unmoved =>
    rw [unmoved.causes, unmoved.blamed, h]
  | @raised f outer inner e attempt l plain fits faults =>
    rw [Place.journal_logged, blamed_cons (Event.blames_logged rfl)]
    exact h
  | @answered f outer inner attempt elapsed decision error l gives =>
    have quiet : ∀ n ∈ f.place.layer.retryer.remarks attempt decision error,
        n.aborts = false := by
      intro n mem
      obtain ⟨_, rfl⟩ | ⟨_, -, rfl⟩ := Retryer.of_mem_remarks mem <;> rfl
    rw [Place.causes_answered, Place.journal_answered, List.cons_append, blamed,
      blamed_reports quiet]
    exact h
  | tolerate swallowed =>
    rw [Place.journal_failingDrain, blamed_cons (Event.blames_logged rfl)]
    unfold Place.failingDrain
    rw [Place.measured_eq]
    exact h
  | @abort f outer inner attempt error e l raises =>
    obtain ⟨-, v, at_, -, -, -, -, answered⟩ := tracked.within
    obtain ⟨-, latest⟩ := answered _ rfl
    have here : visit layers.length call.id f.place.index l.journal = some v := by
      rw [through.head.1, at_]
    have told : (Event.logged call.id f.place.index
        (f.place.entry call (.aborting attempt.count e))).blames layers.length l.journal =
          attempt.error.bind fun own => if own.is e then none else some (e, own) := by
      simp [Event.blames, here, latest]
    have given : (attempt.blaming e (f.place.logged call (.aborting attempt.count e) l)).causes =
        (attempt.error.bind fun own => if own.is e then none else some (e, own)).toList.map
          (Prod.map Failure.id id) ++ l.causes := by
      unfold Attempt.blaming
      cases attempt.error with
      | none => rfl
      | some own => cases same : own.is e <;> simp [same] <;> rfl
    rw [Place.journal_leaving, Attempt.journal_blaming, Place.journal_logged, blamed_cons rfl,
      blamed, told, List.map_append, List.append_assoc, ← h]
    exact given
  | delay delays =>
    rw [Place.journal_logged, blamed_cons (Event.blames_logged rfl)]
    exact h
  | done =>
    rw [Place.journal_delayed]
    unfold Place.delayed
    rw [Place.measured_eq]
    exact h
  | announce =>
    rw [Place.journal_logged, blamed_cons (Event.blames_logged rfl)]
    exact h
  | _ => exact h

end

theorem Event.is_of_blames {depth : Nat} {earlier : List Event} {e : Event} {error own : Failure}
    (h : e.blames depth earlier = some (error, own)) : own.is error = false := by
  cases e <;> simp only [blames] at h <;> try cases h
  split at h
  · simp [Option.bind_eq_some_iff] at h
    obtain ⟨v, -, attempt, -, -, other, rfl⟩ := h
    exact other
  · cases h

/-- No failure is made its own cause. -/
theorem is_of_mem_blamed {depth : Nat} {journal : List Event} {error own : Failure}
    (mem : (error, own) ∈ blamed depth journal) : own.is error = false := by
  induction journal with
  | nil => cases mem
  | cons e earlier ih =>
    rcases List.mem_append.mp mem with new | old
    · exact Event.is_of_blames (Option.mem_toList.mp new)
    · exact ih old

theorem Point.Tracked.answered {depth c : Nat} {journal : List Event} {pt : Point} {f : Frame}
    {outer : List Frame} {attempt : Attempt} {given : Decision × Option Failure}
    (h : pt.Tracked depth c journal) (frames : pt.frames = f :: outer)
    (phase : pt.phase = .cleared attempt (.ok given)) :
    ∃ v, visit depth c outer.length journal = some v ∧ v.attempts.head? = some attempt := by
  obtain ⟨frames', inner, phase'⟩ := pt
  cases frames
  cases phase
  obtain ⟨-, v, at_, -, -, -, -, answered⟩ := h.within
  exact ⟨v, at_, (answered _ rfl).2⟩

namespace Reached

variable {s : Setting} {layers : List Layer} {calls : List Call}
  {initial : List (FailureId × Failure)} {points : Nat → Point} {l : Ledger}

theorem decided {places : List Place} (distinct : (calls.map (·.id)).Nodup)
    (reached : Reached s places calls initial points l) :
    ∀ call ∈ calls, (points call.id).Decided call.id l.journal := by
  apply reached.each (I := fun call pt j => pt.Decided call.id j) distinct
  · exact fun call f outer attempt decision error frames => by cases frames
  · intro call other pt j j' ne grows decided
    obtain ⟨news, rfl, still⟩ := grows.atRest ne
    exact decided.later still
  · exact fun points l call pt l' _ takes _ decided => takes.decided decided

theorem causes (distinct : (calls.map (·.id)).Nodup)
    (reached : Reached s (placesFrom 0 layers) calls initial points l) :
    l.causes = causesOf layers.length l.journal ++ initial := by
  induction reached with
  | start => rfl
  | aside _ unmoved ih => rw [unmoved.causes, causesOf, unmoved.blamed, ih, causesOf]
  | step before mem takes ih =>
    exact takes.causes (before.through _) (before.tracked distinct _ mem) ih

/-- An abort raises the error that its layer's retryer gave, or one of the loop's own. -/
theorem aborts (distinct : (calls.map (·.id)).Nodup)
    (reached : Reached s (placesFrom 0 layers) calls initial points l) :
    Always (fun earlier event => ∀ c i entry count e, event = .logged c i entry →
      entry.notice = .aborting count e → ∃ attempt error,
        (∃ v, visit layers.length c i earlier = some v ∧ v.attempts.head? = some attempt) ∧
          Decides c i attempt .abort error earlier ∧
            (error = some e ∨ error = none ∧ ∃ id, e = .aborted id attempt)) l.journal := by
  apply reached.always
  · intro event aside earlier c i entry count e same
    simp [same, Event.isAside] at aside
  · intro points l call event earlier before mem arises c i entry count e same notice
    subst same
    obtain ⟨rfl, f, outer, frames, rfl, -, aborts⟩ := arises
    obtain ⟨rfl, attempt, error, phase, raises⟩ := aborts count e notice
    have decides := before.decided distinct call mem f outer attempt .abort error frames
      (by rw [phase]; rfl)
    have latest := (before.tracked distinct call mem).answered frames phase
    rw [← ((before.through call.id).head_of frames).1] at latest
    refine ⟨attempt, error, latest, decides, raises.imp_right ?_⟩
    rintro ⟨unsaid, serial, own⟩
    exact ⟨unsaid, _, own⟩

end Reached

structure Ledger.Chained (routine : Routine) (layers : List Layer)
    (initial : List (FailureId × Failure)) (l : Ledger) : Prop where
  /-- Causes are given by aborts, and by nothing else. -/
  causes : l.causes = causesOf layers.length l.journal ++ initial
  /-- A failure has the cause that it was given last. -/
  latest : ∀ id, l.cause? id =
    (List.lookup id (causesOf layers.length l.journal)).or (List.lookup id initial)
  apart : ∀ error own, (error, own) ∈ blamed layers.length l.journal → own.is error = false
  /-- The layer's retryer has decided on it about its latest attempt, and the error is the one that
  came with the decision, or one of the loop's own if none came. -/
  aborts : ∀ c i entry count e earlier, .logged c i entry :: earlier <:+ l.journal →
    entry.notice = .aborting count e → ∃ attempt error,
      (∃ v, visit layers.length c i earlier = some v ∧ v.attempts.head? = some attempt) ∧
        Decides c i attempt .abort error earlier ∧
          (error = some e ∨ error = none ∧ ∃ id, e = .aborted id attempt)
  /-- It is what the call leaves the layer with, so far as it can leave the layer's routine. -/
  surfaces : ∀ c i entry count e later earlier, l.journal = later ++ .logged c i entry :: earlier →
    entry.notice = .aborting count e → ∃ rest, later = rest ++ [.left c i (.raised (e.outOf routine))]

/-- In every run of calls on a stack, whichever failures are shared by attempts, calls and layers: the
cause of a failure changes only when an abort surfaces it for an attempt with another error, which
becomes its cause, and no failure is ever made its own. -/
theorem causes_follow_aborts (s : Setting) (layers : List Layer) (tasks : List Task)
    (ms : List Move) (initial : List (FailureId × Failure))
    (waiting : ∀ t ∈ tasks, t.stage = .waiting)
    (distinct : ((callsOf tasks ms).map (·.id)).Nodup) :
    (runMoves s (placesFrom 0 layers) ms tasks).Yields { causes := initial } fun _ l =>
      l.Chained s.mode.routine layers initial := by
  refine (runMoves_reached s _ tasks ms initial waiting distinct).mono fun tasks' l moved => ?_
  obtain ⟨points, reached, -⟩ := moved
  have causes := reached.causes distinct
  constructor
  · exact causes
  · intro id
    rw [Ledger.cause?, causes, List.lookup_append]
  · exact fun error own mem => is_of_mem_blamed mem
  · intro c i entry count e earlier happened notice
    exact (reached.aborts distinct).at happened c i entry count e rfl notice
  · intro c i entry count e later earlier split notice
    obtain ⟨_, rest, left, rfl⟩ := reached.leaves distinct split fun next forces =>
      ⟨.raised (e.outOf s.mode.routine), forces count e notice, rfl⟩
    exact ⟨rest, left⟩

def sharedReset : FailureSpec := { FailureSpec.of .osError (some "reset") with name := some "reset" }

def sharedDenial : FailureSpec :=
  { FailureSpec.of .valueError (some "denied") with name := some "denial" }

def denying (spec : FailureSpec) : Layer :=
  { hasty with retryer := .scripted fun _ => .decided .abort (.given spec) }

def resetCall (id : Nat) : Call where
  id := id
  request := { method := "GET", url := "http://example.test/" }
  feed := fun _ => { act := .raise sharedReset }

/-- Two calls one after the other. The inner layer raises its own failure in place of the reset, and the
outer one the reset in place of that: each is the other's cause in the end, and none its own. -/
theorem causes_follow_aborts_crossed :
    let s : Setting := ⟨.blocking, .binary⟩
    let layers := [denying sharedReset, denying sharedDenial]
    let moves : List Move := [.send (resetCall 0) 1, .send (resetCall 1) 1]
    let l := (runMoves s (placesFrom 0 layers) moves [] {}).2
    (∀ t ∈ ([] : List Task), t.stage = .waiting) ∧ ((callsOf [] moves).map (·.id)).Nodup ∧
      l.Chained s.mode.routine layers [] ∧ l.causes.length = 4 ∧
      (l.cause? (.shared "denial")).map Failure.id = some (.shared "reset") ∧
      (l.cause? (.shared "reset")).map Failure.id = some (.shared "denial") := by
  intro s layers moves l
  have waiting : ∀ t ∈ ([] : List Task), t.stage = .waiting := by simp
  have distinct : ((callsOf [] moves).map (·.id)).Nodup := by decide
  have chained := causes_follow_aborts s layers [] moves [] waiting distinct
  exact ⟨waiting, distinct, chained, by decide +kernel, by decide +kernel, by decide +kernel⟩

end HttpRetry
