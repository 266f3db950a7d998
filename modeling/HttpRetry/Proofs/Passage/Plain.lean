import HttpRetry.Proofs.Passage.Kept
set_option autoImplicit false

namespace HttpRetry

/-- The call in whose course a failure was made, unless it is a shared one. -/
def FailureId.maker? : FailureId → Option Nat
  | .shared _ => none
  | .fresh call _ => some call

def Phase.given? : Phase → Option Failure
  | .judged _ (.ok (_, error)) | .releasing _ (.ok (_, error)) | .cleared _ (.ok (_, error)) => error
  | _ => none

/-- Where default retryers bring a call: what they give along with their answers is its own. -/
structure Point.Plain (layers : List Layer) (call : Call) (pt : Point) : Prop where
  through : pt.Through layers
  owns : pt.Owns call
  given : ∀ e, pt.phase.given? = some e → e.id.maker? = some call.id

/-- What a call leaves as it is: the causes of failures that others made, and the agreement of the
counters with the events. -/
structure Spares (layers : List Layer) (call : Nat) (l l' : Ledger) : Prop where
  causes : ∀ id : FailureId, id.maker? ≠ some call → l'.cause? id = l.cause? id
  tally : l.Tallied layers → l'.Tallied layers

namespace Spares

variable {layers : List Layer} {call : Nat} {l l' l'' : Ledger}

theorem refl (layers : List Layer) (call : Nat) (l : Ledger) : Spares layers call l l :=
  ⟨fun _ _ => rfl, id⟩

theorem trans (h : Spares layers call l l') (h' : Spares layers call l' l'') :
    Spares layers call l l'' :=
  ⟨fun id made => (h'.causes id made).trans (h.causes id made), fun tallied =>
    h'.tally (h.tally tallied)⟩

theorem of_causes (causes : l'.causes = l.causes) (tally : l.Tallied layers → l'.Tallied layers) :
    Spares layers call l l' :=
  ⟨fun id _ => congrArg (List.lookup id) causes, tally⟩

end Spares

namespace Ledger.Tallied

variable {layers : List Layer} {l l' : Ledger} {p : Place} {call : Call}

theorem congr (tallied : l.Tallied layers) (metrics : l'.metrics = l.metrics)
    (journal : l'.journal = l.journal) : l'.Tallied layers := by
  refine ⟨fun method decision => ?_, ?_⟩
  · rw [metrics, journal]
    exact tallied.attempts method decision
  · rw [metrics, journal]
    exact tallied.drainErrors

/-- A further event that counts for nothing, together with what is not counted. -/
theorem noting {e : Event} (tallied : l.Tallied layers)
    (attempts : ∀ method decision, e.attempts layers method decision = false)
    (drains : e.drainErrors layers = false) (metrics : l'.metrics = l.metrics)
    (journal : l'.journal = e :: l.journal) : l'.Tallied layers :=
  (tallied.note attempts drains).congr metrics journal

theorem unmoved (tallied : l.Tallied layers) (h : l.Unmoved l') : l'.Tallied layers := by
  obtain ⟨asides, journal, aside⟩ := h.journal
  have uncounted {f : Event → Bool} (plain : ∀ e, e.isAside = true → f e = false) :
      l'.journal.countP f = l.journal.countP f := by
    have none_ : asides.countP f = 0 := by
      rw [List.countP_eq_zero]
      intro e mem
      simp [plain e (aside e mem)]
    rw [journal, List.countP_append, none_, Nat.zero_add]
  refine ⟨fun method decision => ?_, ?_⟩
  · rw [h.metrics, uncounted, tallied.attempts]
    intro e
    cases e <;> simp [Event.isAside, Event.attempts]
  · rw [h.metrics, uncounted, tallied.drainErrors]
    intro e
    cases e <;> simp [Event.isAside, Event.drainErrors]

theorem logged (tallied : l.Tallied layers) (p : Place) (call : Call) {n : Notice}
    (other : n.isDrainError = false) : (p.logged call n l).Tallied layers := by
  refine tallied.note (fun _ _ => rfl) ?_
  rw [← p.notice_entry call n] at other
  generalize p.entry call n = entry at other
  obtain ⟨sink, request, notice⟩ := entry
  cases notice with
  | drainError count e => cases other
  | _ => rfl

theorem reports (tallied : l.Tallied layers) (p : Place) (call : Call) {ns : List Notice}
    (other : ∀ n ∈ ns, n.isDrainError = false) :
    (ns.foldl (fun l n => p.logged call n l) l).Tallied layers := by
  induction ns generalizing l with
  | nil => exact tallied
  | cons n rest ih =>
    obtain ⟨first, rest⟩ := List.forall_mem_cons.mp other
    exact ih (tallied.logged p call first) rest

theorem answering (tallied : l.Tallied layers) (hp : p.In layers) {attempt : Attempt}
    (own : attempt.request = call.request) (elapsed : Option Int) (decision : Decision)
    (error : Option Failure) : (p.answered call attempt elapsed decision error l).Tallied layers := by
  have asked : (p.asking call attempt elapsed l).Tallied layers :=
    tallied.noting (fun _ _ => rfl) rfl rfl (p.journal_asking call attempt elapsed l)
  refine (asked.reports p call fun n mem => ?_).answered hp own decision
  obtain ⟨_, rfl⟩ | ⟨_, -, rfl⟩ := Retryer.of_mem_remarks mem <;> rfl

theorem failingDrain (tallied : l.Tallied layers) (hp : p.In layers) (count : Nat) (e : Failure) :
    (p.failingDrain call count e l).Tallied layers :=
  tallied.drainError hp p.layer.sink (some call.request) count e

theorem blaming (tallied : l.Tallied layers) (attempt : Attempt) (e : Failure) :
    (attempt.blaming e l).Tallied layers := by
  unfold Attempt.blaming
  split
  · split
    · exact tallied
    · exact tallied.congr rfl rfl
  · exact tallied

end Ledger.Tallied

theorem Attempt.cause?_blaming {attempt : Attempt} {e : Failure} {l : Ledger} {id : FailureId}
    (other : id ≠ e.id) : (attempt.blaming e l).cause? id = l.cause? id := by
  have foreign : (id == e.id) = false := by simpa using other
  unfold blaming
  split
  · split
    · rfl
    · simp [Ledger.cause?, List.lookup_cons, foreign]
  · rfl

section
variable {layers : List Layer} {s : Setting} {call : Call} {pt pt' : Point} {l l' : Ledger}

theorem Point.plain_start (layers : List Layer) (call : Call) :
    Point.Plain layers call ⟨[], placesFrom 0 layers, .down⟩ where
  through := rfl
  owns := fun f outer attempt frames => by cases frames
  given := fun e given => by cases given

/-- Default retryers keep a call so that what it is given is its own. -/
theorem Takes.plain (takes : Takes s call pt l pt' l')
    (standard : ∀ layer ∈ layers, layer.retryer.isScripted = false) (h : pt.Plain layers call) :
    pt'.Plain layers call := by
  have within {f : Frame} {outer : List Frame} {inner : List Place} {phase : Phase}
      (through : Point.Through layers ⟨f :: outer, inner, phase⟩) :
      f.place.layer.retryer.isScripted = false :=
    standard _ (List.mem_of_getElem? through.head.2.1)
  refine ⟨takes.through h.through, takes.owns h.owns, ?_⟩
  intro e given
  cases takes with
  | pause unmoved => exact h.given e given
  | answered gives own =>
    obtain ⟨serial, made⟩ := own (within h.through) e given
    rw [made]
    rfl
  | @pass f outer inner attempt answer l held => exact h.given e (by cases answer <;> exact given)
  | @release f outer inner attempt answer r l rejected has =>
    exact h.given e (by cases answer <;> exact given)
  | @released f outer inner attempt answer l => exact h.given e (by cases answer <;> exact given)
  | @tolerate f outer inner attempt answer e' l swallowed =>
    exact h.given e (by cases answer <;> exact given)
  | _ => cases given

theorem Takes.spares (takes : Takes s call pt l pt' l') (h : pt.Plain layers call) :
    Spares layers call.id l l' := by
  cases takes with
  | pause unmoved => exact .of_causes unmoved.causes fun tallied => tallied.unmoved unmoved
  | @enter frames p inner start l reads =>
    exact .of_causes rfl fun tallied =>
      tallied.noting (fun _ _ => rfl) rfl rfl (p.journal_takingUp call start l)
  | @refuse frames p inner spec id l fails =>
    refine .of_causes rfl fun tallied => Ledger.Tallied.note ?_ (fun _ _ => rfl) rfl
    exact tallied.noting (fun _ _ => rfl) rfl rfl (p.journal_refusing call l)
  | @transmit frames reply l =>
    exact .of_causes rfl fun tallied =>
      tallied.noting (fun _ _ => rfl) rfl rfl (call.journal_asking l)
  | interrupted interrupt =>
    exact .of_causes rfl fun tallied =>
      (tallied.note (fun _ _ => rfl) rfl).note (fun _ _ => rfl) rfl
  | @raised f outer inner e attempt l plain fits faults =>
    exact .of_causes rfl fun tallied => (tallied.note (fun _ _ => rfl) rfl).logged f.place call rfl
  | received unraised fits faults =>
    exact .of_causes rfl fun tallied => tallied.note (fun _ _ => rfl) rfl
  | @unanswered f outer inner attempt elapsed e l silent =>
    exact .of_causes rfl fun tallied =>
      tallied.noting (fun _ _ => rfl) rfl rfl (f.place.journal_asking call attempt elapsed l)
  | @answered f outer inner attempt elapsed decision error l gives own =>
    exact .of_causes (Place.causes_answered _ _ _ _ _ _ _) fun tallied =>
      tallied.answering h.through.head.2.1 (h.owns f outer attempt rfl rfl).request _ _ _
  | release rejected has =>
    exact .of_causes rfl fun tallied => tallied.note (fun _ _ => rfl) rfl
  | tolerate swallowed =>
    refine .of_causes ?_ fun tallied => tallied.failingDrain h.through.head.2.1 _ _
    simp [Place.failingDrain, Place.measured_eq, Place.logged, Ledger.note]
  | breakOff kept => exact .of_causes rfl fun tallied => tallied.note (fun _ _ => rfl) rfl
  | reraise => exact .of_causes rfl fun tallied => tallied.note (fun _ _ => rfl) rfl
  | settle settles => exact .of_causes rfl fun tallied => tallied.note (fun _ _ => rfl) rfl
  | @abort f outer inner attempt error e l raises =>
    have own : e.id.maker? = some call.id := by
      rcases raises with given | ⟨-, serial, rfl⟩
      · exact h.given e given
      · rfl
    refine ⟨fun id other => ?_, fun tallied => ?_⟩
    · refine Attempt.cause?_blaming fun same => other ?_
      rw [same, own]
    · exact ((tallied.logged f.place call rfl).blaming _ _).note (fun _ _ => rfl) rfl
  | delay delays => exact .of_causes rfl fun tallied => tallied.logged _ call rfl
  | @work f outer inner attempt delay began l works =>
    exact .of_causes rfl fun tallied =>
      tallied.noting (fun _ _ => rfl) rfl rfl (f.place.journal_delaying call delay attempt l)
  | @fail f outer inner attempt delay began spec id l fails =>
    refine .of_causes rfl fun tallied => Ledger.Tallied.note ?_ (fun _ _ => rfl) rfl
    exact tallied.noting (fun _ _ => rfl) rfl rfl (f.place.journal_delaying call delay attempt l)
  | @done f outer inner attempt began l =>
    refine .of_causes ?_ fun tallied => tallied.delayed s.timer attempt began l.now
    simp [Place.delayed, Place.measured_eq, Ledger.note]
  | announce => exact .of_causes rfl fun tallied => tallied.logged _ call rfl
  | thrown rests interrupt =>
    exact .of_causes rfl fun tallied => tallied.note (fun _ _ => rfl) rfl
  | _ => exact .refl layers call.id _

/-- So do all steps together. -/
theorem Proceeds.spares (proceeds : Proceeds s call (pt, l) (pt', l'))
    (standard : ∀ layer ∈ layers, layer.retryer.isScripted = false) (h : pt.Plain layers call) :
    pt'.Plain layers call ∧ Spares layers call.id l l' :=
  proceeds.walks.keeps (I := fun now l₁ => now.Plain layers call ∧ Spares layers call.id l l₁)
    ⟨h, .refl layers call.id l⟩ fun _ _ _ _ takes before =>
      ⟨takes.plain standard before.1, before.2.trans (takes.spares before.1)⟩

end

end HttpRetry
