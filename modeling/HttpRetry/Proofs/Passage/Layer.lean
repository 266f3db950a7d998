import HttpRetry.Proofs.Passage
set_option autoImplicit false

namespace HttpRetry

open Work

theorem Event.isAside_of_isClosing {e : Event} (h : e.isClosing = true) : e.isAside = true := by
  cases e with
  | streamClosed call response reads bytes => rfl
  | _ => cases h

namespace Ledger

variable {l l' l'' : Ledger}

namespace Unmoved

theorem refl (l : Ledger) : l.Unmoved l :=
  ⟨rfl, rfl, rfl, rfl, rfl, rfl, fun _ => rfl, [], rfl, fun _ h => absurd h List.not_mem_nil⟩

theorem trans (h : l.Unmoved l') (h' : l'.Unmoved l'') : l.Unmoved l'' where
  causes := h'.causes.trans h.causes
  now := h'.now.trans h.now
  clocks := h'.clocks.trans h.clocks
  asks := h'.asks.trans h.asks
  delays := h'.delays.trans h.delays
  metrics := h'.metrics.trans h.metrics
  sends call := (h'.sends call).trans (h.sends call)
  journal := by
    obtain ⟨asides, eq, aside⟩ := h.journal
    obtain ⟨asides', eq', aside'⟩ := h'.journal
    refine ⟨asides' ++ asides, by rw [eq', eq, List.append_assoc], fun e mem => ?_⟩
    exact (List.mem_append.mp mem).elim (aside' e) (aside e)

theorem peek (h : l.Unmoved l') (clock : Clock) : clock.peek l' = clock.peek l := by
  unfold Clock.peek
  rw [h.clocks, h.now]

theorem note {e : Event} (aside : e.isAside = true) (l : Ledger) : l.Unmoved (l.note e) :=
  { refl l with journal := ⟨[e], rfl, fun e' mem => by rwa [List.mem_singleton.mp mem]⟩ }

end Unmoved

theorem Stirred.unmoved {id : ResponseId} (h : Stirred id l l') : l.Unmoved l' where
  causes := h.causes
  now := h.now
  clocks := h.clocks
  asks := h.asks
  delays := h.delays
  metrics := h.metrics
  sends := h.sends
  journal := by
    obtain ⟨closings, eq, closing⟩ := h.journal
    exact ⟨closings, eq, fun e mem => Event.isAside_of_isClosing (closing e mem)⟩

theorem Unmoved.failing (call : Nat) (l : Ledger) :
    l.Unmoved (l.adjustCall call fun c => { c with failures := c.failures + 1 }) :=
  (Stirred.failing ⟨0, 0⟩ call l).unmoved

theorem Unmoved.build (call : Nat) (r : Response) (l : Ledger) : l.Unmoved (l.build call r) :=
  { Unmoved.refl l with
    sends := updateAt_keeps CallState.sends (fun _ => by rfl) l.calls call }

end Ledger

theorem Work.read_unmoved (mode : Mode) (call : Nat) (id : ResponseId) (l : Ledger) :
    (read mode call id).Yields l fun _ l' => l.Unmoved l' := by
  have reads : (read mode call id).Yields l fun _ l' => (False → _) ∧ l.Stirred id l' :=
    read_stirs False.elim
  exact reads.2.unmoved

theorem Work.close_unmoved (mode : Mode) (call : Nat) (id : ResponseId) (l : Ledger) :
    (close mode call id).Yields l fun _ l' => l.Unmoved l' := by
  have closes : (close mode call id).Yields l fun _ l' => (False → _) ∧ l.Stirred id l' :=
    close_stirs False.elim
  exact closes.2.unmoved

theorem Place.discard_unmoved (p : Place) (mode : Mode) (call : Call) (r : ResponseRef)
    (l : Ledger) : (p.discard mode call r).Yields l fun _ l' => l.Unmoved l' := by
  have discards : (p.discard mode call r).Yields l fun result l' =>
      (False → Mild result) ∧ l.Stirred r.id l' := discard_stirs False.elim False.elim
  exact discards.2.unmoved

theorem Work.perform_unmoved (mode : Mode) (call : Nat) (act : Act) (l : Ledger) :
    (perform mode call act).Yields l fun _ l' => l.Unmoved l' := by
  cases act with
  | raise spec => exact .failing call l
  | nothing => exact .refl l
  | again index =>
    refine yields_get ?_
    split
    · exact .refl l
    · exact .failing call l
  | repeated serial =>
    refine yields_get ?_
    split
    · exact .refl l
    · exact .failing call l
  | respondText status text => exact .build call _ l
  | respond status stream how =>
    have added : (addResponse call (.ofStream status stream)).Yields l fun _ l' => l.Unmoved l' :=
      .build call _ l
    refine yields_bind added fun id l₁ built => ?_
    have prepared : (prepare mode call id how).Yields l₁ fun _ l' => l₁.Stirred id l' :=
      (prepare_stirs (g := False) False.elim how).2
    refine yields_bind prepared fun result _ stirred => ?_
    cases result with
    | ok u => exact built.trans stirred.unmoved
    | error e => exact built.trans stirred.unmoved

section
variable {s : Setting} {call : Call} {p : Place} {f : Frame} {start : Option Timestamp}
  {made : Nat} {outer frames : List Frame} {inner : List Place} {l l' l'' : Ledger}

theorem Walks.step {pt pt' : Point} (h : Takes s call pt l pt' l') :
    Walks s call (pt, l) (pt', l') := .single h

theorem Walks.pause {pt : Point} (h : l.Unmoved l') : Walks s call (pt, l) (pt, l') :=
  .single (.pause h)

/-- What each step of a chain keeps, the chain keeps. -/
theorem Walks.keeps {I : Point → Ledger → Prop} {pt pt' : Point}
    (walks : Walks s call (pt, l) (pt', l')) (start : I pt l)
    (keeps : ∀ pt l pt' l', Takes s call pt l pt' l' → I pt l → I pt' l') : I pt' l' := by
  have all : ∀ now, Walks s call (pt, l) now → I now.1 now.2 := by
    intro now walks
    induction walks with
    | refl => exact start
    | tail _ step ih => exact keeps _ _ _ _ step ih
  exact all _ walks

theorem Ledger.Unmoved.step {pt pt' : Point} (h : l.Unmoved l') (steps : Takes s call pt l' pt' l'') :
    Walks s call (pt, l) (pt', l'') := (Walks.pause h).tail steps

def Point.entered (frames : List Frame) (p : Place) (inner : List Place) :
    Except Failure (Option Timestamp) → Point
  | .ok start => ⟨⟨p, start, 0⟩ :: frames, inner, .down⟩
  | .error e => ⟨frames, p :: inner, .up (.raised e)⟩

def Verdict.point (f : Frame) (outer : List Frame) (inner : List Place) : Verdict → Point
  | .finished reply => ⟨outer, f.place :: inner, .up reply⟩
  | .again attempt => ⟨f :: outer, inner, .again attempt⟩

namespace Place

theorem bind_unmoved (p : Place) (call : Call) (l : Ledger) : l.Unmoved (p.bind call l).2 := by
  unfold Place.bind
  split
  · exact .note rfl l
  · exact .refl l

theorem enter_walks (frames : List Frame) (inner : List Place) :
    (p.enter s.mode call).Yields l fun entered l' =>
      Walks s call (⟨frames, p :: inner, .down⟩, l) (.entered frames p inner entered, l') := by
  have bound := p.bind_unmoved call l
  have same := bound.peek p.layer.clock
  refine yields_bind (P := fun _ l' => l' = (p.bind call l).2) rfl fun _ _ eq => yields_get ?_
  subst eq
  cases reads : p.layer.clock.peek (p.bind call l).2 with
  | ok start => exact bound.step (.enter reads)
  | error spec =>
    have made := bound.trans (.failing call.id _)
    exact made.step (.refuse (by rw [made.peek, ← same, reads]))

theorem report_eq (n : Notice) : p.report call n l = ((), p.logged call n l) := by
  unfold report logged entry
  cases n.isBound with
  | true => rfl
  | false => rfl

theorem report_logged (n : Notice) :
    (p.report call n).Yields l fun _ l' => l' = p.logged call n l := by
  unfold Yields
  rw [report_eq]

theorem attemptOf_faults (reply : Reply) :
    (p.attemptOf call start made reply).Yields l fun attempt l' =>
      Fits call start made reply attempt ∧ p.Faults reply attempt ∧ l.Unmoved l' := by
  unfold attemptOf errorOf Faults
  cases reply with
  | raised e => exact ⟨⟨rfl, rfl, rfl, rfl⟩, rfl, .refl l⟩
  | nothing => exact ⟨⟨rfl, rfl, rfl, rfl⟩, rfl, .refl l⟩
  | response r =>
    cases p.layer.forced with
    | none => exact ⟨⟨rfl, rfl, rfl, rfl⟩, rfl, .refl l⟩
    | some spec => exact ⟨⟨rfl, rfl, rfl, rfl⟩, ⟨_, rfl⟩, .failing call.id l⟩

theorem remarks_scripted (listed : p.layer.retryer.isScripted = true) (attempt : Attempt)
    (decision : Decision) (error : Option Failure) :
    (p.layer.retryer.remarks attempt decision error).foldl (fun l n => p.logged call n l) l =
      (p.mention call attempt decision error l).2 := by
  have mentions (retryer : Retryer) (listed : retryer.isScripted = true) :
      retryer.remarks attempt decision error =
        (error.map (.retryerError attempt.count decision)).toList := by
    cases retryer with
    | standard policy => cases listed
    | _ => rfl
  rw [mentions _ listed]
  cases error with
  | none => rfl
  | some e => exact (congrArg Prod.snd (report_eq _)).symm

end Place

variable (outer inner)

theorem decide_standard_walks {policy : DefaultPolicy}
    (standard : f.place.layer.retryer = .standard policy) (attempt : Attempt) :
    (f.place.decide call attempt).Yields l fun answer l' =>
      Walks s call (⟨f :: outer, inner, .judging attempt⟩, l)
        (⟨f :: outer, inner, .judged attempt answer⟩, l') := by
  have answers {l : Ledger} {decision : Decision} {error : Option Failure}
      (gives : f.place.layer.retryer.Gives attempt (l.asks f.place.index) decision error)
      (own : ∀ e, error = some e → ∃ serial, e.id = .fresh call.id serial) :
      Takes s call ⟨f :: outer, inner, .judging attempt⟩ l
        ⟨f :: outer, inner, .judged attempt (.ok (decision, error))⟩
        (f.place.answered call attempt none decision error l) := .answered gives fun _ => own
  simp only [standard, Retryer.Gives, Place.answered, Place.asking, Retryer.remarks,
    Retryer.isScripted] at answers
  unfold Place.decide Place.ask
  simp only [standard]
  cases decided : policy.decide attempt with
  | ignore => exact .single (answers ⟨decided.symm, rfl⟩ fun _ h => by cases h)
  | retry => exact .single (answers ⟨decided.symm, rfl⟩ fun _ h => by cases h)
  | abort =>
    -- The loop's own error is made first, which changes nothing that the later steps look at.
    refine (Ledger.Unmoved.failing call.id l).step ?_
    refine answers ⟨decided.symm, _, rfl⟩ fun e h => ?_
    cases h
    exact ⟨_, rfl⟩

theorem Place.asking_scripted (listed : p.layer.retryer.isScripted = true) (attempt : Attempt)
    (elapsed : Option Int) (l : Ledger) :
    p.asking call attempt elapsed l = { l.note (.asked call.id p.index attempt elapsed true) with
      asks := updateAt l.asks p.index (· + 1) } := by
  simp [asking, listed]

/-- What a retryer with a list of answers comes to where it is asked: it fails, or it gives a
decision; the failure that it gives along with one may as well have been made before it was asked. -/
def Consulted (s : Setting) (call : Call) (f : Frame) (outer : List Frame) (inner : List Place)
    (attempt : Attempt) (l : Ledger) (answer : Except Failure (Decision × Option Failure))
    (l' : Ledger) : Prop :=
  (∃ e, answer = .error e ∧ Walks s call (⟨f :: outer, inner, .judging attempt⟩, l)
    (⟨f :: outer, inner, .judged attempt answer⟩, l')) ∨
  ∃ decision error elapsed l₁, answer = .ok (decision, error) ∧ l.Unmoved l₁ ∧
    f.place.layer.retryer.Gives attempt (l₁.asks f.place.index) decision error ∧
    l' = f.place.asking call attempt elapsed l₁

theorem consult_walks {answers : Nat → Answer} (own : f.place.layer.retryer = .scripted answers ∨
      f.place.layer.retryer = .timed answers) (attempt : Attempt) (elapsed : Option Int) :
    (f.place.consult call attempt elapsed answers).Yields l
      (Consulted s call f outer inner attempt l) := by
  have listed : f.place.layer.retryer.isScripted = true := by
    rcases own with own | own <;> simp [own, Retryer.isScripted]
  have decides : f.place.layer.retryer.decision? attempt (l.asks f.place.index) =
      (answers (l.asks f.place.index)).decision? := by
    rcases own with own | own <;> simp [own, Retryer.decision?]
  have gives {decision : Decision} {error : Option Failure} {asked : Nat} {source : ErrorSource}
      (answer : answers asked = .decided decision source)
      (means : (answers asked).Means attempt (.ok (decision, error))) :
      f.place.layer.retryer.Gives attempt asked decision error := by
    rcases own with own | own
    · rw [own]
      exact ⟨⟨_, answer⟩, means⟩
    · rw [own]
      exact ⟨⟨_, answer⟩, means⟩
  have silent (e : Failure) (h : (answers (l.asks f.place.index)).decision? = none) :
      Walks s call (⟨f :: outer, inner, .judging attempt⟩, l)
        (⟨f :: outer, inner, .judged attempt (.error e)⟩, f.place.asking call attempt elapsed l) :=
    .single (.unanswered (decides.trans h))
  refine yields_get (yields_note (yields_modify ?_))
  change (Place.take call attempt _).Yields { l.note _ with asks := updateAt l.asks _ _ } _
  rw [← Place.asking_scripted listed]
  cases answer : answers (l.asks f.place.index) with
  | raises spec =>
    rw [answer] at silent
    exact .inl ⟨_, rfl, (silent _ rfl).tail (.pause (.failing call.id _))⟩
  | foreign shown =>
    rw [answer] at silent
    exact .inl ⟨_, rfl, (silent _ rfl).tail (.pause (.failing call.id _))⟩
  | decided decision source =>
    refine .inr ?_
    cases source with
    | nothing =>
      exact ⟨decision, _, _, l, rfl, .refl l, gives answer (by simp [answer, Answer.Means]), rfl⟩
    | own =>
      exact ⟨decision, _, _, l, rfl, .refl l, gives answer (by simp [answer, Answer.Means]), rfl⟩
    | given spec =>
      refine ⟨decision, _, elapsed, _, rfl, .failing call.id l, gives answer ?_, ?_⟩
      · show (answers (l.asks f.place.index)).Means attempt _
        rw [answer]
        exact ⟨_, rfl⟩
      · rw [Place.asking_scripted listed, Place.asking_scripted listed]
        rfl

theorem ask_scripted (listed : f.place.layer.retryer.isScripted = true) (attempt : Attempt) :
    (f.place.ask call attempt).Yields l (Consulted s call f outer inner attempt l) := by
  unfold Place.ask
  cases retryer : f.place.layer.retryer with
  | standard policy =>
    rw [retryer] at listed
    cases listed
  | scripted answers => exact consult_walks outer inner (.inl retryer) attempt none
  | timed answers =>
    refine yields_get ?_
    cases f.place.layer.clock.peek l with
    | error spec =>
      have timed : f.place.layer.retryer.isTimed = true := by rw [retryer]; rfl
      exact .inl ⟨_, rfl, (Walks.pause (.failing call.id l)).tail (.unasked timed)⟩
    | ok now => exact consult_walks outer inner (.inr retryer) attempt _

theorem decide_scripted_walks (listed : f.place.layer.retryer.isScripted = true)
    (attempt : Attempt) :
    (f.place.decide call attempt).Yields l fun answer l' =>
      Walks s call (⟨f :: outer, inner, .judging attempt⟩, l)
        (⟨f :: outer, inner, .judged attempt answer⟩, l') := by
  refine yields_bind (ask_scripted (s := s) outer inner listed attempt) fun answer l₂ asked => ?_
  rcases asked with ⟨e, rfl, walks⟩ | ⟨decision, error, elapsed, l₁, rfl, unmoved, gives, rfl⟩
  · exact walks
  · refine unmoved.step ?_
    have answered : Takes s call ⟨f :: outer, inner, .judging attempt⟩ l₁
        ⟨f :: outer, inner, .judged attempt (.ok (decision, error))⟩
        (f.place.answered call attempt elapsed decision error l₁) :=
      .answered gives fun standard => by
        rw [listed] at standard
        cases standard
    rw [Place.answered, Place.remarks_scripted listed] at answered
    exact answered

theorem decide_walks (attempt : Attempt) :
    (f.place.decide call attempt).Yields l fun answer l' =>
      Walks s call (⟨f :: outer, inner, .judging attempt⟩, l)
        (⟨f :: outer, inner, .judged attempt answer⟩, l') := by
  cases retryer : f.place.layer.retryer with
  | standard policy => exact decide_standard_walks outer inner retryer attempt
  | scripted answers =>
    exact decide_scripted_walks outer inner (by rw [retryer]; rfl) attempt
  | timed answers => exact decide_scripted_walks outer inner (by rw [retryer]; rfl) attempt

theorem weigh_walks {reply : Reply} (plain : reply.isInterrupt = false) :
    (f.place.weigh call f.start f.made reply).Yields (f.place.receiving call reply l)
      fun weighed l' => Walks s call (⟨f :: outer, inner, .up reply⟩, l)
        (⟨f :: outer, inner, .judged weighed.1 weighed.2⟩, l') := by
  have reports : (f.place.reportError call f.made reply).Yields (f.place.receiving call reply l)
      fun _ l' => ∀ attempt, Place.Fits call f.start f.made reply attempt →
        f.place.Faults reply attempt →
        Walks s call (⟨f :: outer, inner, .up reply⟩, l) (⟨f :: outer, inner, .judging attempt⟩, l')
      := by
    cases reply with
    | response r => exact fun attempt fits faults => .single (.received rfl fits faults)
    | nothing => exact fun attempt fits faults => .single (.received rfl fits faults)
    | raised e =>
      change (f.place.report call (.requestError (f.made + 1) e)).Yields _ _
      unfold Yields
      rw [Place.report_eq]
      exact fun attempt fits faults => .single (.raised plain fits faults)
  refine yields_bind reports fun _ l₁ received => ?_
  refine yields_bind (Place.attemptOf_faults reply) fun attempt l₂ made => ?_
  obtain ⟨fits, faults, unmoved⟩ := made
  refine yields_bind (decide_walks (s := s) outer inner attempt) fun answer l₃ decided =>
    yields_pure ?_
  exact ((received attempt fits faults).trans (Walks.pause unmoved)).trans decided

theorem release_walks {attempt : Attempt} {answer : Except Failure (Decision × Option Failure)}
    (rejected : attempt.passes answer = false) :
    (f.place.release s.mode call attempt).Yields l fun result l' => match result with
      | .ok () => Walks s call (⟨f :: outer, inner, .judged attempt answer⟩, l)
          (⟨f :: outer, inner, .cleared attempt answer⟩, l')
      | .error e => e.isSwallowed = false ∧
          Walks s call (⟨f :: outer, inner, .judged attempt answer⟩, l)
            (⟨f :: outer, inner, .releasing attempt answer⟩, l') := by
  cases has : attempt.response with
  | none =>
    unfold Place.release
    rw [has]
    exact .single (.pass (.inr has))
  | some r =>
    unfold Yields
    rw [Place.release_of_some has]
    have discards := f.place.discard_unmoved s.mode call r
      (l.note (.releasing call.id f.place.index r.id))
    unfold Yields at discards
    generalize f.place.discard s.mode call r (l.note (.releasing call.id f.place.index r.id)) =
      discarded at discards ⊢
    obtain ⟨result, l₁⟩ := discarded
    have begun : Walks s call (⟨f :: outer, inner, .judged attempt answer⟩, l)
        (⟨f :: outer, inner, .releasing attempt answer⟩, l₁) :=
      (Walks.step (.release rejected has)).trans (Walks.pause discards)
    cases result with
    | ok u => exact begun.tail .released
    | error e =>
      cases swallowed : e.isSwallowed with
      | true =>
        rw [Place.tolerate_swallowed attempt swallowed]
        exact begun.tail (.tolerate swallowed)
      | false =>
        simp only [Place.tolerate, swallowed]
        exact ⟨swallowed, begun⟩

theorem Place.chain_blaming (attempt : Attempt) (e : Failure) (l : Ledger) :
    Place.chain attempt e l = ((), attempt.blaming e l) := by
  unfold Place.chain Attempt.blaming
  cases attempt.error with
  | none => rfl
  | some cause =>
    cases same : cause.is e with
    | true => simp [same, pure_apply]
    | false =>
      simp only [same, Bool.false_eq_true, if_false]
      rfl

theorem Place.settle_unmoved (attempt : Attempt) :
    (Place.settle call attempt).Yields l fun reply l' => attempt.Settles reply ∧ l.Unmoved l' := by
  unfold Place.settle Attempt.Settles
  cases attempt.error with
  | some e => exact ⟨rfl, .refl l⟩
  | none =>
    cases attempt.response with
    | some r => exact ⟨rfl, .refl l⟩
    | none => exact ⟨⟨_, rfl⟩, .failing call.id l⟩

/-- What an abort raises is made, if need be, before it is reported. -/
theorem Place.abort_blaming (attempt : Attempt) (error : Option Failure) :
    (p.abort call attempt error).Yields l fun e l' => ∃ l₁, l.Unmoved l₁ ∧
      (error = some e ∨ error = none ∧ ∃ serial, e = .aborted (.fresh call.id serial) attempt) ∧
      l' = attempt.blaming e (p.logged call (.aborting attempt.count e) l₁) := by
  have chosen : (abortError call attempt error).Yields l fun e l₁ => l.Unmoved l₁ ∧
      (error = some e ∨ error = none ∧ ∃ serial, e = .aborted (.fresh call.id serial) attempt) := by
    cases error with
    | some e => exact ⟨.refl l, .inl rfl⟩
    | none => exact ⟨.failing call.id l, .inr ⟨rfl, _, rfl⟩⟩
  refine yields_bind chosen fun e l₁ made => ?_
  unfold Yields
  rw [bind_apply, report_eq, bind_apply, chain_blaming]
  exact ⟨l₁, made.1, made.2, rfl⟩

theorem resolve_walks (attempt : Attempt) (answer : Except Failure (Decision × Option Failure)) :
    (f.place.resolve call attempt answer >>= f.place.finish s.mode call).Yields l fun verdict l' =>
      Walks s call (⟨f :: outer, inner, .cleared attempt answer⟩, l)
        (verdict.point f outer inner, l') := by
  rcases answer with e | ⟨decision, error⟩
  · exact .single .reraise
  cases decision with
  | retry => exact .single .retry
  | ignore =>
    refine yields_bind (yields_bind (Place.settle_unmoved attempt) fun reply l' settled =>
      yields_pure ?_)
      (P := fun verdict l' => ∃ reply, verdict = .finished reply ∧ attempt.Settles reply ∧
        l.Unmoved l') fun verdict l' settled => ?_
    · exact ⟨reply, rfl, settled⟩
    · obtain ⟨reply, rfl, settles, unmoved⟩ := settled
      exact unmoved.step (.settle settles)
  | abort =>
    refine yields_bind (yields_bind (Place.abort_blaming attempt error) fun e l' aborted =>
      yields_pure ?_) (P := fun verdict l' => ∃ e l₁, verdict = .finished (.raised e) ∧
        l.Unmoved l₁ ∧
        (error = some e ∨ error = none ∧ ∃ serial, e = .aborted (.fresh call.id serial) attempt) ∧
        l' = attempt.blaming e (f.place.logged call (.aborting attempt.count e) l₁))
      fun verdict l' aborted => ?_
    · obtain ⟨l₁, aborted⟩ := aborted
      exact ⟨e, l₁, rfl, aborted⟩
    · obtain ⟨e, l₁, rfl, unmoved, raises, rfl⟩ := aborted
      exact unmoved.step (.abort raises)

theorem follow_walks (attempt : Attempt) (answer : Except Failure (Decision × Option Failure)) :
    (f.place.follow s.mode call attempt answer >>= f.place.finish s.mode call).Yields l fun verdict l' =>
      Walks s call (⟨f :: outer, inner, .judged attempt answer⟩, l)
        (verdict.point f outer inner, l') := by
  cases passes : attempt.passes answer with
  | true =>
    rw [Place.follow_of_passes passes]
    exact (resolve_walks outer inner attempt answer).mono fun _ _ walks =>
      (Walks.step (.pass (.inl passes))).trans walks
  | false =>
    have releases : (f.place.release s.mode call attempt).Yields l _ :=
      release_walks outer inner passes
    unfold Yields at releases ⊢
    rw [bind_apply, Place.follow_of_rejected passes]
    generalize f.place.release s.mode call attempt l = released at releases ⊢
    obtain ⟨result, l₁⟩ := released
    cases result with
    | error e => exact releases.2.tail (.breakOff releases.1)
    | ok u => exact releases.trans (resolve_walks outer inner attempt answer)

theorem conclude_walks (reply : Reply) :
    (f.place.conclude s call f.start f.made reply).Yields l fun verdict l' =>
      Walks s call (⟨f :: outer, inner, .up reply⟩, l) (verdict.point f outer inner, l') := by
  cases plain : reply.isInterrupt with
  | true =>
    cases reply with
    | response r => cases plain
    | nothing => cases plain
    | raised e =>
      unfold Yields
      rw [Place.conclude_interrupt s f.start f.made plain]
      exact .single (.interrupted plain)
  | false =>
    refine Place.yields_conclude plain (weigh_walks (s := s) outer inner plain)
      fun attempt answer l₁ weighed => ?_
    exact (follow_walks outer inner attempt answer).mono fun _ _ walks => weighed.trans walks

theorem delayWork_walks (delay : Delayer) (attempt : Attempt) (began : Rat) :
    (f.place.delayWork s.mode delay call attempt).Yields l fun result l' =>
      Walks s call (⟨f :: outer, inner, .waiting delay attempt began⟩, l) (match result with
        | .ok () => ⟨f :: outer, inner, .worked attempt began⟩
        | .error e => ⟨outer, f.place :: inner, .up (.raised e)⟩, l') := by
  refine yields_note (yields_get (yields_modify ?_))
  refine yields_bind (P := fun _ l' => l' = f.place.delaying call delay attempt l) rfl
    fun _ l₁ worked => ?_
  subst worked
  have same : (delay ((l.note (.delaying call.id f.place.index attempt)).delays
      f.place.index)).failure = (delay (l.delays f.place.index)).failure := rfl
  rw [same]
  cases works : (delay (l.delays f.place.index)).failure with
  | none => exact .single (.work works)
  | some spec => exact (Ledger.Unmoved.failing call.id l).step (.fail works)

end

end HttpRetry
