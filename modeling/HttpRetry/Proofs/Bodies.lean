import HttpRetry.Proofs.Delivered
import HttpRetry.Proofs.Draining
import HttpRetry.Proofs.Independence
import HttpRetry.Proofs.Likeness.Steps
import HttpRetry.Proofs.Modes
import HttpRetry.Proofs.Redressed
/-!
What the bodies of responses are does not matter to a run, as long as the ways in which they fail are
swallowed. An innermost transport may hand out other bodies, be it that these are longer, fail when they
are read or closed, or cannot be read in the mode at all: the layers send, ask, wait and answer as
before.
-/
set_option autoImplicit false

namespace HttpRetry

open Work

def Act.builds : Act → Bool
  | .respondText .. | .respond .. => true
  | _ => false

def Feed.builtBefore (feed : Feed) (n : Nat) : Nat :=
  (List.range n).countP fun k => (feed k).act.builds

theorem Feed.builtBefore_succ (feed : Feed) (n : Nat) :
    feed.builtBefore (n + 1) = feed.builtBefore n + if (feed n).act.builds then 1 else 0 := by
  rw [builtBefore, List.range_succ, List.countP_append, List.countP_singleton]
  rfl

/-- Whether a fresh response of such a stream can be made ready before it is handed out. -/
def Stream.Prepares (mode : Mode) (how : Preparation) (s : Stream) : Prop :=
  ∀ call id status l, l.response? id = some (.ofStream status s) →
    (prepare mode call id how l).1 = .ok ()

inductive Act.HandsOut (mode : Mode) (status : Int) : Body → Act → Prop
  | text (text : String) : Act.HandsOut mode status (.memory text) (.respondText status text)
  | stream {s : Stream} {how : Preparation} (prepares : s.Prepares mode how) :
    Act.HandsOut mode status (.stream s) (.respond status s how)

/-- The same outcome, or two that hand out responses which differ in their bodies. -/
inductive Act.Redressed (mode : Mode) (exchange : Body → Body → Prop) : Act → Act → Prop
  | same (act : Act) : Act.Redressed mode exchange act act
  | dressed {status : Int} {body body' : Body} {act act' : Act} (exchanged : exchange body body')
    (hands : act.HandsOut mode status body) (hands' : act'.HandsOut mode status body') :
    Act.Redressed mode exchange act act'

/-- Two ways to feed a call that differ in the bodies of some of the responses handed out. -/
structure Feed.Redressed (mode : Mode) (exchange : Exchange) (call : Nat) (feed feed' : Feed) :
    Prop where
  advance : ∀ n, (feed' n).advance = (feed n).advance
  act : ∀ n, Act.Redressed mode (exchange ⟨call, feed.builtBefore n⟩) (feed n).act (feed' n).act

def Ledger.FedBy (feeds : Nat → Feed) (l : Ledger) : Prop :=
  ∀ call, (l.calls call).built = (feeds call).builtBefore (l.calls call).sends

structure Ledger.Builds (call n : Nat) (l l' : Ledger) : Prop where
  sends : ∀ other, (l'.calls other).sends = (l.calls other).sends
  own : (l'.calls call).built = (l.calls call).built + n
  others : ∀ other ≠ call, (l'.calls other).built = (l.calls other).built

namespace Ledger.Builds

variable {call n : Nat} {id : ResponseId} {l l' l'' : Ledger}

theorem none (call : Nat) (sends : ∀ other, (l'.calls other).sends = (l.calls other).sends)
    (built : ∀ other, (l'.calls other).built = (l.calls other).built) : Builds call 0 l l' :=
  ⟨sends, built call, fun other _ => built other⟩

theorem build (call : Nat) (r : Response) (l : Ledger) : Builds call 1 l (l.build call r) where
  sends := updateAt_keeps CallState.sends (fun _ => by rfl) l.calls call
  own := congrArg CallState.built (updateAt_self l.calls call _)
  others other ne := by
    show (updateAt l.calls call _ other).built = (l.calls other).built
    rw [updateAt_of_ne ne]

theorem stirred (h : Builds call n l l') (stirred : Stirred id l' l'') : Builds call n l l'' where
  sends other := (stirred.sends other).trans (h.sends other)
  own := (stirred.built call).trans h.own
  others other ne := (stirred.built other).trans (h.others other ne)

end Ledger.Builds

namespace Work

variable {mode : Mode} {call : Nat} {l : Ledger}

theorem prepare_stirred (mode : Mode) (call : Nat) (id : ResponseId) (how : Preparation)
    (l : Ledger) : (prepare mode call id how).Yields l fun _ l' => l.Stirred id l' :=
  (prepare_stirs (g := False) False.elim how).2

theorem perform_builds (mode : Mode) (call : Nat) (act : Act) (l : Ledger) :
    (perform mode call act).Yields l fun _ l' => l.Builds call (if act.builds then 1 else 0) l' := by
  have raises (spec : FailureSpec) : (do return Reply.raised (← fail call spec) : Work Reply).Yields l
      fun _ l' => l.Builds call 0 l' := by
    have rests := Ledger.Rests.failing l call
    exact .none call rests.sends rests.built
  have stays (reply : Reply) : (pure reply : Work Reply).Yields l fun _ l' => l.Builds call 0 l' :=
    .none call (fun _ => rfl) fun _ => rfl
  cases act with
  | raise spec => exact raises spec
  | nothing => exact stays .nothing
  | again index =>
    refine yields_get ?_
    split
    · exact stays _
    · exact raises unbuilt
  | repeated serial =>
    refine yields_get ?_
    split
    · exact stays _
    · exact raises unbuilt
  | respondText status text => exact .build call _ l
  | respond status stream how =>
    have added : (addResponse call (.ofStream status stream)).Yields l fun _ l' =>
        l.Builds call 1 l' := .build call _ l
    refine yields_bind added fun id l₁ builds => ?_
    refine yields_bind (prepare_stirred mode call id how l₁) fun result _ stirred => ?_
    cases result with
    | ok u => exact builds.stirred stirred
    | error e => exact builds.stirred stirred

end Work

theorem Act.HandsOut.performs {mode : Mode} {status : Int} {body : Body} {act : Act}
    (hands : act.HandsOut mode status body) {l : Ledger} (numbered : l.Numbered) (call : Nat) :
    ∃ r : Response, r.status = status ∧ r.body = body ∧
      (perform mode call act).Yields l fun reply l' =>
        reply = .response ⟨⟨call, (l.calls call).built⟩, status⟩ ∧
          (l.build call r).Cleared ⟨call, (l.calls call).built⟩ l' := by
  cases hands with
  | text text => exact ⟨.ofText status text, rfl, rfl, rfl, (Ledger.Stirred.refl _ _).cleared⟩
  | @stream s how prepares =>
    refine ⟨.ofStream status s, rfl, rfl, ?_⟩
    have known := numbered.response?_build call (.ofStream status s)
    have prepared := prepares call _ status _ known
    have stirred := prepare_stirred mode call ⟨call, (l.calls call).built⟩ how
      (l.build call (.ofStream status s))
    have added : (addResponse call (.ofStream status s)).Yields l fun id l₁ =>
        id = ⟨call, (l.calls call).built⟩ ∧ l₁ = l.build call (.ofStream status s) := ⟨rfl, rfl⟩
    refine yields_bind added fun id l₁ built => ?_
    obtain ⟨rfl, rfl⟩ := built
    have prepares : (prepare mode call ⟨call, (l.calls call).built⟩ how).Yields
        (l.build call (.ofStream status s)) fun result l' => result = .ok () ∧
          (l.build call (.ofStream status s)).Stirred ⟨call, (l.calls call).built⟩ l' :=
      ⟨prepared, stirred⟩
    refine yields_bind prepares fun result l₂ done => ?_
    obtain ⟨rfl, stirred⟩ := done
    exact ⟨rfl, stirred.cleared⟩

theorem Redressed.likens_perform {exchange : Exchange} {ids : Naming} {l l' : Ledger}
    (tied : Redressed exchange ids l l') {mode : Mode} {call : Call} {n : Nat} {act' : Act}
    (acts : Act.Redressed mode (exchange ⟨call.id, (l.calls call.id).built⟩) (call.feed n).act act') :
    Likens (Redressed exchange) (Reply.Alike lockstep) (perform mode call.id (call.feed n).act)
      (perform mode call.id act') ids l l' := by
  generalize own : (call.feed n).act = act at acts
  cases acts with
  | same =>
    rw [← own]
    exact (resends exchange mode call).likens_perform (parallel exchange call.id) (fun _ => rfl)
      (.refl trivial _) tied
  | dressed exchanged hands hands' =>
    obtain ⟨r, status, body, performs⟩ := hands.performs tied.numbered.1 call.id
    obtain ⟨r', status', body', performs'⟩ := hands'.performs tied.numbered.2 call.id
    have known' := tied.numbered.2.response?_build call.id r'
    rw [tied.built] at performs' known'
    rw [← body, ← body'] at exchanged
    have same : r'.status = r.status := status'.trans status.symm
    have built := tied.build call.id (.inr ⟨same, exchanged⟩)
    have dressed : DressedAt exchange ⟨call.id, (l.calls call.id).built⟩ (l.build call.id r)
        (l'.build call.id r') :=
      ⟨r, r', tied.numbered.1.response?_build call.id r, known', same, exchanged⟩
    refine ⟨ids, fun h => h, ?_, built.cleared dressed performs.2 performs'.2⟩
    rw [performs.1, performs'.1]
    exact .response _ trivial

namespace Ledger.FedBy

variable {feeds : Nat → Feed} {l l' : Ledger} {id : ResponseId}

theorem rests (h : l.FedBy feeds) (rests : l.Rests l') : l'.FedBy feeds := fun call => by
  rw [rests.built, rests.sends, h call]

theorem cleared (h : l.FedBy feeds) (clears : l.Cleared id l') : l'.FedBy feeds := fun call => by
  rw [clears.built, clears.sends, h call]

theorem transmit (h : l.FedBy feeds) {call : Call} (fed : call.feed = feeds call.id) (mode : Mode) :
    (call.transmit mode).Yields l fun _ l' => l'.FedBy feeds := by
  have builds := perform_builds mode call.id (call.feed (l.calls call.id).sends).act (call.asking l)
  unfold Yields at builds ⊢
  have kept : (call.transmit mode l).2 =
      (perform mode call.id (call.feed (l.calls call.id).sends).act (call.asking l)).2 := rfl
  rw [kept]
  intro other
  have asked : ((call.asking l).calls other) = updateAt l.calls call.id
      (fun c => { c with sends := c.sends + 1 }) other := rfl
  by_cases own : other = call.id
  · subst own
    rw [builds.sends, builds.own, asked, updateAt_self, Feed.builtBefore_succ, ← h call.id, fed]
  · rw [builds.sends, builds.others other own, asked, updateAt_of_ne own, h other]

end Ledger.FedBy

/-- Discarding a response that fails in swallowed ways is work on it, and all that comes of it. -/
theorem Place.disposes (p : Place) (mode : Mode) (call : Call) (attempt : Attempt) {l : Ledger}
    {r : ResponseRef} (limited : p.layer.limitFailure? = none) (gentle : l.GentleAt r.id) :
    (p.discard mode call r >>= p.tolerate call attempt).Yields l fun result l' =>
      result = .ok () ∧ l.Cleared r.id l' := by
  refine yields_bind (discard_stirs (fun _ : True => limited) fun _ => gentle)
    fun result l₁ discarded => ?_
  obtain ⟨mild, stirred⟩ := discarded
  cases result with
  | ok u => exact ⟨rfl, stirred.cleared⟩
  | error e =>
    unfold Yields
    rw [tolerate_swallowed attempt (mild trivial e rfl)]
    exact ⟨rfl, (stirred.cleared.reported p call.id attempt.count _ _ e).counted p⟩

def FedBoth (feeds feeds' : Nat → Feed) (call : Call) (feed : Feed) : Prop :=
  call.feed = feeds call.id ∧ feed = feeds' call.id

/-- The same layer in both runs, whose drain limit is a whole number. -/
def Place.Limited (p p' : Place) : Prop := p' = p ∧ p.layer.limitFailure? = none

/-- Runs that are alike but for the bodies of some responses, each fed in its way. -/
def Redressing (exchange : Exchange) (feeds : Nat → Feed) : Tie :=
  fun ids l l' => Redressed exchange ids l l' ∧ l.FedBy feeds

namespace Redressing

variable {exchange : Exchange} {feeds : Nat → Feed} {ids : Naming} {l l' : Ledger}
  {id : ResponseId} {α β : Type} {mode : Mode}

theorem parallel (exchange : Exchange) (feeds : Nat → Feed) (call : Nat) :
    Parallel lockstep call (Redressing exchange feeds) :=
  (Redressed.parallel exchange call).and fun fed rests _ => fed.rests rests

theorem replays (exchange : Exchange) (feeds : Nat → Feed) (mode : Mode) :
    Replays lockstep (Redressing exchange feeds) mode mode where
  adjust tied _ same _ use := ⟨(Redressed.replays exchange mode).adjust tied.1 same use, tied.2⟩
  counted tied method decision :=
    ⟨(Redressed.replays exchange mode).counted tied.1 method decision, tied.2⟩
  drained tied := ⟨(Redressed.replays exchange mode).drained tied.1, tied.2⟩

theorem likens_cleared {w : Work α} {w' : Work β} {V : α → Prop} {V' : β → Prop}
    (tied : Redressing exchange feeds ids l l') (dressed : DressedAt exchange id l l')
    (clears : w.Yields l fun a l₁ => V a ∧ l.Cleared id l₁)
    (clears' : w'.Yields l' fun b l₁' => V' b ∧ l'.Cleared id l₁') :
    Likens (Redressing exchange feeds) (fun _ a b => V a ∧ V' b) w w' ids l l' :=
  ⟨ids, fun h => h, ⟨clears.1, clears'.1⟩, tied.1.cleared dressed clears.2 clears'.2,
    tied.2.cleared clears.2⟩

variable (mode) in
/-- What is done alike to a response that is the same, and is work on it if it is not, can be done to
any response. -/
theorem likens_handled {w : Work (Except Failure Unit)} (tied : Redressing exchange feeds ids l l')
    (alike : l'.response? id = l.response? id →
      Likens (Tie.at (Redressing exchange feeds) lockstep mode mode id) (Ended lockstep) w w ids l l')
    (stirs : ∀ l, w.Yields l fun _ l' => l.Stirred id l') :
    Likens (Redressing exchange feeds) (fun _ _ _ => True) w w ids l l' := by
  rcases tied.1.response? id with same | dressed
  · exact ((alike same).weaken fun tied => tied.1).mono fun _ _ _ _ => trivial
  · have clears (l : Ledger) : w.Yields l fun _ l' => True ∧ l.Cleared id l' :=
      ⟨trivial, Ledger.Stirred.cleared (stirs l)⟩
    exact (likens_cleared tied dressed (clears l) (clears l')).mono fun _ _ _ _ => trivial

theorem likens_read (tied : Redressing exchange feeds ids l l') (call : Nat) (id : ResponseId) :
    Likens (Redressing exchange feeds) (fun _ _ _ => True) (Work.read mode call id)
      (Work.read mode call id) ids l l' :=
  likens_handled mode tied
    (fun same => (replays exchange feeds mode).likens_read (parallel exchange feeds call)
      (fun _ => rfl) ⟨tied, .of_eq trivial same⟩)
    fun _ => (read_stirs (g := False) False.elim).2

theorem likens_close (tied : Redressing exchange feeds ids l l') (call : Nat) (id : ResponseId) :
    Likens (Redressing exchange feeds) (fun _ _ _ => True) (Work.close mode call id)
      (Work.close mode call id) ids l l' :=
  likens_handled mode tied
    (fun same => (replays exchange feeds mode).likens_close (parallel exchange feeds call)
      (fun _ => rfl) ⟨tied, .of_eq trivial same⟩)
    fun _ => (close_stirs (g := False) False.elim).2

theorem likens_release (gentle : ∀ id b b', exchange id b b' → b.Gentle ∧ b'.Gentle) {p : Place}
    (limited : p.layer.limitFailure? = none) {s : Setting} {call : Call} {feed : Feed}
    {attempt attempt' : Attempt} (alike : attempt.Alike lockstep ids attempt')
    (tied : Redressing exchange feeds ids l l') :
    Likens (Redressing exchange feeds) (Ended lockstep) (p.release s.mode call attempt)
      (p.release s.mode (call.fed feed) attempt') ids l l' := by
  have h := parallel exchange feeds call.id
  have w := replays exchange feeds s.mode
  cases response : attempt.response with
  | none =>
    refine Place.likens_release h w (fun _ => rfl) rfl rfl alike
      (fun r found => ?_) tied
    rw [response] at found
    cases found
  | some r =>
    rcases tied.1.response? r.id with same | dressed
    · refine Place.likens_release h w (fun _ => rfl) rfl rfl alike
        (fun r' found => ?_) tied
      obtain rfl : r = r' := Option.some.inj (response.symm.trans found)
      exact .of_eq trivial same
    · obtain ⟨b, b', known, known', -, exchanged⟩ := dressed.known
      have gentle := gentle r.id b.body b'.body exchanged
      unfold Place.release
      rw [alike.response, response]
      let e := Event.releasing call.id p.index r.id
      have noted : e.Alike lockstep ids e := .releasing call.id rfl r.id
      have dressed : DressedAt exchange r.id (l.note e) (l'.note e) := ⟨dressed.known⟩
      have gentleAt : (l.note e).GentleAt r.id := Ledger.gentleAt_of_body known gentle.1
      have gentleAt' : (l'.note e).GentleAt r.id := Ledger.gentleAt_of_body known' gentle.2
      refine likens_noted ?_
      have disposed := likens_cleared (h.note tied rfl noted) dressed
        (p.disposes s.mode call attempt limited gentleAt)
        (p.disposes s.mode (call.fed feed) attempt' limited gentleAt')
      refine disposed.mono fun ids result result' ok => ?_
      rw [ok.1, ok.2]
      exact .ok trivial

theorem likens_transmit {call : Call} {feed : Feed} {feeds : Nat → Feed}
    (redressed : call.feed.Redressed mode exchange call.id feed) (fed : call.feed = feeds call.id)
    (tied : Redressing exchange feeds ids l l') :
    Likens (Redressing exchange feeds) (Reply.Alike lockstep) (call.transmit mode)
      ((call.fed feed).transmit mode) ids l l' := by
  have sends : (l'.calls call.id).sends = (l.calls call.id).sends := tied.1.sends call.id
  have built : (l.calls call.id).built = call.feed.builtBefore (l.calls call.id).sends := by
    rw [fed]
    exact tied.2 call.id
  have asked : Redressed exchange ids (call.asking l) ((call.fed feed).asking l') := by
    have noted := tied.1.note (.sent call.id call.request)
    have sent := (Redressed.resends exchange mode call).send noted
    have advanced := (Redressed.parallel exchange call.id).advance sent
      (call.feed (l.calls call.id).sends).advance
    have same : (feed (l'.calls call.id).sends).advance =
        (call.feed (l.calls call.id).sends).advance := by
      rw [sends]
      exact redressed.advance _
    have asks : (call.fed feed).asking l' =
        { (l'.note (.sent call.id call.request)).adjustCall call.id
            fun c => { c with sends := c.sends + 1 } with
          now := l'.now + (call.feed (l.calls call.id).sends).advance } := by
      rw [← same]
      rfl
    rw [asks]
    exact advanced
  have acts := redressed.act (l.calls call.id).sends
  rw [← built, ← call.built_asking] at acts
  have performs := asked.likens_perform acts
  have again : (call.fed feed).transmit mode l' = (do
      return (← perform mode call.id (feed (l.calls call.id).sends).act).outOf mode.routine)
        ((call.fed feed).asking l') := by
    rw [← sends]
    rfl
  obtain ⟨ids', le, reply, after⟩ :=
    likens_map performs fun _ _ _ reply => reply.outOf fun _ : lockstep.endings => (rfl : mode = mode)
  exact ⟨ids', le, by rw [again]; exact reply, by rw [again]; exact after, tied.2.transmit fed mode⟩

theorem course (gentle : ∀ id b b', exchange id b b' → b.Gentle ∧ b'.Gentle) (s : Setting)
    (call : Call) (feed : Feed) :
    Course lockstep (Redressing exchange feeds) .never s s call feed Place.Limited where
  parallel := parallel exchange feeds call.id
  modes _ := rfl
  layers := by
    rintro p _ ⟨rfl, limited⟩
    refine Place.alike_of_layer (parallel exchange feeds call.id) (replays exchange feeds s.mode) rfl
      rfl (fun _ _ => trivial) (fun tied _ => by rw [tied.1.asks]) (fun tied _ _ => tied.1.reads _)
      (fun tied _ _ => by rw [tied.1.delays]) (fun tied _ _ _ _ times => ?_)
      fun tied _ _ alike => likens_release gentle limited alike tied
    obtain ⟨rfl, rfl⟩ := times trivial
    exact ⟨{ tied.1 with delay := congrArg (Histogram.observe · _) tied.1.delay }, tied.2⟩
  enters := by
    rintro p _ ⟨rfl, -⟩ ids l l' tied
    have h := parallel exchange feeds call.id
    exact (Place.likens_enter h (fun _ => rfl) rfl tied rfl (Place.likens_binds h rfl rfl)
      fun tied => tied.1.reads _).tracks
  stays lost := lost.elim

theorem concerted {s : Setting} {places : List Place} {feeds feeds' : Nat → Feed}
    (gentle : ∀ id b b', exchange id b b' → b.Gentle ∧ b'.Gentle)
    (limited : ∀ p ∈ places, p.layer.limitFailure? = none)
    (redressed : ∀ call, (feeds call).Redressed s.mode exchange call (feeds' call)) :
    Concerted lockstep (Redressing exchange feeds) s (FedBoth feeds feeds') Place.Limited places
      places where
  courses {call feed} _ := course gentle s call feed
  layers := List.forall₂_same.mpr fun p mem => ⟨rfl, limited p mem⟩
  transmits := by
    rintro call feed ⟨fed, rfl⟩ ids l l' tied
    exact likens_transmit (fed ▸ redressed call.id) fed tied
  read tied := likens_read tied
  close tied := likens_close tied

end Redressing

def Move.fedBy (feeds : Nat → Feed) : Move → Move
  | .send call budget => .send (call.fed (feeds call.id)) budget
  | .resume i => .resume i
  | .cancel i => .cancel i
  | .read call id => .read call id
  | .close call id => .close call id

def Task.fedBy (feeds : Nat → Feed) (t : Task) : Task :=
  { t with call := t.call.fed (feeds t.call.id) }

section
variable {feeds feeds' : Nat → Feed}

theorem Move.fedBy_alike (m : Move) :
    (m.fedBy feeds).Alike (FedBoth feeds feeds') (m.fedBy feeds') := by
  cases m with
  | resume i => exact .resume i
  | cancel i => exact .cancel i
  | send call budget =>
    have fit : FedBoth feeds feeds' (call.fed (feeds call.id)) (feeds' call.id) := ⟨rfl, rfl⟩
    exact .send fit budget
  | read call id => exact .read call id
  | close call id => exact .close call id

theorem Task.fedBy_alike {k : Likeness} {T : Place → Place → Prop} {ids : Naming} {t : Task}
    (waiting : t.stage = .waiting) :
    (t.fedBy feeds).Alike k T (FedBoth feeds feeds') ids (t.fedBy feeds') := by
  obtain ⟨call, cancelAt, stage⟩ := t
  obtain rfl : stage = .waiting := waiting
  have fit : FedBoth feeds feeds' (call.fed (feeds call.id)) (feeds' call.id) := ⟨rfl, rfl⟩
  exact .fed fit cancelAt .waiting

theorem Stage.Alike.reply? {k : Likeness} {T : Place → Place → Prop} {ids : Naming}
    {stage stage' : Stage} (h : stage.Alike k T ids stage') :
    Sent.Alike k ids stage.reply? stage'.reply? := by
  cases h with
  | waiting => exact .none
  | running => exact .none
  | ended alike => exact .some alike

end

/-- Bodies never matter to a run: neither those of responses that a layer rejects nor any others. Two
runs of the same moves over the same layers are alike if the innermost transport hands out, in one of
them, other bodies with some of the responses, and if these fail, and reaching a drain limit fails, in
swallowed ways only. All calls come to the same replies; the same requests are sent, the same attempts
judged and in the same way, the same delays waited for, at the same times and in the same order; and
the responses whose bodies are not exchanged are in the same state. A release that fails is reported
once, whatever of it fails. -/
theorem bodies_never_matter (s : Setting) (feeds feeds' : Nat → Feed) {exchange : Exchange}
    {places : List Place}
    (redressed : ∀ call, (feeds call).Redressed s.mode exchange call (feeds' call))
    (gentle : ∀ id b b', exchange id b b' → b.Gentle ∧ b'.Gentle)
    (limited : ∀ p ∈ places, p.layer.limitFailure? = none) (moves : List Move) {tasks : List Task}
    (waiting : ∀ t ∈ tasks, t.stage = .waiting) :
    let ran := runMoves s places (moves.map (Move.fedBy feeds)) (tasks.map (Task.fedBy feeds)) {}
    let ran' := runMoves s places (moves.map (Move.fedBy feeds')) (tasks.map (Task.fedBy feeds')) {}
    (∃ ids, Redressed exchange ids ran.2 ran'.2 ∧
      (∀ id, (∀ b b', ¬ exchange id b b') → ran'.2.response? id = ran.2.response? id) ∧
      List.Forall₂ (fun t t' : Task => Sent.Alike lockstep ids t.stage.reply? t'.stage.reply?)
        ran.1 ran'.1 ∧
      ∀ (call : Call) budget, ∃ ids', Subrelation ids ids' ∧ Sent.Alike lockstep ids'
        (s.send places budget (call.fed (feeds call.id)) ran.2).1
        (s.send places budget (call.fed (feeds' call.id)) ran'.2).1) ∧
    ∀ p ∈ places, ∀ call attempt r l, attempt.response = some r → l.GentleAt r.id →
      p.ReportsOnce s.mode call attempt r l := by
  intro ran ran'
  have concerted := Redressing.concerted gentle limited redressed
  refine ⟨?_, fun p mem call attempt r l has gentleAt =>
    Place.reportsOnce (limited p mem) gentleAt has⟩
  have started : Redressing exchange feeds .initial {} {} := ⟨.empty exchange, fun _ => rfl⟩
  have sameMoves : List.Forall₂ (Move.Alike (FedBoth feeds feeds')) (moves.map (Move.fedBy feeds))
      (moves.map (Move.fedBy feeds')) := by
    rw [List.forall₂_map_left_iff, List.forall₂_map_right_iff]
    exact List.forall₂_same.mpr fun m _ => m.fedBy_alike
  have sameTasks : List.Forall₂
      (Task.Alike lockstep Place.Limited (FedBoth feeds feeds') .initial)
      (tasks.map (Task.fedBy feeds)) (tasks.map (Task.fedBy feeds')) := by
    rw [List.forall₂_map_left_iff, List.forall₂_map_right_iff]
    exact List.forall₂_same.mpr fun t mem => Task.fedBy_alike (waiting t mem)
  obtain ⟨ids, -, alike, tied, fed⟩ := concerted.likens_runMoves sameMoves sameTasks started
  refine ⟨ids, tied, fun id unexchanged => ?_, ?_, fun call budget => ?_⟩
  · rcases tied.response? id with same | ⟨r, r', -, -, -, exchanged⟩
    · exact same
    · exact absurd exchanged (unexchanged _ _)
  · refine alike.imp fun t t' task => ?_
    cases task with
    | fed fit cancelAt stages => exact stages.reply?
  · have fit : FedBoth feeds feeds' (call.fed (feeds call.id)) (feeds' call.id) := ⟨rfl, rfl⟩
    obtain ⟨ids', le, sent, -⟩ := concerted.likens_send fit budget ⟨tied, fed⟩
    exact ⟨ids', le, sent⟩

def hopelessStream : Stream :=
  ⟨.blocking, [.filler 3], some (.of .runtimeError (some "broken")),
    some (.of .osError (some "reset"))⟩

def soundFeed : Feed := fun sent =>
  { act := if sent = 0 then .respondText 503 "busy" else .respondText 200 "ok" }

theorem hopelessStream_gentle : hopelessStream.Gentle := by
  refine ⟨fun spec fails => ?_, fun spec fails => ?_⟩
  · cases fails
    rfl
  · cases fails
    rfl

theorem bodies_never_matter_broken :
    let broken := runMoves ⟨.blocking, .binary⟩ [oneRetry] [.send brokenCall 2] [] {}
    let sound := runMoves ⟨.blocking, .binary⟩ [oneRetry] [.send (brokenCall.fed soundFeed) 2] [] {}
    let r : ResponseRef := ⟨⟨0, 0⟩, 503⟩
    let attempt : Attempt := ⟨none, 1, none, brokenCall.request, some r, Nat.le_refl 1⟩
    let sent := (brokenCall.transmit .blocking {}).2
    (∃ ids, List.Forall₂ (Event.Alike lockstep ids) broken.2.dealings sound.2.dealings) ∧
      broken.2.metrics.drainErrors = 1 ∧ sound.2.metrics.drainErrors = 0 ∧
      (oneRetry.drainedIn .blocking brokenCall r sent).1 =
        .error (.raised (.fresh 0 0) .runtimeError "broken") ∧
      (oneRetry.release .blocking brokenCall attempt sent).2.drainFailures =
        [(0, 0, 1, .raised (.fresh 0 1) .osError "reset")] := by
  intro broken sound r attempt sent
  let exchange : Exchange := fun id b b' =>
    id.serial = 0 ∧ b = .stream hopelessStream ∧ b' = .memory "busy"
  have redressed : ∀ call : Nat, brokenCall.feed.Redressed .blocking exchange call soundFeed := by
    intro call
    refine ⟨fun n => rfl, fun n => ?_⟩
    cases n with
    | zero =>
      have fresh : hopelessStream.Prepares .blocking .fresh := fun _ _ _ _ _ => rfl
      exact .dressed ⟨rfl, rfl, rfl⟩ (.stream fresh) (.text "busy")
    | succ n => exact .same _
  have gentle : ∀ id b b', exchange id b b' → b.Gentle ∧ b'.Gentle := by
    rintro id b b' ⟨-, rfl, rfl⟩
    exact ⟨hopelessStream_gentle, trivial⟩
  have limited : ∀ p ∈ [oneRetry], p.layer.limitFailure? = none := by
    intro p mem
    rw [List.mem_singleton.mp mem]
    rfl
  have waiting : ∀ t ∈ ([] : List Task), t.stage = .waiting :=
    fun t mem => absurd mem List.not_mem_nil
  obtain ⟨⟨ids, tied, -⟩, reports⟩ := bodies_never_matter ⟨.blocking, .binary⟩
    (fun _ => brokenCall.feed) (fun _ => soundFeed) redressed gentle limited [.send brokenCall 2]
    waiting
  have gentleAt : sent.GentleAt r.id :=
    Ledger.gentleAt_of_body (r := .ofStream 503 hopelessStream) rfl hopelessStream_gentle
  have once := reports oneRetry List.mem_cons_self brokenCall attempt r sent rfl gentleAt
  exact ⟨⟨ids, tied.dealings⟩, rfl, rfl, rfl, (once.failed _ (.inl rfl)).1⟩

end HttpRetry
