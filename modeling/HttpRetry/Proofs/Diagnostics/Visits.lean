import HttpRetry.Proofs.Diagnostics
import HttpRetry.Proofs.Independence
import HttpRetry.Proofs.Visit.Tracked
set_option autoImplicit false

namespace HttpRetry

open Work

theorem of_getElem?_concat {α : Type} {xs : List α} {a b : α} {k : Nat}
    (found : (xs ++ [b])[k]? = some a) : xs[k]? = some a ∨ k = xs.length ∧ a = b := by
  rcases Nat.lt_or_ge k xs.length with lt | ge
  · exact .inl (by rwa [List.getElem?_append_left lt] at found)
  · rw [List.getElem?_append_right ge, List.getElem?_singleton] at found
    split at found
    · exact .inr ⟨by omega, (Option.some.inj found).symm⟩
    · cases found

/-- A round of a layer: the reply that it was handed, and the state of the ledger at that time. -/
structure Round where
  reply : Reply
  ledger : Ledger

namespace Place

section
variable (p : Place) (s : Setting) (call : Call) (start : Option Timestamp)

def heard (made : Nat) (r : Round) : Hearing := p.hearing s call start made r.reply r.ledger

def account (made : Nat) (r : Round) : List Mark :=
  (p.openingLines call (made + 1)).map .told ++ .received r.reply ::
    (p.concludingLines call (made + 1) (p.heard s call start made r) ++
      p.pauseLines call (made + 1) (p.heard s call start made r)).map .told

def accounts (rounds : List Round) : List Mark :=
  (rounds.mapIdx (p.account s call start)).flatten

/-- Rounds that the layer has made since it took up the call after `rest`, in their order. -/
structure Made (ledgers : List Ledger) (rest journal : List Event) (rounds : List Round) : Prop where
  happened : ∀ (k : Nat) r, rounds[k]? = some r →
    [(p.conclude s call start k r.reply r.ledger).2, r.ledger] <:+: ledgers
  since : ∀ r ∈ rounds, .entered call.id p.index start :: rest <:+ r.ledger.journal
  within : ∀ r ∈ rounds, .received call.id p.index r.reply :: r.ledger.journal <:+ journal
  order : rounds.Pairwise fun r later =>
    .received call.id p.index r.reply :: r.ledger.journal <:+ later.ledger.journal

/-- The layer's part in the call, from its entry after `rest` until it hands on the reply, is told by its
rounds. In each of them it does as it was answered: it goes on with each but the last, and the last one
ends it, or the wait after the last one does, or an interrupt then. -/
structure Recounts (ledgers : List Ledger) (rest during : List Event) (rounds : List Round)
    (reply : Reply) : Prop where
  made : p.Made s call start ledgers rest (during ++ .entered call.id p.index start :: rest) rounds
  told : marks call.id p.index during = p.accounts s call start rounds
  answered : ∀ (k : Nat) r, rounds[k]? = some r → (p.heard s call start k r).Ends
  goes : ∀ (k : Nat) r, rounds[k]? = some r → k + 1 < rounds.length →
    (p.heard s call start k r).follows .retry = true
  ends : ∃ (k : Nat) (r : Round), rounds[k]? = some r ∧ k + 1 = rounds.length ∧
    ((p.heard s call start k r).verdict.outOf s.mode.routine = .finished reply ∨
      (p.heard s call start k r).follows .retry = true ∧
        ∃ e, reply = .raised e ∧ (p.layer.delay.isSome ∨ e.isInterrupt = true))

def Accounted (ledgers : List Ledger) (reply : Reply) (earlier : List Event) : Prop :=
  (∃ rest, earlier = .refused call.id p.index :: rest) ∨
    ∃ start rest during rounds, earlier = during ++ .entered call.id p.index start :: rest ∧
      p.Recounts s call start ledgers rest during rounds reply

end

section
variable {p : Place} {s : Setting} {call : Call} {start : Option Timestamp} {made : Nat}
  {l l' : Ledger} {ledgers ledgers' : List Ledger} {rest journal journal' : List Event}
  {rounds : List Round} {reply : Reply}

variable (p) in
theorem heard_ends (k : Nat) (r : Round) : (p.heard s call start k r).Ends :=
  (p.conclude_adds s call start k r.ledger r.reply).1

theorem accounts_concat (rounds : List Round) (r : Round) :
    p.accounts s call start (rounds ++ [r]) =
      p.accounts s call start rounds ++ p.account s call start rounds.length r := by
  simp [accounts, List.mapIdx_concat]

theorem Made.later (made : p.Made s call start ledgers rest journal rounds)
    (more : ledgers <:+: ledgers') (grows : journal <:+ journal') :
    p.Made s call start ledgers' rest journal' rounds where
  happened k r found := (made.happened k r found).trans more
  since := made.since
  within r mem := (made.within r mem).trans grows
  order := made.order

theorem Made.concat (made : p.Made s call start (l :: ledgers) rest l.journal rounds)
    (since : .entered call.id p.index start :: rest <:+ l.journal)
    (concluded : (p.conclude s call start rounds.length reply l).2 = l')
    (within : .received call.id p.index reply :: l.journal <:+ journal) :
    p.Made s call start (l' :: l :: ledgers) rest journal (rounds ++ [⟨reply, l⟩]) where
  happened k r found := by
    obtain old | ⟨rfl, rfl⟩ := of_getElem?_concat found
    · exact (made.happened k r old).trans (List.infix_cons (List.infix_refl _))
    · rw [concluded]
      exact (List.prefix_append [l', l] ledgers).isInfix
  since r mem := by
    rcases List.mem_append.mp mem with mem | mem
    · exact made.since r mem
    · rw [List.mem_singleton.mp mem]
      exact since
  within r mem := by
    rcases List.mem_append.mp mem with mem | mem
    · exact (made.within r mem).trans ((List.suffix_cons _ _).trans within)
    · rw [List.mem_singleton.mp mem]
      exact within
  order := by
    refine List.pairwise_append.mpr ⟨made.order, List.pairwise_singleton _ _, ?_⟩
    intro r mem r' mem'
    rw [List.mem_singleton.mp mem']
    exact made.within r mem

theorem Accounted.later {earlier : List Event} (h : p.Accounted s call ledgers reply earlier)
    (more : ledgers <:+: ledgers') : p.Accounted s call ledgers' reply earlier := by
  rcases h with refused | ⟨start, rest, during, rounds, same, recounts⟩
  · exact .inl refused
  · exact .inr ⟨start, rest, during, rounds, same,
      { recounts with made := recounts.made.later more (List.suffix_refl _) }⟩

end

end Place

/-- What has been told of a layer's part in a call when the layer has come to a phase. -/
def Frame.Stands (s : Setting) (call : Call) (f : Frame) (rounds : List Round) (told : List Mark) :
    Phase → Prop
  | .down | .up _ => rounds.length = f.made ∧ told = f.place.accounts s call f.start rounds ++
      (f.place.openingLines call (f.made + 1)).map .told
  | .again attempt => rounds.length = f.made + 1 ∧ attempt.count = f.made + 1 ∧
      told ++ (f.place.delayLines call (f.made + 1)).map .told =
        f.place.accounts s call f.start rounds
  | .waiting .. | .worked .. => rounds.length = f.made + 1 ∧
      told = f.place.accounts s call f.start rounds ∧ f.place.layer.delay.isSome
  | .ready => rounds.length = f.made + 1 ∧ told = f.place.accounts s call f.start rounds
  | _ => False

def Frame.Told (s : Setting) (call : Call) (ledgers : List Ledger) (journal : List Event)
    (phase : Phase) (f : Frame) : Prop :=
  ∃ rest during rounds, journal = during ++ .entered call.id f.place.index f.start :: rest ∧
    f.place.Made s call f.start ledgers rest journal rounds ∧
    (∀ (k : Nat) r, rounds[k]? = some r → (f.place.heard s call f.start k r).follows .retry = true) ∧
    f.Stands s call rounds (marks call.id f.place.index during) phase

def Mute (c i : Nat) (journal journal' : List Event) : Prop :=
  ∃ news, journal' = news ++ journal ∧ marks c i news = []

section
variable {s : Setting} {call : Call} {f : Frame} {phase phase' : Phase} {c i c' i' : Nat}
  {ms : List Mark} {l l' l₁ : Ledger} {ledgers ledgers' : List Ledger}
  {rest journal journal' : List Event} {reply : Reply}

theorem Ledger.Adds.mute (adds : l.Adds c i ms l') (apart : c' = c ∧ i' = i → ms = []) :
    Mute c' i' l.journal l'.journal := by
  obtain ⟨news, journal, told⟩ := adds
  refine ⟨news, journal, ?_⟩
  rw [told]
  split
  · exact apart ‹_›
  · rfl

theorem AtRest.mute {news : List Event} (still : AtRest c news) :
    Mute c i journal (news ++ journal) := ⟨news, rfl, still.marks⟩

theorem Place.Made.concluded {p : Place} {start : Option Timestamp} {during : List Event}
    {rounds : List Round} {verdict : Verdict}
    (made : p.Made s call start (l :: ledgers) rest l.journal rounds)
    (split : l.journal = during ++ .entered call.id p.index start :: rest)
    (told : marks call.id p.index during = p.accounts s call start rounds ++
      (p.openingLines call (rounds.length + 1)).map .told)
    (concludes : p.conclude s call start rounds.length reply l = (verdict, l')) :
    verdict = (p.heard s call start rounds.length ⟨reply, l⟩).verdict.outOf s.mode.routine ∧
      ∃ ms l₁ during', l.Adds call.id p.index ms l₁ ∧ (∀ reply, .left reply ∉ ms) ∧
      l'.journal = verdict.leaving call.id p.index ++ l₁.journal ∧
      l₁.journal = during' ++ .entered call.id p.index start :: rest ∧
      p.Made s call start (l' :: l :: ledgers) rest l₁.journal (rounds ++ [⟨reply, l⟩]) ∧
      marks call.id p.index during' ++ (p.pauseLines call (rounds.length + 1)
        (p.heard s call start rounds.length ⟨reply, l⟩)).map .told =
          p.accounts s call start (rounds ++ [⟨reply, l⟩]) := by
  obtain ⟨-, comes, l₁, ⟨news, journal, tells⟩, leaves⟩ :=
    (p.conclude_adds s call start rounds.length l reply).at concludes
  have received : l.Adds call.id p.index [.received reply] (p.receiving call reply l) :=
    .noted (fun _ _ => rfl) l
  have since : .entered call.id p.index start :: rest <:+ l.journal := by
    rw [split]
    exact List.suffix_append _ _
  refine ⟨comes, _, l₁, news ++ .received call.id p.index reply :: during,
    received.trans ⟨news, journal, tells⟩, by simp, leaves, ?_,
    made.concat since (congrArg Prod.snd concludes) ⟨news, journal.symm⟩, ?_⟩
  · rw [journal, Place.journal_receiving, split]
    simp
  · rw [marks_append, marks_cons, tells, if_pos ⟨rfl, rfl⟩, told, Place.accounts_concat]
    simp [Event.mark?, Place.account, Place.heard]

namespace Frame.Told

theorem later (told : f.Told s call ledgers journal phase)
    (mute : Mute call.id f.place.index journal journal') (more : ledgers <:+: ledgers') :
    f.Told s call ledgers' journal' phase := by
  obtain ⟨rest, during, rounds, rfl, made, again, stands⟩ := told
  obtain ⟨news, rfl, silent⟩ := mute
  refine ⟨rest, news ++ during, rounds, by simp, ?_, again, ?_⟩
  · exact made.later more (List.suffix_append _ _)
  · rwa [marks_append, silent, List.append_nil]

theorem tells (told : f.Told s call (l :: ledgers) l.journal phase)
    (adds : l.Adds call.id f.place.index ms l') (made : Nat)
    (stands : ∀ rounds told, f.Stands s call rounds told phase →
      Frame.Stands s call ⟨f.place, f.start, made⟩ rounds (told ++ ms) phase') :
    Frame.Told s call (l' :: l :: ledgers) l'.journal phase' ⟨f.place, f.start, made⟩ := by
  obtain ⟨rest, during, rounds, split, goes, again, stood⟩ := told
  obtain ⟨news, journal, told⟩ := adds
  refine ⟨rest, news ++ during, rounds, ?_, ?_, again, ?_⟩
  · rw [journal, split, List.append_assoc]
  · refine goes.later (List.infix_cons (List.infix_refl _)) ?_
    rw [journal]
    exact List.suffix_append _ _
  · rw [marks_append, told, if_pos ⟨rfl, rfl⟩]
    exact stands rounds _ stood

/-- A layer that rests between two rounds may be left then, by its delayer's failure or an interrupt. -/
theorem ends (told : f.Told s call ledgers journal phase) (rests : phase.rests = true) {e : Failure}
    (fails : (∃ delay attempt began, phase = .waiting delay attempt began) ∨ e.isInterrupt = true) :
    f.place.Accounted s call ledgers (.raised e) journal := by
  obtain ⟨rest, during, rounds, rfl, made, again, stands⟩ := told
  obtain ⟨length, told, waits⟩ : rounds.length = f.made + 1 ∧
      marks call.id f.place.index during = f.place.accounts s call f.start rounds ∧
        (f.place.layer.delay.isSome ∨ e.isInterrupt = true) := by
    cases phase with
    | waiting => exact ⟨stands.1, stands.2.1, .inl stands.2.2⟩
    | worked => exact ⟨stands.1, stands.2.1, .inl stands.2.2⟩
    | ready =>
      obtain ⟨_, _, _, other⟩ | interrupt := fails
      · cases other
      · exact ⟨stands.1, stands.2, .inr interrupt⟩
    | _ => cases rests
  have last : rounds[f.made]? = some rounds[f.made] := List.getElem?_eq_getElem (by omega)
  exact .inr ⟨f.start, rest, during, rounds, rfl, made, told, fun k r _ => f.place.heard_ends k r,
    fun k r found _ => again k r found, f.made, _, last, length.symm,
    .inr ⟨again _ _ last, e, rfl, waits⟩⟩

theorem concludes (told : f.Told s call (l :: ledgers) l.journal (.up reply)) {verdict : Verdict}
    (concludes : f.place.conclude s call f.start f.made reply l = (verdict, l')) :
    ∃ ms l₁, l.Adds call.id f.place.index ms l₁ ∧ (∀ reply, .left reply ∉ ms) ∧
      l'.journal = verdict.leaving call.id f.place.index ++ l₁.journal ∧ match verdict with
        | .finished reply' => f.place.Accounted s call (l' :: l :: ledgers) reply' l₁.journal
        | .again attempt => f.Told s call (l' :: l :: ledgers) l'.journal (.again attempt) := by
  obtain ⟨p, start, n⟩ := f
  obtain ⟨rest, during, rounds, split, made, again, length, told⟩ := told
  dsimp only at *
  subst length
  obtain ⟨comes, ms, l₁, during', adds, stays, leaves, all, further, marked⟩ :=
    made.concluded split told concludes
  have ends : (p.heard s call start rounds.length ⟨reply, l⟩).Ends := p.heard_ends _ _
  refine ⟨ms, l₁, adds, stays, leaves, ?_⟩
  cases verdict with
  | finished reply' =>
    have quits : (p.heard s call start rounds.length ⟨reply, l⟩).follows .retry = false := by
      by_contra goes
      rw [(ends.again _).mpr ⟨by simpa using goes, rfl⟩] at comes
      cases comes
    refine .inr ⟨start, rest, during', rounds ++ [⟨reply, l⟩], all, all ▸ further, ?_,
      fun k r _ => p.heard_ends k r, ?_, ?_⟩
    · simpa [Place.pauseLines, quits] using marked
    · intro k r found early
      rw [List.getElem?_append_left (by simpa using early)] at found
      exact again k r found
    · exact ⟨rounds.length, ⟨reply, l⟩, by simp, by simp, .inl comes.symm⟩
  | again attempt =>
    obtain ⟨follows, rfl⟩ := (ends.again attempt).mp (Verdict.outOf_eq_again.mp comes.symm)
    have same : l'.journal = l₁.journal := leaves
    have count := (p.weighed_adds call start rounds.length l reply).1
    refine ⟨rest, during', rounds ++ [⟨reply, l⟩], same.trans all, same ▸ further, ?_, ?_, count, ?_⟩
    · intro k r found
      obtain old | ⟨rfl, rfl⟩ := of_getElem?_concat found
      · exact again k r old
      · exact follows
    · simp
    · simpa [Place.pauseLines, follows] using marked

end Frame.Told

end

def Call.Accounted (s : Setting) (layers : List Layer) (call : Call) (ledgers : List Ledger)
    (journal : List Event) : Prop :=
  ∀ p : Place, p.In layers → ∀ reply earlier, .left call.id p.index reply :: earlier <:+ journal →
    p.Accounted s call ledgers reply earlier

/-- The layers that a call has entered are told of so far, and those that it has left altogether. -/
structure Point.Recounted (s : Setting) (layers : List Layer) (call : Call) (ledgers : List Ledger)
    (journal : List Event) (pt : Point) : Prop where
  head : ∀ f outer, pt.frames = f :: outer → f.Told s call ledgers journal pt.phase
  outer : ∀ f outer, pt.frames = f :: outer → ∀ g ∈ outer, g.Told s call ledgers journal .down
  left : call.Accounted s layers ledgers journal

section
variable {s : Setting} {layers : List Layer} {call : Call} {f : Frame} {frames outer : List Frame}
  {inner : List Place} {pt pt' : Point} {phase phase' : Phase} {c i : Nat} {ms : List Mark}
  {l l' l₁ : Ledger} {ledgers ledgers' : List Ledger} {news journal journal' : List Event}
  {reply : Reply}

theorem of_left_append {earlier : List Event}
    (h : .left c i reply :: earlier <:+ news ++ journal) (stays : .left reply ∉ marks c i news) :
    .left c i reply :: earlier <:+ journal := by
  induction news with
  | nil => exact h
  | cons e rest ih =>
    rw [marks_cons] at stays
    rcases List.suffix_cons_iff.mp h with same | h
    · cases same
      simp [Event.mark?] at stays
    · exact ih h fun mem => stays (List.mem_append_left _ mem)

theorem Call.Accounted.later (h : call.Accounted s layers ledgers journal)
    (stays : ∀ i reply, .left reply ∉ marks call.id i news) (more : ledgers <:+: ledgers') :
    call.Accounted s layers ledgers' (news ++ journal) := by
  intro p within reply earlier left
  exact (h p within reply earlier (of_left_append left (stays p.index reply))).later more

theorem Call.Accounted.adds (h : call.Accounted s layers ledgers l.journal)
    (adds : l.Adds c i ms l') (stays : ∀ reply, .left reply ∉ ms) (more : ledgers <:+: ledgers') :
    call.Accounted s layers ledgers' l'.journal := by
  obtain ⟨news, journal, told⟩ := adds
  rw [journal]
  refine h.later (fun i' reply mem => ?_) more
  rw [told] at mem
  split at mem
  · exact stays reply mem
  · cases mem

namespace Point.Recounted

theorem down (h : Recounted s layers call ledgers journal ⟨frames, inner, .down⟩) :
    ∀ g ∈ frames, g.Told s call ledgers journal .down := by
  intro g mem
  cases frames with
  | nil => cases mem
  | cons f outer =>
    rcases List.mem_cons.mp mem with rfl | mem
    · exact h.head g outer rfl
    · exact h.outer f outer rfl g mem

theorem up (told : ∀ g ∈ frames, g.Told s call ledgers journal .down)
    (left : call.Accounted s layers ledgers journal) :
    Recounted s layers call ledgers journal ⟨frames, inner, .up reply⟩ where
  head f outer same := by
    cases same
    exact told f List.mem_cons_self
  outer f outer same g mem := by
    cases same
    exact told g (List.mem_cons_of_mem f mem)
  left := left

/-- A layer goes on, and tells something. -/
theorem stay (told : ∀ g ∈ outer, g.Told s call (l :: ledgers) l.journal .down)
    (left : call.Accounted s layers (l :: ledgers) l.journal)
    (apart : ∀ g ∈ outer, g.place.index < i) (adds : l.Adds call.id i ms l')
    (stays : ∀ reply, .left reply ∉ ms)
    (head : f.Told s call (l' :: l :: ledgers) l'.journal phase) :
    Recounted s layers call (l' :: l :: ledgers) l'.journal ⟨f :: outer, inner, phase⟩ := by
  have more : l :: ledgers <:+: l' :: l :: ledgers := List.infix_cons (List.infix_refl _)
  refine ⟨fun f' outer' same => ?_, fun f' outer' same g mem => ?_, left.adds adds stays more⟩
  · cases same
    exact head
  · cases same
    refine (told g mem).later (adds.mute fun same => ?_) more
    exact absurd same.2 (Nat.ne_of_lt (apart g mem))

theorem leave {p : Place} (within : p.In layers)
    (told : ∀ g ∈ outer, g.Told s call (l :: ledgers) l.journal .down)
    (left : call.Accounted s layers (l :: ledgers) l.journal)
    (apart : ∀ g ∈ outer, g.place.index < p.index) (adds : l.Adds call.id p.index ms l₁)
    (stays : ∀ reply, .left reply ∉ ms)
    (leaves : l'.journal = .left call.id p.index reply :: l₁.journal)
    (accounted : p.Accounted s call (l' :: l :: ledgers) reply l₁.journal) {reply' : Reply} :
    Recounted s layers call (l' :: l :: ledgers) l'.journal ⟨outer, inner, .up reply'⟩ := by
  have more : l :: ledgers <:+: l' :: l :: ledgers := List.infix_cons (List.infix_refl _)
  refine up (fun g mem => ?_) fun p' within' reply' earlier happened => ?_
  · have ne := Nat.ne_of_lt (apart g mem)
    refine ((told g mem).later (adds.mute fun same => absurd same.2 ne) more).later
      ⟨[.left call.id p.index reply], leaves, ?_⟩ (List.infix_refl _)
    simp [Event.mark?, ne]
  · rw [leaves] at happened
    rcases List.suffix_cons_iff.mp happened with same | happened
    · obtain ⟨same, rest⟩ := List.cons.inj same
      obtain ⟨-, own, rfl⟩ := Event.left.inj same
      rw [rest, within'.eq within own]
      exact accounted
    · exact left.adds adds stays more p' within' reply' earlier happened

end Point.Recounted

theorem Point.Recounted.quiet (h : pt.Recounted s layers call (l :: ledgers) l.journal)
    (adds : l.Adds c i [] l') (frames : pt'.frames = pt.frames)
    (turns : ∀ f rounds told, pt.frames.head? = some f →
      f.Stands s call rounds told pt.phase → f.Stands s call rounds told pt'.phase) :
    pt'.Recounted s layers call (l' :: l :: ledgers) l'.journal := by
  have more : l :: ledgers <:+: l' :: l :: ledgers := List.infix_cons (List.infix_refl _)
  refine ⟨fun f outer same => ?_, fun f outer same g mem => ?_, h.left.adds adds (by simp) more⟩
  · rw [frames] at same
    obtain ⟨rest, during, rounds, split, made, again, stands⟩ :=
      (h.head f outer same).later (adds.mute fun _ => rfl) more
    exact ⟨rest, during, rounds, split, made, again, turns f rounds _ (by simp [same]) stands⟩
  · rw [frames] at same
    exact (h.outer f outer same g mem).later (adds.mute fun _ => rfl) more

/-- A piece of work on a call keeps its diagnostics told. -/
theorem Does.recounted (does : Does s call pt l pt' l') (through : pt.Through layers)
    (h : pt.Recounted s layers call (l :: ledgers) l.journal) :
    pt'.Recounted s layers call (l' :: l :: ledgers) l'.journal := by
  have more : l :: ledgers <:+: l' :: l :: ledgers := List.infix_cons (List.infix_refl _)
  cases does with
  | @enter frames p inner entered l l' enters =>
    have apart : ∀ g ∈ frames, g.place.index < p.index := by
      rw [through.next.1]
      exact through.index_lt
    have adds := (p.enter_adds call l).at enters
    cases entered with
    | error e =>
      obtain ⟨l₁, rest, adds, refused, leaves⟩ := adds
      exact .leave through.next.2.1 h.down h.left apart adds (by simp) leaves (.inl ⟨rest, refused⟩)
    | ok start =>
      obtain ⟨adds, rest, entered⟩ := adds
      refine .stay h.down h.left apart adds (by simp) ?_
      exact ⟨rest, [], [], entered, ⟨by simp, by simp, by simp, .nil⟩, by simp, rfl, rfl⟩
  | @transmit frames reply l l' sends =>
    have unmoved := perform_unmoved s.mode call.id (call.feed (l.calls call.id).sends).act
      (call.asking l)
    rw [Call.transmit_apply] at sends
    obtain ⟨-, rfl⟩ := Prod.mk.inj sends
    have adds : l.Adds call.id 0 [] (call.asking l) := .silent (fun _ _ => rfl) l
    exact h.quiet (adds.unmoved unmoved) rfl fun f rounds told _ stands => stands
  | @conclude f outer inner reply verdict l l' concludes =>
    obtain ⟨ms, l₁, adds, stays, leaves, goes⟩ := (h.head f outer rfl).concludes concludes
    cases verdict with
    | finished reply' =>
      exact .leave through.head.2.1 (h.outer f outer rfl) h.left through.below adds stays leaves goes
    | again attempt =>
      exact .stay (h.outer f outer rfl) h.left through.below (adds.congr leaves) stays goes
  | @skip f outer inner attempt l undelayed =>
    refine h.quiet (.refl (c := call.id) (i := 0) l) rfl fun f' rounds told same stands => ?_
    obtain rfl : f = f' := Option.some.inj same
    obtain ⟨length, -, told⟩ := stands
    exact ⟨length, by simpa [Place.delayLines, undelayed] using told⟩
  | @delay f outer inner attempt delay l delays =>
    have adds := Ledger.Adds.logged f.place call (.delaying attempt.count) l
    refine .stay (h.outer f outer rfl) h.left through.below adds (by simp)
      ((h.head f outer rfl).tells adds f.made fun rounds told stands => ?_)
    obtain ⟨length, count, all⟩ := stands
    refine ⟨length, ?_, by simp [delays]⟩
    rw [Place.delayLines, if_pos (by simp [delays])] at all
    rw [count]
    exact all
  | @work f outer inner attempt delay began result l l' works =>
    have adds := (f.place.delayWork_adds call l delay attempt).at works
    cases result with
    | ok u => exact h.quiet adds rfl fun f' rounds told same stands => stands
    | error e =>
      obtain ⟨l₁, adds, leaves⟩ := adds
      have told := (h.head f outer rfl).later (adds.mute fun _ => rfl) more
      exact .leave through.head.2.1 (h.outer f outer rfl) h.left through.below adds (by simp) leaves
        (told.ends rfl (.inl ⟨_, _, _, rfl⟩))
  | @done f outer inner attempt began l =>
    have noted : l.Adds call.id f.place.index [] _ :=
      .silent (e := .delayed call.id f.place.index attempt began l.now) (fun _ _ => rfl) l
    exact h.quiet (noted.congr (Ledger.journal_measured ..)) rfl
      fun f' rounds told same stands => ⟨stands.1, stands.2.1⟩
  | @announce f outer inner l =>
    have adds := Ledger.Adds.logged f.place call (.retrying (f.made + 2)) l
    refine .stay (h.outer f outer rfl) h.left through.below adds (by simp)
      ((h.head f outer rfl).tells adds (f.made + 1) fun rounds told stands => ?_)
    exact ⟨stands.1, by rw [stands.2]; rfl⟩
  | @fail pt l =>
    exact h.quiet (.of_unmoved (c := call.id) (i := 0) (.failing call.id l)) rfl
      fun f rounds told _ stands => stands
  | @cancel frames inner e l waits interrupt =>
    exact h.quiet (.refl (c := call.id) (i := 0) l) rfl fun f rounds told _ stands => stands
  | @thrown f outer inner phase e l rests interrupt =>
    exact .leave through.head.2.1 (h.outer f outer rfl) h.left through.below (.refl l) (by simp) rfl
      (((h.head f outer rfl).ends rests (.inr interrupt)).later more)

theorem Point.Recounted.rest (h : pt.Recounted s layers call ledgers journal)
    (grows : ∃ news, journal' = news ++ journal ∧ AtRest call.id news) (more : ledgers <:+: ledgers') :
    pt.Recounted s layers call ledgers' journal' := by
  obtain ⟨news, rfl, still⟩ := grows
  refine ⟨fun f outer same => ?_, fun f outer same g mem => ?_, h.left.later ?_ more⟩
  · exact (h.head f outer same).later still.mute more
  · exact (h.outer f outer same g mem).later still.mute more
  · simp [still.marks]

/-- Whatever the order in which calls are moved on, the diagnostics of each are told. -/
theorem Traced.recounted {calls : List Call} {initial : List (FailureId × Failure)}
    {points : Nat → Point} (distinct : (calls.map (·.id)).Nodup)
    (traced : Traced s (placesFrom 0 layers) calls initial ledgers points l) :
    ∀ call ∈ calls, (points call.id).Recounted s layers call (l :: ledgers) l.journal := by
  induction traced with
  | start =>
    intro call mem
    refine ⟨fun f outer frames => ?_, fun f outer frames => ?_, fun p within reply earlier left => ?_⟩
    · cases frames
    · cases frames
    · simp at left
  | @does history points l l' mover pt before moves does ih =>
    intro call mem
    by_cases same : call.id = mover.id
    · obtain rfl : call = mover := List.inj_on_of_nodup_map distinct mem moves same
      simpa using does.recounted (before.reached.through call.id) (ih call mem)
    · rw [updateAt_of_ne same]
      exact (ih call mem).rest (does.walks.atRest same) (List.infix_cons (List.infix_refl _))
  | @reads history points l before c id ih =>
    intro call mem
    have unmoved : l.Unmoved _ := read_unmoved s.mode c id l
    exact (ih call mem).rest (unmoved.atRest call.id) (List.infix_cons (List.infix_refl _))
  | @closes history points l before c id ih =>
    intro call mem
    have unmoved : l.Unmoved _ := close_unmoved s.mode c id l
    exact (ih call mem).rest (unmoved.atRest call.id) (List.infix_cons (List.infix_refl _))

structure Ledger.Reconstructed (s : Setting) (layers : List Layer) (calls : List Call)
    (history : List Ledger) (l : Ledger) : Prop where
  /-- What a layer has reported of its part in a call, when it hands on a reply, are the lines of the
  rounds that it made, one after another, and nothing besides. -/
  accounted : ∀ call ∈ calls, call.Accounted s layers (l :: history) l.journal
  /-- While it has no part in a call, it reports nothing of it. -/
  inside : ∀ c i entry earlier, .logged c i entry :: earlier <:+ l.journal →
    ∃ v, visit layers.length c i earlier = some v

/-- The diagnostics reconstruct the run, whatever fails and in whichever order calls go on; and when a
call has ended, no layer has a part in it any more. -/
theorem diagnostics_reconstruct_runs (s : Setting) (layers : List Layer) (tasks : List Task)
    (ms : List Move) (initial : List (FailureId × Failure))
    (waiting : ∀ t ∈ tasks, t.stage = .waiting)
    (distinct : ((callsOf tasks ms).map (·.id)).Nodup) :
    (runMoves s (placesFrom 0 layers) ms tasks).Yields { causes := initial } fun tasks' l =>
      ∃ history points, Traced s (placesFrom 0 layers) (callsOf tasks ms) initial history points l ∧
        l.Reconstructed s layers (callsOf tasks ms) history ∧
        ∀ t ∈ tasks', t.isEnded = true → ∀ i, visit layers.length t.call.id i l.journal = none := by
  refine (runMoves_traced s _ tasks ms initial waiting distinct).mono fun tasks' l moved => ?_
  obtain ⟨history, points, traced, stands⟩ := moved
  refine ⟨history, points, traced, ⟨?_, ?_⟩, ?_⟩
  · exact fun call mem => (traced.recounted distinct call mem).left
  · intro c i entry earlier happened
    obtain ⟨v, at_, -⟩ := (traced.reached.inOrder distinct).at happened
    exact ⟨v, at_⟩
  · intro t mem ended i
    obtain ⟨own, stands⟩ := stands t mem
    have outside : (points t.call.id).frames = [] := by
      cases stage : t.stage <;> simp [Task.isEnded, stage] at ended
      rw [stage] at stands
      exact stands.1
    exact (traced.reached.tracked distinct t.call own).below i (by simp [outside])

end

/-- Two calls through two layers; the first call is cancelled while the inner layer waits. Of the other
one, the inner layer reports a wait and a further round. -/
theorem diagnostics_reconstruct_runs_pair :
    let s : Setting := ⟨.suspending, .binary⟩
    let layers := [hasty, fair]
    let tasks : List Task := busyPair.map fun call => ⟨call, none, .waiting⟩
    let moves : List Move := [.resume 0, .resume 1, .resume 0, .resume 1, .resume 1, .cancel 0,
      .resume 1, .resume 1]
    let run := runMoves s (placesFrom 0 layers) moves tasks { causes := [] }
    (∀ t ∈ tasks, t.stage = .waiting) ∧ ((callsOf tasks moves).map (·.id)).Nodup ∧
      (∃ history points,
        Traced s (placesFrom 0 layers) (callsOf tasks moves) [] history points run.2 ∧
          run.2.Reconstructed s layers (callsOf tasks moves) history) ∧
      run.1.all Task.isEnded = true ∧ run.2.journal.countP (Event.leaves 1 1) = 1 ∧
      ((marks 1 1 run.2.journal).filterMap fun
        | .told line => some line.event
        | _ => none) = ["Delaying before retry", "Retrying request"] := by
  intro s layers tasks moves run
  have waiting : ∀ t ∈ tasks, t.stage = .waiting := by simp [tasks]
  have distinct : ((callsOf tasks moves).map (·.id)).Nodup := by decide
  obtain ⟨history, points, traced, told, -⟩ :=
    diagnostics_reconstruct_runs s layers tasks moves [] waiting distinct
  exact ⟨waiting, distinct, ⟨history, points, traced, told⟩, by decide +kernel, by decide +kernel,
    by decide +kernel⟩

def muffledCall : Call where
  id := 0
  request := { method := "GET", url := "http://example.test/" }
  feed := fun sent =>
    { act :=
        if sent = 0 then
          .respond 503 ⟨.blocking, [], some (.of .osError (some "reset")),
            some (.of .valueError (some "bad frame"))⟩ .fresh
        else .respondText 200 "ok" }

/-- A failure of reading that would be swallowed is not reported where closing fails otherwise. -/
theorem failure_of_close_hides_failure_of_read :
    let s : Setting := ⟨.blocking, .binary⟩
    let run := sendThrough s muffledCall 2 [oneRetry] {}
    let sent := muffledCall.transmit s.mode (oneRetry.enter s.mode muffledCall {}).2
    let weighed := oneRetry.weighed muffledCall none 0 sent.1 sent.2
    run.2 = (oneRetry.conclude s muffledCall none 0 sent.1 sent.2).2 ∧
    (∃ r, weighed.1.1.response = some r ∧ weighed.1.1.passes weighed.1.2 = false ∧
      (∃ e, (oneRetry.drainedIn s.mode muffledCall r weighed.2).1 = .error e ∧
        e.isSwallowed = true) ∧
      ∃ e, (oneRetry.closedIn s.mode muffledCall r weighed.2).1 = .error e ∧
        e.isSwallowed = false ∧ run.1 = some (.raised e)) ∧
    run.2.drainFailures = [] := by
  intro s run sent weighed
  exact ⟨rfl, ⟨⟨⟨0, 0⟩, 503⟩, rfl, rfl, ⟨_, rfl, rfl⟩, _, rfl, rfl, rfl⟩, by decide +kernel⟩

end HttpRetry
