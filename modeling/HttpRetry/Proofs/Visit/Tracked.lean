import HttpRetry.Proofs.Passage.Kept
import HttpRetry.Proofs.Visit
set_option autoImplicit false

namespace HttpRetry

structure Visit.Awaits (f : Frame) (v : Visit) : Prop where
  start : v.start = f.start
  rounds : v.rounds = f.made + 1
  sends : v.sends = f.made + 1
  attempts : v.attempts.length = f.made
  delays : v.delays ≤ f.made

/-- What has been done in the current round of a layer. -/
def Phase.Suits (made : Nat) (inner : List Place) (v : Visit) : Phase → Prop
  | .down => v.sends = made ∧ v.attempts.length = made ∧ v.delays ≤ made
  | .up reply => (v.sends = made + 1 ∨ v.sends = made ∧ reply.isInterrupt = true ∧ inner = []) ∧
      v.attempts.length = made ∧ v.delays ≤ made
  | .judging _ => v.sends = made + 1 ∧ v.attempts.length = made ∧ v.delays ≤ made
  | .judged attempt answer | .releasing attempt answer | .cleared attempt answer =>
      v.sends = made + 1 ∧ v.delays ≤ made ∧ ∀ given, answer = .ok given →
        v.attempts.length = made + 1 ∧ v.attempts.head? = some attempt
  | .again attempt | .waiting _ attempt _ => v.sends = made + 1 ∧ v.delays ≤ made ∧
      v.attempts.length = made + 1 ∧ v.attempts.head? = some attempt
  | .worked attempt _ => v.sends = made + 1 ∧ v.delays ≤ made + 1 ∧
      v.attempts.length = made + 1 ∧ v.attempts.head? = some attempt
  | .ready => v.sends = made + 1 ∧ v.delays ≤ made + 1 ∧ v.attempts.length = made + 1

def Awaiting (depth call : Nat) (journal : List Event) : List Frame → Prop
  | [] => True
  | f :: outer => (∃ v, visit depth call outer.length journal = some v ∧ v.Awaits f) ∧
      Awaiting depth call journal outer

structure Point.Tracked (depth call : Nat) (journal : List Event) (pt : Point) : Prop where
  below : ∀ i, pt.frames.length ≤ i → visit depth call i journal = none
  within : match pt.frames with
    | [] => pt.phase = .down → ∀ e ∈ journal, e.call = call → e.isAside = true
    | f :: outer => Awaiting depth call journal outer ∧
      ∃ v, visit depth call outer.length journal = some v ∧ v.start = f.start ∧
        v.rounds = f.made + 1 ∧ pt.phase.Suits f.made pt.inner v

section
variable {depth c layer : Nat} {j j' : List Event} {e : Event}

theorem Awaiting.congr {frames : List Frame}
    (same : ∀ i < frames.length, visit depth c i j' = visit depth c i j)
    (h : Awaiting depth c j frames) : Awaiting depth c j' frames := by
  induction frames with
  | nil => trivial
  | cons f outer ih =>
    obtain ⟨⟨v, at_, awaits⟩, rest⟩ := h
    refine ⟨⟨v, ?_, awaits⟩, ih (fun i lt => same i (by simp; omega)) rest⟩
    rw [same outer.length (by simp), at_]

namespace Point.Tracked

variable {f f' : Frame} {frames outer : List Frame} {inner inner' : List Place}
  {phase phase' : Phase} {pt : Point}

theorem kept (h : Tracked depth c j pt) (same : ∀ i, visit depth c i j' = visit depth c i j)
    (quiet : ∀ e ∈ j', e ∈ j ∨ (e.call = c → e.isAside = true)) : Tracked depth c j' pt := by
  obtain ⟨frames, inner, phase⟩ := pt
  refine ⟨fun i le => (same i).trans (h.below i le), ?_⟩
  have within := h.within
  cases frames with
  | nil =>
    intro down e mem own
    rcases quiet e mem with old | aside
    · exact within down e old own
    · exact aside own
  | cons f outer =>
    obtain ⟨awaiting, v, at_, rest⟩ := within
    exact ⟨awaiting.congr fun i _ => same i, v, (same _).trans at_, rest⟩

theorem stay (h : Tracked depth c j ⟨f :: outer, inner, phase⟩)
    (others : ∀ i, i ≠ outer.length → visit depth c i j' = visit depth c i j) {v : Visit}
    (at_ : visit depth c outer.length j' = some v) (start : v.start = f'.start)
    (rounds : v.rounds = f'.made + 1) (suits : phase'.Suits f'.made inner' v) :
    Tracked depth c j' ⟨f' :: outer, inner', phase'⟩ := by
  refine ⟨fun i le => ?_, ?_, v, at_, start, rounds, suits⟩
  · simp only [List.length_cons] at le
    rw [others i (by omega)]
    exact h.below i (by simpa using le)
  · exact h.within.1.congr fun i lt => others i (by omega)

theorem turn (h : Tracked depth c j ⟨f :: outer, inner, phase⟩)
    (same : ∀ i, visit depth c i j' = visit depth c i j)
    (suits : ∀ v, phase.Suits f.made inner v → phase'.Suits f.made inner v) :
    Tracked depth c j' ⟨f :: outer, inner, phase'⟩ := by
  obtain ⟨-, v, at_, start, rounds, suited⟩ := h.within
  exact h.stay (fun i _ => same i) ((same _).trans at_) start rounds (suits v suited)

theorem returned (below : ∀ i, frames.length ≤ i → visit depth c i j = none)
    (awaiting : Awaiting depth c j frames) (reply : Reply) :
    Tracked depth c j ⟨frames, inner, .up reply⟩ := by
  refine ⟨below, ?_⟩
  cases frames with
  | nil => exact fun down => by cases down
  | cons f outer =>
    obtain ⟨⟨v, at_, awaits⟩, rest⟩ := awaiting
    exact ⟨rest, v, at_, awaits.start, awaits.rounds, .inl awaits.sends, awaits.attempts,
      awaits.delays⟩

theorem leave (h : Tracked depth c j ⟨f :: outer, inner, phase⟩)
    (others : ∀ i, i ≠ outer.length → visit depth c i j' = visit depth c i j)
    (reply reply' : Reply) :
    Tracked depth c (.left c outer.length reply :: j') ⟨outer, inner', .up reply'⟩ := by
  have apart : ∀ i, i ≠ outer.length →
      visit depth c i (.left c outer.length reply :: j') = visit depth c i j := by
    intro i ne
    simp [visit, Event.noted, Event.call, ne.symm, others i ne]
  refine returned (fun i le => ?_) (h.within.1.congr fun i lt => apart i (by omega)) reply'
  by_cases own : i = outer.length
  · simp [visit, Event.noted, Event.call, own]
  · rw [apart i own]
    exact h.below i (by simp; omega)

theorem sent (h : Tracked depth c j ⟨frames, inner, .down⟩)
    (others : ∀ i, i + 1 < frames.length → visit depth c i j' = visit depth c i j)
    (sends : ∀ i, i + 1 = frames.length → visit depth c i j' =
      (visit depth c i j).map fun v => { v with sends := v.sends + 1 }) :
    Awaiting depth c j' frames := by
  cases frames with
  | nil => trivial
  | cons f outer =>
    obtain ⟨awaiting, v, at_, start, rounds, made, asked, delays⟩ := h.within
    refine ⟨⟨{ v with sends := v.sends + 1 }, ?_, start, rounds, ?_, asked, delays⟩, ?_⟩
    · rw [sends outer.length rfl, at_]
      rfl
    · show v.sends + 1 = f.made + 1
      rw [made]
    · exact awaiting.congr fun i lt => others i (by simpa using lt)

theorem enters (h : Tracked depth c j ⟨frames, inner, .down⟩) (p : Place) (start : Option Timestamp) :
    Tracked depth c (.entered c frames.length start :: j) ⟨⟨p, start, 0⟩ :: frames, inner', .down⟩ := by
  refine ⟨fun i le => ?_, h.sent (fun i lt => ?_) fun i last => ?_, { start }, ?_, rfl, rfl, rfl,
    rfl, Nat.le_refl 0⟩
  · simp only [List.length_cons] at le
    have ne : frames.length ≠ i := by omega
    have ne' : frames.length ≠ i + 1 := by omega
    simpa [visit, Event.noted, Event.call, ne, ne'] using h.below i (by simp; omega)
  · have ne : frames.length ≠ i := by omega
    have ne' : frames.length ≠ i + 1 := by omega
    simp [visit, Event.noted, Event.call, ne, ne']
  · simp [visit, Event.noted, Event.call, ← last]
  · simp [visit, Event.noted, Event.call]

theorem refuses (h : Tracked depth c j ⟨frames, inner, .down⟩) (reply : Reply) :
    Tracked depth c (.left c frames.length reply :: .refused c frames.length :: j)
      ⟨frames, inner', .up reply⟩ := by
  refine .returned (fun i le => ?_) (h.sent (fun i lt => ?_) fun i last => ?_) _
  · have ne : frames.length ≠ i + 1 := by omega
    simpa [visit, Event.noted, Event.call, ne] using fun _ => h.below i le
  · have ne : frames.length ≠ i := by omega
    have ne' : frames.length ≠ i + 1 := by omega
    simp [visit, Event.noted, Event.call, ne, ne']
  · simp [visit, Event.noted, Event.call, ← last]

theorem transmits (h : Tracked frames.length c j ⟨frames, inner, .down⟩) (request : Request)
    (reply : Reply) :
    Tracked frames.length c (.sent c request :: j) ⟨frames, inner', .up reply⟩ := by
  refine .returned (fun i le => ?_) (h.sent (fun i lt => ?_) fun i last => ?_) _
  · have ne : frames.length ≠ i + 1 := by omega
    simpa [visit, Event.noted, Event.call, ne] using h.below i le
  · have ne : frames.length ≠ i + 1 := by omega
    simp [visit, Event.noted, Event.call, ne]
  · simp [visit, Event.noted, Event.call, ← last]

theorem judges {attempt : Attempt} (h : Tracked depth c j ⟨f :: outer, inner, .judging attempt⟩)
    (elapsed : Option Int) (scripted : Bool)
    (same : ∀ i, visit depth c i j' =
      visit depth c i (.asked c outer.length attempt elapsed scripted :: j))
    (answer : Except Failure (Decision × Option Failure)) :
    Tracked depth c j' ⟨f :: outer, inner, .judged attempt answer⟩ := by
  obtain ⟨-, v, at_, start, rounds, sends, asked, delays⟩ := h.within
  refine h.stay (fun i ne => ?_) (v := { v with attempts := attempt :: v.attempts }) ?_ start
    rounds ⟨sends, delays, fun given _ => by simp [asked]⟩
  · rw [same]
    simp [visit, Event.noted, Event.call, ne.symm]
  · rw [same]
    simp [visit, Event.noted, Event.call, at_]

end Point.Tracked

/-- One step of a call keeps its visits in line with where it stands. -/
theorem Takes.tracked {layers : List Layer} {s : Setting} {call : Call} {pt pt' : Point}
    {l l' : Ledger} (takes : Takes s call pt l pt' l') (through : pt.Through layers)
    (h : pt.Tracked layers.length call.id l.journal) :
    pt'.Tracked layers.length call.id l'.journal := by
  cases takes with
  | pause unmoved =>
    obtain ⟨asides, journal, aside⟩ := unmoved.journal
    rw [journal]
    refine h.kept (fun i => visit_asides aside) fun e mem => ?_
    rcases List.mem_append.mp mem with new | old
    · exact .inr fun _ => aside e new
    · exact .inl old
  | @enter frames p inner start l reads =>
    simp only [Place.journal_takingUp, through.next.1]
    exact h.enters p start
  | refuse fails =>
    simp only [Place.journal_leaving, Place.journal_refusing, through.next.1]
    exact h.refuses _
  | transmit =>
    simp only [Call.journal_asking]
    rw [through.bottom] at h ⊢
    exact h.transmits _ _
  | @cancel frames inner e l waits interrupt =>
    refine ⟨h.below, ?_⟩
    cases frames with
    | nil => exact fun down => by cases down
    | cons f outer =>
      obtain ⟨awaiting, v, at_, start, rounds, made, asked, delays⟩ := h.within
      have bare : inner = [] := by simpa using waits
      exact ⟨awaiting, v, at_, start, rounds, .inr ⟨made, interrupt, bare⟩, asked, delays⟩
  | interrupted =>
    simp only [Place.journal_leaving, through.head.1]
    refine h.leave (fun i _ => ?_) _ _
    simp [visit, Event.noted]
  | @raised f outer inner e attempt l plain fits faults =>
    refine h.turn (fun i => ?_) fun v suits => ?_
    · simp [visit, Event.noted, Event.call, Notice.announces]
    · simpa [Phase.Suits, Reply.isInterrupt, plain] using suits
  | @received f outer inner reply attempt l unraised fits faults =>
    have plain : reply.isInterrupt = false := by
      cases reply <;> simp [Reply.error?, Reply.isInterrupt] at *
    refine h.turn (fun i => ?_) fun v suits => ?_
    · simp [visit, Event.noted, Event.call]
    · simpa [Phase.Suits, plain] using suits
  | @unasked f outer inner attempt e l scripted =>
    refine h.turn (fun i => rfl) fun v suits => ?_
    simp [Phase.Suits] at suits ⊢
    omega
  | unanswered silent =>
    simp only [Place.journal_asking, through.head.1]
    exact h.judges _ _ (fun i => rfl) _
  | @answered f outer inner attempt elapsed decision error l gives =>
    refine h.judges elapsed f.place.layer.retryer.isScripted (fun i => ?_) _
    rw [visit_answered, through.head.1]
  | pass held => exact h.turn (fun i => rfl) fun v suits => suits
  | release rejected has =>
    refine h.turn (fun i => ?_) fun v suits => suits
    simp [visit, Event.noted, Event.call]
  | released => exact h.turn (fun i => rfl) fun v suits => suits
  | tolerate swallowed =>
    refine h.turn (fun i => ?_) fun v suits => suits
    simp [visit, Event.noted, Event.call, Notice.announces]
  | retry =>
    refine h.turn (fun i => rfl) fun v suits => ?_
    simpa [Phase.Suits] using suits
  | skip undelayed =>
    refine h.turn (fun i => rfl) fun v suits => ?_
    simp [Phase.Suits] at suits ⊢
    omega
  | delay delays =>
    refine h.turn (fun i => ?_) fun v suits => suits
    simp [visit, Event.noted, Event.call, Notice.announces]
  | done =>
    refine h.turn (fun i => ?_) fun v suits => ?_
    · simp [visit, Event.noted, Event.call]
    · simp [Phase.Suits] at suits ⊢
      omega
  | breakOff =>
    simp only [Place.journal_leaving, through.head.1]
    exact h.leave (fun i _ => rfl) _ _
  | reraise =>
    simp only [Place.journal_leaving, through.head.1]
    exact h.leave (fun i _ => rfl) _ _
  | settle =>
    simp only [Place.journal_leaving, through.head.1]
    exact h.leave (fun i _ => rfl) _ _
  | abort =>
    simp only [Place.journal_leaving, through.head.1]
    refine h.leave (fun i _ => ?_) _ _
    simp [visit, Event.noted, Notice.announces]
  | @work f outer inner attempt delay began l works =>
    obtain ⟨index, -, -⟩ := through.head
    obtain ⟨-, v, at_, start, rounds, sends, delays, asked, latest⟩ := h.within
    refine h.stay (fun i ne => ?_) (v := { v with delays := v.delays + 1 }) ?_ start rounds
      ⟨sends, Nat.succ_le_succ delays, asked, latest⟩
    · simp [visit, Event.noted, Event.call, index, ne.symm]
    · simp [visit, Event.noted, Event.call, index, at_]
  | fail =>
    simp only [Place.journal_leaving, through.head.1]
    refine h.leave (fun i ne => ?_) _ _
    simp [visit, Event.noted, through.head.1, ne.symm]
  | @announce f outer inner l =>
    obtain ⟨index, -, -⟩ := through.head
    obtain ⟨-, v, at_, start, rounds, sends, delays, asked⟩ := h.within
    refine h.stay (fun i ne => ?_) (v := { v with rounds := v.rounds + 1 }) ?_ start
      (congrArg (· + 1) rounds) ⟨sends, asked, delays⟩
    · simp [visit, Event.noted, Event.call, index, ne.symm]
    · simp [visit, Event.noted, Event.call, Notice.announces, index, at_]
  | thrown =>
    simp only [Place.journal_leaving, through.head.1]
    exact h.leave (fun i _ => rfl) _ _

end

section
variable {layers : List Layer} {s : Setting} {call : Call} {pt pt' : Point} {l l' : Ledger}

theorem Always.asides {depth : Nat} {asides j : List Event} (aside : ∀ e ∈ asides, e.isAside = true)
    (always : Always (Event.InOrder depth) j) : Always (Event.InOrder depth) (asides ++ j) := by
  apply always.append
  intro e mem earlier
  have first := aside e mem
  cases e <;> simp [Event.isAside, Event.InOrder] at first ⊢

theorem Always.reports {depth : Nat} (p : Place) (call : Call) {ns : List Notice}
    (quiet : ∀ n ∈ ns, n.announces = false) {j : List Event} {v : Visit}
    (at_ : visit depth call.id p.index j = some v) (always : Always (Event.InOrder depth) j) :
    Always (Event.InOrder depth)
      ((ns.map fun n => .logged call.id p.index (p.entry call n)).reverse ++ j) := by
  have each : ∀ n ∈ ns, ∀ j, visit depth call.id p.index j = some v ∧
      Always (Event.InOrder depth) j →
        visit depth call.id p.index (.logged call.id p.index (p.entry call n) :: j) = some v ∧
          Always (Event.InOrder depth) (.logged call.id p.index (p.entry call n) :: j) := by
    intro n mem j ⟨at_, always⟩
    have first := quiet n mem
    refine ⟨?_, ⟨v, at_, fun count same => ?_⟩, always⟩
    · simp [visit, Event.noted, first, at_]
    · simp only [Place.notice_entry] at same
      simp [same, Notice.announces] at first
  exact (p.reports_keep call ns (P := fun j => visit depth call.id p.index j = some v ∧
    Always (Event.InOrder depth) j) each ⟨at_, always⟩).2

theorem Point.Tracked.arriving {depth c : Nat} {j : List Event} {frames : List Frame}
    {inner : List Place} (h : Tracked depth c j ⟨frames, inner, .down⟩) :
    Arriving depth c j frames.length := by
  have within := h.within
  cases frames with
  | nil =>
    intro e mem
    have aside := within rfl e mem
    cases e <;> simp_all [Event.arrives, Event.call, Event.isAside]
  | cons f outer =>
    obtain ⟨-, v, at_, -, rounds, sends, asked, -⟩ := within
    exact ⟨v, at_, by omega, by omega⟩

theorem Point.Tracked.occupied {depth c : Nat} {j : List Event} {f : Frame} {outer : List Frame}
    {inner : List Place} {phase : Phase} (h : Tracked depth c j ⟨f :: outer, inner, phase⟩)
    {attempt : Attempt} (busy : phase.attempt? = some attempt) :
    ∃ v, visit depth c outer.length j = some v ∧ v.rounds = v.sends := by
  obtain ⟨-, v, at_, -, rounds, suits⟩ := h.within
  refine ⟨v, at_, ?_⟩
  cases phase with
  | down => cases busy
  | up reply => cases busy
  | ready => cases busy
  | _ => exact rounds.trans suits.1.symm

theorem Point.Tracked.resting {depth c : Nat} {j : List Event} {f : Frame} {outer : List Frame}
    {inner : List Place} {phase : Phase} (h : Tracked depth c j ⟨f :: outer, inner, phase⟩)
    (rests : phase.rests = true) :
    ∃ v, visit depth c outer.length j = some v ∧ v.rounds = v.sends := by
  obtain ⟨-, v, at_, -, rounds, suits⟩ := h.within
  refine ⟨v, at_, ?_⟩
  cases phase with
  | waiting delay attempt began => exact rounds.trans suits.1.symm
  | worked attempt began => exact rounds.trans suits.1.symm
  | ready => exact rounds.trans suits.1.symm
  | _ => cases rests

/-- So has a layer that takes what a send came to, unless it is cancelled above the innermost
transport. -/
theorem Point.Tracked.taking {depth c : Nat} {j : List Event} {f : Frame} {outer : List Frame}
    {inner : List Place} {reply : Reply} (h : Tracked depth c j ⟨f :: outer, inner, .up reply⟩) :
    ∃ v, visit depth c outer.length j = some v ∧
      (v.rounds = v.sends ∨ inner = [] ∧ reply.isInterrupt = true) := by
  obtain ⟨-, v, at_, -, rounds, sends, -⟩ := h.within
  refine ⟨v, at_, ?_⟩
  rcases sends with sends | ⟨-, interrupt, bare⟩
  · exact .inl (rounds.trans sends.symm)
  · exact .inr ⟨bare, interrupt⟩

theorem Point.Tracked.leaves {depth c : Nat} {j : List Event} {f : Frame} {outer : List Frame}
    {inner : List Place} {phase : Phase} (h : Tracked depth c j ⟨f :: outer, inner, phase⟩)
    {attempt : Attempt} (busy : phase.attempt? = some attempt) (reply : Reply) :
    Event.InOrder depth j (.left c outer.length reply) := by
  obtain ⟨v, at_, sends⟩ := h.occupied busy
  exact .inl ⟨v, at_, fun _ => sends⟩

theorem Point.Tracked.reports {depth c : Nat} {j : List Event} {f : Frame} {outer : List Frame}
    {inner : List Place} {phase : Phase} (h : Tracked depth c j ⟨f :: outer, inner, phase⟩)
    {attempt : Attempt} (busy : phase.attempt? = some attempt) {entry : LogEntry}
    (quiet : entry.notice.announces = false) :
    Event.InOrder depth j (.logged c outer.length entry) := by
  obtain ⟨v, at_, -⟩ := h.occupied busy
  refine ⟨v, at_, fun n same => ?_⟩
  simp [same, Notice.announces] at quiet

theorem Point.Tracked.asks {depth : Nat} {j : List Event} {f : Frame} {outer : List Frame}
    {inner : List Place} {attempt : Attempt}
    (h : Tracked depth call.id j ⟨f :: outer, inner, .judging attempt⟩)
    (owns : Point.Owns call ⟨f :: outer, inner, .judging attempt⟩) (elapsed : Option Int)
    (scripted : Bool) :
    Event.InOrder depth j (.asked call.id outer.length attempt elapsed scripted) := by
  obtain ⟨-, v, at_, start, rounds, sends, asked, delays⟩ := h.within
  have own := owns f outer attempt rfl rfl
  exact ⟨v, at_, by omega, own.count.trans sends.symm, own.start.trans start.symm⟩

theorem Takes.inOrder (takes : Takes s call pt l pt' l') (through : pt.Through layers)
    (owns : pt.Owns call) (h : pt.Tracked layers.length call.id l.journal)
    (always : Always (Event.InOrder layers.length) l.journal) :
    Always (Event.InOrder layers.length) l'.journal := by
  cases takes with
  | pause unmoved =>
    obtain ⟨asides, journal, aside⟩ := unmoved.journal
    rw [journal]
    exact always.asides aside
  | @enter frames p inner start l reads =>
    simp only [Place.journal_takingUp, through.next.1]
    exact ⟨⟨h.below _ (Nat.le_refl _), h.arriving⟩, always⟩
  | @refuse frames p inner spec id l fails =>
    simp only [Place.journal_leaving, Place.journal_refusing, through.next.1]
    exact ⟨.inr ⟨_, rfl⟩, ⟨h.below _ (Nat.le_refl _), h.arriving⟩, always⟩
  | @transmit frames reply l =>
    have arriving := h.arriving
    rw [← through.bottom] at arriving
    exact ⟨arriving, always⟩
  | cancel waits interrupt => exact always
  | @interrupted f outer inner e l interrupt =>
    obtain ⟨index, -, depth⟩ := through.head
    obtain ⟨v, at_, sends⟩ := h.taking
    simp only [Place.journal_leaving, Place.journal_receiving, index]
    refine ⟨.inl ⟨v, ?_, fun deeper => ?_⟩, ⟨v, at_, ?_⟩, always⟩
    · simp [visit, Event.noted, at_]
    · rcases sends with sends | ⟨bare, -⟩
      · exact sends
      · simp [bare] at depth
        omega
    · rcases sends with sends | ⟨bare, interrupt⟩
      · exact .inl sends
      · simp [bare] at depth
        exact .inr ⟨depth.symm, interrupt⟩
  | @raised f outer inner e attempt l plain fits faults =>
    obtain ⟨v, at_, sends⟩ := h.taking
    simp [Reply.isInterrupt, plain] at sends
    simp only [Place.journal_logged, Place.journal_receiving, through.head.1]
    refine ⟨⟨v, ?_, fun n same => ?_⟩, ⟨v, at_, .inl sends⟩, always⟩
    · simp [visit, Event.noted, at_]
    · simp at same
  | @received f outer inner reply attempt l unraised fits faults =>
    obtain ⟨v, at_, sends⟩ := h.taking
    have plain : reply.isInterrupt = false := by
      cases reply <;> simp [Reply.error?, Reply.isInterrupt] at *
    simp [plain] at sends
    simp only [Place.journal_receiving, through.head.1]
    exact ⟨⟨v, at_, .inl sends⟩, always⟩
  | unasked timed => exact always
  | unanswered silent =>
    simp only [Place.journal_asking, through.head.1]
    exact ⟨h.asks owns _ _, always⟩
  | @answered f outer inner attempt elapsed decision error l gives =>
    obtain ⟨index, -, -⟩ := through.head
    obtain ⟨-, v, at_, -⟩ := h.within
    have put : Event.InOrder layers.length l.journal (.asked call.id f.place.index attempt elapsed
        f.place.layer.retryer.isScripted) := by
      rw [index]
      exact h.asks owns _ _
    have visited : visit layers.length call.id f.place.index (.asked call.id f.place.index attempt
        elapsed f.place.layer.retryer.isScripted :: l.journal) =
          some { v with attempts := attempt :: v.attempts } := by
      simp [visit, Event.noted, Event.call, index, at_]
    rw [Place.journal_answered]
    refine ⟨⟨{ v with attempts := attempt :: v.attempts }, ?_, rfl⟩,
      Always.reports f.place call Retryer.announces_remarks visited ⟨put, always⟩⟩
    rw [← visited]
    exact visit_reports f.place call Retryer.announces_remarks
  | pass held => exact always
  | @release f outer inner attempt answer r l rejected has =>
    obtain ⟨v, at_, -⟩ := h.occupied rfl
    simp only [Ledger.journal_note, through.head.1]
    exact ⟨⟨v, at_⟩, always⟩
  | released => exact always
  | tolerate swallowed =>
    simp only [Place.journal_failingDrain, through.head.1]
    exact ⟨h.reports rfl rfl, always⟩
  | breakOff kept =>
    simp only [Place.journal_leaving, through.head.1]
    exact ⟨h.leaves rfl _, always⟩
  | reraise =>
    simp only [Place.journal_leaving, through.head.1]
    exact ⟨h.leaves rfl _, always⟩
  | settle settles =>
    simp only [Place.journal_leaving, through.head.1]
    exact ⟨h.leaves rfl _, always⟩
  | @abort f outer inner attempt error e l raises =>
    obtain ⟨v, at_, sends⟩ := h.occupied rfl
    simp only [Place.journal_leaving, Attempt.journal_blaming, Place.journal_logged, through.head.1]
    refine ⟨.inl ⟨v, ?_, fun _ => sends⟩, h.reports rfl rfl, always⟩
    simp [visit, Event.noted, Notice.announces, at_]
  | retry => exact always
  | skip undelayed => exact always
  | delay delays =>
    simp only [Place.journal_logged, through.head.1]
    exact ⟨h.reports rfl rfl, always⟩
  | @work f outer inner attempt delay began l works =>
    obtain ⟨-, v, at_, -, -, -, delays, asked, latest⟩ := h.within
    simp only [Place.journal_delaying, through.head.1]
    exact ⟨⟨v, at_, latest, by omega⟩, always⟩
  | @fail f outer inner attempt delay began spec id l fails =>
    obtain ⟨-, v, at_, -, rounds, sends, delays, asked, latest⟩ := h.within
    simp only [Place.journal_leaving, Place.journal_delaying, through.head.1]
    refine ⟨.inl ⟨{ v with delays := v.delays + 1 }, ?_, fun _ => rounds.trans sends.symm⟩,
      ⟨v, at_, latest, by omega⟩, always⟩
    simp [visit, Event.noted, Event.call, at_]
  | @done f outer inner attempt began l =>
    obtain ⟨-, v, at_, -, -, -, -, -, latest⟩ := h.within
    simp only [Place.journal_delayed, through.head.1]
    exact ⟨⟨v, at_, latest⟩, always⟩
  | @announce f outer inner l =>
    obtain ⟨-, v, at_, -, rounds, sends, -⟩ := h.within
    simp only [Place.journal_logged, through.head.1]
    refine ⟨⟨v, at_, fun n same => ?_⟩, always⟩
    simp at same
    omega
  | @thrown f outer inner phase e l rests interrupt =>
    obtain ⟨v, at_, sends⟩ := h.resting rests
    simp only [Place.journal_leaving, through.head.1]
    exact ⟨.inl ⟨v, at_, fun _ => sends⟩, always⟩

/-- What others do changes no visit. -/
theorem visit_grows {depth c other i : Nat} {j j' : List Event} (h : Grows other j j')
    (ne : c ≠ other) : visit depth c i j' = visit depth c i j := by
  induction h with
  | refl => rfl
  | @cons e j' own _ ih =>
    rcases own with own | aside
    · rw [visit_foreign (by omega), ih]
    · simp [visit, Event.noted_aside aside, ih]

theorem Point.Tracked.apart {depth c other : Nat} {j j' : List Event} {pt : Point}
    (tracked : pt.Tracked depth c j) (h : Grows other j j') (ne : c ≠ other) :
    pt.Tracked depth c j' := by
  refine tracked.kept (fun i => visit_grows h ne) ?_
  induction h with
  | refl => exact fun e mem => .inl mem
  | @cons e j' own _ ih =>
    refine List.forall_mem_cons.mpr ⟨.inr fun same => ?_, ih⟩
    exact own.elim (fun own => absurd (same.symm.trans own) ne) id

end

namespace Reached

variable {s : Setting} {layers : List Layer} {calls : List Call}
  {initial : List (FailureId × Failure)} {points : Nat → Point} {l : Ledger}

theorem tracked (distinct : (calls.map (·.id)).Nodup)
    (reached : Reached s (placesFrom 0 layers) calls initial points l) :
    ∀ call ∈ calls, (points call.id).Tracked layers.length call.id l.journal := by
  apply reached.each (I := fun call pt j => pt.Tracked layers.length call.id j) distinct
  · exact fun call => ⟨fun _ _ => rfl, fun _ e mem => absurd mem List.not_mem_nil⟩
  · exact fun call other pt j j' ne grows tracked => tracked.apart grows ne
  · exact fun points l call pt l' before takes _ tracked =>
      takes.tracked (before.through call.id) tracked

/-- Whatever the order in which calls are moved on, all events come in order. -/
theorem inOrder (distinct : (calls.map (·.id)).Nodup)
    (reached : Reached s (placesFrom 0 layers) calls initial points l) :
    Always (Event.InOrder layers.length) l.journal := by
  induction reached with
  | start => trivial
  | aside _ unmoved ih =>
    obtain ⟨asides, journal, aside⟩ := unmoved.journal
    rw [journal]
    exact ih.asides aside
  | step before moves takes ih =>
    exact takes.inOrder (before.through _) (before.owns distinct _ moves)
      (before.tracked distinct _ moves) ih

end Reached

end HttpRetry
