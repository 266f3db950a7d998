import HttpRetry.Proofs.Reckoned
set_option autoImplicit false

namespace HttpRetry

def Event.delaying? : Event → Option (Nat × Attempt)
  | .delaying _ layer attempt => some (layer, attempt)
  | _ => none

def delaying? (call : Nat) : List Event → Option (Nat × Attempt)
  | [] => none
  | e :: earlier => if e.concerns call then e.delaying? else delaying? call earlier

def Point.delaying? (pt : Point) : Option (Nat × Attempt) :=
  match pt.phase with
  | .worked attempt _ => pt.frames.head?.map fun f => (f.place.index, attempt)
  | _ => none

/-- A call that waits for a delayer goes on when that comes back, or leaves the layer. -/
def Resolves (earlier : List Event) (e : Event) : Prop :=
  ∀ i attempt, e.isAside = false → delaying? e.call earlier = some (i, attempt) →
    (∃ began ended, e = .delayed e.call i attempt began ended) ∨ ∃ reply, e = .left e.call i reply

/-- A layer has reported that it waits, and since then the call has not come further. `began` is the
time of the report. -/
def Announced (layers : List Layer) (calls : List Call) (c i count : Nat) (began : Rat)
    (journal : List Event) : Prop :=
  ∃ since entry before, journal = since ++ .logged c i entry :: before ∧ AtRest c since ∧
    entry.notice = .delaying count ∧ began = elapsed layers calls before

def Worked (layers : List Layer) (calls : List Call) (c i : Nat) (attempt : Attempt) (began : Rat)
    (journal : List Event) : Prop :=
  ∃ since before wait, journal = since ++ .delaying c i attempt :: before ∧ AtRest c since ∧
    waitAfter layers before i = some wait ∧ wait.failure = none ∧
    Announced layers calls c i attempt.count began before

def Point.Timed (layers : List Layer) (calls : List Call) (c : Nat) (journal : List Event)
    (pt : Point) : Prop :=
  ∀ f outer, pt.frames = f :: outer → match pt.phase with
    | .waiting _ attempt began =>
      Announced layers calls c f.place.index attempt.count began journal
    | .worked attempt began => Worked layers calls c f.place.index attempt began journal
    | _ => True

section
variable {layers : List Layer} {calls : List Call} {s : Setting} {call : Call} {pt pt' : Point}
  {l l' : Ledger} {c i count : Nat} {began : Rat} {attempt : Attempt} {e : Event}
  {j j' news : List Event}

theorem delaying?_append (still : AtRest c news) : delaying? c (news ++ j) = delaying? c j := by
  induction news with
  | nil => rfl
  | cons e rest ih =>
    obtain ⟨first, later⟩ := List.forall_mem_cons.mp still
    simp [delaying?, first, ih later]

theorem Announced.later (h : Announced layers calls c i count began j) (still : AtRest c news) :
    Announced layers calls c i count began (news ++ j) := by
  obtain ⟨since, entry, before, split, earlier, notice, time⟩ := h
  exact ⟨news ++ since, entry, before, by simp [split], still.append earlier, notice, time⟩

theorem Worked.later (h : Worked layers calls c i attempt began j) (still : AtRest c news) :
    Worked layers calls c i attempt began (news ++ j) := by
  obtain ⟨since, before, wait, split, earlier, works⟩ := h
  exact ⟨news ++ since, before, wait, by simp [split], still.append earlier, works⟩

theorem Point.Timed.later (h : pt.Timed layers calls c j) (still : AtRest c news) :
    pt.Timed layers calls c (news ++ j) := by
  intro f outer frames
  have timed := h f outer frames
  cases phase : pt.phase with
  | waiting delay attempt began =>
    rw [phase] at timed
    exact timed.later still
  | worked attempt began =>
    rw [phase] at timed
    exact timed.later still
  | _ => trivial

theorem Takes.timed (takes : Takes s call pt l pt' l') (through : pt.Through layers)
    (waits : pt.Waits) (reckoned : l.Reckoned layers calls)
    (h : pt.Timed layers calls call.id l.journal) :
    pt'.Timed layers calls call.id l'.journal := by
  cases takes with
  | pause unmoved =>
    obtain ⟨news, journal, still⟩ := unmoved.atRest call.id
    rw [journal]
    exact h.later still
  | @delay f outer inner attempt delay l delays =>
    intro f' outer' frames
    cases frames
    exact ⟨[], _, l.journal, rfl, by simp [AtRest], f.place.notice_entry call _, reckoned.now⟩
  | @work f outer inner attempt delay began l works =>
    intro f' outer' frames
    cases frames
    have announced := h f outer rfl
    have wait := reckoned.wait through.head.2.1 (waits f outer delay attempt began rfl rfl)
    exact ⟨[], l.journal, _, rfl, by simp [AtRest], wait, works, announced⟩
  | _ => exact fun f outer frames => trivial

structure Resolved (c : Nat) (journal : List Event) (waits : Option (Nat × Attempt)) : Prop where
  always : Always Resolves journal
  latest : delaying? c journal = waits

namespace Resolved

variable {waits : Option (Nat × Attempt)}

theorem resolve (h : Resolved c j waits) (e : Event) (own : e.call = c) (step : e.isAside = false)
    (ends : ∀ i attempt, waits = some (i, attempt) →
      (∃ began ended, e = .delayed c i attempt began ended) ∨ ∃ reply, e = .left c i reply) :
    Resolved c (e :: j) e.delaying? := by
  constructor
  · refine ⟨?_, h.always⟩
    intro i attempt _ waiting
    rw [own, h.latest] at waiting
    rw [own]
    exact ends i attempt waiting
  · simp [delaying?, Event.concerns, own, step]

theorem cons (h : Resolved c j none) (e : Event) (own : e.call = c) (step : e.isAside = false) :
    Resolved c (e :: j) e.delaying? :=
  h.resolve e own step fun _ _ waits => by cases waits

theorem reports (h : Resolved c j none) {call : Call} (own : call.id = c) (p : Place)
    (ns : List Notice) : Resolved c
      ((ns.map fun n => .logged call.id p.index (p.entry call n)).reverse ++ j) none := by
  apply p.reports_keep call ns (P := fun j => Resolved c j none) _ h
  intro n mem j h
  exact h.cons _ own rfl

theorem append (h : Resolved c j waits) (aside : ∀ e ∈ news, e.isAside = true) :
    Resolved c (news ++ j) waits := by
  constructor
  · apply h.always.append
    intro e mem earlier i attempt step
    simp [aside e mem] at step
  · rw [delaying?_append fun e mem => Event.concerns_aside (aside e mem), h.latest]

end Resolved

/-- Each step goes on from a delayer that came back, or leaves its layer. -/
theorem Takes.resolved (takes : Takes s call pt l pt' l')
    (h : Resolved call.id l.journal pt.delaying?) : Resolved call.id l'.journal pt'.delaying? := by
  cases takes with
  | pause unmoved =>
    obtain ⟨asides, journal, aside⟩ := unmoved.journal
    rw [journal]
    exact h.append aside
  | enter => exact h.cons _ rfl rfl
  | refuse => exact (h.cons _ rfl rfl).cons _ rfl rfl
  | transmit => exact h.cons _ rfl rfl
  | interrupted => exact (h.cons _ rfl rfl).cons _ rfl rfl
  | raised => exact (h.cons _ rfl rfl).cons _ rfl rfl
  | received => exact h.cons _ rfl rfl
  | unanswered => exact h.cons _ rfl rfl
  | @answered f outer inner attempt elapsed decision error l gives =>
    rw [Place.journal_answered]
    have asked := h.cons (.asked call.id f.place.index attempt elapsed
      f.place.layer.retryer.isScripted) rfl rfl
    exact (Resolved.reports asked rfl _ _).cons _ rfl rfl
  | release => exact h.cons _ rfl rfl
  | tolerate =>
    rw [Place.journal_failingDrain]
    exact h.cons _ rfl rfl
  | breakOff => exact h.cons _ rfl rfl
  | reraise => exact h.cons _ rfl rfl
  | settle => exact h.cons _ rfl rfl
  | abort =>
    rw [Place.journal_leaving, Attempt.journal_blaming, Place.journal_logged]
    exact (h.cons _ rfl rfl).cons _ rfl rfl
  | delay => exact h.cons _ rfl rfl
  | work => exact h.cons _ rfl rfl
  | fail =>
    apply (h.cons _ rfl rfl).resolve _ rfl rfl
    intro i attempt same
    cases same
    exact .inr ⟨_, rfl⟩
  | @done f outer inner attempt began l =>
    rw [Place.journal_delayed]
    apply h.resolve _ rfl rfl
    intro i attempt same
    cases same
    exact .inl ⟨_, _, rfl⟩
  | announce => exact h.cons _ rfl rfl
  | @thrown f outer inner phase e l rests interrupt =>
    apply h.resolve _ rfl rfl
    intro i attempt same
    cases phase with
    | worked attempt began =>
      cases same
      exact .inr ⟨_, rfl⟩
    | _ => cases same
  | _ => exact h

end

namespace Reached

variable {s : Setting} {layers : List Layer} {calls : List Call}
  {initial : List (FailureId × Failure)} {points : Nat → Point} {l : Ledger}

theorem timed (distinct : (calls.map (·.id)).Nodup)
    (reached : Reached s (placesFrom 0 layers) calls initial points l) :
    ∀ call ∈ calls, (points call.id).Timed layers calls call.id l.journal := by
  apply reached.each (I := fun call pt j => pt.Timed layers calls call.id j) distinct
  · exact fun call f outer frames => by cases frames
  · intro call other pt j j' ne grows timed
    obtain ⟨news, rfl, still⟩ := grows.atRest ne
    exact timed.later still
  · exact fun points l call pt l' before takes _ timed =>
      takes.timed (before.through _) (before.waits _) (before.reckoned distinct) timed

/-- The timer is read when a wait is reported and when the delayer has come back. -/
theorem delays (distinct : (calls.map (·.id)).Nodup)
    (reached : Reached s (placesFrom 0 layers) calls initial points l) :
    Always (fun earlier e => ∀ c i attempt began ended, e = .delayed c i attempt began ended →
      Worked layers calls c i attempt began earlier ∧ ended = elapsed layers calls earlier)
      l.journal := by
  apply reached.always
  · intro e aside earlier c i attempt began ended same
    simp [same, Event.isAside] at aside
  · intro points l call e earlier before mem arises c i attempt began ended same
    subst same
    obtain ⟨rfl, rfl, f, outer, frames, rfl, phase, rfl⟩ := arises
    have timed := before.timed distinct call mem f outer frames
    rw [phase] at timed
    exact ⟨timed, (before.reckoned distinct).now⟩

/-- Whoever else is moved on meanwhile, each wait is resolved. -/
theorem resolves {places : List Place} (reached : Reached s places calls initial points l) :
    Always Resolves l.journal ∧
      ∀ call ∈ calls, delaying? call.id l.journal = (points call.id).delaying? := by
  induction reached with
  | start => exact ⟨trivial, fun _ _ => rfl⟩
  | @aside points l l' _ unmoved ih =>
    obtain ⟨asides, journal, aside⟩ := unmoved.journal
    have kept : ∀ c waits, delaying? c l.journal = waits →
        Resolved c (asides ++ l.journal) waits :=
      fun c waits latest => (Resolved.mk ih.1 latest).append aside
    rw [journal]
    exact ⟨(kept 0 _ rfl).always, fun call mem => (kept call.id _ (ih.2 call mem)).latest⟩
  | @step points l l' mover pt before moves takes ih =>
    have moved := takes.resolved ⟨ih.1, ih.2 mover moves⟩
    refine ⟨moved.always, fun call mem => ?_⟩
    by_cases same : call.id = mover.id
    · simpa [same] using moved.latest
    · obtain ⟨news, journal, still⟩ := takes.grows.atRest same
      rw [journal, delaying?_append still, updateAt_of_ne same]
      exact ih.2 call mem

end Reached

end HttpRetry
