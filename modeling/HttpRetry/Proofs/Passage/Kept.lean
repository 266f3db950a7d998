import HttpRetry.Proofs.Journal
import HttpRetry.Proofs.Passage.Moves
import HttpRetry.Proofs.Tally
import Mathlib.Data.List.Nodup
set_option autoImplicit false

namespace HttpRetry

section
variable {layers : List Layer} {s : Setting} {call : Call} {pt pt' : Point} {l l' : Ledger}

theorem getElem?_placesFrom (k : Nat) (layers : List Layer) (i : Nat) :
    (placesFrom k layers)[i]? = (layers[i]?).map fun layer => ⟨k + i, layer⟩ := by
  induction layers generalizing k i with
  | nil => simp [placesFrom]
  | cons layer inner ih =>
    cases i with
    | zero => simp [placesFrom]
    | succ i =>
      simp only [placesFrom, List.getElem?_cons_succ, ih]
      congr 1
      funext layer
      congr 1
      omega

theorem length_placesFrom (k : Nat) (layers : List Layer) :
    (placesFrom k layers).length = layers.length := by
  induction layers generalizing k with
  | nil => rfl
  | cons layer inner ih => simp [placesFrom, ih]

def Point.Through (layers : List Layer) (pt : Point) : Prop :=
  pt.frames.reverse.map (·.place) ++ pt.inner = placesFrom 0 layers

theorem Takes.through (takes : Takes s call pt l pt' l') (through : pt.Through layers) :
    pt'.Through layers := by
  cases takes <;> simpa [Point.Through] using through

theorem Reached.through {calls : List Call} {initial : List (FailureId × Failure)}
    {points : Nat → Point}
    (reached : Reached s (placesFrom 0 layers) calls initial points l) (c : Nat) :
    (points c).Through layers :=
  reached.point_keeps (I := Point.Through layers) rfl (fun _ _ _ _ _ takes => takes.through) c

namespace Point.Through

variable {f : Frame} {frames outer : List Frame} {p : Place} {inner : List Place} {phase : Phase}

theorem split {before after : List Place} (h : before ++ p :: after = placesFrom 0 layers) :
    p.index = before.length ∧ p.In layers ∧ layers.length = before.length + 1 + after.length := by
  have at_ := getElem?_placesFrom 0 layers before.length
  have length := length_placesFrom 0 layers
  rw [← h] at at_ length
  simp only [List.getElem?_append_right (Nat.le_refl _), Nat.sub_self, List.getElem?_cons_zero,
    Nat.zero_add] at at_
  obtain ⟨layer, found, made⟩ := Option.map_eq_some_iff.mp at_.symm
  simp only [List.length_append, List.length_cons] at length
  refine ⟨?_, ?_, by omega⟩
  · simp [← made]
  · simp [Place.In, ← made, found]

theorem head (h : Through layers ⟨f :: outer, inner, phase⟩) :
    f.place.index = outer.length ∧ f.place.In layers ∧
      layers.length = outer.length + 1 + inner.length := by
  have h : outer.reverse.map (·.place) ++ f.place :: inner = placesFrom 0 layers := by
    simpa [Through] using h
  simpa using split h

theorem head_of (h : pt.Through layers) (frames : pt.frames = f :: outer) :
    f.place.index = outer.length ∧ f.place.In layers ∧
      layers.length = outer.length + 1 + pt.inner.length := by
  obtain ⟨frames, inner, phase⟩ := pt
  cases frames
  exact h.head

theorem next (h : Through layers ⟨frames, p :: inner, phase⟩) :
    p.index = frames.length ∧ p.In layers ∧ layers.length = frames.length + 1 + inner.length := by
  simpa using split h

theorem next_of {rest : List Place} (h : pt.Through layers) (waiting : pt.inner = p :: rest) :
    p.index = pt.frames.length ∧ p.In layers ∧
      layers.length = pt.frames.length + 1 + rest.length := by
  obtain ⟨frames, inner, phase⟩ := pt
  cases waiting
  exact h.next

theorem bottom (h : Through layers ⟨frames, [], phase⟩) : layers.length = frames.length := by
  have length := congrArg List.length h
  simpa [length_placesFrom] using length.symm

/-- A layer that a call has entered stands where it is counted from the outside. -/
theorem index_lt (h : Through layers ⟨frames, inner, phase⟩) :
    ∀ g ∈ frames, g.place.index < frames.length := by
  intro g mem
  obtain ⟨later, earlier, rfl⟩ := List.append_of_mem mem
  have parts : earlier.reverse.map (·.place) ++ g.place ::
      (later.reverse.map (·.place) ++ inner) = placesFrom 0 layers := by
    simpa [Through] using h
  have index := (split parts).1
  simp only [List.length_map, List.length_reverse] at index
  simp only [index, List.length_append, List.length_cons]
  omega

theorem below (h : Through layers ⟨f :: outer, inner, phase⟩) :
    ∀ g ∈ outer, g.place.index < f.place.index := by
  have above : Through layers ⟨outer, f.place :: inner, phase⟩ := by
    simpa [Through] using h
  rw [h.head.1]
  exact above.index_lt

end Point.Through

end

theorem Walks.atRest {s : Setting} {call : Call} {pt pt' : Point} {l l' : Ledger} {c : Nat}
    (walks : Walks s call (pt, l) (pt', l')) (ne : c ≠ call.id) :
    ∃ news, l'.journal = news ++ l.journal ∧ AtRest c news := by
  apply walks.keeps (I := fun _ l₁ => ∃ news, l₁.journal = news ++ l.journal ∧ AtRest c news)
  · exact ⟨[], rfl, by simp [AtRest]⟩
  · intro pt₁ l₁ pt₂ l₂ takes before
    obtain ⟨news, journal, still⟩ := before
    obtain ⟨news', journal', still'⟩ := takes.grows.atRest ne
    exact ⟨news' ++ news, by rw [journal', journal, List.append_assoc], still'.append still⟩

def Phase.attempt? : Phase → Option Attempt
  | .judging attempt | .judged attempt _ | .releasing attempt _ | .cleared attempt _
  | .again attempt | .waiting _ attempt _ | .worked attempt _ => some attempt
  | _ => none

/-- What an attempt has of the layer that makes it, and of the round. -/
structure Attempt.Belongs (call : Call) (f : Frame) (attempt : Attempt) : Prop where
  start : attempt.start = f.start
  count : attempt.count = f.made + 1
  request : attempt.request = call.request
  single : f.place.layer.forced = none → attempt.response = none ∨ attempt.error = none

def Point.Owns (call : Call) (pt : Point) : Prop :=
  ∀ f outer attempt, pt.frames = f :: outer → pt.phase.attempt? = some attempt →
    attempt.Belongs call f

section
variable {s : Setting} {call : Call} {pt pt' : Point} {l l' : Ledger}

theorem Place.Fits.belongs {f : Frame} {reply : Reply} {attempt : Attempt}
    (fits : Place.Fits call f.start f.made reply attempt) (faults : f.place.Faults reply attempt) :
    attempt.Belongs call f := by
  refine ⟨fits.start, fits.count, fits.request, fun unforced => ?_⟩
  have response := fits.response
  unfold Place.Faults at faults
  cases reply <;> simp_all [Reply.response?, Reply.error?]

theorem Takes.owns (takes : Takes s call pt l pt' l') (owns : pt.Owns call) : pt'.Owns call := by
  intro f outer attempt frames occupied
  cases takes with
  | pause unmoved => exact owns f outer attempt frames occupied
  | raised plain fits faults =>
    cases frames
    cases occupied
    exact fits.belongs faults
  | received unraised fits faults =>
    cases frames
    cases occupied
    exact fits.belongs faults
  | _ =>
    first
    | cases occupied; done
    | exact owns f outer attempt frames occupied

end

def Point.Waits (pt : Point) : Prop :=
  ∀ f outer delay attempt began, pt.frames = f :: outer → pt.phase = .waiting delay attempt began →
    f.place.layer.delay = some delay

section
variable {s : Setting} {call : Call} {pt pt' : Point} {l l' : Ledger}

theorem Takes.waits (takes : Takes s call pt l pt' l') (waits : pt.Waits) : pt'.Waits := by
  intro f outer delay attempt began frames waiting
  cases takes with
  | pause unmoved => exact waits f outer delay attempt began frames waiting
  | delay delays =>
    cases frames
    cases waiting
    exact delays
  | _ => cases waiting

end

theorem Place.causes_answered (p : Place) (call : Call) (attempt : Attempt) (elapsed : Option Int)
    (decision : Decision) (error : Option Failure) (l : Ledger) :
    (p.answered call attempt elapsed decision error l).causes = l.causes := by
  simp [answered, answering, Place.measured_eq, Ledger.note, foldl_logged, asking]

/-- Where a call stands when an event of it happens that its attempts or waits depend on, which is the
first event of its step unless it is a report. -/
def Event.Arises (call : Call) (pt : Point) (l : Ledger) (earlier : List Event) :
    Event → Prop
  | .entered c i start => c = call.id ∧ earlier = l.journal ∧
      ∃ p inner, pt.inner = p :: inner ∧ i = p.index ∧ p.layer.clock.peek l = .ok start
  | .asked c i attempt _ _ => c = call.id ∧ earlier = l.journal ∧ ∃ f outer,
      pt.frames = f :: outer ∧ i = f.place.index ∧ pt.phase = .judging attempt
  | .answered c i attempt decision => c = call.id ∧ ∃ f outer elapsed error asked,
      pt.frames = f :: outer ∧ i = f.place.index ∧ pt.phase = .judging attempt ∧
        f.place.layer.retryer.Gives attempt asked decision error ∧
        earlier = ((f.place.layer.retryer.remarks attempt decision error).map fun n =>
          .logged c i (f.place.entry call n)).reverse ++
            .asked c i attempt elapsed f.place.layer.retryer.isScripted :: l.journal
  | .delaying c i attempt => c = call.id ∧ earlier = l.journal ∧ ∃ f outer delay began,
      pt.frames = f :: outer ∧ i = f.place.index ∧ pt.phase = .waiting delay attempt began
  | .delayed c i attempt began ended => c = call.id ∧ earlier = l.journal ∧ ∃ f outer,
      pt.frames = f :: outer ∧ i = f.place.index ∧ pt.phase = .worked attempt began ∧ ended = l.now
  | .logged c i entry => c = call.id ∧ ∃ f outer, pt.frames = f :: outer ∧ i = f.place.index ∧
      (∀ n, entry.notice = .retrying n → pt.phase = .ready ∧ n = f.made + 2) ∧
      ∀ count e, entry.notice = .aborting count e → earlier = l.journal ∧ ∃ attempt error,
        pt.phase = .cleared attempt (.ok (.abort, error)) ∧
          (error = some e ∨ error = none ∧ ∃ serial, e = .aborted (.fresh call.id serial) attempt)
  | _ => True

section
variable {P : List Event → Event → Prop} {s : Setting} {call : Call} {pt pt' : Point}
  {l l' : Ledger}

/-- What holds of the events that arise in a step, and of those before it, holds of all after it. -/
theorem Takes.always (takes : Takes s call pt l pt' l')
    (aside : ∀ e, e.isAside = true → ∀ earlier, P earlier e)
    (new : ∀ e earlier, e.Arises call pt l earlier → P earlier e) (old : Always P l.journal) :
    Always P l'.journal := by
  cases takes with
  | pause unmoved =>
    obtain ⟨asides, journal, all⟩ := unmoved.journal
    rw [journal]
    exact old.append fun e mem => aside e (all e mem)
  | @enter frames p inner start l reads =>
    exact ⟨new _ _ ⟨rfl, rfl, p, inner, rfl, rfl, reads⟩, old⟩
  | refuse fails => exact ⟨new _ _ trivial, new _ _ trivial, old⟩
  | transmit => exact ⟨new _ _ trivial, old⟩
  | interrupted interrupt => exact ⟨new _ _ trivial, new _ _ trivial, old⟩
  | @raised f outer inner e attempt l plain fits faults =>
    exact ⟨new _ _ ⟨rfl, f, outer, rfl, rfl, by simp, by simp⟩, new _ _ trivial, old⟩
  | received unraised fits faults => exact ⟨new _ _ trivial, old⟩
  | @unanswered f outer inner attempt elapsed e l silent =>
    exact ⟨new _ _ ⟨rfl, rfl, f, outer, rfl, rfl, rfl⟩, old⟩
  | @answered f outer inner attempt elapsed decision error l gives =>
    rw [Place.journal_answered]
    refine ⟨new _ _ ⟨rfl, f, outer, elapsed, error, _, rfl, rfl, rfl, gives, rfl⟩,
      Always.append ?_ ⟨new _ _ ⟨rfl, rfl, f, outer, rfl, rfl, rfl⟩, old⟩⟩
    intro e mem earlier
    obtain ⟨n, remark, rfl⟩ := List.mem_map.mp (List.mem_reverse.mp mem)
    apply new
    obtain ⟨_, rfl⟩ | ⟨_, -, rfl⟩ := Retryer.of_mem_remarks remark
    · exact ⟨rfl, f, outer, rfl, rfl, by simp, by simp⟩
    · exact ⟨rfl, f, outer, rfl, rfl, by simp, by simp⟩
  | release rejected has => exact ⟨new _ _ trivial, old⟩
  | @tolerate f outer inner attempt answer e l swallowed =>
    rw [Place.journal_failingDrain]
    exact ⟨new _ _ ⟨rfl, f, outer, rfl, rfl, by simp, by simp⟩, old⟩
  | breakOff kept => exact ⟨new _ _ trivial, old⟩
  | reraise => exact ⟨new _ _ trivial, old⟩
  | settle settles => exact ⟨new _ _ trivial, old⟩
  | @abort f outer inner attempt error e l raises =>
    rw [Place.journal_leaving, Attempt.journal_blaming, Place.journal_logged]
    refine ⟨new _ _ trivial, new _ _ ⟨rfl, f, outer, rfl, rfl, by simp, ?_⟩, old⟩
    intro count e' same
    simp at same
    exact ⟨rfl, attempt, error, rfl, same.2 ▸ raises⟩
  | @delay f outer inner attempt delay l delays =>
    exact ⟨new _ _ ⟨rfl, f, outer, rfl, rfl, by simp, by simp⟩, old⟩
  | @work f outer inner attempt delay began l works =>
    exact ⟨new _ _ ⟨rfl, rfl, f, outer, delay, began, rfl, rfl, rfl⟩, old⟩
  | @fail f outer inner attempt delay began spec id l fails =>
    exact ⟨new _ _ trivial, new _ _ ⟨rfl, rfl, f, outer, delay, began, rfl, rfl, rfl⟩, old⟩
  | @done f outer inner attempt began l =>
    rw [Place.journal_delayed]
    exact ⟨new _ _ ⟨rfl, rfl, f, outer, rfl, rfl, rfl, rfl⟩, old⟩
  | @announce f outer inner l =>
    exact ⟨new _ _ ⟨rfl, f, outer, rfl, rfl, by simp, by simp⟩, old⟩
  | thrown waits interrupt => exact ⟨new _ _ trivial, old⟩
  | _ => exact old

/-- What holds of events as they arise holds of all events of a run. -/
theorem Reached.always {places : List Place} {calls : List Call}
    {initial : List (FailureId × Failure)} {points : Nat → Point}
    (aside : ∀ e, e.isAside = true → ∀ earlier, P earlier e)
    (new : ∀ points l call e earlier, Reached s places calls initial points l → call ∈ calls →
      e.Arises call (points call.id) l earlier → P earlier e)
    (reached : Reached s places calls initial points l) : Always P l.journal := by
  induction reached with
  | start => trivial
  | aside _ unmoved ih =>
    obtain ⟨asides, journal, all⟩ := unmoved.journal
    rw [journal]
    exact ih.append fun e mem => aside e (all e mem)
  | step before mem takes ih =>
    exact takes.always aside (fun e earlier arises => new _ _ _ e earlier before mem arises) ih

end

namespace Reached

variable {s : Setting} {layers : List Layer} {calls : List Call}
  {initial : List (FailureId × Failure)} {points : Nat → Point} {l : Ledger}

/-- What holds of each call where it stands, if its own steps keep it and those of others do. -/
theorem each {places : List Place} {I : Call → Point → List Event → Prop}
    (reached : Reached s places calls initial points l) (distinct : (calls.map (·.id)).Nodup)
    (start : ∀ call, I call ⟨[], places, .down⟩ [])
    (apart : ∀ call other pt j j', call.id ≠ other → Grows other j j' → I call pt j → I call pt j')
    (own : ∀ points l call pt l', Reached s places calls initial points l →
      Takes s call (points call.id) l pt l' → call ∈ calls → I call (points call.id) l.journal →
      I call pt l'.journal) :
    ∀ call ∈ calls, I call (points call.id) l.journal := by
  induction reached with
  | start => exact fun call _ => start call
  | aside _ unmoved ih =>
    intro call mem
    exact apart call (call.id + 1) _ _ _ (by omega) (unmoved.grows _) (ih call mem)
  | @step points l l' mover pt before moves takes ih =>
    intro call mem
    by_cases same : call.id = mover.id
    · obtain rfl : call = mover := List.inj_on_of_nodup_map distinct mem moves same
      simpa using own points l call pt l' before takes mem (ih call mem)
    · simpa [updateAt_of_ne same] using
        apart call mover.id _ _ _ same takes.grows (ih call mem)

theorem owns (distinct : (calls.map (·.id)).Nodup)
    (reached : Reached s (placesFrom 0 layers) calls initial points l) :
    ∀ call ∈ calls, (points call.id).Owns call := by
  apply reached.each (I := fun call pt _ => pt.Owns call) distinct
  · exact fun call f outer attempt frames => by cases frames
  · exact fun call other pt j j' _ _ owns => owns
  · exact fun points l call pt l' _ takes _ owns => takes.owns owns

theorem waits (reached : Reached s (placesFrom 0 layers) calls initial points l) (c : Nat) :
    (points c).Waits := by
  apply reached.point_keeps
  · exact fun f outer delay attempt began frames => by cases frames
  · exact fun _ _ _ _ _ takes => takes.waits

end Reached

end HttpRetry
