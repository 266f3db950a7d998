import HttpRetry.Proofs.Patience
import HttpRetry.Proofs.Visit.Tracked
import Mathlib.Tactic.Ring
/-!
Layers with default policies keep to their caps: how often each visit of a layer sends and waits, and
what that comes to over a whole stack, where each send of a layer is one more visit of the next.
-/
set_option autoImplicit false

namespace HttpRetry

def Layer.cap (layer : Layer) : Nat :=
  match layer.retryer with
  | .standard policy => policy.cap
  | .scripted _ | .timed _ => 0

def Phase.Continues : Phase → Prop
  | .judged _ answer | .releasing _ answer | .cleared _ answer => AsksAgain answer
  | .again _ | .waiting .. | .worked .. | .ready => True
  | _ => False

def Frame.Allowed (f : Frame) : Prop :=
  f.place.layer.retryer.isScripted = false → f.made < f.place.layer.cap

structure Point.Restrained (pt : Point) : Prop where
  made : ∀ f ∈ pt.frames, f.Allowed
  more : ∀ f outer, pt.frames = f :: outer → pt.phase.Continues →
    Frame.Allowed { f with made := f.made + 1 }

def Event.Restrained (layers : List Layer) : Event → Prop
  | .delaying _ i attempt | .delayed _ i attempt _ _ =>
    ∃ layer, layers[i]? = some layer ∧ attempt.count < layer.cap
  | .logged _ i entry => ∀ n, entry.notice = .retrying n →
    ∃ layer, layers[i]? = some layer ∧ n ≤ layer.cap
  | _ => True

section
variable {layers : List Layer} {s : Setting} {call : Call} {pt pt' : Point} {l l' : Ledger}
  {f : Frame} {outer : List Frame} {inner inner' : List Place} {phase phase' : Phase}

theorem Layer.cap_standard {layer : Layer} {policy : DefaultPolicy}
    (standard : layer.retryer = .standard policy) : layer.cap = policy.cap := by
  simp [cap, standard]

theorem Layer.one_le_cap (standard : ∀ layer ∈ layers, ∃ policy, layer.retryer = .standard policy)
    {i : Nat} {layer : Layer} (found : layers[i]? = some layer) : 1 ≤ layer.cap := by
  obtain ⟨policy, standard⟩ := standard layer (List.mem_of_getElem? found)
  rw [cap_standard standard]
  exact policy.one_le_cap

theorem Retryer.eq_standard {retryer : Retryer} (unscripted : retryer.isScripted = false) :
    ∃ policy, retryer = .standard policy := by
  cases retryer with
  | standard policy => exact ⟨policy, rfl⟩
  | scripted answers | timed answers => cases unscripted

theorem Retryer.Gives.count_lt_cap {layer : Layer} {attempt : Attempt} {asked : Nat}
    {decision : Decision} {error : Option Failure} (unscripted : layer.retryer.isScripted = false)
    (gives : layer.retryer.Gives attempt asked decision error)
    (asks : AsksAgain (.ok (decision, error))) : attempt.count < layer.cap := by
  obtain ⟨_, same⟩ := asks
  cases same
  obtain ⟨policy, standard⟩ := Retryer.eq_standard unscripted
  rw [standard] at gives
  rw [Layer.cap_standard standard]
  exact DefaultPolicy.count_lt_cap gives.1.symm

namespace Point.Restrained

theorem leave (h : Restrained ⟨f :: outer, inner, phase⟩) {reply : Reply} :
    Restrained ⟨outer, inner', .up reply⟩ :=
  ⟨fun f' mem => h.made f' (List.mem_cons_of_mem f mem), fun _ _ _ continues => continues.elim⟩

theorem turn (h : Restrained ⟨f :: outer, inner, phase⟩)
    (more : phase'.Continues → Frame.Allowed { f with made := f.made + 1 }) :
    Restrained ⟨f :: outer, inner', phase'⟩ := by
  refine ⟨h.made, fun f' outer' frames continues => ?_⟩
  cases frames
  exact more continues

theorem keep (h : Restrained ⟨f :: outer, inner, phase⟩)
    (continues : phase'.Continues → phase.Continues) : Restrained ⟨f :: outer, inner', phase'⟩ :=
  h.turn fun later => h.more f outer rfl (continues later)

end Point.Restrained

theorem Takes.restrained (takes : Takes s call pt l pt' l') (owns : pt.Owns call)
    (h : pt.Restrained) : pt'.Restrained := by
  cases takes with
  | pause unmoved => exact h
  | @enter frames p inner start l reads =>
    refine ⟨List.forall_mem_cons.mpr ⟨fun unscripted => ?_, h.made⟩,
      fun _ _ _ continues => continues.elim⟩
    obtain ⟨policy, standard⟩ := Retryer.eq_standard unscripted
    rw [Layer.cap_standard standard]
    exact policy.one_le_cap
  | refuse => exact ⟨h.made, fun _ _ _ continues => continues.elim⟩
  | transmit => exact ⟨h.made, fun _ _ _ continues => continues.elim⟩
  | cancel => exact ⟨h.made, fun _ _ _ continues => continues.elim⟩
  | raised => exact h.turn False.elim
  | received => exact h.turn False.elim
  | unasked =>
    refine h.turn fun continues => ?_
    obtain ⟨_, same⟩ := continues
    cases same
  | unanswered =>
    refine h.turn fun continues => ?_
    obtain ⟨_, same⟩ := continues
    cases same
  | @answered f outer inner attempt elapsed decision error l gives =>
    refine h.turn fun continues unscripted => ?_
    rw [← (owns f outer attempt rfl rfl).count]
    exact gives.count_lt_cap unscripted continues
  | pass held => exact h.keep id
  | release rejected has => exact h.keep id
  | released => exact h.keep id
  | tolerate swallowed => exact h.keep id
  | retry => exact h.keep fun _ => ⟨_, rfl⟩
  | skip undelayed => exact h.keep fun _ => trivial
  | delay delays => exact h.keep fun _ => trivial
  | work works => exact h.keep fun _ => trivial
  | done => exact h.keep fun _ => trivial
  | @announce f outer inner l =>
    have more := h.more f outer rfl trivial
    refine ⟨List.forall_mem_cons.mpr ⟨more, fun f' mem => ?_⟩,
      fun _ _ _ continues => continues.elim⟩
    exact h.made f' (List.mem_cons_of_mem f mem)
  | _ => exact h.leave

end

namespace Reached

variable {s : Setting} {layers : List Layer} {calls : List Call}
  {initial : List (FailureId × Failure)} {points : Nat → Point} {l : Ledger}

theorem restrained (distinct : (calls.map (·.id)).Nodup)
    (reached : Reached s (placesFrom 0 layers) calls initial points l) :
    ∀ call ∈ calls, (points call.id).Restrained := by
  apply reached.each (I := fun _ pt _ => pt.Restrained) distinct
  · exact fun _ => ⟨by simp, fun _ _ frames => by cases frames⟩
  · exact fun _ _ _ _ _ _ _ restrained => restrained
  · exact fun points l call pt l' before takes mem restrained =>
      takes.restrained (before.owns distinct call mem) restrained

/-- No round is announced beyond the cap of its layer, and no layer waits after its last attempt. -/
theorem restrains (standard : ∀ layer ∈ layers, ∃ policy, layer.retryer = .standard policy)
    (distinct : (calls.map (·.id)).Nodup)
    (reached : Reached s (placesFrom 0 layers) calls initial points l) :
    Always (fun _ e => e.Restrained layers) l.journal := by
  apply reached.always
  · intro e aside earlier
    cases e <;> simp [Event.isAside, Event.Restrained] at *
  · intro points l call e earlier before mem arises
    have found {f : Frame} {outer : List Frame} (frames : (points call.id).frames = f :: outer) :
        layers[f.place.index]? = some f.place.layer :=
      ((before.through call.id).head_of frames).2.1
    have more {f : Frame} {outer : List Frame} (frames : (points call.id).frames = f :: outer)
        (continues : (points call.id).phase.Continues) : f.made + 1 < f.place.layer.cap := by
      apply (before.restrained distinct call mem).more f outer frames continues
      obtain ⟨policy, default_⟩ := standard _ (List.mem_of_getElem? (found frames))
      rw [default_]
      rfl
    have counts {f : Frame} {outer : List Frame} {attempt : Attempt}
        (frames : (points call.id).frames = f :: outer)
        (busy : (points call.id).phase.attempt? = some attempt) : attempt.count = f.made + 1 :=
      (before.owns distinct call mem f outer attempt frames busy).count
    cases e with
    | delaying c i attempt =>
      obtain ⟨-, -, f, outer, delay, began, frames, rfl, phase⟩ := arises
      refine ⟨_, found frames, ?_⟩
      rw [counts frames (by rw [phase]; rfl)]
      exact more frames (by rw [phase]; trivial)
    | delayed c i attempt began ended =>
      obtain ⟨-, -, f, outer, frames, rfl, phase, -⟩ := arises
      refine ⟨_, found frames, ?_⟩
      rw [counts frames (by rw [phase]; rfl)]
      exact more frames (by rw [phase]; trivial)
    | logged c i entry =>
      obtain ⟨-, f, outer, frames, rfl, announces, -⟩ := arises
      intro n notice
      obtain ⟨phase, rfl⟩ := announces n notice
      refine ⟨_, found frames, ?_⟩
      exact more frames (by rw [phase]; trivial)
    | _ => trivial

end Reached

section
variable {layers : List Layer} {layer : Layer} {depth c i : Nat} {e : Event}
  {earlier journal : List Event} {v : Visit}

theorem Event.eq_announcing (begins : e.begins c i = true) (inside : e.enters? c i = none) :
    ∃ entry n, e = .logged c i entry ∧ entry.notice = .retrying n := by
  cases e <;> simp [Event.begins, Event.enters?] at begins inside
  · exact absurd begins.2 (inside begins.1)
  · obtain ⟨n, notice⟩ := Notice.of_announces begins.2
    exact ⟨_, n, by simp [begins.1], notice⟩

theorem Event.inside_of_arrives (arrives : e.arrives depth c (i + 1) = true) :
    e.enters? c i = none ∧ e.leaves c i = false := by
  cases e <;> simp [Event.arrives, enters?, leaves] at arrives ⊢
  omega

theorem count_head (order : Always (Event.InOrder depth) journal)
    (at_ : visit depth c i journal = some v) {attempt : Attempt}
    (latest : v.attempts.head? = some attempt) : attempt.count = v.attempts.length := by
  obtain ⟨counts, -⟩ := visit_counts order at_
  obtain ⟨rest, split⟩ := List.head?_eq_some_iff.mp latest
  simp [split, List.range'_concat] at counts ⊢
  omega

theorem visit_capped (found : layers[i]? = some layer) (one : 1 ≤ layer.cap)
    (order : Always (Event.InOrder depth) journal)
    (restrained : Always (fun _ e => e.Restrained layers) journal)
    (at_ : visit depth c i journal = some v) : v.rounds ≤ layer.cap ∧ v.delays < layer.cap := by
  induction journal generalizing v with
  | nil => cases at_
  | cons e earlier ih =>
    obtain ⟨start, -, rfl⟩ | ⟨inside, v, known, rfl⟩ := of_visit_cons at_
    · exact ⟨one, one⟩
    · obtain ⟨rounds, delays⟩ := ih order.2 restrained.2 known
      have begun (begins : e.begins c i = true) : v.rounds + 1 ≤ layer.cap := by
        obtain ⟨entry, n, rfl, notice⟩ := e.eq_announcing begins inside
        obtain ⟨rfl, -⟩ := of_known order.1 known n notice
        obtain ⟨layer', found', below⟩ := restrained.1 _ notice
        rwa [Option.some.inj (found.symm.trans found')]
      have delayed (delays : e.delays c i = true) : v.delays + 1 < layer.cap := by
        obtain ⟨attempt, rfl⟩ := e.eq_delaying delays
        obtain ⟨latest, few⟩ := of_known order.1 known
        obtain ⟨layer', found', below⟩ := restrained.1
        have count := count_head order.2 known latest
        rw [Option.some.inj (found.symm.trans found')]
        omega
      constructor
      · cases begins : e.begins c i with
        | true => simpa [Visit.after, begins] using begun begins
        | false => simpa [Visit.after, begins] using rounds
      · cases waits : e.delays c i with
        | true => simpa [Visit.after, waits] using delayed waits
        | false => simpa [Visit.after, waits] using delays

theorem count_lt_cap_of_arrives (found : layers[i]? = some layer) (one : 1 ≤ layer.cap)
    (order : Always (Event.InOrder depth) (e :: earlier))
    (restrained : Always (fun _ e => e.Restrained layers) (e :: earlier))
    (arrives : e.arrives depth c (i + 1) = true) : ∃ v, visit depth c i earlier = some v ∧
      v.sends < layer.cap ∧ ∀ attempt ∈ v.attempts, attempt.count < layer.cap := by
  obtain ⟨v, at_, asked, rounds⟩ := order.1.arriving arrives
  have capped := (visit_capped found one order.2 restrained.2 at_).1
  refine ⟨v, at_, by omega, fun attempt mem => ?_⟩
  have counted : attempt.count ∈ v.attempts.reverse.map (·.count) := by
    simpa using ⟨attempt, mem, rfl⟩
  rw [(visit_counts order.2 at_).1, List.mem_range'_1] at counted
  omega

/-- Events that each visit of a layer counts, from a first number up to a last at most. What is left to a
visit that goes on is added. -/
theorem countP_visits_and_rest {q : Event → Bool} {m : Visit → Nat} {first most : Nat}
    (fresh : ∀ start, m { start } = first)
    (after : ∀ e v, e.enters? c i = none → m (.after depth c i e v) = m v + if q e then 1 else 0)
    (within : ∀ e earlier, e :: earlier <:+ journal → q e = true →
      e.enters? c i = none ∧ e.leaves c i = false ∧ ∃ v, visit depth c i earlier = some v)
    (few : ∀ now v, now <:+ journal → visit depth c i now = some v → m v ≤ most) :
    journal.countP q + ((visit depth c i journal).map fun v => most - m v).getD 0 ≤
      (most - first) * journal.countP (Event.arrives depth c i) := by
  induction journal with
  | nil => simp [visit]
  | cons e earlier ih =>
    have before := ih (fun e' j h => within e' j (h.trans (List.suffix_cons e earlier)))
      fun now v h => few now v (h.trans (List.suffix_cons e earlier))
    have inside := within e earlier (List.suffix_refl _)
    have few := fun v => few (e :: earlier) v (List.suffix_refl _)
    rw [List.countP_cons, List.countP_cons, Nat.mul_add]
    rw [visit_cons] at few ⊢
    cases enters : e.enters? c i with
    | some start =>
      have other : q e = false := by
        cases hq : q e with
        | false => rfl
        | true => simp [(inside hq).1] at enters
      obtain rfl := e.eq_entered enters
      simp [other, fresh, Event.arrives]
      omega
    | none =>
      cases leaves : e.leaves c i with
      | true =>
        have other : q e = false := by
          cases hq : q e with
          | false => rfl
          | true => simp [(inside hq).2.1] at leaves
        simp [other]
        omega
      | false =>
        rw [enters, leaves] at few
        cases known : visit depth c i earlier with
        | none =>
          have other : q e = false := by
            cases hq : q e with
            | false => rfl
            | true => simp [known] at inside; simp [inside] at hq
          simp [other]
          omega
        | some v =>
          have most_ := few _ (by rw [known]; rfl)
          rw [after e v enters] at most_
          simp [known, after e v enters] at before ⊢
          omega

theorem countP_visits {q : Event → Bool} {m : Visit → Nat} {first most : Nat}
    (fresh : ∀ start, m { start } = first)
    (after : ∀ e v, e.enters? c i = none → m (.after depth c i e v) = m v + if q e then 1 else 0)
    (within : ∀ e earlier, e :: earlier <:+ journal → q e = true →
      e.enters? c i = none ∧ e.leaves c i = false ∧ ∃ v, visit depth c i earlier = some v)
    (few : ∀ now v, now <:+ journal → visit depth c i now = some v → m v ≤ most) :
    journal.countP q ≤ (most - first) * journal.countP (Event.arrives depth c i) :=
  (Nat.le_add_right _ _).trans (countP_visits_and_rest fresh after within few)

end

/-- How often a call is resumed within one visit of the outermost of some layers at most: once for each
send of the innermost transport, each wait and each further round. -/
def resumptions : List Layer → Nat
  | [] => 1
  | layer :: inner => layer.cap * resumptions inner + 2 * (layer.cap - 1)

def Event.resumes (call level : Nat) : Event → Bool
  | .sent c _ => c == call
  | .delaying c i _ => c == call && level ≤ i
  | .logged c i entry => c == call && level ≤ i && entry.notice.announces
  | _ => false

def Event.announces (call layer : Nat) : Event → Bool
  | .logged c i entry => c == call && i == layer && entry.notice.announces
  | _ => false

section
variable {c i : Nat} {journal : List Event}

theorem countP_resumes (c i : Nat) (journal : List Event) :
    journal.countP (Event.resumes c i) = journal.countP (Event.resumes c (i + 1)) +
      journal.countP (Event.delays c i) + journal.countP (Event.announces c i) := by
  induction journal with
  | nil => rfl
  | cons e earlier ih =>
    simp only [List.countP_cons, ih]
    cases e <;> simp [Event.resumes, Event.delays, Event.announces] <;> grind

theorem Event.begins_of_inside {e : Event} (inside : e.enters? c i = none) :
    e.begins c i = e.announces c i := by
  cases e <;> simp [enters?, begins, announces] at inside ⊢
  exact inside

end

structure Capped (layers : List Layer) (journal : List Event) : Prop where
  one : ∀ (i : Nat) (layer : Layer), layers[i]? = some layer → 1 ≤ layer.cap
  order : Always (Event.InOrder layers.length) journal
  restrained : Always (fun _ e => e.Restrained layers) journal

namespace Capped

variable {layers : List Layer} {layer : Layer} {c i : Nat} {journal : List Event}

/-- Throughout a run, each visit keeps to the cap of its layer. -/
theorem visit (capped : Capped layers journal) (found : layers[i]? = some layer) {now : List Event}
    (moment : now <:+ journal) {v : Visit} (at_ : visit layers.length c i now = some v) :
    v.sends ≤ layer.cap ∧ v.delays < layer.cap := by
  have order := capped.order.suffix moment
  obtain ⟨rounds, delays⟩ := visit_capped found (capped.one i layer found) order
    (capped.restrained.suffix moment) at_
  exact ⟨(visit_bounds order at_).1.trans rounds, delays⟩

theorem countP_arrives_succ (capped : Capped layers journal) (found : layers[i]? = some layer) :
    journal.countP (Event.arrives layers.length c (i + 1)) ≤
      layer.cap * journal.countP (Event.arrives layers.length c i) := by
  show _ ≤ (layer.cap - 0) * _
  apply countP_visits (m := Visit.sends)
  · exact fun _ => rfl
  · exact fun _ _ _ => rfl
  · intro e earlier moment arrives
    obtain ⟨v, at_, -⟩ := (capped.order.at moment).arriving arrives
    obtain ⟨inside, stays⟩ := e.inside_of_arrives arrives
    exact ⟨inside, stays, v, at_⟩
  · intro now v moment at_
    exact (capped.visit found moment at_).1

theorem countP_announces (capped : Capped layers journal) (found : layers[i]? = some layer) :
    journal.countP (Event.announces c i) ≤
      (layer.cap - 1) * journal.countP (Event.arrives layers.length c i) := by
  apply countP_visits (m := Visit.rounds)
  · exact fun _ => rfl
  · intro e v inside
    simp [Visit.after, Event.begins_of_inside inside]
  · intro e earlier moment announces
    have known := capped.order.at moment
    cases e <;> simp [Event.announces] at announces
    obtain ⟨⟨rfl, rfl⟩, -⟩ := announces
    obtain ⟨v, at_, -⟩ := known
    exact ⟨rfl, rfl, v, at_⟩
  · intro now v moment at_
    exact (visit_capped found (capped.one i layer found) (capped.order.suffix moment)
      (capped.restrained.suffix moment) at_).1

theorem countP_delays (capped : Capped layers journal) (found : layers[i]? = some layer) :
    journal.countP (Event.delays c i) ≤
      (layer.cap - 1) * journal.countP (Event.arrives layers.length c i) := by
  show _ ≤ (layer.cap - 1 - 0) * _
  apply countP_visits (m := Visit.delays)
  · exact fun _ => rfl
  · exact fun _ _ _ => rfl
  · intro e earlier moment delays
    obtain ⟨v, at_, -⟩ := (capped.order.at moment).delaying delays
    obtain ⟨attempt, rfl⟩ := e.eq_delaying delays
    exact ⟨rfl, rfl, v, at_⟩
  · intro now v moment at_
    exact Nat.le_sub_one_of_lt (capped.visit found moment at_).2

/-- A call reaches a level as often as the layers above it let it, which is the product of what each
of them allows for each time that it is reached. -/
theorem countP_arrives (capped : Capped layers journal) (c : Nat) {level : Nat}
    (within : level ≤ layers.length) : journal.countP (Event.arrives layers.length c level) ≤
      ((layers.take level).map Layer.cap).prod := by
  induction level with
  | zero => simpa using countP_arrives_zero capped.order
  | succ i ih =>
    have found : layers[i]? = some layers[i] := List.getElem?_eq_getElem within
    calc journal.countP (Event.arrives layers.length c (i + 1))
        ≤ layers[i].cap * journal.countP (Event.arrives layers.length c i) :=
          capped.countP_arrives_succ found
      _ ≤ layers[i].cap * ((layers.take i).map Layer.cap).prod :=
          Nat.mul_le_mul_left _ (ih (Nat.le_of_succ_le within))
      _ = ((layers.take (i + 1)).map Layer.cap).prod := by
          rw [List.take_add_one, found, List.map_append, List.prod_append]
          simp [Nat.mul_comm]

/-- What a call is resumed for in some inner layers is bounded for each time that it reaches them. -/
theorem countP_resumes (capped : Capped layers journal) (c : Nat) {outer inner : List Layer}
    (split : outer ++ inner = layers) : journal.countP (Event.resumes c outer.length) ≤
      resumptions inner * journal.countP (Event.arrives layers.length c outer.length) := by
  induction inner generalizing outer with
  | nil =>
    obtain rfl : outer = layers := by simpa using split
    rw [resumptions, Nat.one_mul]
    apply List.countP_mono_left
    intro e mem resumes
    have restrained := capped.restrained.of_mem mem
    cases e <;> simp [Event.resumes, Event.arrives] at resumes ⊢
    · exact resumes
    · obtain ⟨layer, found, -⟩ := restrained
      simp [List.getElem?_eq_none resumes.2] at found
    · obtain ⟨n, notice⟩ := Notice.of_announces resumes.2
      obtain ⟨layer, found, -⟩ := restrained n notice
      simp [List.getElem?_eq_none resumes.1.2] at found
  | cons layer inner ih =>
    have found : layers[outer.length]? = some layer := by simp [← split]
    have below := ih (show (outer ++ [layer]) ++ inner = layers by simp [split])
    rw [List.length_append, List.length_singleton] at below
    have sends := capped.countP_arrives_succ (c := c) found
    have delays := capped.countP_delays (c := c) found
    have announces := capped.countP_announces (c := c) found
    generalize journal.countP (Event.arrives layers.length c outer.length) = visits at *
    have inside := Nat.mul_le_mul_left (resumptions inner) sends
    calc journal.countP (Event.resumes c outer.length)
        = journal.countP (Event.resumes c (outer.length + 1)) +
            journal.countP (Event.delays c outer.length) +
            journal.countP (Event.announces c outer.length) := HttpRetry.countP_resumes c _ journal
      _ ≤ resumptions inner * (layer.cap * visits) + 2 * ((layer.cap - 1) * visits) := by omega
      _ = resumptions (layer :: inner) * visits := by
          rw [resumptions]
          ring

end Capped

end HttpRetry
