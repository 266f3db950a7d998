import Mathlib.Data.List.Forall2
import HttpRetry.Proofs.Change.Layer
import HttpRetry.Proofs.Likeness.Layer
/-!
Stacks that do alike: sent through layers that do alike, to the innermost transports or to what else
does alike below them, a call comes to replies alike. It does so as long as the two runs are not lost
from sight, which may happen where a layer is entered.
-/
set_option autoImplicit false

namespace HttpRetry

open Work

abbrev Sent.Alike (k : Likeness) (ids : Naming) : Option Reply → Option Reply → Prop :=
  Option.Rel (Reply.Alike k ids)

theorem Sent.Alike.eq {k : Likeness} {ids : Naming} (dated : k.dated)
    (same : ∀ a b, ids a b → a = b) {sent sent' : Option Reply} (h : Sent.Alike k ids sent sent') :
    sent' = sent := by
  cases h with
  | none => rfl
  | some reply => rw [reply.eq dated same]

theorem Sent.Alike.mono {k : Likeness} {ids ids' : Naming} (le : Subrelation ids ids')
    {sent sent' : Option Reply} (h : Sent.Alike k ids sent sent') : Sent.Alike k ids' sent sent' := by
  cases h with
  | none => exact .none
  | some reply => exact .some (reply.mono le)

/-- When two runs are lost from sight. -/
abbrev Loss := Ledger → Ledger → Prop

/-- Two pieces of work come to values as `V` says and to ledgers that are tied, or are lost. -/
def Work.Tracks {α β : Type} (R : Tie) (lost : Loss) (V : Naming → α → β → Prop) (w : Work α)
    (w' : Work β) (ids : Naming) (l l' : Ledger) : Prop :=
  Likens R V w w' ids l l' ∨ lost (w l).2 (w' l').2

abbrev Work.Acts {α : Type} (call : Call) (w : Work α) : Prop :=
  ∀ l, w.Makes call (fun _ => True) (.round true) l

/-- What two runs of a call bring along to do alike: the tie of their ledgers, modes that do alike,
and layers that do alike once they are entered. What is lost stays lost whatever is done. -/
structure Course (k : Likeness) (R : Tie) (lost : Loss) (s s' : Setting) (call : Call)
    (feed : Feed) (T : Place → Place → Prop) : Prop where
  parallel : Parallel k call.id R
  modes : k.endings → s'.mode = s.mode
  layers : ∀ {p p'}, T p p' → p.Alike k R s s' call feed p'
  enters : ∀ {p p'}, T p p' → ∀ {ids l l'}, R ids l l' → Tracks R lost (Place.Entered k)
    (p.enter s.mode call) (p'.enter s'.mode (call.fed feed)) ids l l'
  stays : ∀ {l l' m m'}, lost l l' → Changes call (fun _ => True) (.round true) l m →
    Changes (call.fed feed) (fun _ => True) (.round true) l' m' → lost m m'

abbrev Transmits (k : Likeness) (R : Tie) (s s' : Setting) (call : Call) (feed : Feed) : Prop :=
  ∀ {ids l l'}, R ids l l' → Likens R (Reply.Alike k) (call.transmit s.mode)
    ((call.fed feed).transmit s'.mode) ids l l'

structure Send.Alike (k : Likeness) (R : Tie) (lost : Loss) (call : Call) (feed : Feed)
    (next next' : Send) : Prop where
  acts : Acts call next
  acts' : Acts (call.fed feed) next'
  tracks : ∀ {ids l l'}, R ids l l' → Tracks R lost (Sent.Alike k) next next' ids l l'

/-- What becomes of what a send in a layer's loop comes to, where `again` are the further rounds. -/
def Place.goesOn (p : Place) (s : Setting) (call : Call) (start : Option Timestamp) (made : Nat)
    (again : Send) : Option Reply → Send
  | none => return none
  | some reply => do
    match ← p.conclude s call start made reply with
    | .finished reply => return some reply
    | .again attempt =>
      match ← p.waitBlocking s call attempt with
      | .error e => return some (.raised e)
      | .ok () => again

theorem Place.rounds_goesOn (p : Place) (s : Setting) (call : Call) (start : Option Timestamp)
    (next : Send) (budget made : Nat) :
    p.rounds s call start next (budget + 1) made = (do
      p.announce call made
      p.goesOn s call start made (p.rounds s call start next budget (made + 1)) (← next)) := by
  funext l
  show (p.rounds s call start next (budget + 1) made) l = _
  rw [rounds]
  rfl

section
variable {α β γ δ : Type} {k : Likeness} {R : Tie} {lost : Loss} {ids : Naming} {l l' : Ledger}
  {V : Naming → γ → δ → Prop} {U : Naming → α → β → Prop}

theorem Work.Likens.tracks {w : Work α} {w' : Work β} (h : Likens R U w w' ids l l') :
    Tracks R lost U w w' ids l l' := .inl h

theorem Work.tracks_pure {c : γ} {d : δ} (value : V ids c d) (tied : R ids l l') :
    Tracks R lost V (pure c) (pure d) ids l l' := .inl (likens_pure value tied)

theorem Work.Likens.before {w : Work α} {w' : Work β} {f : α → Work γ} {f' : β → Work δ}
    (hw : Likens R U w w' ids l l')
    (hf : ∀ ids' a b l₁ l₁', Subrelation ids ids' → U ids' a b → R ids' l₁ l₁' →
      Tracks R lost V (f a) (f' b) ids' l₁ l₁') : Tracks R lost V (w >>= f) (w' >>= f') ids l l' := by
  obtain ⟨ids₁, le, value, tied⟩ := hw
  rcases hf ids₁ _ _ _ _ le value tied with ⟨ids₂, le', value', tied'⟩ | gone
  · exact .inl ⟨ids₂, fun h => le' (le h), value', tied'⟩
  · exact .inr gone

theorem Work.Tracks.map {w : Work α} {w' : Work β} {f : α → γ} {f' : β → δ}
    (hw : Tracks R lost U w w' ids l l') (hf : ∀ ids' a b, U ids' a b → V ids' (f a) (f' b)) :
    Tracks R lost V (f <$> w) (f' <$> w') ids l l' :=
  hw.imp_left fun h => likens_map h hf

variable {s s' : Setting} {call : Call} {feed : Feed} {T : Place → Place → Prop} {p p' : Place}
  (c : Course k R lost s s' call feed T)

include c

theorem Course.bind {w : Work α} {w' : Work β} {f : α → Work γ} {f' : β → Work δ}
    (hw : Tracks R lost U w w' ids l l')
    (hf : ∀ ids' a b l₁ l₁', Subrelation ids ids' → U ids' a b → R ids' l₁ l₁' →
      Tracks R lost V (f a) (f' b) ids' l₁ l₁')
    (acts : ∀ a, Acts call (f a)) (acts' : ∀ b, Acts (call.fed feed) (f' b)) :
    Tracks R lost V (w >>= f) (w' >>= f') ids l l' := by
  rcases hw with hw | gone
  · exact hw.before hf
  · exact .inr (c.stays gone (acts _ _) (acts' _ _))

omit c in
theorem goesOn_acts {start : Option Timestamp} {again : Send} (acts : Acts call again)
    (made : Nat) (sent : Option Reply) : Acts call (p.goesOn s call start made again sent) := by
  intro l
  cases sent with
  | none => exact makes_pure _
  | some reply =>
    have concludes :
        (p.conclude s call start made reply).Brings call (fun _ => True) (.round true) l _ :=
      Place.conclude_brings (fun _ _ => trivial) s start made
    refine makes_bind concludes.1 fun verdict _ => ?_
    cases verdict with
    | finished reply => exact makes_pure _
    | again attempt =>
      refine makes_bind (Place.waitBlocking_makes s attempt) fun waited l => ?_
      cases waited with
      | error e => exact makes_pure _
      | ok _ => exact acts l

omit c in
theorem rounds_acts {start : Option Timestamp} {next : Send} (acts : Acts call next)
    (budget made : Nat) : Acts call (p.rounds s call start next budget made) := fun l => by
  have brings : (p.rounds s call start next budget made).Brings call (fun _ => True) (.round true) l
      (WithinReach fun _ => True) :=
    Place.rounds_brings (fun l => ⟨acts l, fun _ _ _ _ => trivial⟩) budget made
  exact brings.1

omit c in
theorem sendThrough_acts (budget : Nat) (places : List Place) :
    Acts call (sendThrough s call budget places) := fun _ =>
  (sendThrough_brings call.confined_all s budget places).1

theorem Course.tracks_rounds (related : T p p') {start start' : Option Timestamp}
    (dated : k.dated → start = start') {next next' : Send}
    (sends : Send.Alike k R lost call feed next next') (budget made : Nat) (tied : R ids l l') :
    Tracks R lost (Sent.Alike k) (p.rounds s call start next budget made)
      (p'.rounds s' (call.fed feed) start' next' budget made) ids l l' := by
  have t := c.layers related
  induction budget generalizing made ids l l' with
  | zero => exact tracks_pure .none tied
  | succ budget ih =>
    rw [Place.rounds_goesOn, Place.rounds_goesOn]
    refine (t.likens_announce tied made).before fun _ _ _ _ _ _ _ tied => ?_
    refine c.bind (sends.tracks tied) (fun _ _ _ _ _ _ sent tied => ?_)
      (goesOn_acts (rounds_acts sends.acts budget (made + 1)) made)
      (goesOn_acts (rounds_acts sends.acts' budget (made + 1)) made)
    cases sent with
    | none => exact tracks_pure .none tied
    | some reply =>
      refine (t.likens_conclude c.parallel tied c.modes dated made reply).before
        fun _ _ _ _ _ _ verdict tied => ?_
      cases verdict with
      | finished reply => exact tracks_pure (.some reply) tied
      | again attempt =>
        refine (t.likens_waitBlocking c.parallel tied c.modes attempt).before
          fun _ _ _ _ _ _ waited tied => ?_
        cases waited with
        | error error => exact tracks_pure (.some (.raised error)) tied
        | ok _ => exact ih (made + 1) tied

/-- Layers that do alike, above what does alike. -/
theorem Course.sendThrough (budget : Nat) {outer outer' inner inner' : List Place}
    (layers : List.Forall₂ T outer outer')
    (below : Send.Alike k R lost call feed (HttpRetry.sendThrough s call budget inner)
      (HttpRetry.sendThrough s' (call.fed feed) budget inner')) :
    Send.Alike k R lost call feed (HttpRetry.sendThrough s call budget (outer ++ inner))
      (HttpRetry.sendThrough s' (call.fed feed) budget (outer' ++ inner')) := by
  refine ⟨sendThrough_acts budget _, sendThrough_acts budget _, ?_⟩
  induction layers with
  | nil => exact below.tracks
  | @cons p p' outer outer' related _ ih =>
    intro ids l l' tied
    have sends : Send.Alike k R lost call feed (HttpRetry.sendThrough s call budget (outer ++ inner))
        (HttpRetry.sendThrough s' (call.fed feed) budget (outer' ++ inner')) :=
      ⟨sendThrough_acts budget _, sendThrough_acts budget _, ih⟩
    refine c.bind (c.enters related tied) (fun _ _ _ _ _ _ entered tied => ?_) ?_ ?_
    · cases entered with
      | error error => exact tracks_pure (.some (.raised error)) tied
      | ok dated => exact c.tracks_rounds related dated sends budget 0 tied
    · intro entered l
      cases entered with
      | error e => exact makes_pure _
      | ok start => exact rounds_acts sends.acts budget 0 l
    · intro entered l
      cases entered with
      | error e => exact makes_pure _
      | ok start => exact rounds_acts sends.acts' budget 0 l

omit c in
theorem sendThrough_nil_alike (budget : Nat) (transmits : Transmits k R s s' call feed) :
    Send.Alike k R lost call feed (HttpRetry.sendThrough s call budget [])
      (HttpRetry.sendThrough s' (call.fed feed) budget []) where
  acts := sendThrough_acts budget []
  acts' := sendThrough_acts budget []
  tracks tied := (likens_map (transmits tied) fun _ _ _ reply => .some reply).tracks

end

def Loss.never : Loss := fun _ _ => False

theorem Work.Tracks.likens {α β : Type} {R : Tie} {V : Naming → α → β → Prop} {w : Work α}
    {w' : Work β} {ids : Naming} {l l' : Ledger} (h : Tracks R .never V w w' ids l l') :
    Likens R V w w' ids l l' := h.resolve_right id

end HttpRetry
