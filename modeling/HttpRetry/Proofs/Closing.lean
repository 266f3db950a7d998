import HttpRetry.Proofs.Sound
/-!
No response leaks. Whatever a layer is handed and does not hand on is closed before the layer sends
again, before its delayer works and before its part in the call ends; a suspended call holds no open
response; and no stream is closed twice.
-/
set_option autoImplicit false

namespace HttpRetry

def Received (events : List Event) (call : Nat) (id : ResponseId) : Prop :=
  ∃ layer r, Event.received call layer (.response r) ∈ events ∧ r.id = id

def ClosedIn (events : List Event) (id : ResponseId) : Prop := ∃ e ∈ events, e.closes id = true

/-- At a send, at a wait and at the end of a layer's part in a call: the call, and the response that
may be open in it then. A layer sends when the next one takes up the call or the innermost transport
is asked. -/
def Event.permits : Event → Option (Nat × Option ResponseId)
  | .sent call _ | .entered call _ _ | .delaying call _ _ => some (call, none)
  | .left call _ reply => some (call, reply.response?.map (·.id))
  | _ => none

/-- Whether in a journal, the latest event first, every response with a stream that was handed to a
layer is closed at the events before which it has to be. -/
def Tidy (streamed : ResponseId → Prop) : List Event → Prop
  | [] => True
  | e :: earlier => Tidy streamed earlier ∧
    ∀ call held, e.permits = some (call, held) → ∀ id, Received earlier call id → streamed id →
      held = some id ∨ ClosedIn earlier id

namespace Ledger

def IsTidy (l : Ledger) : Prop := Tidy l.HasStream l.journal

def Holds (l : Ledger) (call : Nat) (held : Option ResponseId) : Prop :=
  ∀ id, Received l.journal call id → held = some id ∨ l.IsShut id

def Known (l : Ledger) : Prop := ∀ call id, Received l.journal call id → (l.response? id).isSome

/-- Whether at each send, before each delayer works and at the end of each layer's part in a call all
responses with streams are closed that the call's layers were handed, but for the one handed on. -/
def ClosesInTime (l : Ledger) : Prop :=
  ∀ before e after call held, l.trace = before ++ e :: after → e.permits = some (call, held) →
    ∀ id, Received before call id → l.HasStream id → held = some id ∨ ClosedIn before id

structure Kept (mode : Mode) (l : Ledger) : Prop where
  sound : l.Sound mode
  tidy : l.IsTidy
  known : l.Known

end Ledger

theorem Tidy.at {streamed : ResponseId → Prop} {later earlier : List Event} {e : Event}
    (h : Tidy streamed (later ++ e :: earlier)) {call : Nat} {held : Option ResponseId}
    (hp : e.permits = some (call, held)) {id : ResponseId} (hr : Received earlier call id)
    (hs : streamed id) : held = some id ∨ ClosedIn earlier id := by
  induction later with
  | nil => exact h.2 call held hp id hr hs
  | cons _ rest ih => exact ih h.1

theorem Ledger.Kept.closesInTime {mode : Mode} {l : Ledger} (hk : l.Kept mode) :
    l.ClosesInTime := by
  intro before e after call held split hp id hr hs
  have journal : l.journal = after.reverse ++ e :: before.reverse := by
    rw [← List.reverse_reverse l.journal]
    change l.trace.reverse = _
    simp [split]
  have tidy : Tidy l.HasStream (after.reverse ++ e :: before.reverse) := journal ▸ hk.tidy
  obtain ⟨layer, r, mem, hid⟩ := hr
  rcases tidy.at hp ⟨layer, r, List.mem_reverse.mpr mem, hid⟩ hs with same | ⟨c, mem, hc⟩
  · exact .inl same
  · exact .inr ⟨c, List.mem_reverse.mp mem, hc⟩

theorem tidy_congr {streamed streamed' : ResponseId → Prop} {events : List Event}
    (h : ∀ call id, Received events call id → (streamed' id ↔ streamed id))
    (ht : Tidy streamed events) : Tidy streamed' events := by
  induction events with
  | nil => trivial
  | cons e earlier ih =>
    have later : ∀ call id, Received earlier call id → Received (e :: earlier) call id :=
      fun call id ⟨layer, r, hr, hid⟩ => ⟨layer, r, List.mem_cons_of_mem e hr, hid⟩
    refine ⟨ih (fun call id hr => h call id (later call id hr)) ht.1, ?_⟩
    intro call held hp id hr hs
    exact ht.2 call held hp id hr ((h call id (later call id hr)).mp hs)

section
variable {call : Call} {reach : ResponseId → Prop} {scope : Scope} {l l' : Ledger} {mode : Mode}

theorem Ledger.Sound.closedIn (hs : l.Sound mode) {id : ResponseId} (shut : l.IsShut id)
    (streamed : l.HasStream id) : ClosedIn l.journal id := by
  obtain ⟨r, hr, hc⟩ := shut
  obtain ⟨r', s, hr', hs'⟩ := streamed
  rw [hr] at hr'
  cases hr'
  have due : l.closings id = 1 := by
    rw [hs.counted id, hr]
    simp [Response.due, hs', hc]
  have pos : 0 < l.journal.countP (Event.closes id) := by
    rw [Ledger.closings] at due
    omega
  exact List.countP_pos_iff.mp pos

theorem received_cons_of_not_isMark {e : Event} (h : e.isMark = false) {events : List Event}
    {c : Nat} {id : ResponseId} : Received (e :: events) c id ↔ Received events c id := by
  constructor
  · rintro ⟨layer, r, hr, hid⟩
    rcases List.mem_cons.mp hr with rfl | hr
    · simp [Event.isMark] at h
    · exact ⟨layer, r, hr, hid⟩
  · rintro ⟨layer, r, hr, hid⟩
    exact ⟨layer, r, List.mem_cons_of_mem e hr, hid⟩

theorem permits_of_not_isMark {e : Event} (h : e.isMark = false) : e.permits = none := by
  cases e with
  | entered call layer start => simp [Event.isMark] at h
  | sent call request => simp [Event.isMark] at h
  | delaying call layer attempt => simp [Event.isMark] at h
  | left call layer reply => simp [Event.isMark] at h
  | _ => rfl

/-- Each change adds at most one event, and one that marks nothing unless it is a mark. -/
theorem Change.journal (h : Change call reach (.round false) l l') :
    l'.journal = l.journal ∨ ∃ e, e.isMark = false ∧ l'.journal = e :: l.journal := by
  cases h with
  | note own plain =>
    rename_i e
    have hm : e.isMark = false := by
      simp only [Event.isPlain, Bool.and_eq_true, Bool.not_eq_true'] at plain
      exact plain.1.2
    exact .inr ⟨e, hm, rfl⟩
  | step own isStep =>
    rename_i e
    have hm : e.isMark = false := by
      cases e with
      | asked call layer attempt elapsed scripted => rfl
      | releasing call layer response => rfl
      | _ => simp [Event.isStep] at isStep
    exact .inr ⟨e, hm, rfl⟩
  | answer p attempt decision own => exact .inr ⟨_, rfl, by rw [Ledger.journal_measured]; rfl⟩
  | drainFailure p count e => exact .inr ⟨_, rfl, by rw [Ledger.journal_measured]; rfl⟩
  | delayed p timer attempt began ended => exact .inr ⟨_, rfl, by rw [Ledger.journal_measured]; rfl⟩
  | close within known streamed opened => exact .inr ⟨_, rfl, rfl⟩
  | _ => exact .inl rfl

theorem Changes.received_iff (h : Changes call reach (.round false) l l') {c : Nat}
    {id : ResponseId} :
    Received l'.journal c id ↔ Received l.journal c id := by
  induction h with
  | refl => exact Iff.rfl
  | tail _ h ih =>
    rcases h.journal with hj | ⟨e, hm, hj⟩
    · rw [hj]
      exact ih
    · rw [hj, received_cons_of_not_isMark hm]
      exact ih

/-- A layer's work between two marks keeps what is to be kept. -/
theorem Changes.kept (h : Changes call reach (.round false) l l') (hm : call.Matches mode)
    (hk : l.Kept mode) : l'.Kept mode := by
  have sound := h.sound hm hk.sound
  have known : l'.Known := fun c id hr => h.known (hk.known c id (h.received_iff.mp hr))
  refine ⟨sound, ?_, known⟩
  have tidy : Tidy l'.HasStream l.journal :=
    tidy_congr (fun c id hr => h.hasStream_iff (hk.known c id hr)) hk.tidy
  clear sound known hk
  unfold Ledger.IsTidy
  generalize l'.HasStream = streamed at tidy
  induction h with
  | refl => exact tidy
  | tail _ h ih =>
    rcases h.journal with hj | ⟨e, hm, hj⟩
    · rw [hj]
      exact ih
    · rw [hj]
      refine ⟨ih, ?_⟩
      intro c held hp
      rw [permits_of_not_isMark hm] at hp
      cases hp

theorem Changes.holds (h : Changes call reach (.round false) l l') {c : Nat}
    {held : Option ResponseId} (hh : l.Holds c held) : l'.Holds c held := by
  intro id hr
  rcases hh id (h.received_iff.mp hr) with e | shut
  · exact .inl e
  · exact .inr (h.isShut shut)

def Reply.held (reply : Reply) : Option ResponseId := reply.response?.map (·.id)

structure Ready (mode : Mode) (call : Call) (l : Ledger) : Prop where
  kept : l.Kept mode
  holds : l.Holds call.id none

/-- A call holds no open response but the one that is handed on, which is among those built. -/
structure Handed (mode : Mode) (call : Call) (reply : Reply) (l : Ledger) : Prop where
  kept : l.Kept mode
  holds : l.Holds call.id reply.held
  known : ∀ id, reply.held = some id → (l.response? id).isSome

theorem Ready.empty (mode : Mode) (call : Call) : Ready mode call {} where
  kept :=
    ⟨Ledger.sound_empty mode, trivial, fun _ _ ⟨_, _, h, _⟩ => absurd h List.not_mem_nil⟩
  holds := fun _ ⟨_, _, h, _⟩ => absurd h List.not_mem_nil

theorem Ready.holds_any (h : Ready mode call l) (held : Option ResponseId) :
    l.Holds call.id held := by
  intro id hr
  rcases h.holds id hr with e | shut
  · cases e
  · exact .inr shut

theorem Ready.handed_raised (h : Ready mode call l) (e : Failure) :
    Handed mode call (.raised e) l :=
  ⟨h.kept, h.holds, fun _ h => by cases h⟩

theorem Handed.ready {reply : Reply} (h : Handed mode call reply l) (hn : reply.held = none) :
    Ready mode call l := ⟨h.kept, hn ▸ h.holds⟩

theorem Ready.changes {other : Call} (h : Ready mode call l) (hm : other.Matches mode)
    (hc : Changes other reach (.round false) l l') : Ready mode call l' :=
  ⟨hc.kept hm h.kept, hc.holds h.holds⟩

theorem Handed.changes {other : Call} {reply : Reply} (h : Handed mode call reply l)
    (hm : other.Matches mode) (hc : Changes other reach (.round false) l l') :
    Handed mode call reply l' :=
  ⟨hc.kept hm h.kept, hc.holds h.holds, fun id hid => hc.known (h.known id hid)⟩

/-- A mark other than a receipt may be set where the call holds no more than the mark permits. -/
theorem Ledger.Kept.mark {e : Event} (hk : l.Kept mode) (hm : e.isMark = true)
    (hr : ∀ c layer reply, e ≠ .received c layer reply)
    (hp : ∀ c held, e.permits = some (c, held) → l.Holds c held) :
    (l.note e).Kept mode ∧ ∀ c held, l.Holds c held → (l.note e).Holds c held := by
  have received : ∀ c id, Received (l.note e).journal c id → Received l.journal c id := by
    rintro c id ⟨layer, r, h, hid⟩
    rcases List.mem_cons.mp h with h | h
    · exact absurd h.symm (hr c layer (.response r))
    · exact ⟨layer, r, h, hid⟩
  have sound : (l.note e).Sound mode := by
    refine ⟨hk.sound.unbuilt, hk.sound.matched, hk.sound.memory, fun id => ?_⟩
    rw [Change.closings_note (Change.closes_of_isMark hm)]
    exact hk.sound.counted id
  refine ⟨⟨sound, ⟨hk.tidy, ?_⟩, fun c id h => hk.known c id (received c id h)⟩, ?_⟩
  · intro c held h id hid streamed
    rcases hp c held h id hid with heq | shut
    · exact .inl heq
    · exact .inr (hk.sound.closedIn shut streamed)
  · intro c held hh id hid
    exact hh id (received c id hid)

theorem Handed.receive {reply : Reply} (h : Handed mode call reply l) (layer : Nat) :
    Handed mode call reply (l.note (.received call.id layer reply)) := by
  have received : ∀ c id, Received (l.note (.received call.id layer reply)).journal c id →
      (c = call.id ∧ reply.held = some id) ∨ Received l.journal c id := by
    rintro c id ⟨layer', r, hr, hid⟩
    rcases List.mem_cons.mp hr with hr | hr
    · cases hr
      exact .inl ⟨rfl, congrArg some hid⟩
    · exact .inr ⟨layer', r, hr, hid⟩
  have sound : (l.note (.received call.id layer reply)).Sound mode := by
    refine ⟨h.kept.sound.unbuilt, h.kept.sound.matched, h.kept.sound.memory, fun id => ?_⟩
    rw [Change.closings_note (fun _ => rfl)]
    exact h.kept.sound.counted id
  refine ⟨⟨sound, ⟨h.kept.tidy, fun _ _ hp => by cases hp⟩, fun c id hr => ?_⟩, fun id hr => ?_,
    h.known⟩
  · rcases received c id hr with ⟨_, hid⟩ | hr
    · exact h.known id hid
    · exact h.kept.known c id hr
  · rcases received call.id id hr with ⟨_, hid⟩ | hr
    · exact .inl hid
    · exact h.holds id hr

theorem Ready.mark {e : Event} (h : Ready mode call l) (own : e.call = call.id)
    (hm : e.isMark = true) (hr : ∀ c layer reply, e ≠ .received c layer reply) :
    Ready mode call (l.note e) := by
  have permitted : ∀ c held, e.permits = some (c, held) → l.Holds c held := by
    intro c held hp
    have hc : c = call.id := by
      cases e with
      | sent c' request => cases hp; exact own
      | entered c' layer start => cases hp; exact own
      | delaying c' layer attempt => cases hp; exact own
      | left c' layer reply => cases hp; exact own
      | _ => cases hp
    exact hc ▸ h.holds_any held
  obtain ⟨kept, holds⟩ := h.kept.mark hm hr permitted
  exact ⟨kept, holds _ _ h.holds⟩

theorem Handed.leave {reply : Reply} (h : Handed mode call reply l) (layer : Nat) :
    Handed mode call reply (l.note (.left call.id layer reply)) := by
  have permitted : ∀ c held, (Event.left call.id layer reply).permits = some (c, held) →
      l.Holds c held := by
    intro c held hp
    cases hp
    exact h.holds
  obtain ⟨kept, holds⟩ := h.kept.mark rfl (fun _ _ _ h => by cases h) permitted
  exact ⟨kept, holds _ _ h.holds, h.known⟩

theorem Handed.outOf {reply : Reply} (h : Handed mode call reply l) (routine : Routine) :
    Handed mode call (reply.outOf routine) l := by
  have same : (reply.outOf routine).held = reply.held := by
    rw [Reply.held, Reply.response?_outOf, Reply.held]
  exact ⟨h.kept, same ▸ h.holds, same ▸ h.known⟩

theorem Ready.handed {reply : Reply} (h : Ready mode call l)
    (known : ∀ id, reply.held = some id → (l.response? id).isSome) : Handed mode call reply l :=
  ⟨h.kept, h.holds_any _, known⟩

end

namespace Work

variable {call : Call} {l : Ledger} {mode : Mode}

theorem close_shut (hs : l.Sound mode) {id : ResponseId} (known : (l.response? id).isSome) :
    (close mode call.id id).Yields l fun _ l' => l'.IsShut id := by
  refine yields_get ?_
  split
  · rename_i hn
    simp [hn] at known
  · rename_i r hr
    split
    · rename_i text ht
      exact ⟨r, hr, hs.memory id r text hr ht⟩
    · rename_i s hs'
      have hm : s.mode = mode := hs.matched id r s hr hs'
      split
      · contradiction
      · split
        · rename_i closed
          exact ⟨r, hr, closed⟩
        · have shut : ((l.adjustResponse id .shut).note
              (.streamClosed call.id id r.reads r.bytes)).IsShut id :=
            ⟨r.shut, by simp [hr], rfl⟩
          refine Yields.mono (P := fun _ l' => Changes call (fun _ => True) (.round false)
            ((l.adjustResponse id .shut).note (.streamClosed call.id id r.reads r.bytes)) l')
            ?_ fun _ _ h => h.isShut shut
          split
          · exact makes_pure _
          · exact failWith_makes _ _

theorem perform_known (act : Act) :
    (perform mode call.id act).Yields l fun reply l' =>
      ∀ id, reply.held = some id → (l'.response? id).isSome := by
  cases act with
  | raise spec => exact fun _ h => by cases h
  | nothing => exact fun _ h => by cases h
  | again index =>
    refine yields_get ?_
    split
    · rename_i id r hr
      intro id' h
      cases h
      have mem : (id, r) ∈ l.responses := List.mem_of_getElem? hr
      exact Ledger.response?_isSome mem
    · exact fun _ h => by cases h
  | repeated serial =>
    refine yields_get ?_
    split
    · rename_i r hr
      intro id h
      cases h
      exact Option.isSome_iff_exists.mpr ⟨r, hr⟩
    · exact fun _ h => by cases h
  | respondText status text =>
    intro id h
    cases h
    exact Ledger.response?_build_self l call.id _
  | respond status stream how =>
    have built := Ledger.response?_build_self l call.id (.ofStream status stream)
    have prepared : ∀ id, ((prepare mode call.id id how).Makes call (fun _ => True) (.round false)
        (l.build call.id (.ofStream status stream))) := fun id => prepare_makes trivial mode how
    refine yields_bind (P := fun id l' => l' = l.build call.id (.ofStream status stream) ∧
      (l'.response? id).isSome) ⟨rfl, built⟩ fun id l' h => ?_
    obtain ⟨rfl, known⟩ := h
    refine yields_bind (prepared id) fun result l' h => ?_
    split
    · intro id' h'
      cases h'
      exact h.known known
    · exact fun _ h => by cases h

end Work

end HttpRetry
