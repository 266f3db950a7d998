import HttpRetry.Proofs.Likeness.Layer
set_option autoImplicit false

namespace HttpRetry

open Work

/-- Runs that do the same, at the same times and with the layers at the same places. -/
abbrev lockstep : Likeness := {}

/-- A relation of ledgers that look the same to layers, kept by all that a layer does to a ledger
other than to count and to release a response. -/
structure Work.Lockstep (R : Ledger → Ledger → Prop) : Prop where
  now : ∀ {l l'}, R l l' → l'.now = l.now
  clocks : ∀ {l l'}, R l l' → l'.clocks = l.clocks
  asks : ∀ {l l'}, R l l' → l'.asks = l.asks
  delays : ∀ {l l'}, R l l' → l'.delays = l.delays
  calls : ∀ {l l'}, R l l' → l'.calls = l.calls
  note : ∀ {l l'}, R l l' → ∀ e, R (l.note e) (l'.note e)
  useClock : ∀ {l l'}, R l l' → ∀ key f, R (l.adjustClock key f) (l'.adjustClock key f)
  ask : ∀ {l l'}, R l l' → ∀ i,
    R { l with asks := updateAt l.asks i (· + 1) } { l' with asks := updateAt l'.asks i (· + 1) }
  delay : ∀ {l l'}, R l l' → ∀ i, R { l with delays := updateAt l.delays i (· + 1) }
    { l' with delays := updateAt l'.delays i (· + 1) }
  advance : ∀ {l l'}, R l l' → ∀ seconds,
    R { l with now := l.now + seconds } { l' with now := l'.now + seconds }
  adjustCall : ∀ {l l'}, R l l' → ∀ call f, R (l.adjustCall call f) (l'.adjustCall call f)
  cause : ∀ {l l'}, R l l' → ∀ id e,
    R { l with causes := (id, e) :: l.causes } { l' with causes := (id, e) :: l'.causes }

/-- Ledgers that are related, with each failure the same in both runs. -/
def Together (R : Ledger → Ledger → Prop) : Tie := fun ids l l' => (∀ a b, ids a b ↔ a = b) ∧ R l l'

namespace Work.Lockstep

variable {R : Ledger → Ledger → Prop} (h : Lockstep R) {k : Likeness}

include h

theorem peek {l l' : Ledger} (related : R l l') (clock : Clock) : clock.peek l' = clock.peek l := by
  unfold Clock.peek
  rw [h.clocks related, h.now related]

theorem reads {l l' : Ledger} (related : R l l') {p : Place}
    (raises : ∀ {kind}, p.layer.Raises kind → k.Admits kind) :
    ReadingAlike k (p.layer.clock.peek l) (p.layer.clock.peek l') := by
  rw [h.peek related]
  exact .refl fun spec fails => raises (.clock fails)

theorem parallel (dated : k.dated) (timed : k.timed) (layers : k.layer = id) (call : Nat) :
    Parallel k call (Together R) where
  shared tied _ := (tied.1 _ _).mpr rfl
  unique tied a a' b b' ha hb := by
    rw [(tied.1 _ _).mp ha, (tied.1 _ _).mp hb]
  now _ _ _ _ tied := h.now tied.2
  fresh := by
    intro ids l l' tied
    have same : (l'.calls call).failures = (l.calls call).failures := by rw [h.calls tied.2]
    exact ⟨ids, fun h => h, (tied.1 _ _).mpr (by rw [same]), tied.1, h.adjustCall tied.2 call _⟩
  note tied e e' _ alike := by
    have same := alike.eq dated timed (fun _ _ named => (tied.1 _ _).mp named)
      fun i => congrFun layers i
    exact ⟨tied.1, same ▸ h.note tied.2 e⟩
  useClock tied key f := ⟨tied.1, h.useClock tied.2 key f⟩
  ask tied i := ⟨tied.1, by rw [layers]; exact h.ask tied.2 i⟩
  delay tied i := ⟨tied.1, by rw [layers]; exact h.delay tied.2 i⟩
  advance tied seconds := ⟨tied.1, h.advance tied.2 seconds⟩
  cause tied id id' e e' named alike := by
    have same := alike.eq dated fun _ _ named => (tied.1 _ _).mp named
    exact ⟨tied.1, (tied.1 _ _).mp named ▸ same ▸ h.cause tied.2 id e⟩

end Work.Lockstep

end HttpRetry
