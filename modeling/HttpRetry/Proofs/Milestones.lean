import HttpRetry.Proofs.Sound
set_option autoImplicit false

namespace HttpRetry

inductive Milestone where
  | entered
  | sent (request : Request)
  | received (reply : Reply)
  | asked (attempt : Attempt)
  | answered (attempt : Attempt) (decision : Decision)
  | releasing (response : ResponseId)
  | delaying (attempt : Attempt)
  | delayed (attempt : Attempt)
  | left (reply : Reply)

def Event.milestone? : Event → Option Milestone
  | .entered .. => some .entered
  | .sent _ request => some (.sent request)
  | .received _ _ reply => some (.received reply)
  | .asked _ _ attempt .. => some (.asked attempt)
  | .answered _ _ attempt decision => some (.answered attempt decision)
  | .releasing _ _ response => some (.releasing response)
  | .delaying _ _ attempt => some (.delaying attempt)
  | .delayed _ _ attempt .. => some (.delayed attempt)
  | .left _ _ reply => some (.left reply)
  | .refused .. | .bound .. | .streamClosed .. | .transportClosed _ | .logged .. => none

theorem Event.milestone?_of_isPlain {e : Event} (plain : e.isPlain = true) :
    e.milestone? = none := by
  cases e with
  | refused call layer => rfl
  | bound call layer request => rfl
  | streamClosed call response reads bytes => rfl
  | transportClosed call => rfl
  | logged call layer entry => rfl
  | _ => simp [Event.isPlain, Event.isCounted, Event.isMark, Event.isStep] at plain

namespace Ledger

def milestones (l : Ledger) : List Milestone := l.trace.filterMap Event.milestone?

theorem milestones_note (l : Ledger) (e : Event) :
    (l.note e).milestones = l.milestones ++ e.milestone?.toList := by
  rw [milestones, trace_note, List.filterMap_append]
  cases h : e.milestone? with
  | none => simp [milestones, h]
  | some m => simp [milestones, h]

theorem milestones_measured (p : Place) (f : Metrics → Metrics) (l : Ledger) :
    (p.measured f l).milestones = l.milestones := by
  simp [milestones, trace]

end Ledger

/-- How far a run has come: how often a layer's retryer and delayer were asked, how often a call has
sent, and all milestones. -/
structure Position where
  asks : Nat
  delays : Nat
  sends : Nat
  milestones : List Milestone

def Ledger.position (l : Ledger) (p : Place) (call : Call) : Position :=
  ⟨l.asks p.index, l.delays p.index, (l.calls call.id).sends, l.milestones⟩

theorem Ledger.position_note (l : Ledger) (p : Place) (call : Call) (e : Event) :
    (l.note e).position p call =
      { l.position p call with milestones := l.milestones ++ e.milestone?.toList } := by
  rw [← l.milestones_note e]
  rfl

section
variable {p q : Place} {call : Call} {reach : ResponseId → Prop} {l l' : Ledger}

theorem Change.position (h : Change call reach .calm l l') :
    l'.position p call = l.position p call := by
  cases h with
  | note own plain =>
    rw [Ledger.position_note, Event.milestone?_of_isPlain plain]
    simp [Ledger.position]
  | drainFailure q count e =>
    unfold Ledger.position
    rw [Ledger.milestones_measured, Ledger.milestones_note]
    unfold Place.measured
    split
    · simp [Ledger.note, Event.milestone?]
    · simp [Ledger.note, Event.milestone?]
  | close within known streamed opened =>
    unfold Ledger.position
    rw [Ledger.milestones_note]
    simp [Ledger.note, Event.milestone?, Ledger.adjustResponse, Ledger.milestones, Ledger.trace]
  | fail => simp [Ledger.position, Ledger.adjustCall, Ledger.milestones, Ledger.trace]
  | build built => simp [Ledger.position, Ledger.build, Ledger.milestones, Ledger.trace]
  | _ => rfl

theorem Changes.position (h : Changes call reach .calm l l') :
    l'.position p call = l.position p call := by
  induction h with
  | refl => rfl
  | tail _ h ih => exact h.position.trans ih

end

end HttpRetry
