import HttpRetry.Proofs.Stirred
set_option autoImplicit false

namespace HttpRetry

open Work

/-- A report that a response could not be drained: its call, its layer, the number of the attempt, and
the failure. -/
def Event.drainFailure? : Event → Option (Nat × Nat × Nat × Failure)
  | .logged call layer ⟨_, _, .drainError count e⟩ => some (call, layer, count, e)
  | _ => none

def Ledger.drainFailures (l : Ledger) : List (Nat × Nat × Nat × Failure) :=
  l.journal.filterMap Event.drainFailure?

theorem Ledger.Stirred.drainFailures {id : ResponseId} {l l' : Ledger} (h : Stirred id l l') :
    l'.drainFailures = l.drainFailures := by
  obtain ⟨closings, journal, closing⟩ := h.journal
  have none : closings.filterMap Event.drainFailure? = [] := by
    refine List.filterMap_eq_nil_iff.mpr fun e mem => ?_
    have closing := closing e mem
    cases e with
    | streamClosed call response reads bytes => rfl
    | _ => cases closing
  rw [Ledger.drainFailures, journal, List.filterMap_append, none, List.nil_append]
  rfl

namespace Place

variable (p : Place) (mode : Mode) (call : Call) (attempt : Attempt) (r : ResponseRef) (l : Ledger)

def drainedIn : Except Failure Unit × Ledger :=
  p.drain mode call r (l.note (.releasing call.id p.index r.id))

def closedIn : Except Failure Unit × Ledger :=
  close mode call.id r.id (p.drainedIn mode call r l).2

/-- Releasing a response goes well. If closing or reading it failed, exactly one failure is reported,
and counted where counts are kept: the one of the close if it failed. Otherwise none is. -/
structure ReportsOnce : Prop where
  ok : (p.release mode call attempt l).1 = .ok ()
  failed : ∀ e, (p.closedIn mode call r l).1 = .error e ∨
      (p.drainedIn mode call r l).1 = .error e ∧ (p.closedIn mode call r l).1 = .ok () →
    (p.release mode call attempt l).2.drainFailures =
        (call.id, p.index, attempt.count, e) :: l.drainFailures ∧
      (p.release mode call attempt l).2.metrics =
        if p.layer.settings.measures then l.metrics.countDrainError else l.metrics
  clean : (p.drainedIn mode call r l).1 = .ok () → (p.closedIn mode call r l).1 = .ok () →
    (p.release mode call attempt l).2.drainFailures = l.drainFailures ∧
      (p.release mode call attempt l).2.metrics = l.metrics

variable {p mode call attempt r l}

theorem discard_noted : p.discard mode call r (l.note (.releasing call.id p.index r.id)) =
    (discarded (p.drainedIn mode call r l).1 (p.closedIn mode call r l).1,
      (p.closedIn mode call r l).2) := discard_apply r

theorem reportsOnce (limited : p.layer.limitFailure? = none) (gentle : l.GentleAt r.id)
    (has : attempt.response = some r) : p.ReportsOnce mode call attempt r l := by
  have discards : (p.discard mode call r).Stirs r.id (fun result => True → Mild result)
      (l.note (.releasing call.id p.index r.id)) :=
    discard_stirs (fun _ => limited) fun _ => gentle
  have mild := discards.1 trivial
  have drained := discards.2.drainFailures
  have metrics := discards.2.metrics
  have released : p.release mode call attempt l = _ := release_of_some has
  rw [discard_noted] at mild drained metrics released
  refine ⟨?_, fun e failed => ?_, fun read closed => ?_⟩
  · rw [released, tolerate_fst]
    exact mild.tolerated
  · have failed := discarded_eq_error.mpr failed
    rw [failed] at released
    rw [released, tolerate_swallowed attempt (mild e failed)]
    refine ⟨?_, ?_⟩
    · rw [Ledger.drainFailures, Ledger.journal_measured]
      exact congrArg (_ :: ·) drained
    · unfold measured
      split
      · exact congrArg Metrics.countDrainError metrics
      · exact metrics
  · rw [closed, read] at released
    rw [released]
    exact ⟨drained, metrics⟩

end Place

end HttpRetry
