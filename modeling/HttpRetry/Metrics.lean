import HttpRetry.Decision
import HttpRetry.Number.Binary64
/-!
The counters of the retry loop: attempts by method and decision, failures to release a body, and the
time spent waiting before retries.
-/
set_option autoImplicit false

namespace HttpRetry

/-- The readings of the timer as binary fractions, or as they are. -/
inductive Timer where
  | binary
  | exact
  deriving DecidableEq, Repr, Inhabited

def Timer.between (timer : Timer) (began ended : Rat) : Rat :=
  match timer with
  | .binary => ((Binary64.ofRat ended).sub (.ofRat began)).value
  | .exact => ended - began

/-- Observed durations in seconds: how many fell between each bound and the one before, how many lay
above all bounds, and their total, rounded after each addition. -/
structure Histogram where
  counts : List Nat
  above : Nat
  sum : Binary64
  deriving Repr, Inhabited

namespace Histogram

def bounds : List Rat := [1/100, 1/20, 1/10, 1/2, 1, 2, 5, 10, 30, 60].map Binary64.nearest

def empty : Histogram := ⟨bounds.map fun _ => 0, 0, .zero false⟩

/-- Adds one to the first bucket whose bound is not below the duration. -/
def place (duration : Rat) : List Rat → List Nat → Option (List Nat)
  | bound :: bounds, n :: counts =>
    if duration ≤ bound then some ((n + 1) :: counts)
    else (place duration bounds counts).map (n :: ·)
  | _, _ => none

def countIn (h : Histogram) (duration : Rat) : Histogram :=
  match place duration bounds h.counts with
  | some counts => { h with counts }
  | none => { h with above := h.above + 1 }

def observe (h : Histogram) (duration : Rat) : Histogram :=
  { h.countIn duration with sum := h.sum.add (.ofRat duration) }

def shownMicros? (h : Histogram) : Option Int :=
  match h.sum.mul (.ofRat 1000000) with
  | .finite negative significand exponent =>
    ((Binary64.finite negative significand exponent).toRat?).map roundHalfEven
  | _ => none

def total (h : Histogram) : Nat := h.counts.foldr (· + ·) h.above

theorem sum_place {duration : Rat} {bounds : List Rat} {counts counts' : List Nat}
    (h : place duration bounds counts = some counts') (start : Nat) :
    counts'.foldr (· + ·) start = counts.foldr (· + ·) start + 1 := by
  induction bounds generalizing counts counts' with
  | nil => cases counts <;> simp [place] at h
  | cons bound bounds ih =>
    cases counts with
    | nil => simp [place] at h
    | cons n counts =>
      simp only [place] at h
      split at h
      · cases h
        simp only [List.foldr_cons]
        omega
      · obtain ⟨found, hf, rfl⟩ := Option.map_eq_some_iff.1 h
        have := ih hf
        simp only [List.foldr_cons]
        omega

theorem total_countIn (h : Histogram) (duration : Rat) :
    (h.countIn duration).total = h.total + 1 := by
  unfold countIn total
  split
  · rename_i counts hp
    exact sum_place hp h.above
  · have shift : ∀ counts : List Nat, counts.foldr (· + ·) (h.above + 1) =
        counts.foldr (· + ·) h.above + 1 := by
      intro counts
      induction counts with
      | nil => rfl
      | cons n rest ih =>
        simp only [List.foldr_cons]
        omega
    exact shift h.counts

@[simp] theorem total_observe (h : Histogram) (duration : Rat) :
    (h.observe duration).total = h.total + 1 := total_countIn h duration

def cumulative (h : Histogram) : List Nat :=
  let rec go : Nat → List Nat → List Nat
    | acc, [] => [acc + h.above]
    | acc, n :: counts => (acc + n) :: go (acc + n) counts
  go 0 h.counts

end Histogram

structure Metrics where
  attempts : List ((String × Decision) × Nat) := []
  drainErrors : Nat := 0
  delay : Histogram := .empty
  deriving Repr, Inhabited

namespace Metrics

def bump (key : String × Decision) : List ((String × Decision) × Nat) →
    List ((String × Decision) × Nat)
  | [] => [(key, 1)]
  | (k, n) :: rest => if k = key then (k, n + 1) :: rest else (k, n) :: bump key rest

theorem lookup_bump_self (key : String × Decision)
    (counts : List ((String × Decision) × Nat)) :
    List.lookup key (bump key counts) = some ((List.lookup key counts).getD 0 + 1) := by
  induction counts with
  | nil => simp [bump]
  | cons entry rest ih =>
    obtain ⟨k, n⟩ := entry
    by_cases h : k = key
    · subst h
      simp [bump]
    · have h' : (key == k) = false := by simpa using Ne.symm h
      simp [bump, h, List.lookup_cons, h', ih]

theorem lookup_bump_of_ne {key other : String × Decision} (h : other ≠ key)
    (counts : List ((String × Decision) × Nat)) :
    List.lookup other (bump key counts) = List.lookup other counts := by
  induction counts with
  | nil =>
    have h' : (other == key) = false := by simpa using h
    simp [bump, List.lookup_cons, h']
  | cons entry rest ih =>
    obtain ⟨k, n⟩ := entry
    by_cases hk : k = key
    · subst hk
      have h' : (other == k) = false := by simpa using h
      simp [bump, List.lookup_cons, h']
    · simp [bump, hk, List.lookup_cons, ih]

def countAttempt (m : Metrics) (method : String) (d : Decision) : Metrics :=
  { m with attempts := bump (method, d) m.attempts }

def attemptCount (m : Metrics) (method : String) (d : Decision) : Nat :=
  (List.lookup (method, d) m.attempts).getD 0

@[simp] theorem attemptCount_countAttempt_self (m : Metrics) (method : String)
    (d : Decision) :
    (m.countAttempt method d).attemptCount method d = m.attemptCount method d + 1 := by
  simp [attemptCount, countAttempt, lookup_bump_self]

theorem attemptCount_countAttempt_of_ne (m : Metrics) {method method' : String}
    {d d' : Decision} (h : (method', d') ≠ (method, d)) :
    (m.countAttempt method d).attemptCount method' d' = m.attemptCount method' d' := by
  simp only [attemptCount, countAttempt]
  rw [lookup_bump_of_ne h]

def countDrainError (m : Metrics) : Metrics := { m with drainErrors := m.drainErrors + 1 }

def observeDelay (m : Metrics) (duration : Rat) : Metrics :=
  { m with delay := m.delay.observe duration }

def before (a b : (String × Decision) × Nat) : Bool :=
  a.1.1 < b.1.1 || (a.1.1 = b.1.1 && a.1.2.value ≤ b.1.2.value)

def sortedAttempts (m : Metrics) : List ((String × Decision) × Nat) :=
  m.attempts.mergeSort before

end Metrics

end HttpRetry
