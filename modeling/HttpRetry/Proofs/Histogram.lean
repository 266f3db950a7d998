import HttpRetry.Metrics
set_option autoImplicit false

namespace HttpRetry

namespace Binary64

theorem round_ne_nan (negative : Bool) (num den : Nat) : round negative num den ≠ nan := by
  unfold round
  extract_lets exponent top bottom low twice significand
  generalize (if significand = pow2 53 then (pow2 52, exponent + 1)
    else (significand, exponent)) = rounded
  show (if 971 < rounded.2 then infinity negative else finite negative rounded.1 rounded.2) ≠ nan
  split <;> simp

theorem toRat?_of_ne_nan {x : Binary64} (h : x ≠ nan) : x.toRat? = some x.value := by
  cases x with
  | nan => exact absurd rfl h
  | infinity negative => rfl
  | finite negative significand exponent => rfl

theorem toRat?_ofRat (q : Rat) : (ofRat q).toRat? = some (nearest q) := by
  apply toRat?_of_ne_nan
  unfold ofRat
  split
  · simp [zero]
  · exact round_ne_nan _ _ _

/-- Numbers added up one after another, the latest first, each sum a binary fraction. -/
def sumOf : List Rat → Binary64
  | [] => zero false
  | q :: earlier => ofRat ((sumOf earlier).value + nearest q)

theorem toRat?_sumOf (qs : List Rat) : (sumOf qs).toRat? = some (sumOf qs).value := by
  cases qs with
  | nil => exact toRat?_of_ne_nan (by simp [sumOf, zero])
  | cons q earlier => exact toRat?_ofRat _

end Binary64

/-- The seconds that lie between two readings; of binary fractions their difference is one again. -/
def Timer.taken (timer : Timer) (began ended : Rat) : Rat :=
  match timer with
  | .binary => Binary64.nearest (Binary64.nearest ended - Binary64.nearest began)
  | .exact => ended - began

theorem Timer.between_eq (timer : Timer) (began ended : Rat) :
    timer.between began ended = timer.taken began ended := by
  cases timer with
  | exact => rfl
  | binary =>
    simp only [between, taken, Binary64.sub, Binary64.ofExact, Binary64.toRat?_ofRat]
    rfl

/-- Of binary fractions the difference may lie within a bound that it is above when taken exactly. -/
example : Timer.binary.between (1/10) (601/10) = 60 ∧
    60 < Binary64.nearest (601/10) - Binary64.nearest (1/10) := by
  decide +kernel

namespace Histogram

theorem bounds_ascending : bounds.Pairwise (· ≤ ·) := by decide +kernel

def ofDurations (durations : List Rat) : Histogram := durations.foldr (fun d h => h.observe d) empty

section
variable {duration : Rat} {h h' : Histogram} {within : Rat → Nat} {total : Nat}

theorem go_congr (h h' : Histogram) (above : h'.above = h.above) (acc : Nat) (counts : List Nat) :
    cumulative.go h' acc counts = cumulative.go h acc counts := by
  induction counts generalizing acc with
  | nil => simp [cumulative.go, above]
  | cons n rest ih => simp [cumulative.go, ih]

theorem go_succ (h : Histogram) (acc : Nat) (counts : List Nat) :
    cumulative.go h (acc + 1) counts = (cumulative.go h acc counts).map (· + 1) := by
  induction counts generalizing acc with
  | nil => simp [cumulative.go]; omega
  | cons n rest ih =>
    have shift : acc + 1 + n = acc + n + 1 := by omega
    simp [cumulative.go, shift, ih]

theorem go_above (above : h'.above = h.above + 1) {bounds : List Rat} {acc : Nat} {counts : List Nat}
    (start : cumulative.go h acc counts = bounds.map within ++ [total]) :
    cumulative.go h' acc counts = bounds.map within ++ [total + 1] := by
  induction bounds generalizing acc counts with
  | nil =>
    cases counts with
    | nil => simp [cumulative.go] at start ⊢; omega
    | cons n rest => cases rest <;> simp [cumulative.go] at start
  | cons bound bounds ih =>
    cases counts with
    | nil => simp [cumulative.go] at start
    | cons n rest =>
      simp only [cumulative.go, List.map_cons, List.cons_append, List.cons.injEq] at start ⊢
      exact ⟨start.1, ih start.2⟩

/-- A duration that is placed counts for its own bound and for all after it. -/
theorem go_place {bounds : List Rat} (ascending : bounds.Pairwise (· ≤ ·)) {acc : Nat}
    {counts counts' : List Nat} (placed : place duration bounds counts = some counts')
    (start : cumulative.go h acc counts = bounds.map within ++ [total]) :
    cumulative.go h acc counts' =
      bounds.map (fun b => within b + if duration ≤ b then 1 else 0) ++ [total + 1] := by
  induction bounds generalizing acc counts counts' with
  | nil => cases counts <;> simp [place] at placed
  | cons bound bounds ih =>
    cases counts with
    | nil => simp [place] at placed
    | cons n rest =>
      obtain ⟨least, ascending⟩ := List.pairwise_cons.mp ascending
      simp only [cumulative.go, List.map_cons, List.cons_append, List.cons.injEq] at start
      obtain ⟨first, later⟩ := start
      by_cases fits : duration ≤ bound
      · simp only [place, fits, if_true, Option.some.injEq] at placed
        subst placed
        have all : ∀ b ∈ bounds, duration ≤ b := fun b mem => Rat.le_trans fits (least b mem)
        have shift : acc + (n + 1) = acc + n + 1 := by omega
        simpa [cumulative.go, shift, go_succ, later, fits, ← first] using all
      · simp only [place, fits, if_false, Option.map_eq_some_iff] at placed
        obtain ⟨found, placed, rfl⟩ := placed
        have found := ih ascending placed later
        simp [cumulative.go, fits, ← first, found]

theorem not_le_of_place {bounds : List Rat} {counts : List Nat}
    (length : counts.length = bounds.length) (missed : place duration bounds counts = none) :
    ∀ b ∈ bounds, ¬ duration ≤ b := by
  induction bounds generalizing counts with
  | nil => simp
  | cons bound bounds ih =>
    cases counts with
    | nil => simp at length
    | cons n rest =>
      by_cases fits : duration ≤ bound
      · simp [place, fits] at missed
      · simp only [place, fits, if_false, Option.map_eq_none_iff] at missed
        exact List.forall_mem_cons.mpr ⟨fits, ih (by simpa using length) missed⟩

theorem length_place {bounds : List Rat} {counts counts' : List Nat}
    (placed : place duration bounds counts = some counts') : counts'.length = counts.length := by
  induction bounds generalizing counts counts' with
  | nil => cases counts <;> simp [place] at placed
  | cons bound bounds ih =>
    cases counts with
    | nil => simp [place] at placed
    | cons n rest =>
      by_cases fits : duration ≤ bound
      · simp only [place, fits, if_true, Option.some.injEq] at placed
        simp [← placed]
      · simp only [place, fits, if_false, Option.map_eq_some_iff] at placed
        obtain ⟨found, placed, rfl⟩ := placed
        simpa using ih placed

theorem cumulative_countIn (duration : Rat) (length : h.counts.length = bounds.length)
    (start : h.cumulative = bounds.map within ++ [total]) :
    (h.countIn duration).counts.length = bounds.length ∧ (h.countIn duration).cumulative =
      bounds.map (fun b => within b + if duration ≤ b then 1 else 0) ++ [total + 1] := by
  cases placed : place duration bounds h.counts with
  | none =>
    have missed := not_le_of_place length placed
    have same : bounds.map (fun b => within b + if duration ≤ b then 1 else 0) =
        bounds.map within := by
      apply List.map_congr_left
      intro b mem
      simp [missed b mem]
    simp only [countIn, placed, same]
    exact ⟨length, go_above rfl start⟩
  | some counts =>
    simp only [countIn, placed]
    constructor
    · rw [length_place placed, length]
    · exact (go_congr h { h with counts } rfl 0 counts).trans
        (go_place bounds_ascending placed start)

end

theorem total_ofDurations (durations : List Rat) :
    (ofDurations durations).total = durations.length := by
  induction durations with
  | nil => rfl
  | cons d rest ih => simpa [ofDurations] using ih

theorem sum_ofDurations (durations : List Rat) :
    (ofDurations durations).sum = .sumOf durations := by
  induction durations with
  | nil => rfl
  | cons d rest ih =>
    have added : (ofDurations (d :: rest)).sum = (ofDurations rest).sum.add (.ofRat d) := rfl
    simp only [added, ih, Binary64.add, Binary64.ofExact, Binary64.toRat?_sumOf,
      Binary64.toRat?_ofRat]
    rfl

/-- Each bound counts the durations that are not above it. -/
theorem cumulative_ofDurations (durations : List Rat) :
    (ofDurations durations).cumulative =
      bounds.map (fun b => durations.countP (· ≤ b)) ++ [durations.length] := by
  have both : (ofDurations durations).counts.length = bounds.length ∧
      (ofDurations durations).cumulative =
        bounds.map (fun b => durations.countP (· ≤ b)) ++ [durations.length] := by
    induction durations with
    | nil => decide +kernel
    | cons d rest ih =>
      obtain ⟨length, within⟩ := cumulative_countIn d ih.1 ih.2
      have same : (ofDurations (d :: rest)).cumulative = ((ofDurations rest).countIn d).cumulative :=
        go_congr ((ofDurations rest).countIn d) (ofDurations (d :: rest)) rfl 0 _
      refine ⟨length, ?_⟩
      simpa [same, List.countP_cons] using within
  exact both.2

end Histogram

end HttpRetry
