import HttpRetry.Response
import Mathlib.Data.Nat.Find
import Mathlib.Order.Bounds.Basic
/-!
How much is read up to a limit. Someone who stops once so many bytes have come in pieces of that
size stops with the first chunk that makes up the first piece, and never asks for another.
-/
set_option autoImplicit false

namespace HttpRetry

/-- A stream of these chunks that fails in the given way, if any, once so many of them were given. -/
def Stream.failing (mode : Mode) (chunks : List Chunk) (fails : Option (Nat × FailureSpec))
    (closeFailure : Option FailureSpec) : Stream :=
  match fails with
  | none => ⟨mode, chunks, none, closeFailure⟩
  | some (given, spec) =>
    if given ≤ chunks.length then ⟨mode, chunks.take given, some spec, closeFailure⟩
    else ⟨mode, chunks, none, closeFailure⟩

@[simp] theorem Stream.mode_failing (mode : Mode) (chunks : List Chunk)
    (fails : Option (Nat × FailureSpec)) (closeFailure : Option FailureSpec) :
    (failing mode chunks fails closeFailure).mode = mode := by
  unfold failing
  split
  · rfl
  · split <;> rfl

def Reaches (limit : Nat) (chunks : List Chunk) (k : Nat) : Prop :=
  1 ≤ k ∧ k ≤ chunks.length ∧ limit ≤ totalSize (chunks.take k)

namespace Taken

def total (taken : Taken) : Nat :=
  if taken.stopped then taken.counted else taken.counted + taken.held

def Meets (s : Stream) (taken : Taken) : Prop :=
  s.chunks.length < taken.asks ∧ s.failure.isSome = true

/-- How far someone gets who reads up to a limit from a stream of these chunks that fails once so many
of them were given. -/
structure Drains (limit : Nat) (chunks : List Chunk) (fails : Option Nat) (s : Stream)
    (taken : Taken) : Prop where
  /-- Where the chunks come to the limit, the first ones that do are taken and no other is asked for. -/
  reached : ∀ p, IsLeast {k | Reaches limit chunks k} p →
    (taken.Meets s ↔ ∃ f, fails = some f ∧ f < p) ∧
      (¬ taken.Meets s → taken.chunks = chunks.take p ∧ taken.asks = p)
  /-- Else all are, and one more is asked for. -/
  unreached : (∀ k, ¬ Reaches limit chunks k) →
    (taken.Meets s ↔ ∃ f, fails = some f ∧ f ≤ chunks.length) ∧
      (¬ taken.Meets s → taken.chunks = chunks ∧ taken.asks = chunks.length + 1)
  failed : taken.Meets s →
    ∃ f, fails = some f ∧ f ≤ chunks.length ∧ taken.chunks = chunks.take f ∧ taken.asks = f + 1
  /-- Before the last chunk less than the limit was taken. -/
  short : totalSize taken.chunks.dropLast < limit
  counted : ¬ taken.Meets s → taken.total = min limit (totalSize chunks)

end Taken

section
variable {limit held k p : Nat} {chunk : Chunk} {chunks rest : List Chunk}

@[simp] theorem totalSize_nil : totalSize [] = 0 := rfl

@[simp] theorem totalSize_cons : totalSize (chunk :: rest) = chunk.size + totalSize rest := rfl

theorem totalSize_take_le (chunks : List Chunk) (k : Nat) :
    totalSize (chunks.take k) ≤ totalSize chunks := by
  induction chunks generalizing k with
  | nil => simp
  | cons chunk rest ih =>
    cases k with
    | zero => simp
    | succ k => simpa using ih k

/-- A chunk that makes up no piece is held back. -/
theorem takeUntil_cons_short (short : held + chunk.size < limit) :
    takeUntil limit held 0 (chunk :: rest) =
      { takeUntil limit (held + chunk.size) 0 rest with
        chunks := chunk :: (takeUntil limit (held + chunk.size) 0 rest).chunks
        asks := (takeUntil limit (held + chunk.size) 0 rest).asks + 1 } := by
  simp [takeUntil, cutPieces, countPieces, Nat.div_eq_of_lt short, Nat.mod_eq_of_lt short]

theorem takeUntil_cons_full (positive : 0 < limit) (full : limit ≤ held + chunk.size) :
    takeUntil limit held 0 (chunk :: rest) =
      ⟨[chunk], 1, limit, (held + chunk.size) % limit, true⟩ := by
  obtain ⟨pieces, some_⟩ : ∃ pieces, (held + chunk.size) / limit = pieces + 1 :=
    Nat.exists_eq_succ_of_ne_zero (Nat.div_pos full positive).ne'
  simp [takeUntil, cutPieces, countPieces, some_]

theorem takeUntil_short (short : held + totalSize chunks < limit) :
    takeUntil limit held 0 chunks =
      ⟨chunks, chunks.length + 1, 0, held + totalSize chunks, false⟩ := by
  induction chunks generalizing held with
  | nil => simp [takeUntil]
  | cons chunk rest ih =>
    rw [totalSize_cons, ← Nat.add_assoc] at short
    rw [takeUntil_cons_short (by omega), ih short]
    simp [Nat.add_assoc]

theorem takeUntil_full (before : held + totalSize (chunks.take k) < limit) (within : k < chunks.length)
    (full : limit ≤ held + totalSize (chunks.take (k + 1))) :
    ∃ left, takeUntil limit held 0 chunks = ⟨chunks.take (k + 1), k + 1, limit, left, true⟩ := by
  induction chunks generalizing held k with
  | nil => simp at within
  | cons chunk rest ih =>
    cases k with
    | zero =>
      have full : limit ≤ held + chunk.size := by simpa using full
      exact ⟨_, takeUntil_cons_full (by omega) full⟩
    | succ k =>
      simp only [List.take_succ_cons, totalSize_cons, ← Nat.add_assoc, List.length_cons] at *
      obtain ⟨left, taken⟩ := ih before (by omega) full
      rw [takeUntil_cons_short (by omega), taken]
      exact ⟨left, rfl⟩

theorem exists_least_reaches (positive : 0 < limit) {n : Nat} (within : n ≤ chunks.length)
    (full : limit ≤ totalSize (chunks.take n)) : ∃ p ≤ n, IsLeast {k | Reaches limit chunks k} p := by
  have some_ : ∃ k, limit ≤ totalSize (chunks.take k) := ⟨n, full⟩
  classical
  have below : Nat.find some_ ≤ n := Nat.find_min' some_ full
  have one : Nat.find some_ ≠ 0 := by
    intro zero
    have full := Nat.find_spec some_
    simp only [zero, List.take_zero, totalSize_nil] at full
    omega
  refine ⟨Nat.find some_, below, ⟨by omega, by omega, Nat.find_spec some_⟩, fun k reaches => ?_⟩
  exact Nat.find_min' some_ reaches.2.2

theorem short_of_least (positive : 0 < limit) (least : IsLeast {k | Reaches limit chunks k} p) :
    totalSize (chunks.take (p - 1)) < limit := by
  obtain ⟨⟨one, within, -⟩, lower⟩ := least
  by_contra full
  have first : 1 ≤ p - 1 := by
    by_contra none_
    have zero : p - 1 = 0 := by omega
    simp only [zero, List.take_zero, totalSize_nil] at full
    omega
  have below : p ≤ p - 1 := lower ⟨first, by omega, by omega⟩
  omega

/-- A stream gives the first `n` of these chunks, which are all of them unless it then fails. -/
structure Stream.Cut (chunks : List Chunk) (fails : Option Nat) (s : Stream) (n : Nat) : Prop where
  within : n ≤ chunks.length
  given : s.chunks = chunks.take n
  fails : ∀ f, fails = some f ∧ f ≤ chunks.length ↔ s.failure.isSome = true ∧ f = n
  whole : s.failure.isSome = false → n = chunks.length

theorem Stream.failing_cut (mode : Mode) (chunks : List Chunk) (fails : Option (Nat × FailureSpec))
    (closeFailure : Option FailureSpec) :
    ∃ n, (failing mode chunks fails closeFailure).Cut chunks (fails.map (·.1)) n := by
  cases fails with
  | none => exact ⟨chunks.length, le_rfl, by simp [failing], by simp [failing], fun _ => rfl⟩
  | some fail =>
    obtain ⟨given, spec⟩ := fail
    by_cases within : given ≤ chunks.length
    · refine ⟨given, within, by simp [failing, within], fun f => ?_, by simp [failing, within]⟩
      simp only [failing, within, if_true, Option.map_some, Option.some.injEq, Option.isSome_some,
        true_and]
      omega
    · refine ⟨chunks.length, le_rfl, by simp [failing, within], fun f => ?_, fun _ => rfl⟩
      simp only [failing, within, if_false, Option.map_some, Option.some.injEq, Option.isSome_none,
        Bool.false_eq_true, false_and, iff_false]
      omega

namespace Stream.Cut

variable {fails : Option Nat} {s : Stream} {n : Nat}

theorem length (cut : s.Cut chunks fails n) : s.chunks.length = n := by
  simp [cut.given, cut.within]

theorem drains_short (cut : s.Cut chunks fails n) (less : totalSize (chunks.take n) < limit) :
    (takeUntil limit 0 0 s.chunks).Drains limit chunks fails s := by
  have taken : takeUntil limit 0 0 s.chunks =
      ⟨chunks.take n, n + 1, 0, totalSize (chunks.take n), false⟩ := by
    rw [takeUntil_short (by simpa [cut.given] using less), cut.length, cut.given, Nat.zero_add]
  have meets : (takeUntil limit 0 0 s.chunks).Meets s ↔ s.failure.isSome = true := by
    simp [Taken.Meets, taken, cut.length]
  have all (unmet : ¬ (takeUntil limit 0 0 s.chunks).Meets s) : n = chunks.length := by
    apply cut.whole
    simpa [meets] using unmet
  constructor
  · intro p least
    obtain ⟨-, within, full⟩ := least.1
    have beyond : n < p := by
      by_contra below
      have le := totalSize_take_le (chunks.take n) p
      rw [List.take_take, Nat.min_eq_left (by omega)] at le
      omega
    refine ⟨?_, fun unmet => absurd (all unmet) (by omega)⟩
    rw [meets]
    constructor
    · exact fun failing => ⟨n, ((cut.fails n).mpr ⟨failing, rfl⟩).1, beyond⟩
    · exact fun ⟨f, at_, below⟩ => ((cut.fails f).mp ⟨at_, by omega⟩).1
  · intro never
    rw [meets]
    refine ⟨⟨fun failing => ⟨n, (cut.fails n).mpr ⟨failing, rfl⟩⟩, ?_⟩, fun unmet => ?_⟩
    · exact fun ⟨f, at_⟩ => ((cut.fails f).mp at_).1
    · obtain rfl := all (by rwa [meets])
      simp [taken]
  · intro met
    obtain ⟨at_, within⟩ := (cut.fails n).mpr ⟨meets.mp met, rfl⟩
    exact ⟨n, at_, within, by simp [taken], by simp [taken]⟩
  · simp only [taken, List.dropLast_eq_take]
    exact (totalSize_take_le _ _).trans_lt less
  · intro unmet
    obtain rfl := all unmet
    rw [List.take_length] at less
    simp [Taken.total, taken]
    omega

theorem drains_full (cut : s.Cut chunks fails n) (positive : 0 < limit)
    (full : limit ≤ totalSize (chunks.take n)) :
    (takeUntil limit 0 0 s.chunks).Drains limit chunks fails s := by
  obtain ⟨p, below, least⟩ := exists_least_reaches positive cut.within full
  have before := short_of_least positive least
  obtain ⟨one, within, reaches⟩ := least.1
  obtain ⟨left, taken⟩ : ∃ left, takeUntil limit 0 0 s.chunks =
      ⟨chunks.take p, p, limit, left, true⟩ := by
    have first : (chunks.take n).take (p - 1) = chunks.take (p - 1) := by
      rw [List.take_take, Nat.min_eq_left (by omega)]
    have next : (chunks.take n).take (p - 1 + 1) = chunks.take p := by
      rw [List.take_take, Nat.sub_add_cancel one, Nat.min_eq_left below]
    have short : 0 + totalSize ((chunks.take n).take (p - 1)) < limit := by simpa [first] using before
    have comes : limit ≤ 0 + totalSize ((chunks.take n).take (p - 1 + 1)) := by
      simpa [next] using reaches
    have stops := takeUntil_full short (by simp; omega) comes
    rwa [next, Nat.sub_add_cancel one, ← cut.given] at stops
  have unmet : ¬ (takeUntil limit 0 0 s.chunks).Meets s := by
    simp [Taken.Meets, taken, cut.length]
    omega
  constructor
  · intro p' least'
    obtain rfl : p = p' := least.unique least'
    refine ⟨iff_of_false unmet ?_, fun _ => by simp [taken]⟩
    rintro ⟨f, at_, earlier⟩
    obtain ⟨-, rfl⟩ := (cut.fails f).mp ⟨at_, by omega⟩
    omega
  · exact fun never => absurd least.1 (never p)
  · exact fun met => absurd met unmet
  · simp only [taken, List.dropLast_eq_take, List.length_take, Nat.min_eq_left within,
      List.take_take, Nat.min_eq_left (Nat.sub_le p 1)]
    exact before
  · intro _
    have le := totalSize_take_le chunks p
    simp [Taken.total, taken]
    omega

theorem drains (cut : s.Cut chunks fails n) (positive : 0 < limit) :
    (takeUntil limit 0 0 s.chunks).Drains limit chunks fails s :=
  (Nat.lt_or_ge _ _).elim cut.drains_short (cut.drains_full positive)

end Stream.Cut

/-- Someone has asked for each chunk that he took, and for one more after all of them unless he stopped
before. -/
structure Taken.From (chunks : List Chunk) (taken : Taken) : Prop where
  few : taken.chunks.length ≤ chunks.length
  asks : taken.asks = taken.chunks.length + if taken.stopped then 0 else 1
  all : taken.stopped = false → taken.chunks = chunks

theorem takeUntil_from (limit held drained : Nat) (chunks : List Chunk) :
    (takeUntil limit held drained chunks).From chunks := by
  induction chunks generalizing held drained with
  | nil => exact ⟨Nat.le_refl _, rfl, fun _ => rfl⟩
  | cons chunk rest ih =>
    simp only [takeUntil]
    obtain ⟨drained, reached⟩ :=
      countPieces limit limit (cutPieces limit held chunk.size).1 drained
    cases reached with
    | true => exact ⟨by simp, rfl, fun going => by cases going⟩
    | false =>
      obtain ⟨few, asks, all⟩ := ih (cutPieces limit held chunk.size).2 drained
      refine ⟨Nat.succ_le_succ few, ?_, fun going => congrArg (chunk :: ·) (all going)⟩
      simp only [asks, List.length_cons]
      omega

theorem Taken.From.meets_iff {s : Stream} {taken : Taken} (from_ : taken.From s.chunks) :
    taken.Meets s ↔ taken.stopped = false ∧ s.failure.isSome = true := by
  obtain ⟨few, asks, all⟩ := from_
  unfold Meets
  rw [asks]
  cases going : taken.stopped with
  | true => simp; omega
  | false => simp [all going]

end

end HttpRetry
