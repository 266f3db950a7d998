import HttpRetry.Logging.Setup
import Mathlib.Data.List.Induction
/-!
The tree of loggers. A name is the sequence of its parts, and where no logger on the way from a name up to
its first part has a level of its own, the name has the level of its first part.
-/
set_option autoImplicit false

namespace HttpRetry.Logging

structure Part (part : String) : Prop where
  nonempty : part ≠ ""
  undotted : '.' ∉ part.toList

instance (part : String) : Decidable (Part part) :=
  decidable_of_iff (part ≠ "" ∧ '.' ∉ part.toList)
    ⟨fun ⟨nonempty, undotted⟩ => ⟨nonempty, undotted⟩, fun is => ⟨is.nonempty, is.undotted⟩⟩

def dotted (parts : List String) : String := ".".intercalate parts

section Names

variable {part : String} {parts : List String}

@[simp]
theorem dotted_singleton (part : String) : dotted [part] = part := by simp [dotted]

theorem dotted_concat (some : parts ≠ []) (part : String) :
    (dotted (parts ++ [part])).toList = (dotted parts).toList ++ '.' :: part.toList := by
  rw [dotted, String.intercalate_append_of_ne_nil some (List.cons_ne_nil part [])]
  simp [dotted]

theorem dotted_cons (some : parts ≠ []) (part : String) :
    (dotted (part :: parts)).toList = part.toList ++ '.' :: (dotted parts).toList := by
  rw [dotted, String.intercalate_cons_of_ne_nil some]
  simp [dotted]

theorem dotted_cons_ne {word : String} (undotted : '.' ∉ word.toList) (some : parts ≠ [])
    (part : String) : dotted (part :: parts) ≠ word := fun same => undotted (by
  rw [← same, dotted_cons some]
  simp)

theorem dotted_ne_empty (is : Part part) (more : List String) : dotted (part :: more) ≠ "" := by
  intro none
  rcases eq_or_ne more [] with rfl | some
  · exact is.nonempty (by simpa using none)
  · simpa [none] using dotted_cons some part

theorem Part.toList_ne_nil (is : Part part) : part.toList ≠ [] := fun empty =>
  is.nonempty (String.toList_eq_nil_iff.mp empty)

theorem reverse_dotted (some : parts ≠ []) (proper : ∀ part ∈ parts, Part part) :
    ∃ c rest, (dotted parts).toList.reverse = c :: rest ∧ c ≠ '.' := by
  have ends (part : String) (is : Part part) (before : List Char) :
      ∃ c rest, (before ++ part.toList).reverse = c :: rest ∧ c ≠ '.' := by
    obtain ⟨c, rest, back⟩ := List.exists_cons_of_ne_nil (List.reverse_ne_nil_iff.mpr is.toList_ne_nil)
    refine ⟨c, rest ++ before.reverse, by simp [back], fun dot => is.undotted ?_⟩
    rw [← List.mem_reverse, back, dot]
    exact List.mem_cons_self
  induction parts using List.reverseRecOn with
  | nil => exact absurd rfl some
  | append_singleton parts part _ =>
    have is := proper part (by simp)
    rcases eq_or_ne parts [] with rfl | more
    · simpa using ends part is []
    · rw [dotted_concat more]
      simpa using ends part is ((dotted parts).toList ++ ['.'])

theorem takeWhile_undotted {word : List Char} (undotted : '.' ∉ word) (rest : List Char) :
    (word ++ '.' :: rest).takeWhile (· ≠ '.') = word := by
  rw [List.takeWhile_append_of_pos fun c mem => by simpa using ne_of_mem_of_not_mem mem undotted]
  simp

/-- The first part of a name decides whether the name lies under a name without dots: as far as the first
dot the two agree, and lookalikes go on with another character. -/
theorem isUnder_dotted {ancestor first : String} (above : Part ancestor) (is : Part first)
    (more : List String) : isUnder ancestor (dotted (first :: more)) = true ↔ first = ancestor := by
  have ends : (ancestor ++ ".").toList = ancestor.toList ++ ['.'] := by simp
  simp only [isUnder, Bool.or_eq_true, decide_eq_true_eq, List.isPrefixOf_iff_prefix, ends]
  rcases eq_or_ne more [] with rfl | below
  · rw [dotted_singleton]
    refine or_iff_left fun before => is.undotted (before.subset ?_)
    simp
  · rw [dotted_cons below, or_iff_right (dotted_cons_ne above.undotted below first)]
    constructor
    · rintro ⟨rest, same⟩
      rw [List.append_assoc, List.singleton_append] at same
      have cut := congrArg (List.takeWhile (· ≠ '.')) same
      rw [takeWhile_undotted above.undotted, takeWhile_undotted is.undotted] at cut
      exact (String.toList_injective cut).symm
    · rintro rfl
      exact ⟨(dotted more).toList, by simp⟩

end Names

namespace Setup

variable (s : Setup) {part : String} {parts : List String}

theorem inherited_undotted {word : List Char} (undotted : '.' ∉ word) (rest : List Char) :
    s.inherited (word ++ rest) = s.inherited rest := by
  induction word with
  | nil => rfl
  | cons c word ih =>
    obtain ⟨other, clean⟩ := not_or.mp (List.mem_cons.not.mp undotted)
    simpa [inherited, Ne.symm other] using ih clean

theorem threshold_concat (some : parts ≠ []) (proper : ∀ part ∈ parts, Part part) (is : Part part)
    (free : s.own (dotted (parts ++ [part])) = 0) :
    s.threshold (dotted (parts ++ [part])) = s.threshold (dotted parts) := by
  obtain ⟨c, rest, back, other⟩ := reverse_dotted some proper
  have above : String.ofList (c :: rest).reverse = dotted parts := by rw [← back]; simp
  have skip : s.inherited (c :: rest) = s.inherited rest :=
    s.inherited_undotted (show '.' ∉ [c] by simpa using other.symm) rest
  have climbs : s.threshold (dotted (parts ++ [part])) = s.inherited ('.' :: c :: rest) := by
    rw [threshold, if_pos free, dotted_concat some, List.reverse_append, List.reverse_cons, back,
      List.append_assoc]
    exact s.inherited_undotted (by simpa using is.undotted) _
  rw [climbs, inherited, above, threshold, own, back]
  cases s.loggers.lookup (dotted parts) with
  | none => simp [skip]
  | some level => cases level <;> simp

theorem threshold_part (is : Part part) (free : s.own part = 0) : s.threshold part = s.root := by
  have backwards : '.' ∉ part.toList.reverse := by simpa using is.undotted
  rw [threshold, if_pos free, ← List.append_nil part.toList.reverse,
    s.inherited_undotted backwards, inherited]

/-- Without levels in between, a name has the threshold of its first part. -/
theorem threshold_dotted (first : String) (more : List String)
    (proper : ∀ part ∈ first :: more, Part part)
    (free : ∀ above, above ≠ [] → above <+: more → s.own (dotted (first :: above)) = 0) :
    s.threshold (dotted (first :: more)) = s.threshold first := by
  induction more using List.reverseRecOn with
  | nil => simp
  | append_singleton more part ih =>
    have upper : ∀ part ∈ first :: more, Part part := fun other mem =>
      proper other (by simp at mem ⊢; tauto)
    rw [← List.cons_append, threshold_concat s (List.cons_ne_nil first more) upper
      (proper part (by simp)) (free _ (by simp) List.prefix_rfl)]
    exact ih upper fun above some before => free above some (before.trans (List.prefix_append more _))

end Setup

end HttpRetry.Logging
