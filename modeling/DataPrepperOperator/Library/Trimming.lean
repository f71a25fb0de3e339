import Mathlib.Data.List.DropRight

/-!
# Trimmed texts

When two lists agree after blanks at their ends have been trimmed and all but their
first elements have been cut off.
-/

namespace Trimming

variable {Letter : Type} {blank : Letter → Bool}

theorem rdropWhile_append_of_all {text tail : List Letter}
    (blanks : ∀ letter ∈ tail, blank letter = true) :
    (text ++ tail).rdropWhile blank = text.rdropWhile blank := by
  unfold List.rdropWhile
  rw [List.reverse_append, List.dropWhile_append_of_pos]
  simpa using blanks

/-- Trimming before the cut makes no difference to trimming after it. -/
theorem rdropWhile_take_rdropWhile (limit : Nat) (text : List Letter) :
    ((text.rdropWhile blank).take limit).rdropWhile blank =
      (text.take limit).rdropWhile blank := by
  have blanks : ∀ letter ∈ text.rtakeWhile blank, blank letter = true :=
    fun _ => List.mem_rtakeWhile_imp
  have split : text = text.rdropWhile blank ++ text.rtakeWhile blank :=
    List.rdropWhile_append_rtakeWhile.symm
  conv => rhs; rw [split, List.take_append]
  exact (rdropWhile_append_of_all fun letter member =>
    blanks letter (List.mem_of_mem_take member)).symm

/-- What is left is as short as the blanks at the end are many. -/
theorem length_rdropWhile_le_iff {text : List Letter} {limit : Nat} :
    (text.rdropWhile blank).length ≤ limit ↔ ∀ letter ∈ text.drop limit, blank letter = true := by
  constructor
  · intro short letter member
    rw [← List.rdropWhile_append_rtakeWhile (p := blank) (l := text), List.drop_append,
      List.drop_of_length_le short, List.nil_append] at member
    exact List.mem_rtakeWhile_imp (List.mem_of_mem_drop member)
  · intro blanks
    rw [← List.take_append_drop limit text, rdropWhile_append_of_all blanks]
    exact (List.rdropWhile_prefix _ _).length_le.trans (List.length_take_le _ _)

theorem rdropWhile_cons (letter : Letter) (text : List Letter) :
    (letter :: text).rdropWhile blank =
      if text.rdropWhile blank = [] then [letter].rdropWhile blank
      else letter :: text.rdropWhile blank := by
  unfold List.rdropWhile
  rw [List.reverse_cons, List.dropWhile_append]
  simp only [List.isEmpty_iff, List.reverse_eq_nil_iff]
  split
  · rfl
  · rw [List.reverse_append]
    rfl

/-- With a single blank letter, two trimmed texts are compared letter by letter. -/
theorem rdropWhile_cons_eq_iff (single : ∀ first second, blank first = true →
      blank second = true → first = second) {first second : Letter} {text other : List Letter} :
    (first :: text).rdropWhile blank = (second :: other).rdropWhile blank ↔
      first = second ∧ text.rdropWhile blank = other.rdropWhile blank := by
  rw [rdropWhile_cons first text, rdropWhile_cons second other]
  by_cases textBlank : text.rdropWhile blank = []
  · by_cases otherBlank : other.rdropWhile blank = []
    · simp only [textBlank, otherBlank, if_true, and_true, List.rdropWhile_singleton]
      by_cases firstBlank : blank first = true
      · by_cases secondBlank : blank second = true
        · simp [secondBlank, single first second firstBlank secondBlank]
        · have different : first ≠ second := fun same => secondBlank (same ▸ firstBlank)
          simp [firstBlank, secondBlank, different]
      · by_cases secondBlank : blank second = true
        · have different : first ≠ second := fun same => firstBlank (same ▸ secondBlank)
          simp [firstBlank, secondBlank, different]
        · simp [firstBlank, secondBlank]
    · rw [if_pos textBlank, if_neg otherBlank, List.rdropWhile_singleton, textBlank]
      have shorter : ∀ tail : List Letter, tail ≠ [] →
          (if blank first = true then [] else [first]) ≠ second :: tail := by
        intro tail nonempty
        split
        · simp
        · simp [nonempty.symm]
      simp [shorter _ otherBlank, Ne.symm otherBlank]
  · by_cases otherBlank : other.rdropWhile blank = []
    · rw [if_neg textBlank, if_pos otherBlank, List.rdropWhile_singleton, otherBlank]
      have shorter : ∀ tail : List Letter, tail ≠ [] →
          first :: tail ≠ (if blank second = true then [] else [second]) := by
        intro tail nonempty
        split
        · simp
        · simp [nonempty]
      simp [shorter _ textBlank, textBlank]
    · rw [if_neg textBlank, if_neg otherBlank, List.cons.injEq]

end Trimming
