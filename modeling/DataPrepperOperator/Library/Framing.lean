import Mathlib.Logic.Relation
import Mathlib.Data.List.Basic

/-!
# Fields written without separators

A stream that is written field by field, with nothing between the fields, keeps
their concatenation and forgets where they end.  `Regroup` moves one boundary;
two field lists leave the same stream exactly when boundary moves lead from one
to the other.
-/

namespace Framing

open Relation

variable {Symbol : Type}

/-- Move one boundary: join two neighbouring fields, or drop an empty one. -/
inductive Regroup : List (List Symbol) → List (List Symbol) → Prop where
  | join (first second : List Symbol) (rest : List (List Symbol)) :
      Regroup (first :: second :: rest) ((first ++ second) :: rest)
  | drop (rest : List (List Symbol)) : Regroup ([] :: rest) rest
  | later (field : List Symbol) {before after : List (List Symbol)} :
      Regroup before after → Regroup (field :: before) (field :: after)

/-- Equal up to moving boundaries. -/
abbrev SameUpToBoundaries : List (List Symbol) → List (List Symbol) → Prop :=
  EqvGen Regroup

theorem Regroup.flatten_eq {before after : List (List Symbol)} (moved : Regroup before after) :
    before.flatten = after.flatten := by
  induction moved with
  | join | drop => simp
  | later field _ ih => simp [ih]

theorem SameUpToBoundaries.later {before after : List (List Symbol)} (field : List Symbol)
    (same : SameUpToBoundaries before after) :
    SameUpToBoundaries (field :: before) (field :: after) := by
  induction same with
  | rel before after moved => exact .rel _ _ (.later field moved)
  | refl fields => exact .refl _
  | symm before after _ ih => exact .symm _ _ ih
  | trans before middle after _ _ first second => exact .trans _ _ _ first second

/-- Every boundary can be removed. -/
theorem sameUpToBoundaries_flatten (fields : List (List Symbol)) :
    SameUpToBoundaries fields [fields.flatten] := by
  induction fields with
  | nil => exact .symm _ _ (.rel _ _ (.drop []))
  | cons field rest ih =>
      have joined : SameUpToBoundaries [field, rest.flatten] [field ++ rest.flatten] :=
        .rel _ _ (.join field rest.flatten [])
      exact .trans _ _ _ (ih.later field) joined

theorem flatten_eq_iff_sameUpToBoundaries {first second : List (List Symbol)} :
    first.flatten = second.flatten ↔ SameUpToBoundaries first second := by
  constructor
  · intro equal
    have fromSecond := sameUpToBoundaries_flatten second
    rw [← equal] at fromSecond
    exact .trans _ _ _ (sameUpToBoundaries_flatten first) (.symm _ _ fromSecond)
  · intro same
    induction same with
    | rel before after moved => exact moved.flatten_eq
    | refl fields => rfl
    | symm before after _ ih => exact ih.symm
    | trans before middle after _ _ first second => exact first.trans second

/-- A single changed field is never lost. -/
theorem not_sameUpToBoundaries_of_changed (before after : List (List Symbol))
    {old new : List Symbol} (changed : old ≠ new) :
    ¬SameUpToBoundaries (before ++ old :: after) (before ++ new :: after) := by
  rw [← flatten_eq_iff_sameUpToBoundaries, List.flatten_append, List.flatten_append,
    List.flatten_cons, List.flatten_cons, List.append_right_inj, List.append_left_inj]
  exact changed

/-- Two maps that differ at a single item of a list write the same fields around
it. -/
theorem exists_around_flatMap {Item Field : Type} {items : List Item} {target : Item}
    {first second : Item → List Field} (nodup : items.Nodup) (member : target ∈ items)
    (same : ∀ item ∈ items, item ≠ target → first item = second item) :
    ∃ before after, items.flatMap first = before ++ first target ++ after ∧
      items.flatMap second = before ++ second target ++ after := by
  obtain ⟨before, after, rfl⟩ := List.append_of_mem member
  obtain ⟨_, laterNodup, disjoint⟩ := List.nodup_append.mp nodup
  have earlier : before.flatMap first = before.flatMap second :=
    List.flatMap_congr fun item listed => same item (by simp [listed])
      (disjoint item listed target List.mem_cons_self)
  have later : after.flatMap first = after.flatMap second := by
    apply List.flatMap_congr
    intro item listed
    apply same item (by simp [listed])
    rintro rfl
    exact (List.nodup_cons.mp laterNodup).1 listed
  refine ⟨before.flatMap first, after.flatMap first, by simp, ?_⟩
  rw [earlier, later]
  simp

end Framing
