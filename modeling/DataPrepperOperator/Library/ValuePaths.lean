import DataPrepperOperator.Library.Value

/-!
# Texts inside a value

A path leads to at most one place in a value.  Two values are compared by the texts
that a reader finds at their paths: which of them the second one has in addition.
-/

namespace Value

inductive Step where
  | field (key : String)
  | item (index : Nat)
  deriving DecidableEq, Repr

/-- The text at a path, if the path ends at one. -/
def textAt : Value → List Step → Option String
  | .string text, [] => some text
  | .object fields, .field key :: rest => (fields.lookup key).bind fun value => value.textAt rest
  | .list items, .item index :: rest => items[index]?.bind fun value => value.textAt rest
  | _, _ => none
  termination_by structural _ path => path

theorem textAt_object (fields : Fields) (path : List Step) :
    (Value.object fields).textAt path = match path with
      | .field key :: rest => (fields.lookup key).bind fun value => value.textAt rest
      | _ => none := by
  rcases path with _ | ⟨_ | _, _⟩ <;> rfl

theorem textAt_list (items : List Value) (path : List Step) :
    (Value.list items).textAt path = match path with
      | .item index :: rest => items[index]?.bind fun value => value.textAt rest
      | _ => none := by
  rcases path with _ | ⟨_ | _, _⟩ <;> rfl

section Texts

variable {allowed : String → Prop}

def AllTexts (allowed : String → Prop) (value : Value) : Prop :=
  ∀ path text, value.textAt path = some text → allowed text

def AllFieldTexts (allowed : String → Prop) (fields : Fields) : Prop :=
  ∀ entry ∈ fields, AllTexts allowed entry.2

theorem AllTexts.mono {wider : String → Prop} {value : Value} (narrow : AllTexts allowed value)
    (wide : ∀ text, allowed text → wider text) : AllTexts wider value :=
  fun path text found => wide text (narrow path text found)

@[simp] theorem allTexts_bool (value : Bool) : AllTexts allowed (.bool value) := by
  rintro (_ | _) text found <;> cases found

@[simp] theorem allTexts_number (value : Rat) : AllTexts allowed (.number value) := by
  rintro (_ | _) text found <;> cases found

@[simp] theorem allTexts_string {text : String} :
    AllTexts allowed (.string text) ↔ allowed text := by
  constructor
  · intro all
    exact all [] text rfl
  · rintro fits (_ | _) other found
    · cases found
      exact fits
    · cases found

@[simp] theorem allTexts_list {items : List Value} :
    AllTexts allowed (.list items) ↔ ∀ item ∈ items, AllTexts allowed item := by
  constructor
  · intro all item member path text found
    obtain ⟨index, here⟩ := List.getElem?_of_mem member
    apply all (.item index :: path) text
    rw [textAt_list]
    simp only [here, Option.bind_some, found]
  · intro all path text found
    rw [textAt_list] at found
    split at found
    · obtain ⟨item, here, inside⟩ := Option.bind_eq_some_iff.mp found
      exact all item (List.mem_of_getElem? here) _ text inside
    · cases found

theorem mem_of_lookup {fields : Fields} {key : String} {value : Value}
    (found : fields.lookup key = some value) : (key, value) ∈ fields := by
  obtain ⟨front, back, rfl, _⟩ := List.lookup_eq_some_iff.mp found
  simp

theorem allTexts_object {fields : Fields} (all : AllFieldTexts allowed fields) :
    AllTexts allowed (.object fields) := by
  intro path text found
  rw [textAt_object] at found
  split at found
  · obtain ⟨value, here, inside⟩ := Option.bind_eq_some_iff.mp found
    exact all _ (mem_of_lookup here) _ text inside
  · cases found

@[simp] theorem allFieldTexts_nil : AllFieldTexts allowed [] := by
  intro entry member
  cases member

@[simp] theorem allFieldTexts_cons {key : String} {value : Value} {fields : Fields} :
    AllFieldTexts allowed ((key, value) :: fields) ↔
      AllTexts allowed value ∧ AllFieldTexts allowed fields :=
  List.forall_mem_cons

@[simp] theorem allFieldTexts_append {first second : Fields} :
    AllFieldTexts allowed (first ++ second) ↔
      AllFieldTexts allowed first ∧ AllFieldTexts allowed second :=
  List.forall_mem_append

theorem allFieldTexts_setField {fields : Fields} {key : String} {value : Value}
    (all : AllFieldTexts allowed fields) (new : AllTexts allowed value) :
    AllFieldTexts allowed (setField fields key value) := by
  induction fields with
  | nil => exact allFieldTexts_cons.mpr ⟨new, allFieldTexts_nil⟩
  | cons entry rest ih =>
      obtain ⟨own, others⟩ := allFieldTexts_cons.mp all
      unfold setField
      split
      · exact allFieldTexts_cons.mpr ⟨new, others⟩
      · exact allFieldTexts_cons.mpr ⟨own, ih others⟩

theorem allTexts_ofStrings {table : GoMap String}
    (all : ∀ key text, table.lookup key = some text → allowed text) :
    AllTexts allowed (ofStrings table) := by
  apply allTexts_object
  intro entry member
  obtain ⟨key, listed, rfl⟩ := List.mem_map.mp member
  obtain ⟨text, stored⟩ := Option.isSome_iff_exists.mp
    (Finmap.lookup_isSome.mpr (GoMap.mem_sortedKeys.mp listed))
  rw [allTexts_string, stored]
  exact all key text stored

end Texts

section Additions

variable {allowed : String → Prop} {base value : Value}

/-- Every text of `value` is in the same place in `base`, or it is one of the allowed ones. -/
def OnlyAdds (allowed : String → Prop) (base value : Value) : Prop :=
  ∀ path text, value.textAt path = some text → base.textAt path = some text ∨ allowed text

theorem OnlyAdds.refl (value : Value) : OnlyAdds allowed value value :=
  fun _ _ found => .inl found

theorem OnlyAdds.trans {middle : Value} (first : OnlyAdds allowed base middle)
    (second : OnlyAdds allowed middle value) : OnlyAdds allowed base value := by
  intro path text found
  obtain kept | new := second path text found
  · exact first path text kept
  · exact .inr new

/-- New fields bring allowed texts only. -/
theorem onlyAdds_insert {added : Fields} (front back : Fields)
    (all : AllFieldTexts allowed added) :
    OnlyAdds allowed (.object (front ++ back)) (.object (front ++ added ++ back)) := by
  intro path text found
  rw [textAt_object] at found ⊢
  split at found
  · rename_i key rest
    simp only [List.lookup_append] at found ⊢
    cases ahead : front.lookup key with
    | some own =>
        simp only [ahead, Option.some_or] at found ⊢
        exact .inl found
    | none =>
        cases new : added.lookup key with
        | none =>
            simp only [ahead, new, Option.none_or] at found ⊢
            exact .inl found
        | some own =>
            simp only [ahead, new, Option.none_or, Option.some_or, Option.bind_some] at found
            exact .inr (all _ (mem_of_lookup new) rest text found)
  · cases found

theorem onlyAdds_setField {fields others : Fields} (key : String)
    (same : OnlyAdds allowed (.object others) (.object fields))
    (item : OnlyAdds allowed base value) :
    OnlyAdds allowed (.object (setField others key base))
      (.object (setField fields key value)) := by
  intro path text found
  rw [textAt_object] at found ⊢
  split at found
  · rename_i other rest
    by_cases here : other = key
    · subst here
      simp only [lookup_setField_same, Option.bind_some] at found ⊢
      exact item rest text found
    · have outside := same (.field other :: rest) text
      rw [textAt_object, textAt_object] at outside
      simp only [lookup_setField_of_ne _ _ here] at found ⊢
      exact outside found
  · cases found

theorem onlyAdds_single (key : String) (item : OnlyAdds allowed base value) :
    OnlyAdds allowed (.object [(key, base)]) (.object [(key, value)]) :=
  onlyAdds_setField key (OnlyAdds.refl (.object [])) item

/-- One field is replaced by one with further texts. -/
theorem onlyAdds_replace (front back : Fields) (key : String)
    (item : OnlyAdds allowed base value) :
    OnlyAdds allowed (.object (front ++ [(key, base)] ++ back))
      (.object (front ++ [(key, value)] ++ back)) := by
  intro path text found
  rw [textAt_object] at found ⊢
  split at found
  · rename_i other rest
    simp only [List.lookup_append] at found ⊢
    cases ahead : front.lookup other with
    | some own =>
        simp only [ahead, Option.some_or] at found ⊢
        exact .inl found
    | none =>
        by_cases here : other = key
        · subst here
          simp only [ahead, List.lookup_cons_self, Option.none_or, Option.some_or,
            Option.bind_some] at found ⊢
          exact item rest text found
        · have skipped : ∀ entry : Value, List.lookup other [(key, entry)] = none := by
            intro entry
            simp only [List.lookup_cons, List.lookup_nil, beq_false_of_ne here]
          simp only [ahead, skipped, Option.none_or] at found ⊢
          exact .inl found
  · cases found

theorem onlyAdds_list {items others : List Value}
    (each : List.Forall₂ (OnlyAdds allowed) others items) :
    OnlyAdds allowed (.list others) (.list items) := by
  intro path text found
  rw [textAt_list] at found ⊢
  split at found
  · rename_i index rest
    induction each generalizing index with
    | nil => cases found
    | cons head _ ih =>
        cases index with
        | zero => exact head rest text found
        | succ index => exact ih index found
  · cases found

end Additions

end Value
