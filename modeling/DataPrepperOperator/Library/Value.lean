import Mathlib.Data.Finmap
import Mathlib.Data.List.Sort
import Mathlib.Data.Rat.Defs
import Mathlib.Data.String.Basic

/-!
# Dynamically typed values

Go programs build YAML and JSON documents as trees of `any`.  `Value` is such a
tree, `GoMap` is a `map[string]T`, and `RawJSON` is an undecoded JSON text kept
through what a decoder makes of it.
-/

/-- A Go `map[string]T`; nil and empty maps are the same value. -/
abbrev GoMap (Entry : Type) := Finmap fun _ : String => Entry

namespace GoMap

variable {Entry : Type}

/-- A map literal; a repeated key keeps its last value. -/
def ofList (entries : List (String × Entry)) : GoMap Entry :=
  entries.foldl (fun table entry => table.insert entry.1 entry.2) ∅

/-- `maps.Copy(target, source)`: entries of `source` win. -/
def copy (target source : GoMap Entry) : GoMap Entry :=
  source ∪ target

theorem lookup_copy (target source : GoMap Entry) (key : String) :
    (copy target source).lookup key = (source.lookup key).or (target.lookup key) := by
  unfold copy
  by_cases present : key ∈ source
  · rw [Finmap.lookup_union_left present]
    obtain ⟨entry, found⟩ := Option.isSome_iff_exists.mp (Finmap.lookup_isSome.mpr present)
    simp [found]
  · rw [Finmap.lookup_union_right present, Finmap.lookup_eq_none.mpr present]
    simp

/-- Every entry of the part is in the whole. -/
def Includes (whole part : GoMap Entry) : Prop :=
  ∀ key value, part.lookup key = some value → whole.lookup key = some value

theorem includes_copy_source (target source : GoMap Entry) :
    Includes (copy target source) source := by
  intro key value present
  rw [lookup_copy, present, Option.some_or]

/-- The target survives where the source agrees with it. -/
theorem includes_copy_target_iff {target source : GoMap Entry} :
    Includes (copy target source) target ↔
      ∀ key value, target.lookup key = some value → ∀ other ∈ source.lookup key, other = value := by
  refine forall₃_congr fun key value present => ?_
  rw [lookup_copy, present]
  cases source.lookup key with
  | none | some => simp

theorem ofList_singleton_injective {key : String} {first second : Entry}
    (same : ofList [(key, first)] = ofList [(key, second)]) : first = second := by
  have found := congrArg (Finmap.lookup key) same
  simpa [ofList] using found

/-- An entry that the source overrides does not matter. -/
theorem copy_singleton_eq_iff {source : GoMap Entry} {key : String} {first second : Entry} :
    copy (ofList [(key, first)]) source = copy (ofList [(key, second)]) source ↔
      key ∈ source ∨ first = second := by
  constructor
  · intro same
    by_cases present : key ∈ source
    · exact .inl present
    · right
      have read := congrArg (Finmap.lookup key) same
      rw [lookup_copy, lookup_copy, Finmap.lookup_eq_none.mpr present] at read
      simpa [ofList] using read
  · rintro (present | rfl)
    · apply Finmap.ext_lookup
      intro other
      rw [lookup_copy, lookup_copy]
      by_cases same : other = key
      · subst same
        obtain ⟨entry, found⟩ := Option.isSome_iff_exists.mp (Finmap.lookup_isSome.mpr present)
        simp [found]
      · simp [ofList, same]
    · rfl

/-- `slices.Sort` on strings; byte order and code point order agree on UTF-8. -/
def sortStrings (keys : List String) : List String :=
  keys.insertionSort (· ≤ ·)

theorem sortStrings_perm (keys : List String) : (sortStrings keys).Perm keys :=
  List.perm_insertionSort _ keys

/-- Sorting forgets the order in which the keys were collected. -/
theorem sortStrings_eq_of_perm {keys order : List String} (permuted : order.Perm keys) :
    sortStrings order = sortStrings keys := by
  apply List.Perm.eq_of_pairwise (fun (_ _ : String) _ _ => le_antisymm)
  · exact List.pairwise_insertionSort _ order
  · exact List.pairwise_insertionSort _ keys
  · exact (sortStrings_perm order).trans (permuted.trans (sortStrings_perm keys).symm)

/-- The keys of a map, sorted. -/
def sortedKeys (table : GoMap Entry) : List String :=
  Quotient.liftOn table.keys.val sortStrings fun _ _ permuted =>
    sortStrings_eq_of_perm permuted

theorem sortedKeys_perm (table : GoMap Entry) {keys : List String}
    (listed : table.keys.val = keys) : (sortedKeys table).Perm keys := by
  unfold sortedKeys
  rw [listed]
  exact sortStrings_perm keys

theorem mem_sortedKeys {table : GoMap Entry} {key : String} :
    key ∈ sortedKeys table ↔ key ∈ table := by
  obtain ⟨keys, listed⟩ := Quot.exists_rep table.keys.val
  rw [(sortedKeys_perm table listed.symm).mem_iff, ← Finmap.mem_keys, ← Finset.mem_val,
    ← listed]
  exact Multiset.mem_coe.symm

theorem nodup_sortedKeys (table : GoMap Entry) : (sortedKeys table).Nodup := by
  obtain ⟨keys, listed⟩ := Quot.exists_rep table.keys.val
  apply (sortedKeys_perm table listed.symm).nodup_iff.mpr
  have nodup : Multiset.Nodup (Quot.mk _ keys) := by
    rw [listed]
    exact table.keys.nodup
  exact Multiset.coe_nodup.mp nodup

/-- The sorted keys are determined by which keys are present. -/
theorem sortedKeys_congr {first second : GoMap Entry} (same : first.keys = second.keys) :
    sortedKeys first = sortedKeys second := by
  unfold sortedKeys
  rw [same]

theorem sortedKeys_insert_of_mem {table : GoMap Entry} {key : String} {entry : Entry}
    (present : key ∈ table) : sortedKeys (table.insert key entry) = sortedKeys table := by
  apply sortedKeys_congr
  ext other
  simp only [Finmap.mem_keys, Finmap.mem_insert, or_iff_right_iff_imp]
  rintro rfl
  exact present

theorem sortedKeys_ofList_singleton (key : String) (entry : Entry) :
    sortedKeys (ofList [(key, entry)]) = [key] :=
  rfl

/-- Collecting the keys in any order and sorting them gives the same list. -/
theorem sortStrings_of_perm_sortedKeys {table : GoMap Entry} {order : List String}
    (permuted : order.Perm (sortedKeys table)) : sortStrings order = sortedKeys table := by
  obtain ⟨keys, listed⟩ := Quot.exists_rep table.keys.val
  have overKeys := permuted.trans (sortedKeys_perm table listed.symm)
  rw [sortStrings_eq_of_perm overKeys]
  unfold sortedKeys
  rw [← listed]

end GoMap

/-- A tree of `any`.  Objects keep their fields in insertion order. -/
inductive Value where
  | null
  | bool (value : Bool)
  | number (value : Rat)
  | string (value : String)
  | list (items : List Value)
  | object (fields : List (String × Value))

namespace Value

mutual

def decEq : (first second : Value) → Decidable (first = second)
  | .null, .null => isTrue rfl
  | .bool first, .bool second =>
      if equal : first = second then isTrue (by rw [equal])
      else isFalse (by simpa using equal)
  | .number first, .number second =>
      if equal : first = second then isTrue (by rw [equal])
      else isFalse (by simpa using equal)
  | .string first, .string second =>
      if equal : first = second then isTrue (by rw [equal])
      else isFalse (by simpa using equal)
  | .list first, .list second =>
      match decEqItems first second with
      | isTrue equal => isTrue (by rw [equal])
      | isFalse different => isFalse (by simpa using different)
  | .object first, .object second =>
      match decEqFields first second with
      | isTrue equal => isTrue (by rw [equal])
      | isFalse different => isFalse (by simpa using different)
  | .null, .bool _ | .null, .number _ | .null, .string _ | .null, .list _ | .null, .object _
  | .bool _, .null | .bool _, .number _ | .bool _, .string _ | .bool _, .list _
  | .bool _, .object _
  | .number _, .null | .number _, .bool _ | .number _, .string _ | .number _, .list _
  | .number _, .object _
  | .string _, .null | .string _, .bool _ | .string _, .number _ | .string _, .list _
  | .string _, .object _
  | .list _, .null | .list _, .bool _ | .list _, .number _ | .list _, .string _
  | .list _, .object _
  | .object _, .null | .object _, .bool _ | .object _, .number _ | .object _, .string _
  | .object _, .list _ => isFalse (by simp)

def decEqItems : (first second : List Value) → Decidable (first = second)
  | [], [] => isTrue rfl
  | [], _ :: _ => isFalse (by simp)
  | _ :: _, [] => isFalse (by simp)
  | first :: rest, second :: others =>
      match decEq first second, decEqItems rest others with
      | isTrue head, isTrue tail => isTrue (by rw [head, tail])
      | isFalse different, _ => isFalse (by simp [different])
      | _, isFalse different => isFalse (by simp [different])

def decEqFields : (first second : List (String × Value)) → Decidable (first = second)
  | [], [] => isTrue rfl
  | [], _ :: _ => isFalse (by simp)
  | _ :: _, [] => isFalse (by simp)
  | (key, first) :: rest, (otherKey, second) :: others =>
      if keys : key = otherKey then
        match decEq first second, decEqFields rest others with
        | isTrue head, isTrue tail => isTrue (by rw [keys, head, tail])
        | isFalse different, _ => isFalse (by simp [different])
        | _, isFalse different => isFalse (by simp [different])
      else
        isFalse (by simp [keys])

end

instance : DecidableEq Value := decEq

/-- The fields of an object value. -/
abbrev Fields := List (String × Value)

/-- `target[key] = value`. -/
def setField : Fields → String → Value → Fields
  | [], key, value => [(key, value)]
  | (present, old) :: rest, key, value =>
      if present = key then (key, value) :: rest
      else (present, old) :: setField rest key value

/-- `maps.Copy(target, source)`. -/
def copyFields (target source : Fields) : Fields :=
  source.foldl (fun fields entry => setField fields entry.1 entry.2) target

theorem lookup_setField_same (fields : Fields) (key : String) (value : Value) :
    (setField fields key value).lookup key = some value := by
  induction fields with
  | nil => simp [setField]
  | cons entry rest ih =>
      obtain ⟨present, old⟩ := entry
      by_cases same : present = key
      · simp [setField, same]
      · have different : (key == present) = false := by simp [Ne.symm same]
        simp [setField, same, List.lookup_cons, different, ih]

theorem lookup_setField_of_ne (fields : Fields) {key other : String} (value : Value)
    (different : other ≠ key) : (setField fields key value).lookup other = fields.lookup other := by
  have unequal : (other == key) = false := by simp [different]
  induction fields with
  | nil => simp [setField, List.lookup_cons, unequal]
  | cons entry rest ih =>
      obtain ⟨present, old⟩ := entry
      by_cases same : present = key
      · simp [setField, same, List.lookup_cons, unequal]
      · simp [setField, same, List.lookup_cons, ih]

/-- A map of strings as an object value. -/
def ofStrings (table : GoMap String) : Value :=
  .object ((GoMap.sortedKeys table).map fun key => (key, .string ((table.lookup key).getD "")))

/-- A `map[string]any` has no order; trees that differ only in the order of their
fields stand for the same document. -/
def sortFields (fields : Fields) : Fields :=
  fields.insertionSort fun first second => first.1 ≤ second.1

theorem lookup_orderedInsert (fields : Fields) (entry : String × Value) (key : String) :
    (fields.orderedInsert (fun first second => first.1 ≤ second.1) entry).lookup key =
      (entry :: fields).lookup key := by
  induction fields with
  | nil => rfl
  | cons first rest ih =>
      rw [List.orderedInsert_cons]
      split
      · rfl
      · rename_i later
        have different : entry.1 ≠ first.1 := fun same => later (le_of_eq same)
        rw [List.lookup_cons, ih, List.lookup_cons, List.lookup_cons,
          List.lookup_cons]
        by_cases atFirst : key = first.1
        · have other : (key == entry.1) = false := by simp [atFirst, different.symm]
          rw [other]
        · have other : (key == first.1) = false := by simp [atFirst]
          rw [other]

theorem lookup_sortFields (fields : Fields) (key : String) :
    (sortFields fields).lookup key = fields.lookup key := by
  induction fields with
  | nil => rfl
  | cons entry rest ih =>
      unfold sortFields at ih ⊢
      rw [List.insertionSort_cons, lookup_orderedInsert, List.lookup_cons, List.lookup_cons,
        ih]

mutual

/-- The tree with the fields of every object sorted. -/
def canonical : Value → Value
  | .list items => .list (canonicalItems items)
  | .object fields => .object (sortFields (canonicalFields fields))
  | .null => .null
  | .bool value => .bool value
  | .number value => .number value
  | .string value => .string value

def canonicalItems : List Value → List Value
  | [] => []
  | item :: rest => canonical item :: canonicalItems rest

def canonicalFields : List (String × Value) → List (String × Value)
  | [] => []
  | (key, item) :: rest => (key, canonical item) :: canonicalFields rest

end

theorem canonicalItems_eq_map (items : List Value) :
    canonicalItems items = items.map canonical := by
  induction items with
  | nil => rfl
  | cons item rest ih => rw [canonicalItems, ih, List.map_cons]

theorem lookup_canonicalFields (fields : Fields) (key : String) :
    (sortFields (canonicalFields fields)).lookup key = (fields.lookup key).map canonical := by
  rw [lookup_sortFields]
  induction fields with
  | nil => rfl
  | cons entry rest ih =>
      obtain ⟨present, value⟩ := entry
      rw [canonicalFields, List.lookup_cons, List.lookup_cons, ih]
      split <;> rfl

/-- The same document has the same entries. -/
theorem lookup_eq_of_canonical {first second : Fields}
    (same : (Value.object first).canonical = (Value.object second).canonical) (key : String) :
    (first.lookup key).map canonical = (second.lookup key).map canonical := by
  simp only [canonical, Value.object.injEq] at same
  rw [← lookup_canonicalFields, ← lookup_canonicalFields, same]

/-- Numbers a decoder can store in a `float64`. -/
def float64Limit : Rat := 2 ^ 1024 - 2 ^ 970

/-- The nearest integer to a fraction; of two, the even one. -/
def roundEven (numerator : Int) (denominator : Nat) : Int :=
  let below := numerator / denominator
  let rest := numerator % denominator
  if 2 * rest < denominator ∨ 2 * rest = denominator ∧ below % 2 = 0 then below else below + 1

/-- The exponent of the last bit that a `float64` of this size keeps. -/
def float64Exponent (value : Rat) : Int :=
  let guess : Int := value.num.natAbs.log2 - value.den.log2
  let exponent :=
    if value.num.natAbs * 2 ^ (-guess).toNat < value.den * 2 ^ guess.toNat then guess - 1
    else guess
  max exponent (-1022) - 52

/-- The `float64` nearest to a number. -/
def toFloat64 (value : Rat) : Rat :=
  let exponent := float64Exponent value
  mkRat (roundEven (value.num * 2 ^ (-exponent).toNat) (value.den * 2 ^ exponent.toNat) *
    2 ^ exponent.toNat) (2 ^ (-exponent).toNat)

example : toFloat64 (1 / 10) = 3602879701896397 / 2 ^ 55 ∧ toFloat64 (2 ^ 53 + 1) = 2 ^ 53 ∧
    toFloat64 (-2021) = -2021 := by
  decide +kernel

mutual

/-- The tree with every number stored in a `float64`. -/
def rounded : Value → Value
  | .number value => .number (toFloat64 value)
  | .list items => .list (roundedItems items)
  | .object fields => .object (roundedFields fields)
  | .null => .null
  | .bool value => .bool value
  | .string value => .string value

def roundedItems : List Value → List Value
  | [] => []
  | item :: rest => rounded item :: roundedItems rest

def roundedFields : List (String × Value) → List (String × Value)
  | [] => []
  | (key, item) :: rest => (key, rounded item) :: roundedFields rest

end

mutual

/-- Whether every number fits. -/
def inRange : Value → Bool
  | .number value => decide (-float64Limit < value ∧ value < float64Limit)
  | .list items => itemsInRange items
  | .object fields => fieldsInRange fields
  | .null | .bool _ | .string _ => true

def itemsInRange : List Value → Bool
  | [] => true
  | item :: rest => inRange item && itemsInRange rest

def fieldsInRange : List (String × Value) → Bool
  | [] => true
  | (_, item) :: rest => inRange item && fieldsInRange rest

end

/-- `maxNestingDepth` of the JSON scanner. -/
def maxNestingDepth : Nat := 10000

mutual

/-- The bracket at which the scanner gives up when it may open this many more. -/
def overNested : Value → Nat → Option Char
  | .list _, 0 => some '['
  | .list items, allowed + 1 => itemsOverNested items allowed
  | .object _, 0 => some '\x7b'
  | .object fields, allowed + 1 => fieldsOverNested fields allowed
  | .null, _ | .bool _, _ | .number _, _ | .string _, _ => none

def itemsOverNested : List Value → Nat → Option Char
  | [], _ => none
  | item :: rest, allowed => (overNested item allowed).or (itemsOverNested rest allowed)

def fieldsOverNested : List (String × Value) → Nat → Option Char
  | [], _ => none
  | (_, item) :: rest, allowed => (overNested item allowed).or (fieldsOverNested rest allowed)

end

/-- Whether decoding into `any` succeeds: deep nesting and numbers outside the range
of `float64` are refused. -/
def decodable (value : Value) : Bool :=
  (value.overNested maxNestingDepth).isNone && value.inRange

/-- How the decoder names the JSON type it met. -/
def typeName : Value → String
  | .null => "null"
  | .bool _ => "bool"
  | .number _ => "number"
  | .string _ => "string"
  | .list _ => "array"
  | .object _ => "object"

end Value

/-- An undecoded JSON text: either the value it spells, or the complaint of the
decoder. -/
inductive RawJSON where
  | document (value : Value)
  | malformed (complaint : String)
  deriving DecidableEq

namespace RawJSON

/-- The scan of the whole text that comes before any decoding. -/
def checkValid (value : Value) : Except String Unit :=
  match value.overNested Value.maxNestingDepth with
  | none => .ok ()
  | some bracket => .error ("invalid character '" ++ bracket.toString ++ "' exceeded max depth")

/-- `json.Unmarshal` into `any`, where numbers become `float64`. -/
def unmarshalAny : RawJSON → Except String Value
  | .malformed complaint => .error complaint
  | .document value => do
      checkValid value
      if value.inRange then .ok value.rounded
      else .error "json: cannot unmarshal number into Go value of type float64"

theorem unmarshalAny_document_ok_iff {value decoded : Value} :
    (document value).unmarshalAny = .ok decoded ↔
      value.decodable = true ∧ decoded = value.rounded := by
  unfold unmarshalAny checkValid Value.decodable
  cases nesting : value.overNested Value.maxNestingDepth with
  | some bracket => simp [nesting, bind, Except.bind]
  | none =>
      cases range : value.inRange with
      | true => simp [nesting, range, bind, Except.bind, eq_comm]
      | false => simp [nesting, range, bind, Except.bind]

/-- `json.Unmarshal` into `map[string]any`: `null` leaves the map nil. -/
def unmarshalMap : RawJSON → Except String Value.Fields
  | .malformed complaint => .error complaint
  | .document value => do
      checkValid value
      match value with
      | .null => .ok []
      | .object fields =>
          if value.inRange then .ok (Value.roundedFields fields)
          else .error "json: cannot unmarshal number into Go value of type float64"
      | other =>
          .error ("json: cannot unmarshal " ++ other.typeName ++
            " into Go value of type map[string]interface \x7b\x7d")

/-- Only objects and `null` fit into a map. -/
theorem unmarshalMap_document_ok_iff {value : Value} :
    (∃ fields, (document value).unmarshalMap = .ok fields) ↔
      value.decodable = true ∧ (value = .null ∨ ∃ fields, value = .object fields) := by
  unfold unmarshalMap checkValid Value.decodable
  cases nesting : value.overNested Value.maxNestingDepth with
  | some bracket => simp [nesting, bind, Except.bind]
  | none =>
      cases value with
      | null => simp [nesting, bind, Except.bind, Value.inRange]
      | object fields =>
          cases range : (Value.object fields).inRange <;>
            simp [nesting, range, bind, Except.bind]
      | _ => simp [nesting, bind, Except.bind]

end RawJSON
