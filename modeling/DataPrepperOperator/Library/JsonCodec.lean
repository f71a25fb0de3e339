import DataPrepperOperator.Library.Json
import DataPrepperOperator.Library.Value

/-!
# Encoding and decoding typed values

A codec holds what `json.Marshal` and `json.Unmarshal` do at one type.  Decoding
works on a variable that already holds a value.  The law of a codec speaks of a
document whose strings were rewritten in between: what is decoded is the encoded
value, with its strings rewritten.
-/

/-- Strings without braces are left alone. -/
def Fixes (rewrite : String → String) : Prop :=
  ∀ text : String, '{' ∉ text.toList → rewrite text = text

structure Codec (Data : Type) where
  /-- What a fresh variable holds. -/
  zero : Data
  encode : Data → Option Json
  decode : Json → Data → Option Data
  rewrite : (String → String) → Data → Data
  decode_encode : ∀ {change : String → String}, Fixes change → ∀ {value : Data} {document : Json},
    encode value = some document →
      decode (document.mapStrings change) zero = some (rewrite change value)

namespace Codec

variable {Data : Type}

/-- `json.Marshal`. -/
def marshal (codec : Codec Data) (value : Data) : Option (List Char) :=
  (codec.encode value).map Json.text

/-- `json.Unmarshal` into a fresh variable. -/
def unmarshal (codec : Codec Data) (text : List Char) : Option Data :=
  (Json.parse text).bind fun document => codec.decode document codec.zero

/-- The same codec, with its rewriting said in another way. -/
def restate (codec : Codec Data) (rewrite : (String → String) → Data → Data)
    (same : ∀ change value, codec.rewrite change value = rewrite change value) : Codec Data where
  zero := codec.zero
  encode := codec.encode
  decode := codec.decode
  rewrite := rewrite
  decode_encode fixes _ _ encoded := by
    rw [codec.decode_encode fixes encoded, same]

def string : Codec String where
  zero := ""
  encode value := some (.string value)
  decode
    | .string value, _ => some value
    | .null, old => some old
    | _, _ => none
  rewrite change value := change value
  decode_encode _ _ _ encoded := by
    cases encoded
    rfl

def bool : Codec Bool where
  zero := false
  encode value := some (.bool value)
  decode
    | .bool value, _ => some value
    | .null, old => some old
    | _, _ => none
  rewrite _ value := value
  decode_encode _ _ _ encoded := by
    cases encoded
    rfl

/-- A signed integer of this many bits; other numbers are no value of the type. -/
def integer (bits : Nat) : Codec Int where
  zero := 0
  encode value :=
    if -2 ^ (bits - 1) ≤ value ∧ value < 2 ^ (bits - 1) then some (.number (.decimal value 0))
    else none
  decode
    | .number literal, _ =>
        (JsonText.readInt literal.characters).bind fun value =>
          if -2 ^ (bits - 1) ≤ value ∧ value < 2 ^ (bits - 1) then some value else none
    | .null, old => some old
    | _, _ => none
  rewrite _ value := value
  decode_encode _ value document encoded := by
    split_ifs at encoded with inRange
    cases encoded
    simp [Json.mapStrings, JsonText.NumberLiteral.decimal, JsonText.readInt_decimalCharacters,
      inRange]

theorem integer_solid {bits : Nat} {value : Int} : (integer bits).encode value ≠ some .null := by
  simp only [integer]
  split_ifs <;> simp

/-- A string type of which only these texts are values.  Where the empty text is one
of them, it is what `null` leaves in place. -/
def enumeration (zero : Data) (text : Data → String) (read : String → Option Data)
    (read_text : ∀ value, read (text value) = some value)
    (plain : ∀ value, '{' ∉ (text value).toList) : Codec Data where
  zero := zero
  encode value := some (.string (text value))
  decode
    | .string value, _ => read value
    | .null, old => (read "").map fun _ => old
    | _, _ => none
  rewrite _ value := value
  decode_encode fixes value document encoded := by
    cases encoded
    simp only [Json.mapStrings]
    rw [fixes _ (plain value), read_text]

def encodePointer (codec : Codec Data) : Option Data → Option Json
  | none => some .null
  | some value => codec.encode value

/-- `null` sets the pointer to nil; anything else is decoded into what it points to. -/
def decodePointer (codec : Codec Data) : Json → Option Data → Option (Option Data)
  | .null, _ => some none
  | document, old => (codec.decode document (old.getD codec.zero)).map some

theorem decodePointer_encoded (codec : Codec Data) {change : String → String}
    (fixes : Fixes change) {value : Data} {document : Json}
    (encoded : codec.encode value = some document) (solid : document ≠ .null) :
    codec.decodePointer (document.mapStrings change) none =
      some (some (codec.rewrite change value)) := by
  have decoded := codec.decode_encode fixes encoded
  cases document with
  | null => exact absurd rfl solid
  | bool _ | number _ | string _ | array _ | object _ =>
      simp only [Json.mapStrings] at decoded ⊢
      rw [decodePointer, Option.getD_none, decoded, Option.map_some]
      simp

/-- A pointer to values that are never encoded as `null`. -/
def pointer (codec : Codec Data)
    (solid : ∀ {value}, codec.encode value ≠ some .null) : Codec (Option Data) where
  zero := none
  encode := codec.encodePointer
  decode := codec.decodePointer
  rewrite change value := value.map (codec.rewrite change)
  decode_encode fixes value document encoded := by
    cases value with
    | none =>
        cases encoded
        rfl
    | some value =>
        apply codec.decodePointer_encoded fixes encoded
        rintro rfl
        exact solid encoded

/-- A pointer to documents: one to the document `null` is the nil pointer once it was
decoded. -/
def documentPointer [DecidableEq Data] (codec : Codec Data)
    (encode_null : ∀ {value}, codec.encode value = some .null ↔ value = codec.zero) :
    Codec (Option Data) where
  zero := none
  encode := codec.encodePointer
  decode := codec.decodePointer
  rewrite change value := (value.filter (· ≠ codec.zero)).map (codec.rewrite change)
  decode_encode {change} fixes value document encoded := by
    cases value with
    | none =>
        cases encoded
        rfl
    | some value =>
        by_cases blank : value = codec.zero
        · have null : document = .null := by
            rw [encodePointer, encode_null.mpr blank] at encoded
            exact (Option.some.inj encoded).symm
          rw [null, blank]
          simp [Json.mapStrings, decodePointer]
        · have decoded := codec.decodePointer_encoded fixes encoded fun null =>
            blank (encode_null.mp (null ▸ encoded))
          rw [decoded]
          simp [blank]

theorem mapM_decode_encode (codec : Codec Data) {change : String → String}
    (fixes : Fixes change) {values : List Data} {items : List Json}
    (encoded : values.mapM codec.encode = some items) :
    (Json.mapItems change items).mapM (codec.decode · codec.zero) =
      some (values.map (codec.rewrite change)) := by
  induction values generalizing items with
  | nil =>
      cases encoded
      rfl
  | cons value rest ih =>
      rw [List.mapM_cons] at encoded
      obtain ⟨first, encodedFirst, encoded⟩ := Option.bind_eq_some_iff.mp encoded
      obtain ⟨others, encodedOthers, encoded⟩ := Option.bind_eq_some_iff.mp encoded
      cases encoded
      rw [Json.mapItems, List.mapM_cons, codec.decode_encode fixes encodedFirst,
        ih encodedOthers]
      rfl

/-- A slice; the nil slice is `null`, and decoding starts it afresh. -/
def list (codec : Codec Data) : Codec (List Data) where
  zero := []
  encode
    | [] => some .null
    | values => (values.mapM codec.encode).map .array
  decode
    | .null, _ => some []
    | .array items, _ => items.mapM (codec.decode · codec.zero)
    | _, _ => none
  rewrite change values := values.map (codec.rewrite change)
  decode_encode fixes values document encoded := by
    cases values with
    | nil =>
        cases encoded
        rfl
    | cons value rest =>
        obtain ⟨items, encodedItems, rfl⟩ := Option.map_eq_some_iff.mp encoded
        exact codec.mapM_decode_encode fixes encodedItems

/-- Rewrite the keys and the values of a map, in the order of its keys. -/
def rewriteMap (change : String → String) (table : GoMap String) : GoMap String :=
  GoMap.ofList ((GoMap.sortedKeys table).map fun key =>
    (change key, change ((table.lookup key).getD "")))

/-- `table[key] = value`; a `null` stores the empty string. -/
def storeString (table : GoMap String) : String × Json → Option (GoMap String)
  | (key, .string value) => some (table.insert key value)
  | (key, .null) => some (table.insert key "")
  | _ => none

theorem foldlM_storeString (change : String → String) (entries : List (String × String))
    (table : GoMap String) :
    (Json.mapMembers change (entries.map fun (key, value) => (key, .string value))).foldlM
        storeString table =
      some ((entries.map fun (key, value) => (change key, change value)).foldl
        (fun table entry => table.insert entry.1 entry.2) table) := by
  induction entries generalizing table with
  | nil => rfl
  | cons entry rest ih =>
      obtain ⟨key, value⟩ := entry
      exact ih (table.insert (change key) (change value))

def stringMap : Codec (GoMap String) where
  zero := ∅
  encode table :=
    some (.object ((GoMap.sortedKeys table).map fun key =>
      (key, .string ((table.lookup key).getD ""))))
  decode
    | .null, _ => some ∅
    | .object members, table => members.foldlM storeString table
    | _, _ => none
  rewrite := rewriteMap
  decode_encode {change} fixes table document encoded := by
    cases encoded
    have stored := foldlM_storeString change
      ((GoMap.sortedKeys table).map fun key => (key, (table.lookup key).getD "")) ∅
    simp only [List.map_map] at stored
    exact stored

/-- A field of a structure, as its tag describes it. -/
structure Field (Record : Type) where
  name : String
  plain : '{' ∉ name.toList
  /-- The document of the field; `some none` where it is left out. -/
  emit : Record → Option (Option Json)
  absorb : Json → Record → Option Record
  /-- Nothing was decoded into the field yet. -/
  Fresh : Record → Prop
  /-- Store the rewritten field of the first record in the second. -/
  write : (String → String) → Record → Record → Record
  absorb_emit : ∀ {change : String → String}, Fixes change → ∀ {record target document},
    emit record = some (some document) → Fresh target →
      absorb (document.mapStrings change) target = some (write change record target)
  write_omitted : ∀ {change : String → String}, Fixes change → ∀ {record target},
    emit record = some none → Fresh target → write change record target = target

namespace Field

variable {Record : Type}

theorem absorb_encoded (codec : Codec Data) {get : Record → Data} (set : Data → Record → Record)
    {change : String → String} (fixes : Fixes change) {record target : Record} {document : Json}
    (encoded : codec.encode (get record) = some document) (fresh : get target = codec.zero) :
    (codec.decode (document.mapStrings change) (get target)).map (set · target) =
      some (set (codec.rewrite change (get record)) target) := by
  rw [fresh, codec.decode_encode fixes encoded]
  rfl

/-- A field that is always encoded. -/
def required (name : String) (codec : Codec Data) (get : Record → Data)
    (set : Data → Record → Record) (plain : '{' ∉ name.toList := by decide) : Field Record where
  name := name
  plain := plain
  emit record := (codec.encode (get record)).map some
  absorb document record := (codec.decode document (get record)).map (set · record)
  Fresh record := get record = codec.zero
  write change record target := set (codec.rewrite change (get record)) target
  absorb_emit fixes record target document emitted fresh := by
    obtain ⟨_, encoded, equal⟩ := Option.map_eq_some_iff.mp emitted
    cases equal
    exact absorb_encoded codec set fixes encoded fresh
  write_omitted _ _ _ emitted _ := by
    obtain ⟨_, _, impossible⟩ := Option.map_eq_some_iff.mp emitted
    cases impossible

/-- A field with `omitempty`, left out at its zero value. -/
def omitting [DecidableEq Data] (name : String) (codec : Codec Data) (get : Record → Data)
    (set : Data → Record → Record)
    (rewrite_zero : ∀ change, Fixes change → codec.rewrite change codec.zero = codec.zero := by
      intros; rfl)
    (set_get : ∀ record, set (get record) record = record := by intros; rfl)
    (plain : '{' ∉ name.toList := by decide) : Field Record where
  name := name
  plain := plain
  emit record :=
    if get record = codec.zero then some none else (codec.encode (get record)).map some
  absorb document record := (codec.decode document (get record)).map (set · record)
  Fresh record := get record = codec.zero
  write change record target := set (codec.rewrite change (get record)) target
  absorb_emit fixes record target document emitted fresh := by
    split_ifs at emitted
    · cases emitted
    · obtain ⟨_, encoded, equal⟩ := Option.map_eq_some_iff.mp emitted
      cases equal
      exact absorb_encoded codec set fixes encoded fresh
  write_omitted fixes record target emitted fresh := by
    split_ifs at emitted with empty
    · rw [empty, rewrite_zero _ fixes, ← fresh, set_get]
    · obtain ⟨_, _, impossible⟩ := Option.map_eq_some_iff.mp emitted
      cases impossible

/-- A string with `omitempty`. -/
def omittingString (name : String) (get : Record → String) (set : String → Record → Record)
    (set_get : ∀ record, set (get record) record = record := by intros; rfl)
    (plain : '{' ∉ name.toList := by decide) : Field Record :=
  omitting name .string get set (fun _ fixes => fixes "" (by decide)) set_get plain

end Field

section Structure

variable {Record : Type}

/-- Case folding of the letters that a field name can hold: two letters beyond ASCII
fold to ASCII letters. -/
def foldCharacter (character : Char) : Char :=
  if character = '\u017F' then 's' else if character = '\u212A' then 'k' else character.toLower

def foldKey (key : String) : List Char :=
  key.toList.map foldCharacter

/-- The field that a key is decoded into: one with this very name, else one that
differs in case only. -/
def findField (fields : List (Field Record)) (key : String) : Option (Field Record) :=
  (fields.find? fun field => field.name = key).or
    (fields.find? fun field => foldKey field.name = foldKey key)

def encodeFields (record : Record) : List (Field Record) → Option (List (String × Json))
  | [] => some []
  | field :: rest =>
      (field.emit record).bind fun document =>
        (encodeFields record rest).map fun members =>
          (document.map fun document => (field.name, document)).toList ++ members

/-- A member without a field is ignored. -/
def decodeMember (fields : List (Field Record)) (target : Record) (member : String × Json) :
    Option Record :=
  match findField fields member.1 with
  | none => some target
  | some field => field.absorb member.2 target

/-- Store the rewritten fields of a record one after the other. -/
def writeFields (change : String → String) (record : Record) :
    List (Field Record) → Record → Record
  | [], target => target
  | field :: rest, target => writeFields change record rest (field.write change record target)

/-- Each field is still fresh when its turn comes. -/
def FreshAlong (change : String → String) (record : Record) : List (Field Record) → Record → Prop
  | [], _ => True
  | field :: rest, target =>
      field.Fresh target ∧ FreshAlong change record rest (field.write change record target)

theorem findField_name {fields : List (Field Record)} (distinct : (fields.map Field.name).Nodup)
    {field : Field Record} (member : field ∈ fields) :
    findField fields field.name = some field := by
  have found : (fields.find? fun other => other.name = field.name) = some field := by
    induction fields with
    | nil => cases member
    | cons other rest ih =>
        rw [List.map_cons, List.nodup_cons] at distinct
        obtain rfl | listed := List.mem_cons.mp member
        · simp
        · have different : other.name ≠ field.name := by
            intro same
            exact distinct.1 (same ▸ List.mem_map_of_mem listed)
          rw [List.find?_cons_of_neg (by simpa using different),
            ih distinct.2 listed]
  rw [findField, found, Option.some_or]

theorem foldlM_decodeMember {fields : List (Field Record)}
    (distinct : (fields.map Field.name).Nodup) {change : String → String} (fixes : Fixes change)
    {record : Record} {pending : List (Field Record)} (listed : pending ⊆ fields)
    {members : List (String × Json)} (encoded : encodeFields record pending = some members)
    {target : Record} (fresh : FreshAlong change record pending target) :
    (Json.mapMembers change members).foldlM (decodeMember fields) target =
      some (writeFields change record pending target) := by
  induction pending generalizing members target with
  | nil =>
      cases encoded
      rfl
  | cons field rest ih =>
      obtain ⟨emitted, emits, encoded⟩ := Option.bind_eq_some_iff.mp encoded
      obtain ⟨others, encodedOthers, rfl⟩ := Option.map_eq_some_iff.mp encoded
      have later := ih (List.subset_of_cons_subset listed) encodedOthers fresh.2
      cases emitted with
      | none =>
          rw [writeFields, ← later, field.write_omitted fixes emits fresh.1]
          rfl
      | some document =>
          rw [Option.map_some, Option.toList_some, List.singleton_append, Json.mapMembers,
            List.foldlM_cons, fixes _ field.plain, decodeMember,
            findField_name distinct (listed List.mem_cons_self)]
          simp only [field.absorb_emit fixes emits fresh.1]
          exact later

/-- A structure with these fields.  `null` leaves it as it is. -/
def struct (zero : Record) (fields : List (Field Record))
    (rewrite : (String → String) → Record → Record)
    (distinct : (fields.map Field.name).Nodup := by decide)
    (fresh : ∀ change record, FreshAlong change record fields zero := by
      intros; repeat' (first | exact trivial | refine ⟨rfl, ?_⟩))
    (complete : ∀ change record,
      writeFields change record fields zero = rewrite change record := by intros; rfl) :
    Codec Record where
  zero := zero
  encode record := (encodeFields record fields).map .object
  decode
    | .null, old => some old
    | .object members, old => members.foldlM (decodeMember fields) old
    | _, _ => none
  rewrite := rewrite
  decode_encode {change} fixes record document encoded := by
    obtain ⟨members, encodedMembers, rfl⟩ := Option.map_eq_some_iff.mp encoded
    rw [← complete change record]
    exact foldlM_decodeMember distinct fixes (List.Subset.refl _) encodedMembers
      (fresh change record)

theorem struct_solid {zero : Record} {fields : List (Field Record)}
    {rewrite : (String → String) → Record → Record} {distinct fresh complete} {record : Record} :
    (struct zero fields rewrite distinct fresh complete).encode record ≠ some .null := by
  intro encoded
  obtain ⟨_, _, impossible⟩ := Option.map_eq_some_iff.mp encoded
  cases impossible

end Structure

end Codec

namespace Value

section MapStrings

variable (change : String → String)

mutual

/-- Rewrite every string of a value, the keys of objects included. -/
def mapStrings : Value → Value
  | .null => .null
  | .bool value => .bool value
  | .number value => .number value
  | .string value => .string (change value)
  | .list items => .list (mapItems items)
  | .object fields => .object (mapFields fields)

def mapItems : List Value → List Value
  | [] => []
  | item :: rest => mapStrings item :: mapItems rest

def mapFields : List (String × Value) → List (String × Value)
  | [] => []
  | (key, item) :: rest => (change key, mapStrings item) :: mapFields rest

end

end MapStrings

mutual

/-- The document of a value; numbers that are no decimal fractions have none. -/
def toJson : Value → Option Json
  | .null => some .null
  | .bool value => some (.bool value)
  | .number value => (JsonText.NumberLiteral.ofRat value).map .number
  | .string value => some (.string value)
  | .list items => (toJsonItems items).map .array
  | .object fields => (toJsonFields fields).map .object

def toJsonItems : List Value → Option (List Json)
  | [] => some []
  | item :: rest => (toJson item).bind fun document => (toJsonItems rest).map (document :: ·)

def toJsonFields : List (String × Value) → Option (List (String × Json))
  | [] => some []
  | (key, item) :: rest =>
      (toJson item).bind fun document => (toJsonFields rest).map ((key, document) :: ·)

end

mutual

def ofJson : Json → Value
  | .null => .null
  | .bool value => .bool value
  | .number literal => .number literal.value
  | .string value => .string value
  | .array items => .list (ofJsonItems items)
  | .object members => .object (ofJsonMembers members)

def ofJsonItems : List Json → List Value
  | [] => []
  | item :: rest => ofJson item :: ofJsonItems rest

def ofJsonMembers : List (String × Json) → List (String × Value)
  | [] => []
  | (key, item) :: rest => (key, ofJson item) :: ofJsonMembers rest

end

section RoundTrip

variable {change : String → String}

mutual

theorem ofJson_toJson : ∀ {value : Value} {document : Json}, toJson value = some document →
    ofJson (document.mapStrings change) = value.mapStrings change
  | .null, _, rfl => rfl
  | .bool _, _, rfl => rfl
  | .string _, _, rfl => rfl
  | .number value, _, encoded => by
      obtain ⟨literal, decimal, rfl⟩ := Option.map_eq_some_iff.mp encoded
      rw [Json.mapStrings, ofJson, JsonText.NumberLiteral.value_ofRat decimal, mapStrings]
  | .list items, _, encoded => by
      obtain ⟨documents, encodedItems, rfl⟩ := Option.map_eq_some_iff.mp encoded
      rw [Json.mapStrings, ofJson, ofJsonItems_toJsonItems encodedItems, mapStrings]
  | .object fields, _, encoded => by
      obtain ⟨members, encodedFields, rfl⟩ := Option.map_eq_some_iff.mp encoded
      rw [Json.mapStrings, ofJson, ofJsonMembers_toJsonFields encodedFields, mapStrings]

theorem ofJsonItems_toJsonItems : ∀ {items : List Value} {documents : List Json},
    toJsonItems items = some documents →
      ofJsonItems (Json.mapItems change documents) = mapItems change items
  | [], _, rfl => rfl
  | item :: rest, _, encoded => by
      obtain ⟨document, encodedItem, encoded⟩ := Option.bind_eq_some_iff.mp encoded
      obtain ⟨documents, encodedRest, rfl⟩ := Option.map_eq_some_iff.mp encoded
      rw [Json.mapItems, ofJsonItems, ofJson_toJson encodedItem,
        ofJsonItems_toJsonItems encodedRest, mapItems]

theorem ofJsonMembers_toJsonFields :
    ∀ {fields : List (String × Value)} {members : List (String × Json)},
      toJsonFields fields = some members →
        ofJsonMembers (Json.mapMembers change members) = mapFields change fields
  | [], _, rfl => rfl
  | (key, item) :: rest, _, encoded => by
      obtain ⟨document, encodedItem, encoded⟩ := Option.bind_eq_some_iff.mp encoded
      obtain ⟨members, encodedRest, rfl⟩ := Option.map_eq_some_iff.mp encoded
      rw [Json.mapMembers, ofJsonMembers, ofJson_toJson encodedItem,
        ofJsonMembers_toJsonFields encodedRest, mapFields]

end

end RoundTrip

theorem toJson_eq_null {value : Value} : toJson value = some .null ↔ value = .null := by
  cases value <;> simp [toJson]

mutual

theorem mapStrings_id : ∀ value : Value, mapStrings id value = value
  | .null | .bool _ | .number _ | .string _ => rfl
  | .list items => congrArg Value.list (mapItems_id items)
  | .object fields => congrArg Value.object (mapFields_id fields)

theorem mapItems_id : ∀ items : List Value, mapItems id items = items
  | [] => rfl
  | item :: rest => by rw [mapItems, mapStrings_id item, mapItems_id rest]

theorem mapFields_id : ∀ fields : List (String × Value), mapFields id fields = fields
  | [] => rfl
  | (key, item) :: rest => by rw [mapFields, mapStrings_id item, mapFields_id rest, id]

end

/-- The JSON text of a value. -/
def printText (value : Value) : Option String :=
  (toJson value).map fun document => String.ofList document.text

def readText (text : String) : Option Value :=
  (Json.parse text.toList).map ofJson

/-- What is printed is read back. -/
theorem readText_of_printText {value : Value} {text : String}
    (printed : printText value = some text) : readText text = some value := by
  obtain ⟨document, encoded, rfl⟩ := Option.map_eq_some_iff.mp printed
  have parsed : Json.parse document.text = some (document.mapStrings id) := by
    apply Json.parse_layout
    intro value _
    have spelled := JsonText.Reads.flatMap fun character (_ : character ∈ value.toList) =>
      JsonText.Reads.escapeChar character
    rwa [List.flatMap_singleton'] at spelled
  unfold readText
  rw [String.toList_ofList, parsed, Option.map_some, ofJson_toJson encoded, mapStrings_id]

end Value

/-- Rewrite every string of the document that a raw text spells. -/
def RawJSON.mapStrings (change : String → String) : RawJSON → RawJSON
  | .document value => .document (value.mapStrings change)
  | .malformed complaint => .malformed complaint

namespace Codec

def value : Codec Value where
  zero := .null
  encode := Value.toJson
  decode document _ := some (Value.ofJson document)
  rewrite := Value.mapStrings
  decode_encode _ _ _ encoded := congrArg some (Value.ofJson_toJson encoded)

def encodeRaw : RawJSON → Option Json
  | .document value => value.toJson
  | .malformed _ => none

/-- `apiextensionsv1.JSON`: any JSON text, kept as it is. -/
def raw : Codec RawJSON where
  zero := .document .null
  encode := encodeRaw
  decode document _ := some (.document (Value.ofJson document))
  rewrite := RawJSON.mapStrings
  decode_encode _ value _ encoded := by
    cases value with
    | document value => rw [Value.ofJson_toJson encoded, RawJSON.mapStrings]
    | malformed complaint => cases encoded

theorem encodeRaw_eq_null {text : RawJSON} :
    encodeRaw text = some .null ↔ text = .document .null := by
  cases text with
  | document value => rw [encodeRaw, Value.toJson_eq_null, RawJSON.document.injEq]
  | malformed complaint => simp [encodeRaw]

end Codec
