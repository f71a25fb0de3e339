import DataPrepperOperator.Library.JsonText

/-!
# JSON documents and their texts

The layout of a document is generic in the symbols it is made of and in how a
string is spelled, so that texts and templates of texts share it.  The parser
accepts every JSON text.  A text whose strings are spelled in any way that the
parser reads back is parsed to the document with those strings.
-/

/-- A JSON document.  Objects keep the order and the repetitions of their members. -/
inductive Json where
  | null
  | bool (value : Bool)
  | number (literal : JsonText.NumberLiteral)
  | string (value : String)
  | array (items : List Json)
  | object (members : List (String × Json))

namespace Json

open JsonText

mutual

/-- The strings of a document, the keys of its objects included. -/
def strings : Json → List String
  | .null | .bool _ | .number _ => []
  | .string value => [value]
  | .array items => itemStrings items
  | .object members => memberStrings members

def itemStrings : List Json → List String
  | [] => []
  | item :: rest => strings item ++ itemStrings rest

def memberStrings : List (String × Json) → List String
  | [] => []
  | (key, item) :: rest => key :: (strings item ++ memberStrings rest)

end

section MapStrings

variable (rewrite : String → String)

mutual

/-- Rewrite every string, the keys of objects included. -/
def mapStrings : Json → Json
  | .null => .null
  | .bool value => .bool value
  | .number literal => .number literal
  | .string value => .string (rewrite value)
  | .array items => .array (mapItems items)
  | .object members => .object (mapMembers members)

def mapItems : List Json → List Json
  | [] => []
  | item :: rest => mapStrings item :: mapItems rest

def mapMembers : List (String × Json) → List (String × Json)
  | [] => []
  | (key, item) :: rest => (rewrite key, mapStrings item) :: mapMembers rest

end

end MapStrings

section Layout

variable {Symbol : Type} (literal : Char → Symbol) (content : String → List Symbol)

def layoutString (value : String) : List Symbol :=
  literal '"' :: (content value ++ [literal '"'])

mutual

/-- A document without insignificant blanks. -/
def layout : Json → List Symbol
  | .null => ['n', 'u', 'l', 'l'].map literal
  | .bool true => ['t', 'r', 'u', 'e'].map literal
  | .bool false => ['f', 'a', 'l', 's', 'e'].map literal
  | .number value => value.characters.map literal
  | .string value => layoutString literal content value
  | .array [] => [literal '[', literal ']']
  | .array (first :: rest) => literal '[' :: (layout first ++ layoutItems rest)
  | .object [] => [literal '{', literal '}']
  | .object ((key, first) :: rest) =>
      literal '{' ::
        (layoutString literal content key ++ literal ':' :: (layout first ++ layoutMembers rest))

/-- The items after the first, and the end of the array. -/
def layoutItems : List Json → List Symbol
  | [] => [literal ']']
  | item :: rest => literal ',' :: (layout item ++ layoutItems rest)

/-- The members after the first, and the end of the object. -/
def layoutMembers : List (String × Json) → List Symbol
  | [] => [literal '}']
  | (key, item) :: rest =>
      literal ',' ::
        (layoutString literal content key ++ literal ':' :: (layout item ++ layoutMembers rest))

end

variable {literal content} {Other : Type} {otherLiteral : Char → Other}
  {otherContent : String → List Other} {replace : Symbol → List Other}

/-- Replacing symbols turns the contents of these strings into the other contents. -/
def Replaces (replace : Symbol → List Other) (content : String → List Symbol)
    (otherContent : String → List Other) (values : List String) : Prop :=
  ∀ value ∈ values, (content value).flatMap replace = otherContent value

theorem layoutString_flatMap (keeps : ∀ symbol, replace (literal symbol) = [otherLiteral symbol])
    {value : String} (replaced : (content value).flatMap replace = otherContent value) :
    (layoutString literal content value).flatMap replace =
      layoutString otherLiteral otherContent value := by
  simp [layoutString, keeps, replaced]

mutual

/-- Replacing symbols replaces the contents of strings and keeps the layout. -/
theorem layout_flatMap (keeps : ∀ symbol, replace (literal symbol) = [otherLiteral symbol]) :
    ∀ document : Json, Replaces replace content otherContent document.strings →
      (layout literal content document).flatMap replace =
        layout otherLiteral otherContent document
  | .null, _ | .bool true, _ | .bool false, _ | .array [], _ | .object [], _ => by
      simp [layout, keeps]
  | .number value, _ => by
      simp only [layout, List.flatMap_map, keeps]
      exact List.map_eq_flatMap.symm
  | .string value, replaced =>
      layoutString_flatMap keeps (replaced value List.mem_cons_self)
  | .array (first :: rest), replaced => by
      simp only [Replaces, strings, itemStrings, List.forall_mem_append] at replaced
      simp [layout, keeps, layout_flatMap keeps first replaced.1,
        layoutItems_flatMap keeps rest replaced.2]
  | .object ((key, first) :: rest), replaced => by
      simp only [Replaces, strings, memberStrings, List.forall_mem_cons,
        List.forall_mem_append] at replaced
      simp [layout, keeps, layoutString_flatMap keeps replaced.1,
        layout_flatMap keeps first replaced.2.1, layoutMembers_flatMap keeps rest replaced.2.2]

theorem layoutItems_flatMap (keeps : ∀ symbol, replace (literal symbol) = [otherLiteral symbol]) :
    ∀ items : List Json, Replaces replace content otherContent (itemStrings items) →
      (layoutItems literal content items).flatMap replace =
        layoutItems otherLiteral otherContent items
  | [], _ => by simp [layoutItems, keeps]
  | item :: rest, replaced => by
      simp only [Replaces, itemStrings, List.forall_mem_append] at replaced
      simp [layoutItems, keeps, layout_flatMap keeps item replaced.1,
        layoutItems_flatMap keeps rest replaced.2]

theorem layoutMembers_flatMap
    (keeps : ∀ symbol, replace (literal symbol) = [otherLiteral symbol]) :
    ∀ members : List (String × Json),
      Replaces replace content otherContent (memberStrings members) →
      (layoutMembers literal content members).flatMap replace =
        layoutMembers otherLiteral otherContent members
  | [], _ => by simp [layoutMembers, keeps]
  | (key, item) :: rest, replaced => by
      simp only [Replaces, memberStrings, List.forall_mem_cons, List.forall_mem_append] at replaced
      simp [layoutMembers, keeps, layoutString_flatMap keeps replaced.1,
        layout_flatMap keeps item replaced.2.1, layoutMembers_flatMap keeps rest replaced.2.2]

end

end Layout

/-- `json.Marshal`. -/
def text (document : Json) : List Char :=
  layout id (fun value => value.toList.flatMap escapeChar) document

def isBlank (character : Char) : Bool :=
  character == ' ' || character == '\t' || character == '\n' || character == '\r'

def skipBlanks (characters : List Char) : List Char :=
  characters.dropWhile isBlank

def parseNumber (characters : List Char) : Option (Json × List Char) :=
  let literal := characters.takeWhile isNumberChar
  if valid : (readNumber literal).isSome = true then
    some (.number { characters := literal, numeric := List.all_takeWhile, valid := valid },
      characters.dropWhile isNumberChar)
  else none

/-- A string after its opening quote. -/
def parseString (characters : List Char) : Option (String × List Char) :=
  (readContent none characters).map fun (content, rest) => (String.ofList content, rest)

/-- A key after its opening quote, and its colon. -/
def parseKey (characters : List Char) : Option (String × List Char) :=
  (parseString characters).bind fun (key, rest) =>
    match skipBlanks rest with
    | ':' :: rest => some (key, rest)
    | _ => none

mutual

/-- A value and what follows it.  Each nested value and each further item or
member takes one unit of fuel. -/
def parseValue : Nat → List Char → Option (Json × List Char)
  | 0, _ => none
  | fuel + 1, characters =>
      match skipBlanks characters with
      | '"' :: rest => (parseString rest).map fun (value, rest) => (.string value, rest)
      | '[' :: rest =>
          match skipBlanks rest with
          | ']' :: rest => some (.array [], rest)
          | rest =>
              (parseValue fuel rest).bind fun (first, rest) =>
                (parseItems fuel rest).map fun (items, rest) => (.array (first :: items), rest)
      | '{' :: rest =>
          match skipBlanks rest with
          | '}' :: rest => some (.object [], rest)
          | '"' :: rest =>
              (parseKey rest).bind fun (key, rest) =>
                (parseValue fuel rest).bind fun (first, rest) =>
                  (parseMembers fuel rest).map fun (members, rest) =>
                    (.object ((key, first) :: members), rest)
          | _ => none
      | 'n' :: 'u' :: 'l' :: 'l' :: rest => some (.null, rest)
      | 't' :: 'r' :: 'u' :: 'e' :: rest => some (.bool true, rest)
      | 'f' :: 'a' :: 'l' :: 's' :: 'e' :: rest => some (.bool false, rest)
      | rest => parseNumber rest

def parseItems : Nat → List Char → Option (List Json × List Char)
  | 0, _ => none
  | fuel + 1, characters =>
      match skipBlanks characters with
      | ']' :: rest => some ([], rest)
      | ',' :: rest =>
          (parseValue fuel rest).bind fun (item, rest) =>
            (parseItems fuel rest).map fun (items, rest) => (item :: items, rest)
      | _ => none

def parseMembers : Nat → List Char → Option (List (String × Json) × List Char)
  | 0, _ => none
  | fuel + 1, characters =>
      match skipBlanks characters with
      | '}' :: rest => some ([], rest)
      | ',' :: rest =>
          match skipBlanks rest with
          | '"' :: rest =>
              (parseKey rest).bind fun (key, rest) =>
                (parseValue fuel rest).bind fun (item, rest) =>
                  (parseMembers fuel rest).map fun (members, rest) => ((key, item) :: members, rest)
          | _ => none
      | _ => none

end

/-- The document that a whole text spells. -/
def parse (characters : List Char) : Option Json :=
  match parseValue characters.length characters with
  | some (document, rest) => if skipBlanks rest = [] then some document else none
  | none => none

mutual

/-- Fuel that suffices for a document. -/
def size : Json → Nat
  | .null | .bool _ | .number _ | .string _ => 1
  | .array [] => 1
  | .array (first :: rest) => 1 + size first + sizeItems rest
  | .object [] => 1
  | .object ((_, first) :: rest) => 1 + size first + sizeMembers rest

def sizeItems : List Json → Nat
  | [] => 1
  | item :: rest => 1 + size item + sizeItems rest

def sizeMembers : List (String × Json) → Nat
  | [] => 1
  | (_, item) :: rest => 1 + size item + sizeMembers rest

end

section Parsing

variable {spelling : String → List Char} {rewrite : String → String}

mutual

theorem size_le_length : ∀ document : Json, document.size ≤ (layout id spelling document).length
  | .null | .bool true | .bool false | .array [] | .object [] => by simp [size, layout]
  | .number value => by
      rw [size, layout, List.length_map]
      exact List.length_pos_of_ne_nil value.ne_nil
  | .string value => by simp [size, layout, layoutString]
  | .array (first :: rest) => by
      have firstSize := size_le_length first
      have restSize := sizeItems_le_length rest
      simp only [size, layout, List.length_cons, List.length_append]
      omega
  | .object ((key, first) :: rest) => by
      have firstSize := size_le_length first
      have restSize := sizeMembers_le_length rest
      simp only [size, layout, List.length_cons, List.length_append]
      omega

theorem sizeItems_le_length :
    ∀ items : List Json, sizeItems items ≤ (layoutItems id spelling items).length
  | [] => by simp [sizeItems, layoutItems]
  | item :: rest => by
      have itemSize := size_le_length item
      have restSize := sizeItems_le_length rest
      simp only [sizeItems, layoutItems, List.length_cons, List.length_append]
      omega

theorem sizeMembers_le_length : ∀ members : List (String × Json),
    sizeMembers members ≤ (layoutMembers id spelling members).length
  | [] => by simp [sizeMembers, layoutMembers]
  | (key, item) :: rest => by
      have itemSize := size_le_length item
      have restSize := sizeMembers_le_length rest
      simp only [sizeMembers, layoutMembers, List.length_cons, List.length_append]
      omega

end

theorem parseNumber_characters (literal : NumberLiteral) {rest : List Char}
    (ends : Ends isNumberChar rest) :
    parseNumber (literal.characters ++ rest) = some (.number literal, rest) := by
  unfold parseNumber
  simp only [takeWhile_of_ends literal.numeric ends, dropWhile_of_ends literal.numeric ends]
  rw [dif_pos literal.valid]

theorem parseString_spelling {value : String}
    (reads : Reads (spelling value) (rewrite value).toList) (rest : List Char) :
    parseString (spelling value ++ '"' :: rest) = some (rewrite value, rest) := by
  simp [parseString, readContent_of_reads reads]

theorem parseKey_spelling {key : String} (reads : Reads (spelling key) (rewrite key).toList)
    (rest : List Char) :
    parseKey (spelling key ++ '"' :: ':' :: rest) = some (rewrite key, rest) := by
  unfold parseKey
  rw [parseString_spelling reads]
  rfl

theorem not_blank_of_numeric {character : Char} (numeric : isNumberChar character = true) :
    isBlank character = false := by
  rw [Bool.eq_false_iff]
  intro blank
  simp only [isBlank, Bool.or_eq_true, beq_iff_eq] at blank
  obtain ((rfl | rfl) | rfl) | rfl := blank <;> exact absurd numeric (by decide)

/-- No document starts with a blank or with a closing bracket. -/
theorem layout_starts (spelling : String → List Char) (document : Json) : ∃ character rest,
    layout id spelling document = character :: rest ∧ isBlank character = false ∧
      character ≠ ']' := by
  cases document with
  | null => exact ⟨'n', _, rfl, rfl, by decide⟩
  | bool value =>
      cases value with
      | true => exact ⟨'t', _, rfl, rfl, by decide⟩
      | false => exact ⟨'f', _, rfl, rfl, by decide⟩
  | number literal =>
      obtain ⟨character, rest, starts⟩ := List.exists_cons_of_ne_nil literal.ne_nil
      have numeric := literal.numeric
      rw [starts, List.all_cons, Bool.and_eq_true] at numeric
      refine ⟨character, rest, by rw [layout, List.map_id, starts],
        not_blank_of_numeric numeric.1, ?_⟩
      rintro rfl
      exact absurd numeric.1 (by decide)
  | string value => exact ⟨'"', _, rfl, rfl, by decide⟩
  | array items =>
      cases items with
      | nil | cons => exact ⟨'[', _, rfl, rfl, by decide⟩
  | object members =>
      cases members with
      | nil | cons => exact ⟨'{', _, rfl, rfl, by decide⟩

theorem skipBlanks_cons {character : Char} (visible : isBlank character = false)
    (rest : List Char) : skipBlanks (character :: rest) = character :: rest := by
  simp [skipBlanks, visible]

theorem parseValue_number (fuel : Nat) (literal : NumberLiteral) {rest : List Char}
    (ends : Ends isNumberChar rest) :
    parseValue (fuel + 1) (literal.characters ++ rest) = some (.number literal, rest) := by
  rw [← parseNumber_characters literal ends]
  obtain ⟨character, tail, starts⟩ := List.exists_cons_of_ne_nil literal.ne_nil
  have numeric := literal.numeric
  rw [starts, List.all_cons, Bool.and_eq_true] at numeric
  rw [starts, List.cons_append, parseValue, skipBlanks_cons (not_blank_of_numeric numeric.1)]
  -- no other kind of value starts with a character of a number
  split <;> rename_i equal <;>
    first
    | rfl
    | rw [(List.cons.inj equal).1] at numeric
      exact absurd numeric.1 (by decide)

theorem ends_layoutItems (spelling : String → List Char) (items : List Json)
    (rest : List Char) :
    Ends isNumberChar (layoutItems id spelling items ++ rest) := by
  cases items <;> rintro character ⟨⟩ <;> rfl

theorem ends_layoutMembers (spelling : String → List Char) (members : List (String × Json))
    (rest : List Char) :
    Ends isNumberChar (layoutMembers id spelling members ++ rest) := by
  cases members <;> rintro character ⟨⟩ <;> rfl

/-- The items of an array after its opening bracket. -/
theorem parseValue_array {fuel : Nat} {first : Json} {after : List Char} {value : Json}
    {rest : List Char} {items : List Json} {final : List Char}
    (parsedFirst : parseValue fuel (layout id spelling first ++ after) = some (value, rest))
    (parsedItems : parseItems fuel rest = some (items, final)) :
    parseValue (fuel + 1) ('[' :: (layout id spelling first ++ after)) =
      some (.array (value :: items), final) := by
  obtain ⟨character, tail, starts, visible, open'⟩ := layout_starts spelling first
  rw [starts, List.cons_append] at parsedFirst ⊢
  rw [parseValue, skipBlanks_cons (by decide)]
  simp only
  rw [skipBlanks_cons visible]
  split
  · rename_i equal
    cases equal
    exact absurd rfl open'
  · rw [parsedFirst, Option.bind_some, parsedItems, Option.map_some]

theorem size_pos (document : Json) : 0 < document.size := by
  fun_cases size document <;> omega

/-- The spellings of these strings are read as their rewritten forms. -/
def ReadsAll (spelling : String → List Char) (rewrite : String → String) (values : List String) :
    Prop :=
  ∀ value ∈ values, Reads (spelling value) (rewrite value).toList

mutual

theorem parseValue_layout : ∀ (document : Json) {fuel : Nat} (rest : List Char),
    ReadsAll spelling rewrite document.strings → document.size ≤ fuel → Ends isNumberChar rest →
    parseValue fuel (layout id spelling document ++ rest) =
      some (document.mapStrings rewrite, rest)
  | document, 0, _, _, enough, _ => absurd enough (Nat.not_le.mpr document.size_pos)
  | .null, fuel + 1, rest, _, _, _ => rfl
  | .bool true, fuel + 1, rest, _, _, _ => rfl
  | .bool false, fuel + 1, rest, _, _, _ => rfl
  | .number value, fuel + 1, rest, _, _, ends => by
      rw [layout, List.map_id, parseValue_number fuel value ends, mapStrings]
  | .string value, fuel + 1, rest, reads, _, _ => by
      have readsValue := reads value (by simp [strings])
      simp only [layout, layoutString, id_eq, List.cons_append, List.append_assoc,
        List.nil_append, parseValue, skipBlanks_cons (show isBlank '"' = false by decide),
        parseString_spelling readsValue, Option.map_some, mapStrings]
  | .array [], fuel + 1, rest, _, _, _ => rfl
  | .array (first :: others), fuel + 1, rest, reads, enough, ends => by
      simp only [ReadsAll, strings, itemStrings, List.forall_mem_append] at reads
      simp only [size] at enough
      have parsedFirst := parseValue_layout first _ reads.1
        (show first.size ≤ fuel by omega) (ends_layoutItems spelling others rest)
      have parsedOthers := parseItems_layout others rest reads.2
        (show sizeItems others ≤ fuel by omega)
      rw [layout, id, List.cons_append, List.append_assoc,
        parseValue_array parsedFirst parsedOthers]
      rfl
  | .object [], fuel + 1, rest, _, _, _ => rfl
  | .object ((key, first) :: others), fuel + 1, rest, reads, enough, ends => by
      simp only [ReadsAll, strings, memberStrings, List.forall_mem_cons,
        List.forall_mem_append] at reads
      simp only [size] at enough
      have parsedFirst := parseValue_layout first _ reads.2.1
        (show first.size ≤ fuel by omega) (ends_layoutMembers spelling others rest)
      have parsedOthers := parseMembers_layout others rest reads.2.2
        (show sizeMembers others ≤ fuel by omega)
      simp only [layout, layoutString, id_eq, List.cons_append, List.append_assoc,
        List.nil_append, parseValue, skipBlanks_cons (show isBlank '{' = false by decide),
        skipBlanks_cons (show isBlank '"' = false by decide), parseKey_spelling reads.1,
        Option.bind_some, parsedFirst, parsedOthers, Option.map_some, mapStrings, mapMembers]

theorem parseItems_layout : ∀ (items : List Json) {fuel : Nat} (rest : List Char),
    ReadsAll spelling rewrite (itemStrings items) → sizeItems items ≤ fuel →
    parseItems fuel (layoutItems id spelling items ++ rest) =
      some (mapItems rewrite items, rest)
  | [], 0, _, _, enough => by simp [sizeItems] at enough
  | [], fuel + 1, rest, _, _ => rfl
  | _ :: _, 0, _, _, enough => by simp [sizeItems] at enough
  | item :: others, fuel + 1, rest, reads, enough => by
      simp only [ReadsAll, itemStrings, List.forall_mem_append] at reads
      simp only [sizeItems] at enough
      have parsedItem := parseValue_layout item _ reads.1
        (show item.size ≤ fuel by omega) (ends_layoutItems spelling others rest)
      have parsedOthers := parseItems_layout others rest reads.2
        (show sizeItems others ≤ fuel by omega)
      simp only [layoutItems, id_eq, List.cons_append, List.append_assoc, parseItems,
        skipBlanks_cons (show isBlank ',' = false by decide), parsedItem, Option.bind_some,
        parsedOthers, Option.map_some, mapItems]

theorem parseMembers_layout : ∀ (members : List (String × Json)) {fuel : Nat} (rest : List Char),
    ReadsAll spelling rewrite (memberStrings members) → sizeMembers members ≤ fuel →
    parseMembers fuel (layoutMembers id spelling members ++ rest) =
      some (mapMembers rewrite members, rest)
  | [], 0, _, _, enough => by simp [sizeMembers] at enough
  | [], fuel + 1, rest, _, _ => rfl
  | _ :: _, 0, _, _, enough => by simp [sizeMembers] at enough
  | (key, item) :: others, fuel + 1, rest, reads, enough => by
      simp only [ReadsAll, memberStrings, List.forall_mem_cons, List.forall_mem_append] at reads
      simp only [sizeMembers] at enough
      have parsedItem := parseValue_layout item _ reads.2.1
        (show item.size ≤ fuel by omega) (ends_layoutMembers spelling others rest)
      have parsedOthers := parseMembers_layout others rest reads.2.2
        (show sizeMembers others ≤ fuel by omega)
      simp only [layoutMembers, layoutString, id_eq, List.cons_append, List.append_assoc,
        List.nil_append, parseMembers, skipBlanks_cons (show isBlank ',' = false by decide),
        skipBlanks_cons (show isBlank '"' = false by decide), parseKey_spelling reads.1,
        Option.bind_some, parsedItem, parsedOthers, Option.map_some, mapMembers]

end

/-- A text is parsed to its document, with the strings that its spellings are read as. -/
theorem parse_layout {document : Json} (reads : ReadsAll spelling rewrite document.strings) :
    parse (layout id spelling document) = some (document.mapStrings rewrite) := by
  have enough : document.size ≤ (layout id spelling document).length := size_le_length document
  have parsed := parseValue_layout document [] reads enough fun _ none => absurd none (by simp)
  rw [List.append_nil] at parsed
  unfold parse
  rw [parsed]
  rfl

end Parsing

end Json
