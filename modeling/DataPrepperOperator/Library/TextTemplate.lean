import DataPrepperOperator.Library.Json

/-!
# Templates with plain references

A template is a text in which references stand between double braces.  Executing it
replaces each reference by a value and copies the rest.  Where the text is the text
of a JSON document, the result is the text of the document whose strings have their
references replaced, as long as the values need no escaping.
-/

namespace TextTemplate

open JsonText

/-- The references of a template language and how they are named between braces. -/
structure Names (Reference : Type) where
  name : Reference → List Char
  read : List Char → Option Reference
  name_of_read : ∀ {characters reference}, read characters = some reference →
    name reference = characters
  closed : ∀ {characters reference}, read characters = some reference → '}' ∉ characters

inductive Piece (Reference : Type) where
  | literal (character : Char)
  | reference (target : Reference)
  deriving DecidableEq

inductive Mode where
  | text
  | action (reversed : List Char)

variable {Reference : Type}

section Scanning

variable (names : Names Reference)

/-- The pieces of a text; `none` where the braces hold something else than a
reference. -/
def scan : Mode → List Char → Option (List (Piece Reference))
  | .text, [] => some []
  | .text, '{' :: '{' :: rest => scan (.action []) rest
  | .text, character :: rest => (scan .text rest).map (.literal character :: ·)
  | .action _, [] => none
  | .action reversed, '}' :: '}' :: rest =>
      (names.read reversed.reverse).bind fun reference =>
        (scan .text rest).map (.reference reference :: ·)
  | .action reversed, character :: rest => scan (.action (character :: reversed)) rest

def Piece.spelling : Piece Reference → List Char
  | .literal character => [character]
  | .reference target => '{' :: '{' :: (names.name target ++ ['}', '}'])

/-- The text of these pieces starts with a brace. -/
def Opens : List (Piece Reference) → Prop
  | [] => False
  | .literal character :: _ => character = '{'
  | .reference _ :: _ => True

/-- No two literal braces meet, and every reference is named. -/
def Clean : List (Piece Reference) → Prop
  | [] => True
  | .literal character :: rest => (character = '{' → ¬Opens rest) ∧ Clean rest
  | .reference reference :: rest =>
      names.read (names.name reference) = some reference ∧ Clean rest

/-- The part of the text that a mode has already consumed. -/
def Mode.consumed : Mode → List Char
  | .text => []
  | .action reversed => '{' :: '{' :: reversed.reverse

variable {names}

theorem opens_iff_head {pieces : List (Piece Reference)} :
    Opens pieces ↔ (pieces.flatMap (Piece.spelling names)).head? = some '{' := by
  cases pieces with
  | nil => simp [Opens]
  | cons piece rest => cases piece <;> simp [Opens, Piece.spelling]

/-- Scanning finds pieces that spell the text. -/
theorem clean_of_scan {mode : Mode} {characters : List Char} {pieces : List (Piece Reference)}
    (scanned : scan names mode characters = some pieces) :
    Clean names pieces ∧
      pieces.flatMap (Piece.spelling names) = mode.consumed ++ characters := by
  fun_induction scan names mode characters generalizing pieces with
  | case1 =>
      cases scanned
      exact ⟨trivial, rfl⟩
  | case2 rest ih => exact ih scanned
  | case3 character rest single ih =>
      obtain ⟨later, scannedLater, rfl⟩ := Option.map_eq_some_iff.mp scanned
      obtain ⟨clean, spelled⟩ := ih scannedLater
      refine ⟨⟨?_, clean⟩, by simpa [Piece.spelling, Mode.consumed] using spelled⟩
      intro brace opens
      rw [opens_iff_head, spelled] at opens
      obtain ⟨other, starts⟩ := List.head?_eq_some_iff.mp opens
      exact single other brace starts
  | case4 => cases scanned
  | case5 reversed rest ih =>
      obtain ⟨reference, found, scanned⟩ := Option.bind_eq_some_iff.mp scanned
      obtain ⟨later, scannedLater, rfl⟩ := Option.map_eq_some_iff.mp scanned
      obtain ⟨clean, spelled⟩ := ih scannedLater
      have named := names.name_of_read found
      refine ⟨⟨by rw [named, found], clean⟩, ?_⟩
      simpa [Piece.spelling, Mode.consumed, named] using spelled
  | case6 reversed character rest single ih =>
      simpa [Mode.consumed] using ih scanned

theorem scan_action {content : List Char} (closed : '}' ∉ content) (reversed rest : List Char) :
    scan names (.action reversed) (content ++ '}' :: '}' :: rest) =
      (names.read (reversed.reverse ++ content)).bind fun reference =>
        (scan names .text rest).map (.reference reference :: ·) := by
  induction content generalizing reversed with
  | nil => simp [scan]
  | cons character content ih =>
      have notBrace : character ≠ '}' := by
        rintro rfl
        exact closed List.mem_cons_self
      rw [List.cons_append, scan]
      · rw [ih (fun member => closed (List.mem_cons_of_mem _ member))]
        simp
      · intro _ brace
        exact absurd brace notBrace

/-- Pieces are found again in the text that they spell. -/
theorem scan_spelling {pieces : List (Piece Reference)} (clean : Clean names pieces) :
    scan names .text (pieces.flatMap (Piece.spelling names)) = some pieces := by
  induction pieces with
  | nil => rfl
  | cons piece rest ih =>
      cases piece with
      | literal character =>
          obtain ⟨single, clean⟩ := clean
          rw [List.flatMap_cons, Piece.spelling, List.singleton_append, scan,
            ih clean, Option.map_some]
          intro other brace starts
          apply single brace
          rw [opens_iff_head, starts, List.head?_cons]
      | reference reference =>
          obtain ⟨named, clean⟩ := clean
          rw [List.flatMap_cons, Piece.spelling]
          simp only [List.cons_append, List.append_assoc, List.nil_append]
          rw [scan, scan_action (names.closed named), List.reverse_nil, List.nil_append, named,
            ih clean]
          rfl

theorem Clean.append {first second : List (Piece Reference)} (cleanFirst : Clean names first)
    (cleanSecond : Clean names second) (closed : ¬Opens second) :
    Clean names (first ++ second) := by
  induction first with
  | nil => exact cleanSecond
  | cons piece rest ih =>
      cases piece with
      | literal character =>
          refine ⟨fun brace => ?_, ih cleanFirst.2⟩
          cases rest with
          | nil => exact closed
          | cons next rest => cases next <;> exact cleanFirst.1 brace
      | reference reference => exact ⟨cleanFirst.1, ih cleanFirst.2⟩

theorem Clean.literal {character : Char} {rest : List (Piece Reference)}
    (plain : character ≠ '{') (clean : Clean names rest) :
    Clean names (.literal character :: rest) :=
  ⟨fun brace => absurd brace plain, clean⟩

theorem Clean.literals {characters : List Char} {rest : List (Piece Reference)}
    (plain : '{' ∉ characters) (clean : Clean names rest) :
    Clean names (characters.map .literal ++ rest) := by
  induction characters with
  | nil => exact clean
  | cons character others ih =>
      apply Clean.literal
      · rintro rfl
        exact plain List.mem_cons_self
      · exact ih fun member => plain (List.mem_cons_of_mem _ member)

end Scanning

section Execution

variable (names : Names Reference) (value : Reference → List Char)

/-- What a piece prints. -/
def Piece.print : Piece Reference → List Char
  | .literal character => [character]
  | .reference target => value target

def pieces (text : String) : List (Piece Reference) :=
  (scan names .text text.toList).getD []

/-- A string with its references replaced. -/
def substitute (text : String) : String :=
  String.ofList ((pieces names text).flatMap (Piece.print value))

variable {names value}

theorem scan_literals {characters : List Char} (plain : '{' ∉ characters) :
    scan names .text characters = some (characters.map .literal) := by
  induction characters with
  | nil => rfl
  | cons character rest ih =>
      rw [scan, ih fun member => plain (List.mem_cons_of_mem _ member)]
      · rfl
      · rintro _ rfl
        exact absurd List.mem_cons_self plain

/-- A string without braces holds no references. -/
theorem substitute_of_plain {text : String} (plain : '{' ∉ text.toList) :
    substitute names value text = text := by
  rw [substitute, pieces, scan_literals plain, Option.getD_some, List.flatMap_map]
  simp [Piece.print]

end Execution

section Json

/-- The pieces of an escaped string. -/
def Piece.escape : Piece Reference → List (Piece Reference)
  | .literal character => (escapeChar character).map .literal
  | .reference target => [.reference target]

/-- Names need no escaping in a JSON string. -/
def Inert (names : Names Reference) : Prop :=
  ∀ {characters reference}, names.read characters = some reference →
    ∀ character ∈ characters, escapeChar character = [character]

variable {names : Names Reference}

theorem brace_notMem_escapeChar {character : Char} (plain : character ≠ '{') :
    '{' ∉ escapeChar character := by
  have digit (value : Nat) : '{' ≠ Nat.digitChar (value % 16) := by
    have small := Nat.mod_lt value (show 0 < 16 by decide)
    interval_cases value % 16 <;> decide
  unfold escapeChar hexDigits
  split_ifs <;> simp [digit, Ne.symm plain]

theorem escape_spelling (inert : Inert names) {pieces : List (Piece Reference)}
    (clean : Clean names pieces) :
    (pieces.flatMap (Piece.spelling names)).flatMap escapeChar =
      (pieces.flatMap Piece.escape).flatMap (Piece.spelling names) := by
  induction pieces with
  | nil => rfl
  | cons piece rest ih =>
      cases piece with
      | literal character =>
          simp [Piece.spelling, Piece.escape, ih clean.2, List.flatMap_map]
      | reference reference =>
          have kept : (names.name reference).flatMap escapeChar = names.name reference := by
            rw [List.flatMap_congr (inert clean.1)]
            simp
          have brace : escapeChar '{' = ['{'] := by decide
          have closing : escapeChar '}' = ['}'] := by decide
          simp [Piece.spelling, Piece.escape, ih clean.2, kept, brace, closing]

theorem opens_of_escape {pieces : List (Piece Reference)}
    (opens : Opens (pieces.flatMap Piece.escape)) : Opens pieces := by
  cases pieces with
  | nil => exact opens
  | cons piece rest =>
      cases piece with
      | reference reference => trivial
      | literal character =>
          by_contra plain
          have nonempty : escapeChar character ≠ [] := by
            unfold escapeChar
            split_ifs <;> simp
          obtain ⟨first, others, starts⟩ := List.exists_cons_of_ne_nil nonempty
          rw [List.flatMap_cons, Piece.escape, starts] at opens
          apply brace_notMem_escapeChar plain
          rw [starts, show first = '{' from opens]
          exact List.mem_cons_self

theorem Clean.escape {pieces : List (Piece Reference)} (clean : Clean names pieces) :
    Clean names (pieces.flatMap Piece.escape) := by
  induction pieces with
  | nil => exact clean
  | cons piece rest ih =>
      cases piece with
      | reference reference => exact ⟨clean.1, ih clean.2⟩
      | literal character =>
          by_cases brace : character = '{'
          · subst brace
            exact ⟨fun _ opens => clean.1 rfl (opens_of_escape opens), ih clean.2⟩
          · exact Clean.literals (brace_notMem_escapeChar brace) (ih clean.2)

variable {content : String → List (Piece Reference)}

theorem clean_layoutString (clean : ∀ value, Clean names (content value)) (value : String)
    {rest : List (Piece Reference)} (cleanRest : Clean names rest) :
    Clean names (Json.layoutString .literal content value ++ rest) := by
  rw [Json.layoutString, List.cons_append, List.append_assoc]
  apply Clean.literal (by decide)
  apply (clean value).append
  · exact Clean.literal (by decide) cleanRest
  · exact show '"' ≠ '{' by decide

theorem not_opens_layoutItems (items : List Json) {rest : List (Piece Reference)} :
    ¬Opens (Json.layoutItems .literal content items ++ rest) := by
  cases items with
  | nil => exact show ']' ≠ '{' by decide
  | cons item others => exact show ',' ≠ '{' by decide

theorem not_opens_layoutMembers (members : List (String × Json))
    {rest : List (Piece Reference)} :
    ¬Opens (Json.layoutMembers .literal content members ++ rest) := by
  cases members with
  | nil => exact show '}' ≠ '{' by decide
  | cons member others => exact show ',' ≠ '{' by decide

mutual

theorem clean_layout (clean : ∀ value, Clean names (content value)) :
    ∀ (document : Json) {rest : List (Piece Reference)}, Clean names rest → ¬Opens rest →
      Clean names (Json.layout .literal content document ++ rest)
  | .null, _, cleanRest, _ | .bool true, _, cleanRest, _ | .bool false, _, cleanRest, _ =>
      Clean.literals (by decide) cleanRest
  | .number value, _, cleanRest, _ => by
      apply Clean.literals _ cleanRest
      intro member
      exact absurd (List.all_eq_true.mp value.numeric '{' member) (by decide)
  | .string value, _, cleanRest, _ => clean_layoutString clean value cleanRest
  | .array [], _, cleanRest, _ =>
      Clean.literal (by decide) (Clean.literal (by decide) cleanRest)
  | .array (first :: others), _, cleanRest, _ => by
      rw [Json.layout, List.cons_append, List.append_assoc]
      apply Clean.literal (by decide)
      exact clean_layout clean first (clean_layoutItems clean others cleanRest)
        (not_opens_layoutItems others)
  | .object [], _, cleanRest, _ =>
      ⟨fun _ => show '}' ≠ '{' by decide, Clean.literal (by decide) cleanRest⟩
  | .object ((key, first) :: others), _, cleanRest, _ => by
      rw [Json.layout, List.cons_append, List.append_assoc, List.cons_append, List.append_assoc]
      refine ⟨fun _ => show '"' ≠ '{' by decide, ?_⟩
      apply clean_layoutString clean
      apply Clean.literal (by decide)
      exact clean_layout clean first (clean_layoutMembers clean others cleanRest)
        (not_opens_layoutMembers others)

theorem clean_layoutItems (clean : ∀ value, Clean names (content value)) :
    ∀ (items : List Json) {rest : List (Piece Reference)}, Clean names rest →
      Clean names (Json.layoutItems .literal content items ++ rest)
  | [], _, cleanRest => Clean.literal (by decide) cleanRest
  | item :: others, _, cleanRest => by
      rw [Json.layoutItems, List.cons_append, List.append_assoc]
      apply Clean.literal (by decide)
      exact clean_layout clean item (clean_layoutItems clean others cleanRest)
        (not_opens_layoutItems others)

theorem clean_layoutMembers (clean : ∀ value, Clean names (content value)) :
    ∀ (members : List (String × Json)) {rest : List (Piece Reference)}, Clean names rest →
      Clean names (Json.layoutMembers .literal content members ++ rest)
  | [], _, cleanRest => Clean.literal (by decide) cleanRest
  | (key, item) :: others, _, cleanRest => by
      rw [Json.layoutMembers, List.cons_append, List.append_assoc, List.cons_append,
        List.append_assoc]
      apply Clean.literal (by decide)
      apply clean_layoutString clean
      apply Clean.literal (by decide)
      exact clean_layout clean item (clean_layoutMembers clean others cleanRest)
        (not_opens_layoutMembers others)

end

theorem scan_pieces {text : String} (plain : (scan names .text text.toList).isSome) :
    scan names .text text.toList = some (pieces names text) := by
  obtain ⟨found, scanned⟩ := Option.isSome_iff_exists.mp plain
  rw [pieces, scanned, Option.getD_some]

theorem clean_pieces (text : String) : Clean names (pieces names text) := by
  unfold pieces
  cases scanned : scan names .text text.toList with
  | none => trivial
  | some found => exact (clean_of_scan scanned).1

/-- The text of a document is a template whose references are those of the strings. -/
theorem scan_text (inert : Inert names) {document : Json}
    (plain : ∀ text ∈ document.strings, (scan names .text text.toList).isSome) :
    scan names .text document.text =
      some (Json.layout .literal (fun text => (pieces names text).flatMap Piece.escape)
        document) := by
  have spelled := Json.layout_flatMap (fun character => show
    Piece.spelling names (.literal character) = [id character] from rfl) document
    (show Json.Replaces (Piece.spelling names)
      (fun text => (pieces names text).flatMap Piece.escape)
      (fun text => text.toList.flatMap escapeChar) document.strings by
        intro text member
        rw [← escape_spelling inert (clean_pieces text),
          (clean_of_scan (scan_pieces (plain text member))).2]
        rfl)
  have clean : Clean names
      (Json.layout .literal (fun text => (pieces names text).flatMap Piece.escape) document) := by
    have appended := clean_layout (fun text => (clean_pieces text).escape) document
      (show Clean names [] from trivial) id
    rwa [List.append_nil] at appended
  rw [Json.text, ← spelled, scan_spelling clean]

variable {value : Reference → List Char}

theorem reads_escape {text : String}
    (ordinary : ∀ reference, .reference reference ∈ pieces names text →
      ∀ character ∈ value reference, IsOrdinary character) :
    Reads (((pieces names text).flatMap Piece.escape).flatMap (Piece.print value))
      (substitute names value text).toList := by
  rw [substitute, String.toList_ofList, List.flatMap_assoc]
  apply Reads.flatMap
  intro piece member
  cases piece with
  | literal character =>
      simpa [Piece.escape, Piece.print, List.flatMap_map] using Reads.escapeChar character
  | reference reference =>
      simpa [Piece.escape, Piece.print] using Reads.of_ordinary (ordinary reference member)

/-- Executing the text of a document on values that need no escaping gives a text of
the document with the values in the place of the references. -/
theorem parse_print_text (inert : Inert names) {document : Json}
    (plain : ∀ text ∈ document.strings, (scan names .text text.toList).isSome)
    (ordinary : ∀ text ∈ document.strings, ∀ reference, .reference reference ∈ pieces names text →
      ∀ character ∈ value reference, IsOrdinary character) :
    ∃ found, scan names .text document.text = some found ∧
      Json.parse (found.flatMap (Piece.print value)) =
        some (document.mapStrings (substitute names value)) := by
  refine ⟨_, scan_text inert plain, ?_⟩
  rw [Json.layout_flatMap (fun character => show
    Piece.print value (.literal character) = [id character] from rfl) document
    (fun _ _ => rfl)]
  apply Json.parse_layout
  intro text member
  exact reads_escape (ordinary text member)

end Json

end TextTemplate
