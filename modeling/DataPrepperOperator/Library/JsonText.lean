import Mathlib.Algebra.Field.Rat
import Mathlib.Data.List.Basic
import Mathlib.Data.Rat.Lemmas
import Mathlib.Tactic.FieldSimp
import Mathlib.Tactic.IntervalCases

/-!
# The strings and numbers of JSON texts

Strings are written as `encoding/json` writes them, with its escapes for HTML, and
read by the grammar of JSON.  Numbers keep their literal.
-/

namespace JsonText

/-- A UTF-16 unit as four hexadecimal digits. -/
def hexDigits (unit : Nat) : List Char :=
  [unit / 4096 % 16, unit / 256 % 16, unit / 16 % 16, unit % 16].map Nat.digitChar

/-- How the encoder writes a character inside a string. -/
def escapeChar (character : Char) : List Char :=
  if character = '"' then ['\\', '"']
  else if character = '\\' then ['\\', '\\']
  else if character = '\x08' then ['\\', 'b']
  else if character = '\x0c' then ['\\', 'f']
  else if character = '\n' then ['\\', 'n']
  else if character = '\r' then ['\\', 'r']
  else if character = '\t' then ['\\', 't']
  else if character.toNat < 0x20 ∨ character ∈ ['<', '>', '&', '\u2028', '\u2029'] then
    '\\' :: 'u' :: hexDigits character.toNat
  else [character]

def hexValue (character : Char) : Option Nat :=
  if character.isDigit then some (character.toNat - '0'.toNat)
  else if 'a' ≤ character ∧ character ≤ 'f' then some (character.toNat - 'a'.toNat + 10)
  else if 'A' ≤ character ∧ character ≤ 'F' then some (character.toNat - 'A'.toNat + 10)
  else none

def hexUnit (first second third fourth : Char) : Option Nat := do
  let first ← hexValue first
  let second ← hexValue second
  let third ← hexValue third
  let fourth ← hexValue fourth
  pure (((first * 16 + second) * 16 + third) * 16 + fourth)

def shortEscape : Char → Option Char
  | '"' => some '"'
  | '\\' => some '\\'
  | '/' => some '/'
  | 'b' => some '\x08'
  | 'f' => some '\x0c'
  | 'n' => some '\n'
  | 'r' => some '\r'
  | 't' => some '\t'
  | _ => none

/-- What the decoder puts in the place of a surrogate without a partner. -/
def replacement : Char := Char.ofNat 0xFFFD

def flush : Option Nat → List Char
  | none => []
  | some _ => [replacement]

def joinSurrogates (high low : Nat) : Char :=
  Char.ofNat (0x10000 + (high - 0xD800) * 0x400 + (low - 0xDC00))

def prepend (characters : List Char) (content : List Char × List Char) :
    List Char × List Char :=
  (characters ++ content.1, content.2)

/-- The content of a string up to its closing quote, and what follows it.  A high
surrogate is pending until the next character shows whether it has a partner. -/
def readContent : Option Nat → List Char → Option (List Char × List Char)
  | _, [] => none
  | pending, '"' :: rest => some (flush pending, rest)
  | pending, '\\' :: 'u' :: first :: second :: third :: fourth :: rest =>
      match hexUnit first second third fourth with
      | none => none
      | some unit =>
          if 0xD800 ≤ unit ∧ unit < 0xDC00 then
            (readContent (some unit) rest).map (prepend (flush pending))
          else if 0xDC00 ≤ unit ∧ unit < 0xE000 then
            (readContent none rest).map
              (prepend [pending.elim replacement (joinSurrogates · unit)])
          else (readContent none rest).map (prepend (flush pending ++ [Char.ofNat unit]))
  | pending, '\\' :: escape :: rest =>
      match shortEscape escape with
      | none => none
      | some character => (readContent none rest).map (prepend (flush pending ++ [character]))
  | pending, character :: rest =>
      if character.toNat < 0x20 then none
      else (readContent none rest).map (prepend (flush pending ++ [character]))

/-- These characters may stand in a string as they are. -/
def IsOrdinary (character : Char) : Prop :=
  character ≠ '"' ∧ character ≠ '\\' ∧ 0x20 ≤ character.toNat

instance : DecidablePred IsOrdinary :=
  fun _ => inferInstanceAs (Decidable (_ ∧ _))

/-- Inside a string, `spelling` is read as `characters`. -/
def Reads (spelling characters : List Char) : Prop :=
  ∀ rest, readContent none (spelling ++ rest) = (readContent none rest).map (prepend characters)

theorem Reads.nil : Reads [] [] := by
  intro rest
  cases content : readContent none rest <;> simp [prepend, content]

theorem Reads.append {first second firstCharacters secondCharacters : List Char}
    (readsFirst : Reads first firstCharacters) (readsSecond : Reads second secondCharacters) :
    Reads (first ++ second) (firstCharacters ++ secondCharacters) := by
  intro rest
  rw [List.append_assoc, readsFirst, readsSecond, Option.map_map]
  congr 1
  funext content
  simp [prepend]

theorem Reads.flatMap {Symbol : Type} {spelling characters : Symbol → List Char}
    {symbols : List Symbol}
    (reads : ∀ symbol ∈ symbols, Reads (spelling symbol) (characters symbol)) :
    Reads (symbols.flatMap spelling) (symbols.flatMap characters) := by
  induction symbols with
  | nil => exact .nil
  | cons symbol rest ih =>
      rw [List.flatMap_cons, List.flatMap_cons]
      apply (reads symbol List.mem_cons_self).append
      exact ih fun other member => reads other (List.mem_cons_of_mem _ member)

theorem Reads.ordinary {character : Char} (ordinary : IsOrdinary character) :
    Reads [character] [character] := by
  obtain ⟨noQuote, noBackslash, noControl⟩ := ordinary
  intro rest
  rw [List.singleton_append, readContent.eq_def]
  have visible : ¬character.toNat < 0x20 := by omega
  split <;> simp_all [flush]

theorem Reads.of_ordinary {characters : List Char}
    (ordinary : ∀ character ∈ characters, IsOrdinary character) : Reads characters characters := by
  have each := Reads.flatMap fun character member => Reads.ordinary (ordinary character member)
  simpa using each

theorem Reads.shortEscape {escape character : Char}
    (means : JsonText.shortEscape escape = some character) : Reads ['\\', escape] [character] := by
  have noUnit : escape ≠ 'u' := by
    rintro rfl
    simp [JsonText.shortEscape] at means
  intro rest
  rw [List.cons_append, List.cons_append, List.nil_append, readContent]
  · simp [means, flush]
  · intro _ _ _ _ _ unit
    exact absurd unit noUnit

theorem hexValue_digitChar {digit : Nat} (small : digit < 16) :
    hexValue (Nat.digitChar digit) = some digit := by
  interval_cases digit <;> decide

theorem hexUnit_hexDigits {unit : Nat} (small : unit < 65536) :
    ∃ first second third fourth, hexDigits unit = [first, second, third, fourth] ∧
      hexUnit first second third fourth = some unit := by
  refine ⟨_, _, _, _, rfl, ?_⟩
  have value (number : Nat) : hexValue (Nat.digitChar (number % 16)) = some (number % 16) :=
    hexValue_digitChar (Nat.mod_lt _ (by decide))
  simp only [hexUnit, value, bind, Option.bind, pure]
  congr 1
  omega

theorem Reads.unit {character : Char} (small : character.toNat < 65536) :
    Reads ('\\' :: 'u' :: hexDigits character.toNat) [character] := by
  obtain ⟨first, second, third, fourth, digits, value⟩ := hexUnit_hexDigits small
  have valid : character.toNat < 0xD800 ∨ 0xDFFF < character.toNat := by
    obtain low | high := character.valid
    · exact .inl low
    · exact .inr high.1
  intro rest
  rw [digits]
  simp only [List.cons_append, List.nil_append]
  rw [readContent]
  simp only [value]
  rw [if_neg (by omega), if_neg (by omega), Char.ofNat_toNat]
  rfl

theorem Reads.escapeChar (character : Char) : Reads (escapeChar character) [character] := by
  unfold JsonText.escapeChar
  split_ifs with quote backslash backspace formFeed newline carriageReturn tab escaped
  · subst quote
    exact .shortEscape rfl
  · subst backslash
    exact .shortEscape rfl
  · exact backspace ▸ .shortEscape rfl
  · exact formFeed ▸ .shortEscape rfl
  · exact newline ▸ .shortEscape rfl
  · exact carriageReturn ▸ .shortEscape rfl
  · exact tab ▸ .shortEscape rfl
  · apply Reads.unit
    obtain control | listed := escaped
    · omega
    · simp only [List.mem_cons, List.not_mem_nil, or_false] at listed
      obtain rfl | rfl | rfl | rfl | rfl := listed <;> decide
  · exact .ordinary ⟨quote, backslash, by omega⟩

theorem readContent_of_reads {spelling characters : List Char} (reads : Reads spelling characters)
    (rest : List Char) :
    readContent none (spelling ++ '"' :: rest) = some (characters, rest) := by
  rw [reads, readContent]
  simp [prepend, flush]

def isNumberChar (character : Char) : Bool :=
  character.isDigit || character == '-' || character == '+' || character == '.' ||
    character == 'e' || character == 'E'

def readDigits (digits : List Char) : Option Nat :=
  if digits ≠ [] ∧ digits.all Char.isDigit = true then some (Nat.ofDigitChars 10 digits 0) else none

/-- `strconv.ParseInt`. -/
def readInt : List Char → Option Int
  | '-' :: digits => (readDigits digits).map fun value : Nat => -(value : Int)
  | digits => (readDigits digits).map Int.ofNat

/-- A fraction, if there is one, and what follows it. -/
def readFraction : List Char → Option (Rat × List Char)
  | '.' :: rest =>
      (readDigits (rest.takeWhile Char.isDigit)).map fun value : Nat =>
        (value / 10 ^ (rest.takeWhile Char.isDigit).length, rest.dropWhile Char.isDigit)
  | rest => some (0, rest)

def readExponent : List Char → Option Int
  | [] => some 0
  | marker :: rest =>
      if marker = 'e' ∨ marker = 'E' then
        match rest with
        | '+' :: digits => (readDigits digits).map Int.ofNat
        | signed => readInt signed
      else none

def readUnsigned (characters : List Char) : Option Rat :=
  let whole := characters.takeWhile Char.isDigit
  if whole.head? = some '0' ∧ whole ≠ ['0'] then none
  else
    (readDigits whole).bind fun value : Nat =>
      (readFraction (characters.dropWhile Char.isDigit)).bind fun (fraction, rest) =>
        (readExponent rest).map fun exponent => (value + fraction) * 10 ^ exponent

def readNumber : List Char → Option Rat
  | '-' :: rest => (readUnsigned rest).map fun value : Rat => -value
  | rest => readUnsigned rest

/-- The literal of a number. -/
structure NumberLiteral where
  characters : List Char
  numeric : characters.all isNumberChar = true
  valid : (readNumber characters).isSome = true

namespace NumberLiteral

def value (literal : NumberLiteral) : Rat :=
  (readNumber literal.characters).get literal.valid

theorem ne_nil (literal : NumberLiteral) : literal.characters ≠ [] := by
  intro empty
  have valid := literal.valid
  rw [empty] at valid
  exact absurd valid (by decide)

end NumberLiteral

theorem all_isDigit_toDigits (value : Nat) : (Nat.toDigits 10 value).all Char.isDigit = true := by
  rw [List.all_eq_true]
  intro digit member
  exact Nat.isDigit_of_mem_toDigits (by decide) (by decide) member

theorem readDigits_toDigits (value : Nat) : readDigits (Nat.toDigits 10 value) = some value := by
  unfold readDigits
  rw [if_pos ⟨Nat.toDigits_ne_nil, all_isDigit_toDigits value⟩, Nat.ofDigitChars_ten_toDigits]

/-- Only zero starts with the digit zero. -/
theorem head_toDigits {value : Nat} (zero : (Nat.toDigits 10 value).head? = some '0') :
    Nat.toDigits 10 value = ['0'] := by
  induction value using Nat.strong_induction_on with
  | _ value ih =>
      by_cases small : value < 10
      · rw [Nat.toDigits_of_lt_base small] at zero ⊢
        simpa using zero
      · rw [Nat.toDigits_of_base_le (by decide) (by omega),
          List.head?_append_of_ne_nil _ Nat.toDigits_ne_nil] at zero
        have leading := ih (value / 10) (by omega) zero
        have quotient := readDigits_toDigits (value / 10)
        rw [leading] at quotient
        have vanishes : value / 10 = 0 := (Option.some.inj quotient).symm
        omega

/-- A number is over where no digit follows. -/
def Ends (continues : Char → Bool) (rest : List Char) : Prop :=
  ∀ character ∈ rest.head?, continues character = false

theorem takeWhile_of_ends {continues : Char → Bool} {characters rest : List Char}
    (all : characters.all continues = true) (ends : Ends continues rest) :
    (characters ++ rest).takeWhile continues = characters := by
  rw [List.takeWhile_append_of_pos (List.all_eq_true.mp all)]
  cases rest with
  | nil => simp
  | cons character rest => simp [ends character rfl]

theorem dropWhile_of_ends {continues : Char → Bool} {characters rest : List Char}
    (all : characters.all continues = true) (ends : Ends continues rest) :
    (characters ++ rest).dropWhile continues = rest := by
  rw [List.dropWhile_append_of_pos (List.all_eq_true.mp all)]
  cases rest with
  | nil => simp
  | cons character rest => simp [ends character rfl]

/-- The exponent that divides by `10 ^ scale`. -/
def scaleCharacters (scale : Nat) : List Char :=
  if scale = 0 then [] else 'e' :: '-' :: Nat.toDigits 10 scale

theorem readExponent_scaleCharacters (scale : Nat) :
    readExponent (scaleCharacters scale) = some (-(scale : Int)) := by
  unfold scaleCharacters
  split_ifs with unscaled
  · simp [readExponent, unscaled]
  · simp [readExponent, readInt, readDigits_toDigits]

theorem readFraction_scaleCharacters (scale : Nat) :
    readFraction (scaleCharacters scale) = some (0, scaleCharacters scale) := by
  unfold scaleCharacters
  split_ifs <;> rfl

theorem ends_scaleCharacters (scale : Nat) : Ends Char.isDigit (scaleCharacters scale) := by
  unfold scaleCharacters Ends
  split_ifs
  · simp
  · simp only [List.head?_cons, Option.mem_def, Option.some.injEq, forall_eq']
    decide

theorem readUnsigned_toDigits (value scale : Nat) :
    readUnsigned (Nat.toDigits 10 value ++ scaleCharacters scale) =
      some ((value : Rat) / 10 ^ scale) := by
  have whole := takeWhile_of_ends (all_isDigit_toDigits value) (ends_scaleCharacters scale)
  have after := dropWhile_of_ends (all_isDigit_toDigits value) (ends_scaleCharacters scale)
  unfold readUnsigned
  simp only [whole, after]
  rw [if_neg fun leading => leading.2 (head_toDigits leading.1), readDigits_toDigits,
    readFraction_scaleCharacters]
  simp only [Option.bind_some, readExponent_scaleCharacters, Option.map_some, add_zero]
  rw [zpow_neg, zpow_natCast, div_eq_mul_inv]

/-- The decimal number `mantissa / 10 ^ scale`. -/
def decimalCharacters (mantissa : Int) (scale : Nat) : List Char :=
  let digits := Nat.toDigits 10 mantissa.natAbs ++ scaleCharacters scale
  if mantissa < 0 then '-' :: digits else digits

theorem toDigits_append_ne_minus (value : Nat) (rest other : List Char) :
    Nat.toDigits 10 value ++ rest ≠ '-' :: other := by
  intro starts
  have head := congrArg List.head? starts
  rw [List.head?_append_of_ne_nil _ Nat.toDigits_ne_nil, List.head?_cons] at head
  have digit := List.all_eq_true.mp (all_isDigit_toDigits value) '-' (List.mem_of_head? head)
  exact absurd digit (by decide)

theorem readNumber_decimalCharacters (mantissa : Int) (scale : Nat) :
    readNumber (decimalCharacters mantissa scale) = some ((mantissa : Rat) / 10 ^ scale) := by
  unfold decimalCharacters
  split_ifs with negative
  · rw [readNumber, readUnsigned_toDigits, Option.map_some, Nat.cast_natAbs, abs_of_neg negative]
    push_cast
    rw [neg_div, neg_neg]
  · rw [readNumber, readUnsigned_toDigits, Nat.cast_natAbs, abs_of_nonneg (not_lt.mp negative)]
    exact toDigits_append_ne_minus _ _

theorem readInt_decimalCharacters (value : Int) :
    readInt (decimalCharacters value 0) = some value := by
  unfold decimalCharacters scaleCharacters
  rw [if_pos rfl, List.append_nil]
  split_ifs with negative
  · rw [readInt, readDigits_toDigits, Option.map_some]
    congr 1
    omega
  · rw [readInt, readDigits_toDigits, Option.map_some]
    · congr 1
      simp only [Int.ofNat_eq_natCast]
      omega
    · intro digits
      simpa using toDigits_append_ne_minus value.natAbs [] digits

theorem all_isNumberChar_decimalCharacters (mantissa : Int) (scale : Nat) :
    (decimalCharacters mantissa scale).all isNumberChar = true := by
  have digits (value : Nat) : (Nat.toDigits 10 value).all isNumberChar = true := by
    rw [List.all_eq_true]
    intro digit member
    simp [isNumberChar, List.all_eq_true.mp (all_isDigit_toDigits value) digit member]
  have exponent : (scaleCharacters scale).all isNumberChar = true := by
    unfold scaleCharacters
    split_ifs
    · rfl
    · rw [List.all_cons, List.all_cons, digits]
      rfl
  unfold decimalCharacters
  split_ifs
  · rw [List.all_cons, List.all_append, digits, exponent]
    rfl
  · rw [List.all_append, digits, exponent]
    rfl

namespace NumberLiteral

/-- The literal of `mantissa / 10 ^ scale`. -/
def decimal (mantissa : Int) (scale : Nat) : NumberLiteral where
  characters := decimalCharacters mantissa scale
  numeric := all_isNumberChar_decimalCharacters mantissa scale
  valid := by rw [readNumber_decimalCharacters, Option.isSome_some]

theorem value_decimal (mantissa : Int) (scale : Nat) :
    (decimal mantissa scale).value = (mantissa : Rat) / 10 ^ scale := by
  unfold value
  apply Option.get_of_eq_some
  exact readNumber_decimalCharacters mantissa scale

/-- A finite decimal fraction is one whose denominator divides this power of ten. -/
def ofRat (value : Rat) : Option NumberLiteral :=
  let scale := value.den.log2
  if value.den ∣ 10 ^ scale then some (decimal (value.num * (10 ^ scale / value.den : Nat)) scale)
  else none

theorem value_ofRat {value : Rat} {literal : NumberLiteral} (decimal : ofRat value = some literal) :
    literal.value = value := by
  simp only [ofRat] at decimal
  split_ifs at decimal with divides
  cases decimal
  rw [value_decimal]
  obtain ⟨factor, power⟩ := divides
  have positive : 0 < value.den := value.den_pos
  rw [power, Nat.mul_div_cancel_left _ positive]
  have powerRat : (10 : Rat) ^ value.den.log2 = value.den * factor := by exact_mod_cast power
  have factorNonzero : (factor : Rat) ≠ 0 := by
    rintro zero
    rw [zero, mul_zero] at powerRat
    exact pow_ne_zero _ (by norm_num) powerRat
  rw [powerRat]
  push_cast
  rw [mul_div_mul_right _ _ factorNonzero]
  exact Rat.num_div_den value

end NumberLiteral

end JsonText
