import Mathlib.Algebra.Group.Int.Defs
import Mathlib.Algebra.Group.Nat.Defs

/-!
# Go text formatting

The pieces of Go's `fmt` and `strconv` that error texts and names are built
from.  Strings are valid UTF-8 throughout, and every character outside ASCII is
taken as printable.
-/

namespace GoText

def hexDigit (value : Nat) : Char :=
  if value < 10 then Char.ofNat (48 + value) else Char.ofNat (87 + value)

/-- `encoding/hex.EncodeToString`. -/
def hexEncode (bytes : List UInt8) : List Char :=
  bytes.flatMap fun byte => [hexDigit (byte.toNat / 16), hexDigit (byte.toNat % 16)]

theorem length_hexEncode (bytes : List UInt8) : (hexEncode bytes).length = 2 * bytes.length := by
  induction bytes with
  | nil => rfl
  | cons byte rest ih =>
      unfold hexEncode at ih ⊢
      rw [List.flatMap_cons, List.length_append, ih, List.length_cons]
      simp only [List.length_cons, List.length_nil]
      omega

/-- One character inside a `%q` literal. -/
def quoteChar (character : Char) : String :=
  match character.toNat with
  | 7 => "\\a"
  | 8 => "\\b"
  | 9 => "\\t"
  | 10 => "\\n"
  | 11 => "\\v"
  | 12 => "\\f"
  | 13 => "\\r"
  | 34 => "\\\""
  | 92 => "\\\\"
  | code =>
      if code < 32 ∨ code = 127 then
        "\\x" ++ String.ofList [hexDigit (code / 16), hexDigit (code % 16)]
      else
        character.toString

/-- The `%q` verb on a string. -/
def quote (text : String) : String :=
  "\"" ++ text.toList.foldl (fun quoted character => quoted ++ quoteChar character) "" ++ "\""

/-- Copy a text and replace every occurrence of the pattern, from left to right;
`skip` counts the characters of the last occurrence that are still to be passed. -/
def replaceFrom (pattern replacement : List Char) : Nat → List Char → List Char
  | _, [] => []
  | skip + 1, _ :: rest => replaceFrom pattern replacement skip rest
  | 0, character :: rest =>
      if pattern.isPrefixOf (character :: rest) then
        replacement ++ replaceFrom pattern replacement (pattern.length - 1) rest
      else
        character :: replaceFrom pattern replacement 0 rest

/-- `strings.ReplaceAll` for a pattern that is not empty. -/
def replaceAll (text pattern replacement : String) : String :=
  String.ofList (replaceFrom pattern.toList replacement.toList 0 text.toList)

/-- `strings.HasPrefix`. -/
def startsWith (text start : String) : Bool :=
  start.toList.isPrefixOf text.toList

/-- The value of a run of decimal digits. -/
def digitsValue (digits : List Char) : Nat :=
  digits.foldl (fun value digit => 10 * value + (digit.toNat - 48)) 0

/-- `strconv.Atoi` with its error ignored: zero for a text that is no number, the
nearest bound for a number that does not fit. -/
def atoi (text : String) : Int :=
  let negative := text.toList.head? = some '-'
  let digits :=
    if negative ∨ text.toList.head? = some '+' then text.toList.tail else text.toList
  if digits ≠ [] ∧ digits.all Char.isDigit then
    if negative then max (-digitsValue digits) (-2 ^ 63)
    else min (digitsValue digits) (2 ^ 63 - 1)
  else 0

/-- Two's complement arithmetic on a 64-bit `int`. -/
def toInt (value : Int) : Int := (value + 2 ^ 63) % 2 ^ 64 - 2 ^ 63

theorem digitsValue_toDigits (number : Nat) : digitsValue (Nat.toDigits 10 number) = number := by
  have value : Nat.ofDigitChars 10 (Nat.toDigits 10 number) 0 = number :=
    Nat.ofDigitChars_toDigits (by decide) (by decide)
  rwa [Nat.ofDigitChars_eq_foldl] at value

theorem toList_repr (number : Nat) : number.repr.toList = Nat.toDigits 10 number := by
  rw [Nat.repr_eq_ofList_toDigits, String.toList_ofList]

theorem all_isDigit_toDigits (number : Nat) : (Nat.toDigits 10 number).all Char.isDigit = true := by
  rw [List.all_eq_true]
  intro digit member
  exact Nat.isDigit_of_mem_toDigits (by decide) (by decide) member

/-- No sign is taken off a printed natural number. -/
theorem head_toDigits_ne (number : Nat) {sign : Char} (noDigit : sign.isDigit = false) :
    (Nat.toDigits 10 number).head? ≠ some sign := by
  intro first
  have member : sign ∈ Nat.toDigits 10 number := List.mem_of_head? first
  have digit := Nat.isDigit_of_mem_toDigits (by decide) (by decide) member
  rw [noDigit] at digit
  cases digit

/-- `strconv.Atoi` reads back what `strconv.Itoa` writes. -/
theorem atoi_toString {number : Int} (lower : -2 ^ 63 ≤ number) (upper : number < 2 ^ 63) :
    atoi (toString number) = number := by
  have printed : toString number = number.repr := rfl
  rw [printed, Int.repr_eq_if]
  split
  · rename_i positive
    unfold atoi
    have noMinus : (Nat.toDigits 10 number.toNat).head? ≠ some '-' :=
      head_toDigits_ne number.toNat rfl
    have noPlus : (Nat.toDigits 10 number.toNat).head? ≠ some '+' :=
      head_toDigits_ne number.toNat rfl
    simp only [toList_repr, noMinus, noPlus, or_self, if_false, Nat.toDigits_ne_nil,
      all_isDigit_toDigits, digitsValue_toDigits, ne_eq, not_false_eq_true, and_self, if_true]
    omega
  · rename_i negative
    unfold atoi
    simp only [String.toList_append, toList_repr]
    simp only [show "-".toList = ['-'] from rfl, List.singleton_append, List.head?_cons,
      List.tail_cons, true_or, if_true, Nat.toDigits_ne_nil, all_isDigit_toDigits,
      digitsValue_toDigits, ne_eq, not_false_eq_true, and_self]
    omega

theorem toString_ne_empty (number : Nat) : toString (number : Int) ≠ "" := by
  intro empty
  have digits : (toString (number : Int)).toList = Nat.toDigits 10 number := toList_repr number
  rw [empty] at digits
  exact Nat.toDigits_ne_nil digits.symm

/-- The units of a duration, in nanoseconds. -/
def durationUnit (unit : List Char) : Option Nat :=
  if unit = "ns".toList then some 1
  else if unit = "us".toList ∨ unit = "µs".toList ∨ unit = "μs".toList then some 1000
  else if unit = "ms".toList then some 1000000
  else if unit = "s".toList then some 1000000000
  else if unit = "m".toList then some 60000000000
  else if unit = "h".toList then some 3600000000000
  else none

def isDurationDigit (character : Char) : Bool := character == '.' || character.isDigit

/-- One term of a duration and what follows it: digits with an optional fraction, and a unit.
What a fraction has below a nanosecond is cut off. -/
def durationTerm (characters : List Char) : Option (Nat × List Char) :=
  let whole := characters.takeWhile Char.isDigit
  let afterWhole := characters.dropWhile Char.isDigit
  let fraction := if afterWhole.head? = some '.' then afterWhole.tail.takeWhile Char.isDigit else []
  let afterFraction :=
    if afterWhole.head? = some '.' then afterWhole.tail.dropWhile Char.isDigit else afterWhole
  if whole = [] ∧ fraction = [] then none
  else
    (durationUnit (afterFraction.takeWhile (!isDurationDigit ·))).map fun unit =>
      (digitsValue whole * unit + digitsValue fraction * unit / 10 ^ fraction.length,
        afterFraction.dropWhile (!isDurationDigit ·))

/-- The sum of the terms; every term takes a character off the text. -/
def durationTerms : Nat → List Char → Nat → Option Nat
  | _, [], total => some total
  | 0, _ :: _, _ => none
  | further + 1, characters, total =>
      (durationTerm characters).bind fun term =>
        if 2 ^ 63 < total + term.1 then none else durationTerms further term.2 (total + term.1)

/-- `time.ParseDuration`. -/
def parseDuration (text : String) : Option Int :=
  let negative := text.toList.head? = some '-'
  let body :=
    if negative ∨ text.toList.head? = some '+' then text.toList.tail else text.toList
  if body = ['0'] then some 0
  else if body = [] then none
  else
    (durationTerms body.length body 0).bind fun total =>
      if negative then some (-total) else if total < 2 ^ 63 then some total else none

/-- Texts are cut apart again where their first parts have the same length. -/
theorem append_eq_append_iff {first second firstRest secondRest : String}
    (sameLength : first.length = second.length) :
    first ++ firstRest = second ++ secondRest ↔ first = second ∧ firstRest = secondRest := by
  constructor
  · intro equal
    have characters := congrArg String.toList equal
    rw [String.toList_append, String.toList_append] at characters
    obtain ⟨firsts, rests⟩ := List.append_inj characters
      (by rw [String.length_toList, String.length_toList, sameLength])
    exact ⟨String.toList_inj.mp firsts, String.toList_inj.mp rests⟩
  · rintro ⟨rfl, rfl⟩
    rfl

end GoText
