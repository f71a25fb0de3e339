import Mathlib.Data.List.Basic
import DataPrepperOperator.Api.Objects
import DataPrepperOperator.Library.Framing
import DataPrepperOperator.Library.GoText
import DataPrepperOperator.Library.JsonCodec

/-!
# Library functions that the operator calls

Hashing, YAML and JSON encoding, templates, glob patterns and durations are the
business of other packages.  The development is parametric in them.
-/

namespace DataPrepperOperator.Api

/-- `template.Context`: the variables of a pipeline template. -/
structure TemplateContext where
  discoveredName : String
  metadata : Value.Fields
  nameSpace : String
  discoveryName : String
  deriving DecidableEq

structure Toolkit where
  /-- `sha256.Sum256`. -/
  sha256 : Bytes → Bytes
  sha256_length : ∀ bytes, (sha256 bytes).length = 32
  /-- `sigs.k8s.io/yaml.Marshal`. -/
  marshalYAML : Value → Except String String
  /-- `json.Marshal` of a pipeline spec. -/
  marshalSpec : DataPrepperPipelineSpec → Except String String
  /-- `json.Unmarshal` into a pipeline spec. -/
  unmarshalSpec : String → Except String DataPrepperPipelineSpec
  /-- `json.Unmarshal` into a raw message, which only checks the text. -/
  checkJSON : String → Except String Unit
  /-- `text/template` parsing; a parsed template is executed on a context. -/
  parseTemplate : String → Except String (TemplateContext → Except String String)
  /-- `filepath.Match`. -/
  matchPattern : String → String → Except String Bool
  /-- `time.ParseDuration`, in nanoseconds. -/
  parseDuration : String → Except String Int

/-- The bytes of a Go string. -/
def utf8 (text : String) : Bytes := text.toUTF8.data.toList

theorem utf8_injective : Function.Injective utf8 := by
  intro first second equal
  apply String.toByteArray_inj.mp
  apply ByteArray.ext
  exact Array.toList_inj.mp equal

namespace Toolkit

/-- The first eight bytes of the SHA-256 hash as sixteen hexadecimal digits. -/
def truncatedHash (toolkit : Toolkit) (bytes : Bytes) : String :=
  String.ofList ((GoText.hexEncode (toolkit.sha256 bytes)).take 16)

theorem length_truncatedHash (toolkit : Toolkit) (bytes : Bytes) :
    (toolkit.truncatedHash bytes).length = 16 := by
  have digits := GoText.length_hexEncode (toolkit.sha256 bytes)
  rw [toolkit.sha256_length] at digits
  simp [truncatedHash, digits]

/-- These two byte strings are no collision of the truncated hash. -/
def Distinguishes (toolkit : Toolkit) (first second : Bytes) : Prop :=
  toolkit.truncatedHash first = toolkit.truncatedHash second → first = second

theorem truncatedHash_flatten_eq_iff {toolkit : Toolkit} {first second : List Bytes}
    (distinguishes : toolkit.Distinguishes first.flatten second.flatten) :
    toolkit.truncatedHash first.flatten = toolkit.truncatedHash second.flatten ↔
      Framing.SameUpToBoundaries first second := by
  rw [← Framing.flatten_eq_iff_sameUpToBoundaries]
  exact ⟨distinguishes, congrArg _⟩

/-- A reader of YAML that understands what the marshaller writes, up to the order of the
fields.  Its numbers are integers of the spec or were decoded into a `float64`, and
both can be read back. -/
def ReadBy (toolkit : Toolkit) (read : String → Option Value) : Prop :=
  ∀ value text, toolkit.marshalYAML value = .ok text → read text = some value.canonical

/-- The marshaller gets maps, so it cannot tell in which order the fields were set. -/
def IgnoresOrder (toolkit : Toolkit) : Prop :=
  ∀ first second : Value, first.canonical = second.canonical →
    toolkit.marshalYAML first = toolkit.marshalYAML second

end Toolkit

/-- Stand-ins for the library functions, for runs on concrete inputs. -/
def sampleToolkit : Toolkit where
  sha256 _ := List.replicate 32 0
  sha256_length _ := rfl
  marshalYAML _ := .ok "yaml"
  marshalSpec spec := .ok spec.image
  unmarshalSpec text := .ok { image := text }
  checkJSON _ := .ok ()
  parseTemplate text := .ok fun _ => .ok text
  matchPattern pattern name := .ok (decide (pattern = name))
  parseDuration _ := .error "time: invalid duration"

theorem length_take_padded (bytes : Bytes) :
    ((bytes ++ List.replicate 32 0).take 32).length = 32 := by
  simp

/-- The stand-ins with YAML documents written as JSON. -/
def jsonToolkit : Toolkit :=
  { sampleToolkit with
    marshalYAML := fun value =>
      match value.canonical.printText with
      | none => .error "yaml: not a decimal number"
      | some text => .ok text }

theorem jsonToolkit_readBy : jsonToolkit.ReadBy Value.readText := by
  intro value text marshalled
  have printed : value.canonical.printText = some text := by
    cases printed : value.canonical.printText <;> simp_all [jsonToolkit]
  exact Value.readText_of_printText printed

theorem jsonToolkit_ignoresOrder : jsonToolkit.IgnoresOrder := by
  intro first second same
  simp only [jsonToolkit, same]

end DataPrepperOperator.Api
