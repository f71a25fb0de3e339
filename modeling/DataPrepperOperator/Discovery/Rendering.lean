import DataPrepperOperator.Api.Encoding
import DataPrepperOperator.Discovery.Template
import DataPrepperOperator.Library.TextTemplate

/-!
# Rendering the pipeline template of a discovery

The template is rendered as text: its spec is encoded, the references in the text
are replaced by the values of the source, and the result is decoded.  Rendering is
faithful if what is decoded is the template with each reference replaced inside the
strings, and if it fails where a referenced key is missing.
-/

namespace DataPrepperOperator.Discovery

open DataPrepperOperator.Api TextTemplate JsonText

/-- What a plain reference can name. -/
inductive Variable where
  | discoveredName
  | nameSpace
  | discoveryName
  | metadata (key : String)
  deriving DecidableEq

def Variable.name : Variable → List Char
  | .discoveredName => ".DiscoveredName".toList
  | .nameSpace => ".Namespace".toList
  | .discoveryName => ".DiscoveryName".toList
  | .metadata key => ".Metadata.".toList ++ key.toList

/-- A variable and the blanks around it.  Other white space is no part of an action: it
is escaped in the text of a JSON string. -/
structure Action where
  leading : Nat
  named : Variable
  trailing : Nat
  deriving DecidableEq

def Action.name (action : Action) : List Char :=
  List.replicate action.leading ' ' ++
    (action.named.name ++ List.replicate action.trailing ' ')

/-- Of `text/template`, what the operator does not decide: the letters and digits
beyond ASCII, and how values that are no strings are printed. -/
structure TemplateEngine where
  isLetterOrDigit : Char → Bool
  printed : Value → String
  printed_string : ∀ text, printed (.string text) = text

namespace TemplateEngine

variable (engine : TemplateEngine)

/-- The characters of a field name.  The two line separators are no letters. -/
def isAlphaNumeric (character : Char) : Bool :=
  if character.toNat < 128 then character == '_' || character.isAlphanum
  else character != '\u2028' && character != '\u2029' && engine.isLetterOrDigit character

/-- A field name does not start with a digit, which would start a number. -/
def isFieldName (name : List Char) : Bool :=
  name.all engine.isAlphaNumeric && name.head?.any fun first => !first.isDigit

def readVariable (characters : List Char) : Option Variable :=
  if characters = Variable.name .discoveredName then some .discoveredName
  else if characters = Variable.name .nameSpace then some .nameSpace
  else if characters = Variable.name .discoveryName then some .discoveryName
  else if characters.take 10 = ".Metadata.".toList ∧
      engine.isFieldName (characters.drop 10) = true then
    some (.metadata (String.ofList (characters.drop 10)))
  else none

/-- What stands between braces: a variable, perhaps with blanks around it. -/
def readAction (characters : List Char) : Option Action :=
  let rest := characters.dropWhile (· == ' ')
  (engine.readVariable (rest.rdropWhile (· == ' '))).map fun named =>
    { leading := (characters.takeWhile (· == ' ')).length
      named := named
      trailing := (rest.rtakeWhile (· == ' ')).length }

variable {engine}

theorem not_special_of_isAlphaNumeric {character : Char}
    (alphaNumeric : engine.isAlphaNumeric character = true) :
    character ≠ '}' ∧ escapeChar character = [character] := by
  have visible : ¬character.toNat < 0x20 := by
    intro control
    simp only [isAlphaNumeric, if_pos (show character.toNat < 128 by omega), Bool.or_eq_true,
      beq_iff_eq] at alphaNumeric
    obtain rfl | letter := alphaNumeric
    · exact absurd control (by decide)
    · have none : ∀ code < 0x20, (Char.ofNat code).isAlphanum = false := by decide
      have notLetter := none character.toNat control
      rw [Char.ofNat_toNat, letter] at notLetter
      cases notLetter
  have different {special : Char} (rejected : engine.isAlphaNumeric special = false) :
      character ≠ special := by
    rintro rfl
    rw [rejected] at alphaNumeric
    cases alphaNumeric
  refine ⟨different rfl, ?_⟩
  unfold escapeChar
  rw [if_neg (different rfl), if_neg (different rfl), if_neg (different rfl),
    if_neg (different rfl), if_neg (different rfl), if_neg (different rfl),
    if_neg (different rfl), if_neg]
  simp only [visible, List.mem_cons, List.not_mem_nil, or_false, false_or, not_or]
  exact ⟨different rfl, different rfl, different rfl, different rfl, different rfl⟩

/-- What is read as a variable is a name of letters, digits and dots. -/
theorem readVariable_spec {characters : List Char} {named : Variable}
    (read : engine.readVariable characters = some named) :
    named.name = characters ∧
      characters.all (fun character => character == '.' || engine.isAlphaNumeric character) =
        true := by
  unfold readVariable at read
  split_ifs at read with discovered nameSpace discovery field
  · cases read
    exact ⟨discovered.symm, discovered ▸ rfl⟩
  · cases read
    exact ⟨nameSpace.symm, nameSpace ▸ rfl⟩
  · cases read
    exact ⟨discovery.symm, discovery ▸ rfl⟩
  · cases read
    obtain ⟨leading, fieldName⟩ := field
    rw [isFieldName, Bool.and_eq_true, List.all_eq_true] at fieldName
    have split := List.take_append_drop 10 characters
    rw [leading] at split
    have key : (String.ofList (characters.drop 10)).toList = characters.drop 10 :=
      String.toList_ofList
    refine ⟨(congrArg (".Metadata.".toList ++ ·) key).trans split, ?_⟩
    rw [← split, List.all_append, Bool.and_eq_true]
    constructor
    · rfl
    · rw [List.all_eq_true]
      intro character member
      rw [fieldName.1 character member, Bool.or_true]

theorem not_special_of_readVariable {characters : List Char} {named : Variable}
    (read : engine.readVariable characters = some named) {character : Char}
    (member : character ∈ characters) :
    character ≠ '}' ∧ escapeChar character = [character] := by
  have inName := List.all_eq_true.mp (readVariable_spec read).2 character member
  rw [Bool.or_eq_true, beq_iff_eq] at inName
  obtain rfl | alphaNumeric := inName
  · decide
  · exact not_special_of_isAlphaNumeric alphaNumeric

theorem blanks_eq_replicate {blanks : List Char}
    (blank : ∀ character ∈ blanks, (character == ' ') = true) :
    List.replicate blanks.length ' ' = blanks :=
  (List.eq_replicate_of_mem fun character member => beq_iff_eq.mp (blank character member)).symm

theorem readAction_spec {characters : List Char} {action : Action}
    (read : engine.readAction characters = some action) :
    engine.readVariable action.named.name = some action.named ∧ action.name = characters := by
  obtain ⟨named, readNamed, rfl⟩ := Option.map_eq_some_iff.mp read
  have spelled := (readVariable_spec readNamed).1
  refine ⟨by rw [spelled, readNamed], ?_⟩
  simp only [Action.name, spelled]
  rw [blanks_eq_replicate fun _ => List.mem_takeWhile_imp,
    blanks_eq_replicate fun _ => List.mem_rtakeWhile_imp, List.rdropWhile_append_rtakeWhile,
    List.takeWhile_append_dropWhile]

theorem not_special_of_readAction {characters : List Char} {action : Action}
    (read : engine.readAction characters = some action) {character : Char}
    (member : character ∈ characters) :
    character ≠ '}' ∧ escapeChar character = [character] := by
  obtain ⟨readNamed, rfl⟩ := readAction_spec read
  simp only [Action.name, List.mem_append, List.mem_replicate] at member
  obtain ⟨_, rfl⟩ | inName | ⟨_, rfl⟩ := member
  · decide
  · exact not_special_of_readVariable readNamed inName
  · decide

variable (engine)

def language : Names Action where
  name := Action.name
  read := engine.readAction
  name_of_read read := (readAction_spec read).2
  closed read member := (not_special_of_readAction read member).1 rfl

theorem inert_language : Inert engine.language :=
  fun read _ member => (not_special_of_readAction read member).2

/-- What a variable prints; a missing key of a map prints a text of its own. -/
def value (context : TemplateContext) : Variable → List Char
  | .discoveredName => context.discoveredName.toList
  | .nameSpace => context.nameSpace.toList
  | .discoveryName => context.discoveryName.toList
  | .metadata key =>
      match context.metadata.lookup key with
      | some value => (engine.printed value).toList
      | none => "<no value>".toList

/-- The blanks of an action are not printed. -/
def print (context : TemplateContext) (action : Action) : List Char :=
  engine.value context action.named

end TemplateEngine

/-- The encoder, the decoder and the template engine of the standard library. -/
structure StandardLibrary (toolkit : Toolkit) (engine : TemplateEngine) : Prop where
  marshal : ∀ spec, (toolkit.marshalSpec spec).toOption =
    (pipelineSpec.marshal spec).map String.ofList
  check : ∀ text, (toolkit.checkJSON text).toOption.isSome = (Json.parse text.toList).isSome
  unmarshal : ∀ text, (toolkit.unmarshalSpec text).toOption = pipelineSpec.unmarshal text.toList
  template : ∀ text pieces, scan engine.language .text text.toList = some pieces →
    ∃ template, toolkit.parseTemplate text = .ok template ∧ ∀ context,
      template context = .ok (String.ofList (pieces.flatMap (Piece.print (engine.print context))))

/-- The marshal, render and unmarshal steps of `renderPipelineSpec`. -/
def renderTemplate (toolkit : Toolkit) (discovery : DataPrepperSourceDiscovery)
    (source : DiscoveredSource) : Except String DataPrepperPipelineSpec := do
  let templateJSON ← (toolkit.marshalSpec discovery.spec.pipelineTemplate.spec).mapError
    ("marshal template: " ++ ·)
  let rendered ← (renderJSON toolkit templateJSON (templateContext discovery source)).mapError
    ("render template: " ++ ·)
  (toolkit.unmarshalSpec rendered).mapError ("unmarshal rendered spec: " ++ ·)

/-- The other steps change the decoded spec, and cannot fail. -/
theorem renderPipelineSpec_eq (toolkit : Toolkit) (discovery : DataPrepperSourceDiscovery)
    (source : DiscoveredSource) :
    renderPipelineSpec toolkit discovery source =
      (renderTemplate toolkit discovery source).map fun decoded =>
        let spec := applyOverrides toolkit source.name discovery.spec.overrides decoded
        match discovery.spec.kafka with
        | none => spec
        | some kafka => inheritKafkaDiscoveryConfig kafka spec := by
  unfold renderPipelineSpec renderTemplate
  cases toolkit.marshalSpec discovery.spec.pipelineTemplate.spec with
  | error message => rfl
  | ok templateJSON =>
      simp only [Except.mapError, bind, Except.bind]
      cases renderJSON toolkit templateJSON (templateContext discovery source) with
      | error message => rfl
      | ok rendered => cases toolkit.unmarshalSpec rendered <;> rfl

section Faithful

variable (toolkit : Toolkit) (engine : TemplateEngine) (discovery : DataPrepperSourceDiscovery)
  (source : DiscoveredSource)

/-- The strings of the template; one that cannot be encoded has none. -/
def templateStrings : List String :=
  ((pipelineSpec.encode discovery.spec.pipelineTemplate.spec).map Json.strings).getD []

/-- Nothing but plain references stands between braces. -/
def OnlyPlainReferences : Prop :=
  ∀ text ∈ templateStrings discovery, (scan engine.language .text text.toList).isSome = true

/-- The variables that the template refers to. -/
def references : List Variable :=
  (templateStrings discovery).flatMap fun text =>
    (pieces engine.language text).filterMap fun
      | .literal _ => none
      | .reference action => some action.named

/-- The source has a value for the variable. -/
def Defined : Variable → Prop
  | .metadata key => (source.metadata.lookup key).isSome = true
  | .discoveredName | .nameSpace | .discoveryName => True

/-- The template with each reference inside each string replaced. -/
def substituted : DataPrepperPipelineSpec :=
  discovery.spec.pipelineTemplate.spec.mapStrings
    (substitute engine.language (engine.print (templateContext discovery source)))

/-- Rendering replaces the references and nothing else, and fails where one has no
value. -/
def Faithful : Prop :=
  ∀ spec, renderTemplate toolkit discovery source = .ok spec →
    spec = substituted engine discovery source ∧
      ∀ named ∈ references engine discovery, Defined source named

end Faithful

section Rendering

variable {toolkit : Toolkit} {engine : TemplateEngine} {discovery : DataPrepperSourceDiscovery}
  {source : DiscoveredSource}

theorem mem_references {text : String} (listed : text ∈ templateStrings discovery)
    {action : Action} (refers : .reference action ∈ pieces engine.language text) :
    action.named ∈ references engine discovery := by
  unfold references
  rw [List.mem_flatMap]
  exact ⟨text, listed, List.mem_filterMap.mpr ⟨_, refers, rfl⟩⟩

/-- The values that a source puts in the place of the references need no escaping. -/
def ValuesOrdinary (engine : TemplateEngine) (discovery : DataPrepperSourceDiscovery)
    (source : DiscoveredSource) : Prop :=
  ∀ named ∈ references engine discovery,
    ∀ character ∈ engine.value (templateContext discovery source) named, IsOrdinary character

-- Given by hand, since the search may find the instance that tries every character there is.
instance (engine : TemplateEngine) (discovery : DataPrepperSourceDiscovery)
    (source : DiscoveredSource) : Decidable (ValuesOrdinary engine discovery source) :=
  letI : ∀ named, Decidable (∀ character ∈
      engine.value (templateContext discovery source) named, IsOrdinary character) :=
    fun _ => List.decidableBAll IsOrdinary _
  List.decidableBAll _ _

theorem ok_of_toOption {Error Result : Type} {outcome : Except Error Result} {result : Result}
    (succeeds : outcome.toOption = some result) : outcome = .ok result := by
  cases outcome with
  | error message => cases succeeds
  | ok other => exact congrArg _ (Option.some.inj succeeds)

theorem renderTemplate_eq (library : StandardLibrary toolkit engine)
    (plain : OnlyPlainReferences engine discovery)
    (ordinary : ValuesOrdinary engine discovery source) {document : Json}
    (encoded : pipelineSpec.encode discovery.spec.pipelineTemplate.spec = some document) :
    renderTemplate toolkit discovery source = .ok (substituted engine discovery source) := by
  have strings : templateStrings discovery = document.strings := by
    rw [templateStrings, encoded, Option.map_some, Option.getD_some]
  obtain ⟨found, scanned, parsed⟩ := parse_print_text engine.inert_language
    (fun text listed => plain text (strings ▸ listed))
    (fun text listed action refers => show ∀ character ∈
        engine.print (templateContext discovery source) action, IsOrdinary character from
      ordinary _ (mem_references (strings ▸ listed) refers))
  have marshalled : toolkit.marshalSpec discovery.spec.pipelineTemplate.spec =
      .ok (String.ofList document.text) := by
    apply ok_of_toOption
    rw [library.marshal, Codec.marshal, encoded, Option.map_some, Option.map_some]
  obtain ⟨template, parsedTemplate, executes⟩ := library.template
    (String.ofList document.text) found (by rw [String.toList_ofList, scanned])
  have rendered := executes (templateContext discovery source)
  generalize textEq : String.ofList
    (found.flatMap (Piece.print (engine.print (templateContext discovery source)))) = text
    at rendered
  have parsedText : Json.parse text.toList = some (document.mapStrings
      (substitute engine.language (engine.print (templateContext discovery source)))) := by
    rw [← textEq, String.toList_ofList, parsed]
  have decoded : toolkit.unmarshalSpec text = .ok (substituted engine discovery source) := by
    apply ok_of_toOption
    rw [library.unmarshal, Codec.unmarshal, parsedText, Option.bind_some]
    exact pipelineSpec.decode_encode (fun _ => substitute_of_plain) encoded
  have accepted : ∃ result, toolkit.checkJSON text = .ok result := by
    have checked := library.check text
    rw [parsedText, Option.isSome_some] at checked
    obtain ⟨result, succeeds⟩ := Option.isSome_iff_exists.mp checked
    exact ⟨result, ok_of_toOption succeeds⟩
  obtain ⟨_, checked⟩ := accepted
  simp [renderTemplate, renderJSON, marshalled, parsedTemplate, rendered, checked, decoded,
    Except.mapError, bind, Except.bind, pure, Except.pure]

theorem encoded_of_renderTemplate (library : StandardLibrary toolkit engine)
    {spec : DataPrepperPipelineSpec}
    (rendered : renderTemplate toolkit discovery source = .ok spec) :
    ∃ document, pipelineSpec.encode discovery.spec.pipelineTemplate.spec = some document := by
  cases encoded : pipelineSpec.encode discovery.spec.pipelineTemplate.spec with
  | some document => exact ⟨document, rfl⟩
  | none =>
      have marshalled := library.marshal discovery.spec.pipelineTemplate.spec
      rw [Codec.marshal, encoded] at marshalled
      unfold renderTemplate at rendered
      cases failed : toolkit.marshalSpec discovery.spec.pipelineTemplate.spec with
      | ok text => simp [failed, Except.toOption] at marshalled
      | error message =>
          rw [failed] at rendered
          cases rendered

theorem eq_substituted_of_renderTemplate (library : StandardLibrary toolkit engine)
    (plain : OnlyPlainReferences engine discovery)
    (ordinary : ValuesOrdinary engine discovery source) {spec : DataPrepperPipelineSpec}
    (rendered : renderTemplate toolkit discovery source = .ok spec) :
    spec = substituted engine discovery source := by
  obtain ⟨document, encoded⟩ := encoded_of_renderTemplate library rendered
  rw [renderTemplate_eq library plain ordinary encoded] at rendered
  exact (Except.ok.inj rendered).symm

/-- As long as the values need no escaping, rendering is faithful where every
referenced key has a value, and nowhere else. -/
theorem rendering_faithful_iff (library : StandardLibrary toolkit engine)
    (plain : OnlyPlainReferences engine discovery)
    (ordinary : ValuesOrdinary engine discovery source) :
    Faithful toolkit engine discovery source ↔
      ∀ named ∈ references engine discovery, Defined source named := by
  constructor
  · intro faithful named refers
    cases encoded : pipelineSpec.encode discovery.spec.pipelineTemplate.spec with
    | none => simp [references, templateStrings, encoded] at refers
    | some document =>
        exact (faithful _ (renderTemplate_eq library plain ordinary encoded)).2 named refers
  · intro defined spec rendered
    exact ⟨eq_substituted_of_renderTemplate library plain ordinary rendered, defined⟩

end Rendering

/-- An engine that knows ASCII letters and prints strings. -/
def asciiEngine : TemplateEngine where
  isLetterOrDigit _ := false
  printed
    | .string text => text
    | _ => "<no value>"
  printed_string _ := rfl

def orFail {Result : Type} (message : String) : Option Result → Except String Result
  | none => .error message
  | some result => .ok result

/-- The stand-ins, with the encoder, the decoder and the engine of the standard
library. -/
def standardToolkit (engine : TemplateEngine) : Toolkit :=
  { sampleToolkit with
    marshalSpec := fun spec =>
      orFail "unsupported value" ((pipelineSpec.marshal spec).map String.ofList)
    unmarshalSpec := fun text =>
      orFail "cannot unmarshal" (pipelineSpec.unmarshal text.toList)
    checkJSON := fun text =>
      orFail "invalid character" ((Json.parse text.toList).map fun _ => ())
    parseTemplate := fun text =>
      orFail "unexpected token" ((scan engine.language .text text.toList).map
        fun pieces context =>
          .ok (String.ofList (pieces.flatMap (Piece.print (engine.print context))))) }

theorem toOption_orFail {Result : Type} (message : String) (result : Option Result) :
    (orFail message result).toOption = result := by
  cases result <;> rfl

theorem standardLibrary_standardToolkit (engine : TemplateEngine) :
    StandardLibrary (standardToolkit engine) engine where
  marshal _ := toOption_orFail _ _
  check text := by
    rw [standardToolkit, toOption_orFail, Option.isSome_map]
  unmarshal _ := toOption_orFail _ _
  template text pieces scanned := by
    refine ⟨fun context =>
      .ok (String.ofList (pieces.flatMap (Piece.print (engine.print context)))), ?_, fun _ => rfl⟩
    simp only [standardToolkit, scanned, Option.map_some, orFail]

/-- A discovery of bucket prefixes whose children run this image. -/
def bucketDiscovery (image : String) : DataPrepperSourceDiscovery where
  metadata := { name := "buckets", nameSpace := "logs" }
  spec :=
    { s3 := some { region := "eu-west-1", bucket := "archive", prefixSelector := {} }
      pipelineTemplate := { spec := { image := image } } }
  status := {}

/-- A prefix of the bucket that closes the string it is put into. -/
def forgedSource : DiscoveredSource where
  name := "app\",\"serviceAccountName\":\"admin"

instance (engine : TemplateEngine) (discovery : DataPrepperSourceDiscovery) :
    Decidable (OnlyPlainReferences engine discovery) :=
  inferInstanceAs (Decidable (∀ _ ∈ _, _))

/-- The image names the source. -/
def imageByName : String := "registry/\x7b\x7b .DiscoveredName \x7d\x7d"

/-- The image names a key that no bucket prefix has. -/
def imageByTag : String := "registry/\x7b\x7b.Metadata.tag\x7d\x7d"

theorem references_imageByName :
    OnlyPlainReferences asciiEngine (bucketDiscovery imageByName) ∧
      ValuesOrdinary asciiEngine (bucketDiscovery imageByName) { name := "app" } ∧
      references asciiEngine (bucketDiscovery imageByName) = [.discoveredName] := by
  decide +kernel

theorem references_imageByTag :
    OnlyPlainReferences asciiEngine (bucketDiscovery imageByTag) ∧
      ValuesOrdinary asciiEngine (bucketDiscovery imageByTag) { name := "app" } ∧
      references asciiEngine (bucketDiscovery imageByTag) = [.metadata "tag"] := by
  decide +kernel

/-- A forged prefix sets the service account, and a missing key is printed. -/
theorem rendering_injects_fields :
    (OnlyPlainReferences asciiEngine (bucketDiscovery imageByName) ∧
      ¬Faithful (standardToolkit asciiEngine) asciiEngine (bucketDiscovery imageByName)
        forgedSource) ∧
    (OnlyPlainReferences asciiEngine (bucketDiscovery imageByTag) ∧
      ¬Faithful (standardToolkit asciiEngine) asciiEngine (bucketDiscovery imageByTag)
        { name := "app" }) := by
  obtain ⟨plainName, -, -⟩ := references_imageByName
  obtain ⟨plainTag, ordinary, only⟩ := references_imageByTag
  have forged : renderTemplate (standardToolkit asciiEngine) (bucketDiscovery imageByName)
        forgedSource = .ok { image := "registry/app", serviceAccountName := "admin" } ∧
      (substituted asciiEngine (bucketDiscovery imageByName) forgedSource).image ≠
        "registry/app" := by
    decide +kernel
  refine ⟨⟨plainName, fun faithful => ?_⟩, plainTag, fun faithful => ?_⟩
  · have sameImage := congrArg (·.image) (faithful _ forged.1).1
    exact forged.2 sameImage.symm
  · have defined := (rendering_faithful_iff (standardLibrary_standardToolkit asciiEngine) plainTag
      ordinary).mp faithful (.metadata "tag") (by rw [only]; exact List.mem_singleton_self _)
    cases defined

/-- A prefix of letters is rendered as it should. -/
theorem rendering_faithful_of_letters :
    Faithful (standardToolkit asciiEngine) asciiEngine (bucketDiscovery imageByName)
      { name := "app" } := by
  obtain ⟨plain, ordinary, only⟩ := references_imageByName
  refine (rendering_faithful_iff (standardLibrary_standardToolkit asciiEngine) plain
    ordinary).mpr ?_
  intro named refers
  rw [only, List.mem_singleton] at refers
  subst refers
  trivial

end DataPrepperOperator.Discovery
