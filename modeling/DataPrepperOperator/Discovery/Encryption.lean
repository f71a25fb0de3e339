import DataPrepperOperator.Discovery.Overrides
import DataPrepperOperator.Discovery.Rendering
import DataPrepperOperator.Generator.Config

/-!
# The encryption of discovered Kafka sources

A discovery hands its own encryption to the Kafka sources of its children that name none.
Before that the API server has stored the discovery, and the schema fills `encryptionType`
in the template as in every other Kafka source.
-/

namespace DataPrepperOperator.Discovery

open DataPrepperOperator.Api DataPrepperOperator.Generator

def mapKafkaSources (change : KafkaSourceSpec → KafkaSourceSpec)
    (definitions : List PipelineDefinition) : List PipelineDefinition :=
  definitions.map fun definition =>
    { definition with
      source := { definition.source with kafka := definition.source.kafka.map change } }

def defaultEncryption (encryption : EncryptionType) : EncryptionType :=
  if encryption = .unset then .ssl else encryption

def defaultKafkaSource (source : KafkaSourceSpec) : KafkaSourceSpec :=
  { source with encryptionType := defaultEncryption source.encryptionType }

def defaultScaling (scaling : ScalingSpec) : ScalingSpec :=
  { scaling with mode := if scaling.mode = .unset then .manual else scaling.mode }

/-- What the schema of a pipeline spec fills in. -/
def defaultPipelineSpec (spec : DataPrepperPipelineSpec) : DataPrepperPipelineSpec :=
  { spec with
    pipelines := mapKafkaSources defaultKafkaSource spec.pipelines
    scaling := spec.scaling.map defaultScaling }

def defaultPrefixSelector (selector : S3PrefixSelectorSpec) : S3PrefixSelectorSpec :=
  { selector with depth := if selector.depth = 0 then 1 else selector.depth }

/-- What the schema of a discovery fills in; the Kafka section itself has no default. -/
def defaultDiscoverySpec (spec : DataPrepperSourceDiscoverySpec) :
    DataPrepperSourceDiscoverySpec :=
  { spec with
    s3 := spec.s3.map fun s3 =>
      { s3 with prefixSelector := defaultPrefixSelector s3.prefixSelector }
    pipelineTemplate := { spec := defaultPipelineSpec spec.pipelineTemplate.spec }
    overrides := spec.overrides.map fun override =>
      { override with spec := defaultPipelineSpec override.spec }
    maxCreationsPerCycle := some (spec.maxCreationsPerCycle.getD 10) }

/-- The discovery that is stored for a manifest. -/
def storedDiscovery (manifest : DataPrepperSourceDiscovery) : DataPrepperSourceDiscovery where
  metadata := manifest.metadata
  spec := defaultDiscoverySpec manifest.spec
  status := manifest.status

def kafkaSourceAt (definitions : List PipelineDefinition) (index : Nat) :
    Option KafkaSourceSpec :=
  definitions[index]?.bind fun definition => definition.source.kafka

/-- The encryption that the Kafka source of a definition names. -/
def encryptionAt (definitions : List PipelineDefinition) (index : Nat) : Option EncryptionType :=
  (kafkaSourceAt definitions index).map fun source => source.encryptionType

/-- The encryption of a source section of `pipelines.yaml`. -/
def renderedEncryption (document : Value.Fields) : Option Value :=
  match document.lookup "kafka" with
  | some (.object config) => config.lookup "encryption"
  | _ => none

theorem kafkaSourceAt_mapKafkaSources (change : KafkaSourceSpec → KafkaSourceSpec)
    (definitions : List PipelineDefinition) (index : Nat) :
    kafkaSourceAt (mapKafkaSources change definitions) index =
      (kafkaSourceAt definitions index).map change := by
  unfold kafkaSourceAt mapKafkaSources
  rw [List.getElem?_map]
  cases definitions[index]? <;> rfl

theorem encryptionAt_mapKafkaSources {change : KafkaSourceSpec → KafkaSourceSpec}
    (recode : EncryptionType → EncryptionType)
    (recodes : ∀ source, (change source).encryptionType = recode source.encryptionType)
    (definitions : List PipelineDefinition) (index : Nat) :
    encryptionAt (mapKafkaSources change definitions) index =
      (encryptionAt definitions index).map recode := by
  unfold encryptionAt
  rw [kafkaSourceAt_mapKafkaSources, Option.map_map, Option.map_map]
  exact congrArg (Option.map · _) (funext recodes)

theorem encryptionAt_default (definitions : List PipelineDefinition) (index : Nat) :
    encryptionAt (mapKafkaSources defaultKafkaSource definitions) index =
      (encryptionAt definitions index).map defaultEncryption :=
  encryptionAt_mapKafkaSources defaultEncryption (fun _ => rfl) definitions index

/-- Inheriting adds nothing once the defaults are filled in. -/
theorem encryptionAt_inherit_default (kafka : KafkaDiscoverySpec)
    {definitions : List PipelineDefinition} {index : Nat} {own : Option EncryptionType}
    (filled : encryptionAt definitions index = own.map defaultEncryption) :
    encryptionAt (mapKafkaSources (inheritKafkaSource kafka) definitions) index =
      own.map defaultEncryption := by
  rw [encryptionAt_mapKafkaSources (fun encryption =>
    if encryption = .unset then kafka.encryptionType else encryption) (fun _ => rfl), filled,
    Option.map_map]
  congr 1
  funext encryption
  cases encryption <;> rfl

/-- Which encryptions become this one by defaulting. -/
theorem map_defaultEncryption_eq_some {own : Option EncryptionType} {encryption : EncryptionType}
    (named : encryption ≠ .unset) :
    own.map defaultEncryption = some encryption ↔
      own = some encryption ∨ own = some .unset ∧ encryption = .ssl := by
  cases own with
  | none => simp
  | some own => cases own <;> cases encryption <;> simp_all [defaultEncryption]

theorem renderedEncryption_buildKafkaSource {source : KafkaSourceSpec}
    (named : source.encryptionType ≠ .unset) (workers : Int) :
    renderedEncryption (buildKafkaSource source workers) =
      some (.object [("type", .string source.encryptionType.text)]) := by
  cases credentials : source.credentialsSecretRef <;>
    simp [renderedEncryption, buildKafkaSource, kafkaAuthenticationFor, credentials, named,
      List.lookup_cons]

/-- The definitions a child starts from: those of the last matching override that has any,
or else those of the template. -/
def effectiveDefinitions (toolkit : Toolkit) (source : String)
    (overrides : List DiscoveryOverrideSpec) (template : List PipelineDefinition) :
    List PipelineDefinition :=
  (lastSetting .pipelines (matchingOverrides toolkit source overrides)).getD template

theorem pipelines_applyOverrides (toolkit : Toolkit) (source : String)
    (overrides : List DiscoveryOverrideSpec) (template : DataPrepperPipelineSpec) :
    (applyOverrides toolkit source overrides template).pipelines =
      effectiveDefinitions toolkit source overrides template.pipelines := by
  have settings : listSetting (applyOverrides toolkit source overrides template).pipelines =
      (lastSetting .pipelines (matchingOverrides toolkit source overrides)).or
        (listSetting template.pipelines) := by
    rw [applyOverrides_eq_foldl]
    exact setting_foldl_applyOverride .pipelines _ template
  unfold effectiveDefinitions
  cases last : lastSetting .pipelines (matchingOverrides toolkit source overrides) with
  | none =>
      rw [last] at settings
      exact listSetting_inj settings
  | some definitions =>
      rw [last] at settings
      exact listSetting_eq_some settings

theorem matchingOverrides_default (toolkit : Toolkit) (source : String)
    (overrides : List DiscoveryOverrideSpec) :
    matchingOverrides toolkit source
        (overrides.map fun override =>
          { override with spec := defaultPipelineSpec override.spec }) =
      (matchingOverrides toolkit source overrides).map defaultPipelineSpec := by
  unfold matchingOverrides
  rw [List.filter_map, List.map_map, List.map_map]
  rfl

theorem lastSetting_default (overrides : List DataPrepperPipelineSpec) :
    lastSetting .pipelines (overrides.map defaultPipelineSpec) =
      (lastSetting .pipelines overrides).map (mapKafkaSources defaultKafkaSource) := by
  induction overrides using List.reverseRecOn with
  | nil => rfl
  | append_singleton overrides override ih =>
      rw [List.map_append, List.map_singleton, lastSetting_append, lastSetting_append,
        ih]
      have own : SpecField.setting .pipelines (defaultPipelineSpec override) =
          (SpecField.setting .pipelines override).map (mapKafkaSources defaultKafkaSource) :=
        listSetting_map _ override.pipelines
      rw [own]
      cases SpecField.setting .pipelines override <;> rfl

/-- Defaulting first and choosing the definitions then comes to the same. -/
theorem effectiveDefinitions_default (toolkit : Toolkit) (source : String)
    (overrides : List DiscoveryOverrideSpec) (template : List PipelineDefinition) :
    effectiveDefinitions toolkit source
        (overrides.map fun override =>
          { override with spec := defaultPipelineSpec override.spec })
        (mapKafkaSources defaultKafkaSource template) =
      mapKafkaSources defaultKafkaSource
        (effectiveDefinitions toolkit source overrides template) := by
  unfold effectiveDefinitions
  rw [matchingOverrides_default, lastSetting_default]
  cases lastSetting .pipelines (matchingOverrides toolkit source overrides) <;> rfl

/-- The overrides look at nothing of the template but its definitions. -/
theorem encryptionAt_effectiveDefinitions (toolkit : Toolkit) (source : String)
    (overrides : List DiscoveryOverrideSpec) {first second : List PipelineDefinition}
    (same : encryptionAt first = encryptionAt second) :
    encryptionAt (effectiveDefinitions toolkit source overrides first) =
      encryptionAt (effectiveDefinitions toolkit source overrides second) := by
  unfold effectiveDefinitions
  cases lastSetting .pipelines (matchingOverrides toolkit source overrides) with
  | none => exact same
  | some definitions => rfl

/-- Rendering the template leaves the encryption of its sources alone. -/
def RendersEncryption (toolkit : Toolkit) (discovery : DataPrepperSourceDiscovery)
    (source : DiscoveredSource) : Prop :=
  ∀ decoded, renderTemplate toolkit discovery source = .ok decoded →
    encryptionAt decoded.pipelines = encryptionAt discovery.spec.pipelineTemplate.spec.pipelines

/-- The fields of an enumeration hold no references, so that plain rendering keeps them. -/
theorem rendersEncryption_of_plain {toolkit : Toolkit} {engine : TemplateEngine}
    {discovery : DataPrepperSourceDiscovery} {source : DiscoveredSource}
    (library : StandardLibrary toolkit engine) (plain : OnlyPlainReferences engine discovery)
    (ordinary : ValuesOrdinary engine discovery source) :
    RendersEncryption toolkit discovery source := by
  intro decoded rendered
  rw [eq_substituted_of_renderTemplate library plain ordinary rendered]
  funext index
  simp only [substituted, DataPrepperPipelineSpec.mapStrings, encryptionAt, kafkaSourceAt,
    List.getElem?_map]
  cases (discovery.spec.pipelineTemplate.spec.pipelines : List PipelineDefinition)[index]? with
  | none => rfl
  | some definition =>
      cases kafka : definition.source.kafka <;>
        simp [PipelineDefinition.mapStrings, SourceSpec.mapStrings, KafkaSourceSpec.mapStrings,
          kafka]

/-- The encryption of a child's source. -/
theorem encryptionAt_renderPipelineSpec {toolkit : Toolkit}
    {manifest : DataPrepperSourceDiscovery} {source : DiscoveredSource}
    {kafka : KafkaDiscoverySpec} {child : DataPrepperPipelineSpec}
    (discovers : manifest.spec.kafka = some kafka)
    (rendersEncryption : RendersEncryption toolkit (storedDiscovery manifest) source)
    (rendered : renderPipelineSpec toolkit (storedDiscovery manifest) source = .ok child)
    (index : Nat) :
    encryptionAt (defaultPipelineSpec child).pipelines index =
      (encryptionAt (effectiveDefinitions toolkit source.name manifest.spec.overrides
        manifest.spec.pipelineTemplate.spec.pipelines) index).map defaultEncryption := by
  rw [renderPipelineSpec_eq] at rendered
  obtain ⟨decoded, decodes, inherited⟩ := ok_of_map rendered
  have kafkaStored : (storedDiscovery manifest).spec.kafka = some kafka := discovers
  simp only [kafkaStored] at inherited
  let start := effectiveDefinitions toolkit source.name manifest.spec.overrides
    manifest.spec.pipelineTemplate.spec.pipelines
  -- Before inheriting, no source is left without encryption.
  have overridden : encryptionAt (applyOverrides toolkit source.name
      (storedDiscovery manifest).spec.overrides decoded).pipelines index =
        (encryptionAt start index).map defaultEncryption := by
    rw [pipelines_applyOverrides, encryptionAt_effectiveDefinitions _ _ _
      (rendersEncryption decoded decodes)]
    exact (congrArg (encryptionAt · index) (effectiveDefinitions_default toolkit source.name
      manifest.spec.overrides manifest.spec.pipelineTemplate.spec.pipelines)).trans
        (encryptionAt_default start index)
  have child : (defaultPipelineSpec child).pipelines =
      mapKafkaSources defaultKafkaSource (mapKafkaSources (inheritKafkaSource kafka)
        (applyOverrides toolkit source.name (storedDiscovery manifest).spec.overrides
          decoded).pipelines) := by
    rw [← inherited]
    rfl
  rw [child, encryptionAt_default, encryptionAt_inherit_default kafka overridden, Option.map_map]
  congr 1
  funext own
  cases own <;> rfl

/-- Every Kafka source that the template leaves without encryption has this one in the
child, and the generated source says so. -/
def EncryptsWith (encryption : EncryptionType) (template child : DataPrepperPipelineSpec) : Prop :=
  ∀ index, encryptionAt template.pipelines index = some .unset →
    ∃ source, kafkaSourceAt child.pipelines index = some source ∧
      source.encryptionType = encryption ∧
      ∀ workers, renderedEncryption (buildKafkaSource source workers) =
        some (.object [("type", .string encryption.text)])

theorem encryptsWith_iff {encryption : EncryptionType} (named : encryption ≠ .unset)
    {template child : DataPrepperPipelineSpec} :
    EncryptsWith encryption template child ↔
      ∀ index, encryptionAt template.pipelines index = some .unset →
        encryptionAt child.pipelines index = some encryption := by
  refine forall₂_congr fun index unset => ?_
  constructor
  · rintro ⟨source, found, encrypted, -⟩
    rw [encryptionAt, found, Option.map_some, encrypted]
  · intro encrypted
    obtain ⟨source, found, rfl⟩ := Option.map_eq_some_iff.mp encrypted
    exact ⟨source, found, rfl, renderedEncryption_buildKafkaSource named⟩

/-- The schema default comes first: the encryption of the discovery reaches only the sources
that would have had it without. -/
theorem encryption_inherited_iff {toolkit : Toolkit} {manifest : DataPrepperSourceDiscovery}
    {source : DiscoveredSource} {kafka : KafkaDiscoverySpec} {child : DataPrepperPipelineSpec}
    (discovers : manifest.spec.kafka = some kafka) (named : kafka.encryptionType ≠ .unset)
    (rendersEncryption : RendersEncryption toolkit (storedDiscovery manifest) source)
    (rendered : renderPipelineSpec toolkit (storedDiscovery manifest) source = .ok child) :
    EncryptsWith kafka.encryptionType manifest.spec.pipelineTemplate.spec
        (defaultPipelineSpec child) ↔
      ∀ index, encryptionAt manifest.spec.pipelineTemplate.spec.pipelines index = some .unset →
        encryptionAt (effectiveDefinitions toolkit source.name manifest.spec.overrides
            manifest.spec.pipelineTemplate.spec.pipelines) index = some kafka.encryptionType ∨
          encryptionAt (effectiveDefinitions toolkit source.name manifest.spec.overrides
              manifest.spec.pipelineTemplate.spec.pipelines) index = some .unset ∧
            kafka.encryptionType = .ssl := by
  rw [encryptsWith_iff named]
  refine forall₂_congr fun index unset => ?_
  rw [encryptionAt_renderPipelineSpec discovers rendersEncryption rendered,
    map_defaultEncryption_eq_some named]

/-- One pipeline that reads a topic. -/
def topicReader (source : KafkaSourceSpec) : DataPrepperPipelineSpec where
  pipelines := [{ name := "main", source := { kafka := some source }
                  sink := [{ stdout := some {} }] }]

/-- A discovery of topics whose template leaves the encryption to it. -/
def topicManifest (encryption : EncryptionType) : DataPrepperSourceDiscovery where
  metadata := { name := "topics", nameSpace := "logs" }
  spec :=
    { kafka := some
        { bootstrapServers := ["kafka:9092"], encryptionType := encryption
          topicSelector := { topicPrefix := "app" } }
      pipelineTemplate :=
        { spec := topicReader
            { topic := "\x7b\x7b.DiscoveredName\x7d\x7d", groupId := "readers" } } }
  status := {}

/-- The child of the topic `app`, as the operator submits it. -/
def topicChild : DataPrepperPipelineSpec :=
  topicReader { bootstrapServers := ["kafka:9092"], topic := "app", groupId := "readers"
                encryptionType := .ssl }

-- The template is the same for every encryption: it is looked at without any.
theorem template_topicManifest :
    OnlyPlainReferences asciiEngine (storedDiscovery (topicManifest .unset)) ∧
      ValuesOrdinary asciiEngine (storedDiscovery (topicManifest .unset)) { name := "app" } ∧
      (pipelineSpec.encode
        (storedDiscovery (topicManifest .unset)).spec.pipelineTemplate.spec).isSome ∧
      substituted asciiEngine (storedDiscovery (topicManifest .unset)) { name := "app" } =
        topicReader { topic := "app", groupId := "readers", encryptionType := .ssl } := by
  decide +kernel

theorem renderTemplate_topicManifest (encryption : EncryptionType) :
    renderTemplate (standardToolkit asciiEngine) (storedDiscovery (topicManifest encryption))
      { name := "app" } =
        .ok (topicReader { topic := "app", groupId := "readers", encryptionType := .ssl }) := by
  obtain ⟨plain, ordinary, encodes, replaced⟩ := template_topicManifest
  obtain ⟨document, encoded⟩ := Option.isSome_iff_exists.mp encodes
  have rendered := renderTemplate_eq (standardLibrary_standardToolkit asciiEngine)
    plain ordinary encoded
  rw [replaced] at rendered
  exact rendered

theorem renderPipelineSpec_topicManifest (encryption : EncryptionType) :
    renderPipelineSpec (standardToolkit asciiEngine) (storedDiscovery (topicManifest encryption))
      { name := "app" } = .ok topicChild := by
  rw [renderPipelineSpec_eq, renderTemplate_topicManifest]
  rfl

theorem rendersEncryption_topicManifest (encryption : EncryptionType) :
    RendersEncryption (standardToolkit asciiEngine) (storedDiscovery (topicManifest encryption))
      { name := "app" } := by
  obtain ⟨plain, ordinary, -, -⟩ := template_topicManifest
  exact rendersEncryption_of_plain (standardLibrary_standardToolkit asciiEngine) plain ordinary

/-- A discovery with SSL has children with SSL. -/
theorem ssl_inherited :
    EncryptsWith .ssl (topicManifest .ssl).spec.pipelineTemplate.spec
      (defaultPipelineSpec topicChild) := by
  refine (encryption_inherited_iff rfl (by decide) (rendersEncryption_topicManifest .ssl)
    (renderPipelineSpec_topicManifest .ssl)).mpr ?_
  intro index unset
  exact .inr ⟨unset, rfl⟩

/-- A discovery without encryption has children with SSL too. -/
theorem plain_connection_not_inherited :
    renderPipelineSpec (standardToolkit asciiEngine) (storedDiscovery (topicManifest .none))
        { name := "app" } = .ok topicChild ∧
      ¬EncryptsWith .none (topicManifest .none).spec.pipelineTemplate.spec
        (defaultPipelineSpec topicChild) := by
  refine ⟨renderPipelineSpec_topicManifest .none, fun inherited => ?_⟩
  obtain ⟨source, found, encryption, -⟩ := inherited 0 rfl
  cases found
  cases encryption

end DataPrepperOperator.Discovery
