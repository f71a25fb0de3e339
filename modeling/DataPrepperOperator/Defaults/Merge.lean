import DataPrepperOperator.Api.Types

/-!
# Merging namespace defaults into a pipeline

`mergeSpec` fills what the pipeline leaves open.  Kafka defaults reach Kafka
sources only and OpenSearch defaults reach OpenSearch sinks only.
-/

namespace DataPrepperOperator.Defaults

open DataPrepperOperator.Api

/-- An optional section: the pipeline's own, or else the default. -/
def mergeSection {Section : Type} (own fallback : Option Section) : Option Section :=
  match own, fallback with
  | none, some value => some value
  | value, _ => value

theorem mergeSection_eq_some {Section : Type} {own fallback : Option Section}
    {value : Section} :
    mergeSection own fallback = some value ↔
      own = some value ∨ own = none ∧ fallback = some value := by
  cases own <;> cases fallback <;> simp [mergeSection]

def mergeKafkaSource (defaults : DefaultKafkaSpec) (kafka : KafkaSourceSpec) :
    KafkaSourceSpec :=
  { kafka with
    bootstrapServers :=
      if kafka.bootstrapServers.length = 0 ∧ 0 < defaults.bootstrapServers.length then
        defaults.bootstrapServers
      else
        kafka.bootstrapServers
    credentialsSecretRef :=
      mergeSection kafka.credentialsSecretRef defaults.credentialsSecretRef }

def mergeOpenSearchSink (defaults : OpenSearchSinkSpec) (sink : OpenSearchSinkSpec) :
    OpenSearchSinkSpec :=
  { sink with
    hosts :=
      if sink.hosts.length = 0 ∧ 0 < defaults.hosts.length then defaults.hosts else sink.hosts
    credentialsSecretRef :=
      mergeSection sink.credentialsSecretRef defaults.credentialsSecretRef }

/-- The Kafka loop: pipelines without a Kafka source are skipped. -/
def mergeKafka (defaults : DefaultKafkaSpec) (pipeline : PipelineDefinition) :
    PipelineDefinition :=
  { pipeline with
    source := { pipeline.source with
      kafka := pipeline.source.kafka.map (mergeKafkaSource defaults) } }

/-- The sink loop: sinks without an OpenSearch member are skipped. -/
def mergeOpenSearch (defaults : OpenSearchSinkSpec) (pipeline : PipelineDefinition) :
    PipelineDefinition :=
  { pipeline with
    sink := pipeline.sink.map fun sink =>
      { sink with openSearch := sink.openSearch.map (mergeOpenSearchSink defaults) } }

def mergePipelines (defaults : DataPrepperDefaultsSpec) (pipelines : List PipelineDefinition) :
    List PipelineDefinition :=
  let withKafka := match defaults.kafka with
    | none => pipelines
    | some kafka => pipelines.map (mergeKafka kafka)
  match defaults.sink with
  | none => withKafka
  | some sink =>
      match sink.openSearch with
      | none => withKafka
      | some openSearch => withKafka.map (mergeOpenSearch openSearch)

def mergeSpec (defaults : Option DataPrepperDefaultsSpec) (pipeline : DataPrepperPipelineSpec) :
    DataPrepperPipelineSpec :=
  match defaults with
  | none => pipeline
  | some defaults =>
      { pipeline with
        image :=
          if pipeline.image = "" ∧ defaults.image ≠ "" then defaults.image else pipeline.image
        resources := mergeSection pipeline.resources defaults.resources
        dataPrepperConfig := mergeSection pipeline.dataPrepperConfig defaults.dataPrepperConfig
        serviceMonitor := mergeSection pipeline.serviceMonitor defaults.serviceMonitor
        pipelines := mergePipelines defaults pipeline.pipelines }

/-- The scaling section has no default. -/
@[simp]
theorem mergeSpec_scaling (defaults : Option DataPrepperDefaultsSpec)
    (pipeline : DataPrepperPipelineSpec) :
    (mergeSpec defaults pipeline).scaling = pipeline.scaling := by
  cases defaults <;> rfl

/-- What merging does to one definition. -/
def mergeDefinition (defaults : DataPrepperDefaultsSpec) (pipeline : PipelineDefinition) :
    PipelineDefinition :=
  let withKafka := match defaults.kafka with
    | none => pipeline
    | some kafka => mergeKafka kafka pipeline
  match defaults.sink.bind (·.openSearch) with
  | none => withKafka
  | some openSearch => mergeOpenSearch openSearch withKafka

/-- Merging rewrites definitions in place. -/
theorem mergePipelines_eq_map (defaults : DataPrepperDefaultsSpec)
    (pipelines : List PipelineDefinition) :
    mergePipelines defaults pipelines = pipelines.map (mergeDefinition defaults) := by
  have step : mergeDefinition defaults = fun pipeline =>
      match defaults.sink.bind (·.openSearch) with
      | none => (match defaults.kafka with
          | none => pipeline
          | some kafka => mergeKafka kafka pipeline)
      | some openSearch => mergeOpenSearch openSearch (match defaults.kafka with
          | none => pipeline
          | some kafka => mergeKafka kafka pipeline) := rfl
  rw [step]
  unfold mergePipelines
  cases defaults.kafka with
  | none | some =>
      cases defaults.sink with
      | none => simp
      | some sink => cases openSearch : sink.openSearch <;> simp [openSearch]

/-- Apart from the rewritten sections a definition stays as it is. -/
theorem mergeDefinition_processors (defaults : DataPrepperDefaultsSpec)
    (pipeline : PipelineDefinition) :
    (mergeDefinition defaults pipeline).processors = pipeline.processors := by
  unfold mergeDefinition
  cases defaults.kafka <;> cases defaults.sink.bind (·.openSearch) <;> rfl

theorem mergeDefinition_name (defaults : DataPrepperDefaultsSpec)
    (pipeline : PipelineDefinition) : (mergeDefinition defaults pipeline).name = pipeline.name := by
  unfold mergeDefinition
  cases defaults.kafka <;> cases defaults.sink.bind (·.openSearch) <;> rfl

theorem mergeDefinition_s3 (defaults : DataPrepperDefaultsSpec) (pipeline : PipelineDefinition) :
    (mergeDefinition defaults pipeline).source.s3 = pipeline.source.s3 := by
  unfold mergeDefinition
  cases defaults.kafka <;> cases defaults.sink.bind (·.openSearch) <;> rfl

theorem mergeDefinition_kafka (defaults : DataPrepperDefaultsSpec)
    (pipeline : PipelineDefinition) :
    (mergeDefinition defaults pipeline).source.kafka = match defaults.kafka with
      | none => pipeline.source.kafka
      | some kafka => pipeline.source.kafka.map (mergeKafkaSource kafka) := by
  unfold mergeDefinition
  cases defaults.kafka <;> cases defaults.sink.bind (·.openSearch) <;> rfl

theorem mergeDefinition_sink (defaults : DataPrepperDefaultsSpec) (pipeline : PipelineDefinition) :
    (mergeDefinition defaults pipeline).sink = match defaults.sink.bind (·.openSearch) with
      | none => pipeline.sink
      | some fallback => pipeline.sink.map fun sink =>
          { sink with openSearch := sink.openSearch.map (mergeOpenSearchSink fallback) } := by
  unfold mergeDefinition
  cases defaults.kafka <;> cases defaults.sink.bind (·.openSearch) <;> rfl

/-- A property that merging keeps for each definition holds of the merged spec. -/
theorem forall_mem_mergeSpec {Property : PipelineDefinition → Prop}
    (defaults : Option DataPrepperDefaultsSpec) (spec : DataPrepperPipelineSpec)
    (kept : ∀ section_ pipeline, Property pipeline → Property (mergeDefinition section_ pipeline))
    (holds : ∀ pipeline ∈ spec.pipelines, Property pipeline) :
    ∀ pipeline ∈ (mergeSpec defaults spec).pipelines, Property pipeline := by
  cases defaults with
  | none => exact holds
  | some defaults =>
      intro pipeline member
      rw [mergeSpec, mergePipelines_eq_map] at member
      obtain ⟨original, listed, rfl⟩ := List.mem_map.mp member
      exact kept defaults original (holds original listed)

/-- Every definition has a merged counterpart. -/
theorem exists_mem_mergeSpec {Property : PipelineDefinition → Prop}
    (defaults : Option DataPrepperDefaultsSpec) (spec : DataPrepperPipelineSpec)
    (kept : ∀ section_ pipeline, Property pipeline → Property (mergeDefinition section_ pipeline))
    (holds : ∃ pipeline ∈ spec.pipelines, Property pipeline) :
    ∃ pipeline ∈ (mergeSpec defaults spec).pipelines, Property pipeline := by
  cases defaults with
  | none => exact holds
  | some defaults =>
      obtain ⟨original, listed, holds⟩ := holds
      refine ⟨mergeDefinition defaults original, ?_, kept defaults original holds⟩
      rw [mergeSpec, mergePipelines_eq_map]
      exact List.mem_map_of_mem listed

structure SameSinkShape (sink filled : SinkSpec) : Prop where
  types : declaredSinks filled = declaredSinks sink
  connector : filled.pipeline = sink.pipeline

structure SameShape (definition filled : PipelineDefinition) : Prop where
  name : filled.name = definition.name
  processors : filled.processors = definition.processors
  types : declaredSources filled.source = declaredSources definition.source
  connector : filled.source.pipeline = definition.source.pipeline
  sinks : List.Forall₂ SameSinkShape definition.sink filled.sink

theorem SameShape.refl (definition : PipelineDefinition) : SameShape definition definition :=
  ⟨rfl, rfl, rfl, rfl, List.forall₂_same.mpr fun _ _ => ⟨rfl, rfl⟩⟩

theorem sameShape_mergeDefinition (defaults : DataPrepperDefaultsSpec)
    (definition : PipelineDefinition) :
    SameShape definition (mergeDefinition defaults definition) where
  name := by
    unfold mergeDefinition
    cases defaults.kafka <;> cases defaults.sink.bind (·.openSearch) <;> rfl
  processors := mergeDefinition_processors defaults definition
  types := by
    unfold mergeDefinition
    cases defaults.kafka <;> cases defaults.sink.bind (·.openSearch) <;>
      simp only [declaredSources, mergeKafka, mergeOpenSearch, Option.isSome_map]
  connector := by
    unfold mergeDefinition
    cases defaults.kafka <;> cases defaults.sink.bind (·.openSearch) <;> rfl
  sinks := by
    rw [mergeDefinition_sink]
    cases defaults.sink.bind (·.openSearch) with
    | none => exact List.forall₂_same.mpr fun _ _ => ⟨rfl, rfl⟩
    | some fallback =>
        rw [List.forall₂_map_right_iff]
        refine List.forall₂_same.mpr fun sink _ => ⟨?_, rfl⟩
        simp only [declaredSinks, Option.isSome_map]

/-- Merging rewrites each definition in place and keeps its shape. -/
theorem sameShape_mergeSpec (defaults : Option DataPrepperDefaultsSpec)
    (spec : DataPrepperPipelineSpec) :
    List.Forall₂ SameShape spec.pipelines (mergeSpec defaults spec).pipelines := by
  cases defaults with
  | none => exact List.forall₂_same.mpr fun definition _ => .refl definition
  | some defaults =>
      rw [mergeSpec, mergePipelines_eq_map, List.forall₂_map_right_iff]
      exact List.forall₂_same.mpr fun definition _ => sameShape_mergeDefinition defaults definition

end DataPrepperOperator.Defaults
