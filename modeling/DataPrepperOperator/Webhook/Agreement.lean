import DataPrepperOperator.Generator.Documents
import DataPrepperOperator.Webhook.Pipeline

/-!
# Webhook, merge and generator agree

An accepted pipeline can be rendered whatever defaults are merged into it: merging
fills members in but sets and clears none, so the exactly-one checks of the webhook
decide the first-match switches of the generator.  What remains is the decoding of
the processors, which the webhook does not try.
-/

namespace DataPrepperOperator.Webhook

open DataPrepperOperator.Api DataPrepperOperator.Controller DataPrepperOperator.Defaults
  DataPrepperOperator.Generator
open Value (Fields setField)

/-- The type of a rendered source, read off its only key. -/
def renderedSource : Value → Option SourceType
  | .object [("kafka", _)] => some .kafka
  | .object [("http", _)] => some .http
  | .object [("otel_trace_source", _)] => some .otel
  | .object [("otel_metrics_source", _)] => some .otel
  | .object [("otel_logs_source", _)] => some .otel
  | .object [("s3", _)] => some .s3
  | .object [("pipeline", _)] => some .pipeline
  | _ => none

def renderedSink : Value → Option SinkType
  | .object [("opensearch", _)] => some .openSearch
  | .object [("pipeline", _)] => some .pipeline
  | .object [("s3", _)] => some .s3
  | .object [("kafka", _)] => some .kafka
  | .object [("stdout", _)] => some .stdout
  | _ => none

/-- The pipeline that a rendered connector names. -/
def connectorName : Value → Option String
  | .object [("pipeline", .object [("name", .string name)])] => some name
  | _ => none

def RendersSource (source : SourceSpec) (rendered : Value) : Prop :=
  ∃ type, declaredSources source = [type] ∧ renderedSource rendered = some type ∧
    connectorName rendered = source.pipeline.map (·.name)

def RendersSink (sink : SinkSpec) (rendered : Value) : Prop :=
  ∃ type, declaredSinks sink = [type] ∧ renderedSink rendered = some type ∧
    connectorName rendered = sink.pipeline.map (·.name)

/-- The entry of one definition: the source of its type, and the sinks in order. -/
structure RendersDefinition (definition : PipelineDefinition) (entry : String × Value) :
    Prop where
  key : entry.1 = definition.name
  rendered : ∃ fields source sinks, entry.2 = .object fields ∧
    fields.lookup "source" = some source ∧ RendersSource definition.source source ∧
    fields.lookup "sink" = some (.list sinks) ∧
    List.Forall₂ RendersSink definition.sink sinks

theorem rendersSource_of_count {source : SourceSpec} (one : sourceCount source = 1)
    (topicWorkers : Int) :
    ∃ fields, buildSource source topicWorkers = .ok fields ∧
      RendersSource source (.object fields) := by
  obtain ⟨kafka, http, otel, s3, pipeline⟩ := source
  cases kafka <;> cases http <;> cases otel <;> cases s3 <;> cases pipeline <;>
    simp [sourceCount] at one
  · exact ⟨_, rfl, .pipeline, rfl, rfl, rfl⟩
  · exact ⟨_, rfl, .s3, rfl, rfl, rfl⟩
  · next otel =>
      refine ⟨_, rfl, .otel, rfl, ?_, ?_⟩ <;> unfold buildOTelSource <;> split <;> rfl
  · exact ⟨_, rfl, .http, rfl, rfl, rfl⟩
  · exact ⟨_, rfl, .kafka, rfl, rfl, rfl⟩

theorem rendersSink_of_count {sink : SinkSpec} (one : countSinkTypes sink = 1) :
    ∃ fields, buildSink sink = .ok fields ∧ RendersSink sink (.object fields) := by
  obtain ⟨openSearch, pipeline, s3, kafka, stdout⟩ := sink
  cases openSearch <;> cases pipeline <;> cases s3 <;> cases kafka <;> cases stdout <;>
    simp [countSinkTypes] at one
  · exact ⟨_, rfl, .stdout, rfl, rfl, rfl⟩
  · exact ⟨_, rfl, .kafka, rfl, rfl, rfl⟩
  · exact ⟨_, rfl, .s3, rfl, rfl, rfl⟩
  · exact ⟨_, rfl, .pipeline, rfl, rfl, rfl⟩
  · exact ⟨_, rfl, .openSearch, rfl, rfl, rfl⟩

theorem sourceCount_eq_length (source : SourceSpec) :
    sourceCount source = (declaredSources source).length := by
  obtain ⟨kafka, http, otel, s3, pipeline⟩ := source
  cases kafka <;> cases http <;> cases otel <;> cases s3 <;> cases pipeline <;> rfl

theorem countSinkTypes_eq_length (sink : SinkSpec) :
    countSinkTypes sink = (declaredSinks sink).length := by
  obtain ⟨openSearch, pipeline, s3, kafka, stdout⟩ := sink
  cases openSearch <;> cases pipeline <;> cases s3 <;> cases kafka <;> cases stdout <;> rfl

theorem rendersSource_of_sameShape {definition filled : PipelineDefinition}
    (formed : WellFormed definition) (same : SameShape definition filled) (topicWorkers : Int) :
    ∃ source, buildSource filled.source topicWorkers = .ok source ∧
      RendersSource definition.source (.object source) := by
  have one : sourceCount filled.source = 1 := by
    rw [sourceCount_eq_length, same.types, ← sourceCount_eq_length, formed.source]
  obtain ⟨source, built, type, declared, rendered, connector⟩ :=
    rendersSource_of_count one topicWorkers
  exact ⟨source, built, type, same.types ▸ declared, rendered, same.connector ▸ connector⟩

theorem rendersSinks_of_sameShape {sinks filled : List SinkSpec}
    (counts : ∀ sink ∈ sinks, countSinkTypes sink = 1)
    (shapes : List.Forall₂ SameSinkShape sinks filled) :
    ∃ items, buildSinks filled = .ok items ∧ List.Forall₂ RendersSink sinks items := by
  unfold buildSinks
  induction shapes with
  | nil => exact ⟨[], rfl, .nil⟩
  | cons head _ ih =>
      obtain ⟨here, later⟩ := List.forall_mem_cons.mp counts
      obtain ⟨items, builtLater, rendersLater⟩ := ih later
      have one := here
      rw [countSinkTypes_eq_length, ← head.types, ← countSinkTypes_eq_length] at one
      obtain ⟨fields, built, type, declared, rendered, connector⟩ := rendersSink_of_count one
      refine ⟨.object fields :: items, ?_, .cons ?_ rendersLater⟩
      · rw [List.mapM_cons, built, builtLater]
        rfl
      · exact ⟨type, head.types ▸ declared, rendered, head.connector ▸ connector⟩

/-- A processor text that the generator can decode. -/
def Decodes (raw : RawJSON) : Prop := ∃ value, raw = .document value ∧ value.decodable = true

instance : DecidablePred Decodes
  | .document value => decidable_of_iff (value.decodable = true) (by simp [Decodes])
  | .malformed _ => isFalse (by simp [Decodes])

section Definition

variable {definition filled : PipelineDefinition} {topicWorkers : Int}

theorem renderable_iff (formed : WellFormed definition) (same : SameShape definition filled) :
    (∃ fields, buildPipeline filled topicWorkers = .ok fields) ↔
      ∀ raw ∈ definition.processors, Decodes raw := by
  obtain ⟨source, builtSource, _⟩ := rendersSource_of_sameShape formed same topicWorkers
  obtain ⟨sinks, builtSinks, _⟩ := rendersSinks_of_sameShape formed.sink same.sinks
  unfold Decodes
  rw [← same.processors, ← buildProcessors_ok_iff]
  obtain ⟨message, failed, refused⟩ | ⟨values, fields, decoded, built, _⟩ :=
    buildPipeline_cases builtSource builtSinks
  · simp [failed, refused]
  · simp [decoded, built]

theorem rendersDefinition_of_isEntry {entry : String × Value} (formed : WellFormed definition)
    (same : SameShape definition filled) (added : IsEntry topicWorkers filled entry) :
    RendersDefinition definition entry := by
  obtain ⟨fields, built, rfl⟩ := added
  obtain ⟨source, builtSource, rendersSource⟩ :=
    rendersSource_of_sameShape formed same topicWorkers
  obtain ⟨sinks, builtSinks, rendersSinks⟩ := rendersSinks_of_sameShape formed.sink same.sinks
  obtain ⟨_, _, refused⟩ | ⟨_, found, _, rendered, atSource, atSink⟩ :=
    buildPipeline_cases builtSource builtSinks
  · rw [built] at refused
    cases refused
  · obtain rfl : fields = found := Except.ok.inj (built.symm.trans rendered)
    exact ⟨same.name, fields, .object source, sinks, rfl, atSource, rendersSource, atSink,
      rendersSinks⟩

end Definition

theorem forall_of_sameShapes {pipelines filled : List PipelineDefinition}
    {original changed : PipelineDefinition → Prop}
    (shapes : List.Forall₂ SameShape pipelines filled)
    (same : ∀ definition ∈ pipelines, ∀ other, SameShape definition other →
      (changed other ↔ original definition)) :
    (∀ other ∈ filled, changed other) ↔ ∀ definition ∈ pipelines, original definition := by
  induction shapes with
  | nil => simp
  | cons head _ ih =>
      obtain ⟨here, later⟩ := List.forall_mem_cons.mp same
      rw [List.forall_mem_cons, List.forall_mem_cons, here _ head, ih later]

theorem names_of_sameShapes {pipelines filled : List PipelineDefinition}
    (shapes : List.Forall₂ SameShape pipelines filled) :
    filled.map PipelineDefinition.name = pipelines.map PipelineDefinition.name := by
  induction shapes with
  | nil => rfl
  | cons head _ ih => rw [List.map_cons, List.map_cons, head.name,
      ih]

/-- The entries of a generated map, one for each accepted definition. -/
theorem entries_of_generated {pipelines filled : List PipelineDefinition} {topicWorkers : Int}
    {config : Fields} (formed : ∀ definition ∈ pipelines, WellFormed definition)
    (distinct : (pipelines.map PipelineDefinition.name).Nodup)
    (shapes : List.Forall₂ SameShape pipelines filled)
    (generated : generatePipelineConfig filled topicWorkers = .ok config) :
    List.Forall₂ RendersDefinition pipelines config := by
  rw [← names_of_sameShapes shapes] at distinct
  obtain ⟨entries, rfl, added⟩ := entries_of_foldlM distinct (by simp) generated
  clear generated distinct
  induction shapes generalizing config with
  | nil =>
      cases added
      exact .nil
  | cons head _ ih =>
      cases added with
      | cons entry later =>
          obtain ⟨here, others⟩ := List.forall_mem_cons.mp formed
          exact .cons (rendersDefinition_of_isEntry here head entry)
            (ih others later)

theorem keys_of_entries {pipelines : List PipelineDefinition} {config : Fields}
    (entries : List.Forall₂ RendersDefinition pipelines config) :
    config.map Prod.fst = pipelines.map PipelineDefinition.name := by
  induction entries with
  | nil => rfl
  | cons head _ ih =>
      rw [List.map_cons, List.map_cons, head.key, ih]

theorem mergeSpec_image_ne {webhookReader : Reader} {pipeline : DataPrepperPipeline}
    (provided : pipeline.spec.image ≠ "" ∨
      ∃ defaults ∈ visibleDefaults webhookReader pipeline, defaults.image ≠ "") :
    (mergeSpec (visibleDefaults webhookReader pipeline) pipeline.spec).image ≠ "" := by
  by_cases own : pipeline.spec.image = ""
  · obtain ⟨defaults, visible, image⟩ := provided.resolve_left (not_not.mpr own)
    rw [Option.mem_def] at visible
    simp [visible, mergeSpec, own, image]
  · cases visibleDefaults webhookReader pipeline with
    | none => exact own
    | some defaults => simp [mergeSpec, own]

/-- Whatever is merged into an accepted pipeline: the reconciler's graph check passes,
no source and no sink is missing, the generator fails on nothing but processors it
cannot decode, and it renders each definition under its name. -/
theorem accepted_pipeline_renders {webhookReader : Reader} {pipeline : DataPrepperPipeline}
    (accepted : validatePipeline webhookReader pipeline = .ok ())
    (defaults : Option DataPrepperDefaultsSpec) (topicWorkers : Int) :
    Validation.validateGraph (graphDefs (mergeSpec defaults pipeline.spec).pipelines) = .ok () ∧
    (∀ definition ∈ (mergeSpec defaults pipeline.spec).pipelines,
      (∃ source, buildSource definition.source topicWorkers = .ok source) ∧
      ∃ sinks, buildSinks definition.sink = .ok sinks) ∧
    ((∃ config, generatePipelineConfig (mergeSpec defaults pipeline.spec).pipelines topicWorkers =
        .ok config) ↔
      ∀ definition ∈ pipeline.spec.pipelines, ∀ raw ∈ definition.processors, Decodes raw) ∧
    (∀ config, generatePipelineConfig (mergeSpec defaults pipeline.spec).pipelines topicWorkers =
        .ok config →
      (config.map Prod.fst).Nodup ∧
        List.Forall₂ RendersDefinition pipeline.spec.pipelines config) ∧
    (visibleDefaults webhookReader pipeline = defaults →
      (mergeSpec defaults pipeline.spec).image ≠ "") := by
  have accepted := validatePipeline_ok_iff.mp accepted
  have shapes := sameShape_mergeSpec defaults pipeline.spec
  refine ⟨?_, ?_, ?_, ?_, ?_⟩
  · rw [graphDefs_mergeSpec]
    exact accepted.graph
  · refine (forall_of_sameShapes shapes fun definition member other same =>
      iff_true_intro ?_).mpr fun _ _ => trivial
    have formed := accepted.formed definition member
    obtain ⟨source, builtSource, _⟩ := rendersSource_of_sameShape formed same topicWorkers
    obtain ⟨sinks, builtSinks, _⟩ := rendersSinks_of_sameShape formed.sink same.sinks
    exact ⟨⟨source, builtSource⟩, sinks, builtSinks⟩
  · rw [generatePipelineConfig_ok_iff]
    exact forall_of_sameShapes shapes fun definition member other same =>
      renderable_iff (accepted.formed definition member) same
  · intro config generated
    have entries := entries_of_generated accepted.formed accepted.distinct shapes generated
    refine ⟨?_, entries⟩
    rw [keys_of_entries entries]
    exact accepted.distinct
  · rintro rfl
    exact mergeSpec_image_ne accepted.image

/-- An entry pipeline that feeds a second one; the image and the OpenSearch hosts are
left to the defaults. -/
def connectedPipeline : DataPrepperPipeline where
  metadata := { name := "traces", nameSpace := "logs" }
  spec := { pipelines :=
    [{ name := "entry", source := { http := some { port := 2021 } },
       processors := [.document (.object [("limit", .number 10)])],
       sink := [{ pipeline := some { name := "raw" } }, { stdout := some {} }] },
      { name := "raw", source := { pipeline := some { name := "entry" } },
        sink := [{ openSearch := some {} }] }] }
  status := {}

def sharedDefaults : DataPrepperDefaultsSpec :=
  { image := "data-prepper:2.9", sink := some { openSearch := some { hosts := ["search:9200"] } } }

def sampleReader : Reader := some fun nameSpace name =>
  .ok { metadata := { name := name, nameSpace := nameSpace }, spec := sharedDefaults,
        status := Kind.defaults.emptyStatus }

theorem accepted_pipeline_renders_connected :
    validatePipeline sampleReader connectedPipeline = .ok () ∧
      ∃ config, generatePipelineConfig
          (mergeSpec (some sharedDefaults) connectedPipeline.spec).pipelines 3 = .ok config ∧
        List.Forall₂ RendersDefinition connectedPipeline.spec.pipelines config := by
  have accepted : validatePipeline sampleReader connectedPipeline = .ok () := by decide +kernel
  obtain ⟨_, _, generates, renders, _⟩ :=
    accepted_pipeline_renders accepted (some sharedDefaults) 3
  have decodes : ∀ definition ∈ connectedPipeline.spec.pipelines,
      ∀ raw ∈ definition.processors, Decodes raw := by decide +kernel
  obtain ⟨config, generated⟩ := generates.mpr decodes
  exact ⟨accepted, config, generated, (renders config generated).2⟩

/-- A processor with a number that no `float64` holds. -/
def overflowingPipeline : DataPrepperPipeline where
  metadata := { name := "overflow", nameSpace := "logs" }
  spec := { image := "data-prepper:2.9", pipelines :=
    [{ name := "entry", source := { http := some { port := 2021 } },
       processors := [.document (.object [("limit", .number (10 ^ 400))])],
       sink := [{ stdout := some {} }] }] }
  status := {}

/-- The webhook accepts it and the generator refuses it. -/
theorem overflowing_processor_not_rendered :
    validatePipeline none overflowingPipeline = .ok () ∧
      (generatePipelineConfig (mergeSpec none overflowingPipeline.spec).pipelines 0).isOk =
        false := by
  constructor <;> decide +kernel

end DataPrepperOperator.Webhook
