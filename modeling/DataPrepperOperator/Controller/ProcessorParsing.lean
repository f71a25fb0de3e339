import DataPrepperOperator.Controller.Pipeline
import DataPrepperOperator.Generator.Documents

/-!
# Parsing of processors

A processor is decoded twice: into a map, to look for stateful processors, and into any
value, for `pipelines.yaml`.  The schema does not say that it is an object.
-/

namespace DataPrepperOperator.Controller

open ServerProgram DataPrepperOperator.Api DataPrepperOperator.Generator

/-- Every processor is an object or `null`. -/
def ProcessorsAreMaps (pipelines : List PipelineDefinition) : Prop :=
  ∀ definition ∈ pipelines, ∀ raw ∈ definition.processors,
    raw = .document .null ∨ ∃ fields, raw = .document (.object fields)

/-- The processor step of `GeneratePipelineConfig`, for all pipelines. -/
def ProcessorsRendered (pipelines : List PipelineDefinition) : Prop :=
  ∀ definition ∈ pipelines, ∃ values, buildProcessors definition.processors = .ok values

theorem extractProcessorMaps_ok_iff {pipelines : List PipelineDefinition} :
    (∃ maps, extractProcessorMaps pipelines = .ok maps) ↔
      ∀ definition ∈ pipelines, ∀ raw ∈ definition.processors,
        ∃ fields, raw.unmarshalMap = .ok fields := by
  unfold extractProcessorMaps jsonToMap
  rw [exists_mapM_ok_iff]
  refine forall₂_congr fun definition _ => ?_
  rw [exists_mapM_ok_iff]
  refine forall₂_congr fun raw _ => ?_
  rw [exists_mapError_ok_iff, exists_mapError_ok_iff]

/-- Extraction asks for more than rendering: the values have to be maps. -/
theorem extractProcessorMaps_ok_iff_rendered {pipelines : List PipelineDefinition} :
    (∃ maps, extractProcessorMaps pipelines = .ok maps) ↔
      ProcessorsRendered pipelines ∧ ProcessorsAreMaps pipelines := by
  unfold ProcessorsRendered ProcessorsAreMaps
  simp only [extractProcessorMaps_ok_iff, buildProcessors_ok_iff, ← forall₂_and]
  refine forall₂_congr fun definition _ => forall₂_congr fun raw _ => ?_
  cases raw with
  | malformed complaint => simp [RawJSON.unmarshalMap]
  | document value =>
      rw [RawJSON.unmarshalMap_document_ok_iff]
      simp

theorem rendered_of_generatePipelineConfig {pipelines : List PipelineDefinition}
    {topicWorkers : Int} {config : Value.Fields}
    (generated : generatePipelineConfig pipelines topicWorkers = .ok config) :
    ProcessorsRendered pipelines := by
  intro definition member
  obtain ⟨fields, built⟩ := generatePipelineConfig_ok_iff.mp ⟨config, generated⟩ definition member
  obtain ⟨source, sinks, builtSource, builtSinks, _⟩ := buildPipeline_parts built
  obtain ⟨_, _, failed⟩ | ⟨values, _, rendered, _⟩ := buildPipeline_cases builtSource builtSinks
  · rw [failed] at built
    cases built
  · exact ⟨values, rendered⟩

/-- Some processor is malformed, nested too deeply or has a number beyond `float64`. -/
def SomeUndecodable (pipelines : List PipelineDefinition) : Prop :=
  ∃ definition ∈ pipelines, ∃ raw ∈ definition.processors,
    ∀ value, raw = .document value → value.decodable = false

theorem not_rendered_iff {pipelines : List PipelineDefinition} :
    ¬ProcessorsRendered pipelines ↔ SomeUndecodable pipelines := by
  unfold ProcessorsRendered SomeUndecodable
  simp only [buildProcessors_ok_iff, not_forall, not_exists, not_and, Bool.not_eq_true,
    exists_prop]

/-- The two ways of decoding agree on a list of pipelines exactly if all processors are
objects or `null`, or if some processor cannot be decoded at all; where the document can be
generated, extraction fails exactly on other values. -/
theorem processor_parsing_agrees_iff (pipelines : List PipelineDefinition) :
    (((∃ maps, extractProcessorMaps pipelines = .ok maps) ↔ ProcessorsRendered pipelines) ↔
        ProcessorsAreMaps pipelines ∨ SomeUndecodable pipelines) ∧
      ∀ topicWorkers config, generatePipelineConfig pipelines topicWorkers = .ok config →
        ((∃ maps, extractProcessorMaps pipelines = .ok maps) ↔ ProcessorsAreMaps pipelines) := by
  rw [extractProcessorMaps_ok_iff_rendered, ← not_rendered_iff]
  constructor
  · tauto
  · intro topicWorkers config generated
    exact and_iff_right (rendered_of_generatePipelineConfig generated)

/-- The only processor is the JSON text `"drop_events"`. -/
def stringProcessor : DataPrepperPipeline where
  metadata := (httpPipeline "ingest").metadata
  spec :=
    { image := "data-prepper"
      pipelines :=
        [{ name := "ingest"
           source := { http := some { port := 2021 } }
           processors := [.document (.string "drop_events")]
           sink := [{ stdout := some {} }] }] }
  status := {}

/-- The document can be generated, and every reconcile fails before it gets there. -/
theorem string_processor_fails_reconcile :
    (∃ config, generatePipelineConfig stringProcessor.spec.pipelines 0 = .ok config) ∧
      (¬∃ maps, extractProcessorMaps stringProcessor.spec.pipelines = .ok maps) ∧
      ((reconcile sampleReconciler "ingest").run.execute Cluster.answer
          (Cluster.empty.create stringProcessor).2).1 =
        .error ("extract processors: pipeline \"ingest\" processor: unmarshal JSON: " ++
          "json: cannot unmarshal string into Go value of type map[string]interface \x7b\x7d") := by
  refine ⟨⟨_, rfl⟩, ?_, by decide +kernel⟩
  rw [extractProcessorMaps_ok_iff_rendered]
  rintro ⟨_, areMaps⟩
  obtain isNull | ⟨_, isObject⟩ :=
    areMaps _ List.mem_cons_self (.document (.string "drop_events")) List.mem_cons_self
  · cases isNull
  · cases isObject

end DataPrepperOperator.Controller
