import DataPrepperOperator.Webhook.Agreement
import Mathlib.Logic.Relation

/-!
# The data flow of an accepted pipeline

A connector may be declared at either end: a sink names the pipeline it sends to, a
source names the pipeline it receives from.  The validator flattens a missing source
connector and one with an empty name to the same text, and follows only the sinks when
it looks for cycles.  Both tell which accepted pipelines have unresolved connectors or
a cyclic flow.
-/

namespace DataPrepperOperator.Webhook

open DataPrepperOperator.Api DataPrepperOperator.Controller DataPrepperOperator.Defaults
  DataPrepperOperator.Generator
open Relation (TransGen ReflTransGen)
open Value (Fields)

/-- Some definition has the name. -/
def Defines (pipelines : List PipelineDefinition) (name : String) : Prop :=
  ∃ definition ∈ pipelines, definition.name = name

/-- The name in a source connector. -/
def upstream (definition : PipelineDefinition) : Option String :=
  definition.source.pipeline.map (·.name)

/-- The names in the sink connectors. -/
def downstream (definition : PipelineDefinition) : List String :=
  definition.sink.filterMap fun sink => sink.pipeline.map (·.name)

/-- Every connector names a definition of the same resource. -/
def ConnectorsResolve (pipelines : List PipelineDefinition) : Prop :=
  ∀ definition ∈ pipelines,
    (∀ name ∈ upstream definition, Defines pipelines name) ∧
    ∀ name ∈ downstream definition, Defines pipelines name

theorem graphDefs_eq_map (pipelines : List PipelineDefinition) :
    graphDefs pipelines = pipelines.map fun definition =>
      ⟨definition.name, (upstream definition).getD "", downstream definition⟩ := rfl

theorem defines_graphDefs {pipelines : List PipelineDefinition} {name : String} :
    (∃ flat ∈ graphDefs pipelines, flat.name = name) ↔ Defines pipelines name := by
  simp [graphDefs_eq_map, Defines]

/-- The references that the validator resolves: an empty upstream counts as none. -/
theorem referencesResolve_graphDefs_iff {pipelines : List PipelineDefinition} :
    Validation.ReferencesResolve (graphDefs pipelines) ↔
      ∀ definition ∈ pipelines,
        (∀ name ∈ upstream definition, name ≠ "" → Defines pipelines name) ∧
        ∀ name ∈ downstream definition, Defines pipelines name := by
  unfold Validation.ReferencesResolve
  simp only [defines_graphDefs]
  rw [graphDefs_eq_map, List.forall_mem_map]
  refine forall₂_congr fun definition _ => and_congr_left fun _ => ?_
  cases upstream definition with
  | none | some => simp

/-- For an accepted pipeline the connectors resolve when no source connector has an
empty name. -/
theorem connectors_resolve_iff {webhookReader : Reader} {pipeline : DataPrepperPipeline}
    (accepted : validatePipeline webhookReader pipeline = .ok ()) :
    ConnectorsResolve pipeline.spec.pipelines ↔
      ∀ definition ∈ pipeline.spec.pipelines, upstream definition ≠ some "" := by
  have accepted := validatePipeline_ok_iff.mp accepted
  obtain ⟨_, resolved, _⟩ := (Validation.validateGraph_ok_iff _).mp accepted.graph
  rw [referencesResolve_graphDefs_iff] at resolved
  have unnamed : ¬Defines pipeline.spec.pipelines "" := by
    rintro ⟨definition, member, empty⟩
    exact (accepted.formed definition member).named empty
  constructor
  · intro resolves definition member empty
    exact unnamed ((resolves definition member).1 "" empty)
  · intro nonempty definition member
    refine ⟨?_, (resolved definition member).2⟩
    intro name declared
    apply (resolved definition member).1 name declared
    rintro rfl
    exact nonempty definition member declared

/-- A source connector that names nothing. -/
def danglingPipeline : DataPrepperPipeline where
  metadata := { name := "dangling", nameSpace := "logs" }
  spec := { image := "data-prepper:2.9", pipelines :=
    [{ name := "entry", source := { pipeline := some { name := "" } },
       sink := [{ stdout := some {} }] }] }
  status := {}

theorem dangling_connector_accepted :
    validatePipeline none danglingPipeline = .ok () ∧
      ¬ConnectorsResolve danglingPipeline.spec.pipelines := by
  refine ⟨by decide +kernel, ?_⟩
  intro resolves
  obtain ⟨definition, member, empty⟩ :=
    (resolves _ (List.mem_singleton.mpr rfl)).1 "" rfl
  rw [List.mem_singleton.mp member] at empty
  exact absurd empty (by decide)

theorem connectors_resolve_connected :
    ConnectorsResolve connectedPipeline.spec.pipelines := by
  have accepted : validatePipeline sampleReader connectedPipeline = .ok () := by decide +kernel
  exact (connectors_resolve_iff accepted).mpr (by decide)

/-- Data flows along sink connectors and along source connectors. -/
inductive Flow (pipelines : List PipelineDefinition) : String → String → Prop where
  | sends {definition name} : definition ∈ pipelines → name ∈ downstream definition →
      Flow pipelines definition.name name
  | receives {definition name} : definition ∈ pipelines → name ∈ upstream definition →
      Flow pipelines name definition.name

/-- The flow that Data Prepper reads off the rendered pipelines. -/
inductive RenderedFlow (config : Fields) : String → String → Prop where
  | sends {name next fields sinks item} : config.lookup name = some (.object fields) →
      fields.lookup "sink" = some (.list sinks) → item ∈ sinks →
      connectorName item = some next → RenderedFlow config name next
  | receives {name previous fields source} : config.lookup name = some (.object fields) →
      fields.lookup "source" = some source → connectorName source = some previous →
      RenderedFlow config previous name

def Acyclic {Node : Type} (edge : Node → Node → Prop) : Prop := ∀ node, ¬TransGen edge node node

section Acyclic

variable {Node : Type} {edge checked further : Node → Node → Prop}

/-- A path uses only checked edges, or it can be cut at another one. -/
theorem cut_of_path (covered : ∀ {first second}, edge first second →
      checked first second ∨ further first second)
    {start finish : Node} (path : TransGen edge start finish) :
    TransGen checked start finish ∨
      ∃ first second, further first second ∧ ReflTransGen edge start first ∧
        ReflTransGen edge second finish := by
  induction path with
  | single step =>
      obtain inside | outside := covered step
      · exact .inl (.single inside)
      · exact .inr ⟨_, _, outside, .refl, .refl⟩
  | tail earlier step ih =>
      obtain inside | ⟨first, second, outside, before, after⟩ := ih
      · obtain inside' | outside := covered step
        · exact .inl (inside.tail inside')
        · exact .inr ⟨_, _, outside, earlier.to_reflTransGen, .refl⟩
      · exact .inr ⟨first, second, outside, before, after.tail step⟩

/-- When the checked edges have no cycle, every cycle passes through another edge. -/
theorem acyclic_iff_of_checked (covered : ∀ {first second}, edge first second →
      checked first second ∨ further first second)
    (included : ∀ {first second}, further first second → edge first second)
    (acyclic : Acyclic checked) :
    Acyclic edge ↔ ∀ first second, further first second → ¬ReflTransGen edge second first := by
  constructor
  · intro noCycle first second outside returns
    exact noCycle second (TransGen.tail' returns (included outside))
  · intro noReturn node cycle
    obtain inside | ⟨first, second, outside, before, after⟩ := cut_of_path covered cycle
    · exact acyclic node inside
    · exact noReturn first second outside (after.trans before)

end Acyclic

section Rendered

variable {pipelines : List PipelineDefinition} {config : Fields}

theorem connectorNames_of_rendersSinks {sinks : List SinkSpec} {items : List Value}
    (renders : List.Forall₂ RendersSink sinks items) :
    items.filterMap connectorName = sinks.filterMap fun sink => sink.pipeline.map (·.name) := by
  induction renders with
  | nil => rfl
  | cons head _ ih =>
      obtain ⟨_, _, _, connector⟩ := head
      rw [List.filterMap_cons, List.filterMap_cons, connector, ih]

theorem entry_of_definition (entries : List.Forall₂ RendersDefinition pipelines config)
    {definition : PipelineDefinition} (member : definition ∈ pipelines) :
    ∃ entry ∈ config, RendersDefinition definition entry :=
  exists_of_forall₂ entries.flip member

theorem definition_of_entry (entries : List.Forall₂ RendersDefinition pipelines config)
    {entry : String × Value} (member : entry ∈ config) :
    ∃ definition ∈ pipelines, RendersDefinition definition entry :=
  exists_of_forall₂ entries member

/-- The connectors of a rendered definition. -/
theorem connectors_of_rendersDefinition {definition : PipelineDefinition}
    {entry : String × Value} (renders : RendersDefinition definition entry) :
    ∃ fields source sinks, entry = (definition.name, .object fields) ∧
      fields.lookup "source" = some source ∧ connectorName source = upstream definition ∧
      fields.lookup "sink" = some (.list sinks) ∧
      sinks.filterMap connectorName = downstream definition := by
  obtain ⟨key, fields, source, sinks, value, atSource, ⟨_, _, _, connector⟩, atSink, each⟩ :=
    renders
  exact ⟨fields, source, sinks, Prod.ext key value, atSource, connector, atSink,
    connectorNames_of_rendersSinks each⟩

theorem lookup_iff_mem {fields : Fields} (nodup : (fields.map Prod.fst).Nodup) {name : String}
    {value : Value} : fields.lookup name = some value ↔ (name, value) ∈ fields := by
  induction fields with
  | nil => simp
  | cons entry rest ih =>
      obtain ⟨key, old⟩ := entry
      obtain ⟨fresh, distinct⟩ := List.nodup_cons.mp nodup
      by_cases same : name = key
      · subst same
        have absent : (name, value) ∉ rest := fun listed =>
          fresh (List.mem_map.mpr ⟨_, listed, rfl⟩)
        simp [absent, eq_comm]
      · simp [List.lookup_cons, beq_false_of_ne same, same, ih distinct]

/-- Data Prepper reads the declared flow. -/
theorem renderedFlow_iff (nodup : (config.map Prod.fst).Nodup)
    (entries : List.Forall₂ RendersDefinition pipelines config) (first second : String) :
    RenderedFlow config first second ↔ Flow pipelines first second := by
  constructor
  · intro flow
    cases flow with
    | sends found atSink member connects =>
        obtain ⟨definition, listed, renders⟩ :=
          definition_of_entry entries ((lookup_iff_mem nodup).mp found)
        obtain ⟨fields, source, sinks, same, _, _, rendered, names⟩ :=
          connectors_of_rendersDefinition renders
        cases same
        cases atSink.symm.trans rendered
        apply Flow.sends listed
        rw [← names]
        exact List.mem_filterMap.mpr ⟨_, member, connects⟩
    | receives found atSource connects =>
        obtain ⟨definition, listed, renders⟩ :=
          definition_of_entry entries ((lookup_iff_mem nodup).mp found)
        obtain ⟨fields, source, sinks, same, rendered, name, _⟩ :=
          connectors_of_rendersDefinition renders
        cases same
        cases atSource.symm.trans rendered
        exact .receives listed (name.symm.trans connects)
  · intro flow
    cases flow with
    | sends member declared =>
        obtain ⟨entry, listed, renders⟩ := entry_of_definition entries member
        obtain ⟨fields, source, sinks, rfl, _, _, rendered, names⟩ :=
          connectors_of_rendersDefinition renders
        rw [← names] at declared
        obtain ⟨item, among, connects⟩ := List.mem_filterMap.mp declared
        exact .sends ((lookup_iff_mem nodup).mpr listed) rendered among connects
    | receives member declared =>
        obtain ⟨entry, listed, renders⟩ := entry_of_definition entries member
        obtain ⟨fields, source, sinks, rfl, rendered, name, _⟩ :=
          connectors_of_rendersDefinition renders
        exact .receives ((lookup_iff_mem nodup).mpr listed) rendered (name.trans declared)

end Rendered

/-- The flow of an accepted pipeline is acyclic when no definition's data comes back to
the upstream that its source connector names. -/
theorem acyclic_flow_iff {pipelines : List PipelineDefinition}
    (graph : Validation.validateGraph (graphDefs pipelines) = .ok ()) :
    Acyclic (Flow pipelines) ↔
      ∀ definition ∈ pipelines, ∀ name ∈ upstream definition,
        ¬ReflTransGen (Flow pipelines) definition.name name := by
  obtain ⟨_, _, acyclic⟩ := (Validation.validateGraph_ok_iff _).mp graph
  have covered : ∀ {first second}, Flow pipelines first second →
      Validation.SinkEdge (graphDefs pipelines) first second ∨
        ∃ definition ∈ pipelines, first ∈ upstream definition ∧ definition.name = second := by
    intro first second flow
    cases flow with
    | sends member declared =>
        exact .inl ⟨_, List.mem_map.mpr ⟨_, member, rfl⟩, rfl, declared⟩
    | receives member declared => exact .inr ⟨_, member, declared, rfl⟩
  have included : ∀ {first second}, (∃ definition ∈ pipelines, first ∈ upstream definition ∧
      definition.name = second) → Flow pipelines first second := by
    rintro first _ ⟨definition, member, declared, rfl⟩
    exact .receives member declared
  rw [acyclic_iff_of_checked covered included acyclic]
  constructor
  · intro noReturn definition member name declared
    exact noReturn name definition.name ⟨definition, member, declared, rfl⟩
  · rintro noReturn name _ ⟨definition, member, declared, rfl⟩
    exact noReturn definition member name declared

/-- The validator's check is enough when every source connector is mirrored by a sink
connector of the pipeline it names. -/
theorem acyclic_flow_of_mirrored {pipelines : List PipelineDefinition}
    (graph : Validation.validateGraph (graphDefs pipelines) = .ok ())
    (mirrored : ∀ definition ∈ pipelines, ∀ name ∈ upstream definition,
      ∃ other ∈ pipelines, other.name = name ∧ definition.name ∈ downstream other) :
    Acyclic (Flow pipelines) := by
  obtain ⟨_, _, acyclic⟩ := (Validation.validateGraph_ok_iff _).mp graph
  intro name cycle
  apply acyclic name
  refine TransGen.mono ?_ _ _ cycle
  intro first second flow
  cases flow with
  | sends member declared => exact ⟨_, List.mem_map.mpr ⟨_, member, rfl⟩, rfl, declared⟩
  | receives member declared =>
      obtain ⟨other, among, rfl, mirror⟩ := mirrored _ member _ declared
      exact ⟨_, List.mem_map.mpr ⟨_, among, rfl⟩, rfl, mirror⟩

/-- What is rendered from an accepted pipeline has an acyclic flow when no definition's
data comes back to the upstream that its source connector names. -/
theorem rendered_flow_acyclic_iff {webhookReader : Reader} {pipeline : DataPrepperPipeline}
    (accepted : validatePipeline webhookReader pipeline = .ok ())
    {defaults : Option DataPrepperDefaultsSpec} {topicWorkers : Int} {config : Fields}
    (generated : generatePipelineConfig (mergeSpec defaults pipeline.spec).pipelines
      topicWorkers = .ok config) :
    Acyclic (RenderedFlow config) ↔
      ∀ definition ∈ pipeline.spec.pipelines, ∀ name ∈ upstream definition,
        ¬ReflTransGen (Flow pipeline.spec.pipelines) definition.name name := by
  have accepted := validatePipeline_ok_iff.mp accepted
  have entries := entries_of_generated accepted.formed accepted.distinct
    (sameShape_mergeSpec defaults pipeline.spec) generated
  have nodup : (config.map Prod.fst).Nodup := by
    rw [keys_of_entries entries]
    exact accepted.distinct
  have same : RenderedFlow config = Flow pipeline.spec.pipelines := by
    funext first second
    exact propext (renderedFlow_iff nodup entries first second)
  rw [same]
  exact acyclic_flow_iff accepted.graph

theorem rendered_flow_acyclic_connected :
    ∃ config, generatePipelineConfig
        (mergeSpec (some sharedDefaults) connectedPipeline.spec).pipelines 3 = .ok config ∧
      Acyclic (RenderedFlow config) := by
  have accepted : validatePipeline sampleReader connectedPipeline = .ok () := by decide +kernel
  have graph := (validatePipeline_ok_iff.mp accepted).graph
  have succeeds : (generatePipelineConfig
      (mergeSpec (some sharedDefaults) connectedPipeline.spec).pipelines 3).isOk = true := by
    decide +kernel
  cases generated : generatePipelineConfig
      (mergeSpec (some sharedDefaults) connectedPipeline.spec).pipelines 3 with
  | error message => simp [generated, Except.isOk, Except.toBool] at succeeds
  | ok config =>
      refine ⟨config, rfl, (rendered_flow_acyclic_iff accepted generated).mpr ?_⟩
      exact (acyclic_flow_iff graph).mp (acyclic_flow_of_mirrored graph (by decide))

/-- Two pipelines that each receive from the other. -/
def mutualPipeline : DataPrepperPipeline where
  metadata := { name := "mutual", nameSpace := "logs" }
  spec := { image := "data-prepper:2.9", pipelines :=
    [{ name := "left", source := { pipeline := some { name := "right" } },
       sink := [{ stdout := some {} }] },
      { name := "right", source := { pipeline := some { name := "left" } },
        sink := [{ stdout := some {} }] }] }
  status := {}

/-- What is rendered for a definition that only receives. -/
def renderedReceiver (name : String) : Value :=
  .object [("source", .object (pipelineConnector name)),
    ("sink", .list [.object [("stdout", .object [])]])]

theorem mutual_sources_accepted :
    validatePipeline none mutualPipeline = .ok () ∧
      ∃ config, generatePipelineConfig (mergeSpec none mutualPipeline.spec).pipelines 0 =
          .ok config ∧
        ¬Acyclic (RenderedFlow config) := by
  refine ⟨by decide +kernel,
    [("left", renderedReceiver "right"), ("right", renderedReceiver "left")],
    by decide +kernel, ?_⟩
  intro acyclic
  have forth : RenderedFlow [("left", renderedReceiver "right"),
      ("right", renderedReceiver "left")] "left" "right" := .receives rfl rfl rfl
  have back : RenderedFlow [("left", renderedReceiver "right"),
      ("right", renderedReceiver "left")] "right" "left" := .receives rfl rfl rfl
  exact acyclic "left" (.tail (.single forth) back)

end DataPrepperOperator.Webhook
