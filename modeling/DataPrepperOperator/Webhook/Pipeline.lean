import DataPrepperOperator.Controller.Pipeline

/-!
# The validating webhook of pipelines

`validatePipeline` and its helpers, with the message of each refusal.  `Accepted`
says what an accepted pipeline looks like, without the order of the checks.
-/

namespace DataPrepperOperator.Webhook

open DataPrepperOperator.Api DataPrepperOperator.Controller

/-- A check that stops with a message. -/
def require (condition : Prop) [Decidable condition] (message : String) : Except String Unit :=
  if condition then .ok () else .error message

/-- `webhookReader`: a client of every namespace once the webhook is set up. -/
abbrev Reader := Option ((nameSpace name : String) → Except ApiError DataPrepperDefaults)

/-- The defaults that the webhook can see from the pipeline's namespace. -/
def visibleDefaults (webhookReader : Reader) (pipeline : DataPrepperPipeline) :
    Option DataPrepperDefaultsSpec :=
  match webhookReader with
  | none => none
  | some get =>
      if pipeline.metadata.nameSpace = "" then none
      else (get pipeline.metadata.nameSpace "default").toOption.map (·.spec)

def validateImage (webhookReader : Reader) (pipeline : DataPrepperPipeline) :
    Except String Unit :=
  if pipeline.spec.image ≠ "" then .ok ()
  else
    match visibleDefaults webhookReader pipeline with
    | none => .error "spec.image is required"
    | some defaults => require (defaults.image ≠ "") "spec.image is required"

def sourceCount (source : SourceSpec) : Nat :=
  [source.kafka.isSome, source.http.isSome, source.otel.isSome, source.s3.isSome,
    source.pipeline.isSome].count true

def countCodecTypes (codec : CodecSpec) : Nat :=
  [codec.json.isSome, codec.csv.isSome, codec.newline.isSome, codec.parquet.isSome,
    codec.avro.isSome].count true

def countSinkTypes (sink : SinkSpec) : Nat :=
  [sink.openSearch.isSome, sink.pipeline.isSome, sink.s3.isSome, sink.kafka.isSome,
    sink.stdout.isSome].count true

def validateSourceUnion (definition : PipelineDefinition) : Except String Unit :=
  require (sourceCount definition.source = 1)
    ("pipeline " ++ GoText.quote definition.name ++ " must have exactly one source type, got " ++
      toString (sourceCount definition.source))

/-- The codec of an S3 source. -/
def sourceCodec (source : SourceSpec) : Option CodecSpec := source.s3.bind (·.codec)

def validateSourceCodec (definition : PipelineDefinition) : Except String Unit :=
  match sourceCodec definition.source with
  | none => .ok ()
  | some codec =>
      require (countCodecTypes codec ≤ 1)
        ("pipeline " ++ GoText.quote definition.name ++
          " S3 source codec must have at most one type, got " ++
          toString (countCodecTypes codec))

/-- The sink loop; `index` is the position of the first sink. -/
def validateSinks (name : String) : (index : Nat) → List SinkSpec → Except String Unit
  | _, [] => .ok ()
  | index, sink :: rest => do
      require (countSinkTypes sink = 1)
        ("pipeline " ++ GoText.quote name ++ " sink[" ++ toString index ++
          "] must have exactly one sink type, got " ++ toString (countSinkTypes sink))
      validateSinks name (index + 1) rest

/-- The loop of `validatePipelineDefinitions`, with the names met so far. -/
def validateDefinitionsFrom :
    (index : Nat) → (names : List String) → List PipelineDefinition → Except String Unit
  | _, _, [] => .ok ()
  | index, names, definition :: rest => do
      require (definition.name ≠ "")
        ("spec.pipelines[" ++ toString index ++ "].name is required")
      require (definition.name ∉ names) ("duplicate pipeline name: " ++ definition.name)
      validateSourceUnion definition
      require (definition.sink ≠ [])
        ("pipeline " ++ GoText.quote definition.name ++ " must have at least one sink")
      validateSourceCodec definition
      validateSinks definition.name 0 definition.sink
      validateDefinitionsFrom (index + 1) (definition.name :: names) rest

def validatePipelineDefinitions (pipelines : List PipelineDefinition) : Except String Unit :=
  validateDefinitionsFrom 0 [] pipelines

/-- The webhook flattens the connectors as the reconciler does. -/
def validatePipelineGraph (pipelines : List PipelineDefinition) : Except String Unit :=
  (Validation.validateGraph (graphDefs pipelines)).mapError
    fun failure => "pipeline graph validation failed: " ++ failure.message

def validateScaling (scaling : Option ScalingSpec) : Except String Unit :=
  match scaling with
  | none => .ok ()
  | some scaling => do
      require (¬(scaling.mode = .manual ∧ ∃ fixed ∈ scaling.fixedReplicas, fixed < 1))
        "fixedReplicas must be >= 1"
      require (¬∃ maximum ∈ scaling.maxReplicas, ∃ minimum ∈ scaling.minReplicas,
          maximum < minimum)
        "maxReplicas must be >= minReplicas"

/-- `len` counts bytes. -/
def validatePipeline (webhookReader : Reader) (pipeline : DataPrepperPipeline) :
    Except String Unit := do
  require (pipeline.name.utf8ByteSize ≤ 244)
    ("metadata.name must be at most 244 characters (current: " ++
      toString pipeline.name.utf8ByteSize ++ ") to allow headless service suffix")
  validateImage webhookReader pipeline
  require (pipeline.spec.pipelines ≠ []) "spec.pipelines must not be empty"
  validatePipelineDefinitions pipeline.spec.pipelines
  validatePipelineGraph pipeline.spec.pipelines
  validateScaling pipeline.spec.scaling

theorem require_ok_iff {condition : Prop} [Decidable condition] {message : String} :
    require condition message = .ok () ↔ condition := by
  unfold require
  split <;> simp_all

/-- A sequence of checks passes when each of them does. -/
theorem bind_ok_iff {first second : Except String Unit} :
    (do first; second) = .ok () ↔ first = .ok () ∧ second = .ok () := by
  cases first <;> simp [bind, Except.bind]

theorem validateImage_ok_iff {webhookReader : Reader} {pipeline : DataPrepperPipeline} :
    validateImage webhookReader pipeline = .ok () ↔
      pipeline.spec.image ≠ "" ∨
        ∃ defaults ∈ visibleDefaults webhookReader pipeline, defaults.image ≠ "" := by
  unfold validateImage
  by_cases own : pipeline.spec.image = ""
  · cases visibleDefaults webhookReader pipeline with
    | none => simp [own]
    | some defaults => simp [own, require_ok_iff]
  · simp [own]

theorem validateSinks_ok_iff {name : String} {index : Nat} {sinks : List SinkSpec} :
    validateSinks name index sinks = .ok () ↔ ∀ sink ∈ sinks, countSinkTypes sink = 1 := by
  induction sinks generalizing index with
  | nil => simp [validateSinks]
  | cons sink rest ih =>
      rw [validateSinks, bind_ok_iff, require_ok_iff, ih, List.forall_mem_cons]

theorem validateSourceCodec_ok_iff {definition : PipelineDefinition} :
    validateSourceCodec definition = .ok () ↔
      ∀ codec ∈ sourceCodec definition.source, countCodecTypes codec ≤ 1 := by
  unfold validateSourceCodec
  cases sourceCodec definition.source with
  | none => simp
  | some codec => simp [require_ok_iff]

/-- What the webhook demands of one definition. -/
structure WellFormed (definition : PipelineDefinition) : Prop where
  named : definition.name ≠ ""
  source : sourceCount definition.source = 1
  sinks : definition.sink ≠ []
  codec : ∀ codec ∈ sourceCodec definition.source, countCodecTypes codec ≤ 1
  sink : ∀ sink ∈ definition.sink, countSinkTypes sink = 1

theorem validateDefinitionsFrom_ok_iff {index : Nat} {names : List String}
    {pipelines : List PipelineDefinition} :
    validateDefinitionsFrom index names pipelines = .ok () ↔
      (∀ definition ∈ pipelines, WellFormed definition) ∧
        (pipelines.map PipelineDefinition.name).Nodup ∧
        ∀ definition ∈ pipelines, definition.name ∉ names := by
  induction pipelines generalizing index names with
  | nil => simp [validateDefinitionsFrom]
  | cons definition rest ih =>
      simp only [validateDefinitionsFrom, bind_ok_iff, require_ok_iff, validateSourceUnion,
        validateSourceCodec_ok_iff, validateSinks_ok_iff, ih]
      constructor
      · rintro ⟨named, fresh, source, sinks, codec, sink, formed, nodup, distinct⟩
        have unseen : definition.name ∉ rest.map PipelineDefinition.name := by
          intro listed
          obtain ⟨other, member, same⟩ := List.mem_map.mp listed
          exact distinct other member (same ▸ List.mem_cons_self)
        refine ⟨List.forall_mem_cons.mpr ⟨⟨named, source, sinks, codec, sink⟩, formed⟩,
          List.nodup_cons.mpr ⟨unseen, nodup⟩, List.forall_mem_cons.mpr ⟨fresh, ?_⟩⟩
        intro other member seen
        exact distinct other member (List.mem_cons_of_mem _ seen)
      · rintro ⟨formed, nodup, distinct⟩
        obtain ⟨here, later⟩ := List.forall_mem_cons.mp formed
        obtain ⟨unseen, rest⟩ := List.nodup_cons.mp nodup
        obtain ⟨fresh, others⟩ := List.forall_mem_cons.mp distinct
        refine ⟨here.named, fresh, here.source, here.sinks, here.codec, here.sink, later, rest, ?_⟩
        intro other member seen
        obtain same | earlier := List.mem_cons.mp seen
        · exact unseen (same ▸ List.mem_map_of_mem member)
        · exact others other member earlier

theorem validatePipelineGraph_ok_iff {pipelines : List PipelineDefinition} :
    validatePipelineGraph pipelines = .ok () ↔
      Validation.validateGraph (graphDefs pipelines) = .ok () := by
  unfold validatePipelineGraph
  cases Validation.validateGraph (graphDefs pipelines) <;> simp [Except.mapError]

/-- An accepted pipeline. -/
structure Accepted (webhookReader : Reader) (pipeline : DataPrepperPipeline) : Prop where
  name : pipeline.name.utf8ByteSize ≤ 244
  image : pipeline.spec.image ≠ "" ∨
    ∃ defaults ∈ visibleDefaults webhookReader pipeline, defaults.image ≠ ""
  nonempty : pipeline.spec.pipelines ≠ []
  formed : ∀ definition ∈ pipeline.spec.pipelines, WellFormed definition
  distinct : (pipeline.spec.pipelines.map PipelineDefinition.name).Nodup
  graph : Validation.validateGraph (graphDefs pipeline.spec.pipelines) = .ok ()
  scaling : validateScaling pipeline.spec.scaling = .ok ()

theorem validatePipeline_ok_iff {webhookReader : Reader} {pipeline : DataPrepperPipeline} :
    validatePipeline webhookReader pipeline = .ok () ↔ Accepted webhookReader pipeline := by
  simp only [validatePipeline, bind_ok_iff, require_ok_iff, validateImage_ok_iff,
    validatePipelineDefinitions, validateDefinitionsFrom_ok_iff, validatePipelineGraph_ok_iff]
  constructor
  · rintro ⟨name, image, nonempty, ⟨formed, distinct, _⟩, graph, scaling⟩
    exact ⟨name, image, nonempty, formed, distinct, graph, scaling⟩
  · intro accepted
    exact ⟨accepted.name, accepted.image, accepted.nonempty,
      ⟨accepted.formed, accepted.distinct, by simp⟩, accepted.graph, accepted.scaling⟩

end DataPrepperOperator.Webhook
