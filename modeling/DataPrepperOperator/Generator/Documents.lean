import DataPrepperOperator.Generator.Config

/-!
# The generated pipelines document

Which definitions the generator can render, and where a reader of `pipelines.yaml`
finds the source, the sinks and the topic workers of each of them.
-/

namespace DataPrepperOperator.Generator

open DataPrepperOperator.Api
open Value (Fields setField)

theorem exists_mapError_ok_iff {Result : Type} {outcome : Except String Result}
    {context : String → String} :
    (∃ result, outcome.mapError context = .ok result) ↔ ∃ result, outcome = .ok result := by
  cases outcome <;> simp [Except.mapError]

theorem buildProcessors_ok_iff {processors : List RawJSON} :
    (∃ values, buildProcessors processors = .ok values) ↔
      ∀ raw ∈ processors, ∃ value, raw = .document value ∧ value.decodable = true := by
  unfold buildProcessors
  rw [exists_mapM_ok_iff]
  refine forall₂_congr fun raw _ => ?_
  rw [exists_mapError_ok_iff]
  cases raw with
  | malformed complaint => simp [RawJSON.unmarshalAny]
  | document value => simp [RawJSON.unmarshalAny_document_ok_iff]

/-- Fields under other keys than the source and the sinks. -/
def Foreign (fields : Fields) : Prop :=
  ∀ entry ∈ fields, entry.1 ≠ "source" ∧ entry.1 ≠ "sink"

theorem Foreign.append {first second : Fields} (foreignFirst : Foreign first)
    (foreignSecond : Foreign second) : Foreign (first ++ second) :=
  List.forall_mem_append.mpr ⟨foreignFirst, foreignSecond⟩

theorem Foreign.single {key : String} (value : Value) (source : key ≠ "source" := by decide)
    (sink : key ≠ "sink" := by decide) : Foreign [(key, value)] := by
  simp [Foreign, source, sink]

theorem foreign_nil : Foreign [] := by simp [Foreign]

theorem foreign_buildWorkers (definition : PipelineDefinition) (topicWorkers : Int) :
    Foreign (buildWorkers definition topicWorkers) := by
  unfold buildWorkers
  split
  · exact .single _
  · split
    · exact .single _
    · exact foreign_nil

theorem foreign_delay (delay : Int) : Foreign (positiveNumber "delay" delay) := by
  unfold positiveNumber
  split
  · exact .single _
  · exact foreign_nil

theorem foreign_buildRoutes (routes : List (GoMap String)) : Foreign (buildRoutes routes) := by
  unfold buildRoutes
  split
  · exact foreign_nil
  · exact .single _

theorem Foreign.lookups {front middle : Fields} (foreignFront : Foreign front)
    (foreignMiddle : Foreign middle) (source sinks : Value) :
    (front ++ [("source", source)] ++ middle ++ [("sink", sinks)]).lookup "source" =
        some source ∧
      (front ++ [("source", source)] ++ middle ++ [("sink", sinks)]).lookup "sink" =
        some sinks := by
  have absent : ∀ {fields : Fields}, Foreign fields →
      fields.lookup "source" = none ∧ fields.lookup "sink" = none := by
    intro fields foreign
    constructor <;> rw [List.lookup_eq_none_iff] <;> intro entry member
    · simpa using (foreign entry member).1.symm
    · simpa using (foreign entry member).2.symm
  simp [List.lookup_append, absent foreignFront, absent foreignMiddle, List.lookup_cons]

/-- Once source and sinks are built, only the processors can fail. -/
theorem buildPipeline_cases {definition : PipelineDefinition} {topicWorkers : Int}
    {source : Fields} {sinks : List Value}
    (builtSource : buildSource definition.source topicWorkers = .ok source)
    (builtSinks : buildSinks definition.sink = .ok sinks) :
    (∃ message, buildProcessors definition.processors = .error message ∧
        buildPipeline definition topicWorkers = .error ("pipeline " ++
          GoText.quote definition.name ++ " processors: " ++ message)) ∨
      ∃ values fields, buildProcessors definition.processors = .ok values ∧
        buildPipeline definition topicWorkers = .ok fields ∧
        fields.lookup "source" = some (.object source) ∧
        fields.lookup "sink" = some (.list sinks) := by
  have lookups : ∀ {buffer processors : Fields}, Foreign buffer → Foreign processors →
      ∀ fields, fields = buildWorkers definition topicWorkers ++
        positiveNumber "delay" definition.delay ++ [("source", .object source)] ++ buffer ++
        processors ++ buildRoutes definition.routes ++ [("sink", .list sinks)] →
      fields.lookup "source" = some (.object source) ∧
        fields.lookup "sink" = some (.list sinks) := by
    rintro buffer processors foreignBuffer foreignProcessors _ rfl
    have front := (foreign_buildWorkers definition topicWorkers).append
      (foreign_delay definition.delay)
    have middle := (foreignBuffer.append foreignProcessors).append
      (foreign_buildRoutes definition.routes)
    simpa only [List.append_assoc] using front.lookups middle (.object source) (.list sinks)
  unfold buildPipeline
  rw [builtSource, builtSinks]
  by_cases none : definition.processors = []
  · right
    refine ⟨[], _, by rw [none]; rfl, if_pos none, lookups ?_ foreign_nil _ rfl⟩
    split
    · exact foreign_nil
    · exact .single _
  · cases buildProcessors definition.processors with
    | error message =>
        left
        refine ⟨message, rfl, ?_⟩
        exact if_neg none
    | ok values =>
        right
        have foreignProcessors : Foreign [("processor", .list values)] := .single _
        refine ⟨values, _, rfl, if_neg none, lookups ?_ foreignProcessors _ rfl⟩
        split
        · exact foreign_nil
        · exact .single _

theorem setField_of_fresh {fields : Fields} {key : String} (value : Value)
    (fresh : ∀ entry ∈ fields, entry.1 ≠ key) :
    setField fields key value = fields ++ [(key, value)] := by
  induction fields with
  | nil => rfl
  | cons entry rest ih =>
      obtain ⟨here, later⟩ := List.forall_mem_cons.mp fresh
      obtain ⟨present, old⟩ := entry
      rw [setField, if_neg here, ih later]
      rfl

/-- The entry that the loop adds for a definition. -/
def IsEntry (topicWorkers : Int) (definition : PipelineDefinition) (entry : String × Value) :
    Prop :=
  ∃ fields, buildPipeline definition topicWorkers = .ok fields ∧
    entry = (definition.name, .object fields)

/-- With distinct names each round of the loop appends an entry. -/
theorem entries_of_foldlM {pipelines : List PipelineDefinition} {topicWorkers : Int}
    {start config : Fields} (distinct : (pipelines.map PipelineDefinition.name).Nodup)
    (fresh : ∀ definition ∈ pipelines, ∀ entry ∈ start, entry.1 ≠ definition.name)
    (generated : pipelines.foldlM (fun config pipeline => do
      let built ← buildPipeline pipeline topicWorkers
      pure (setField config pipeline.name (.object built))) start = .ok config) :
    ∃ entries, config = start ++ entries ∧
      List.Forall₂ (IsEntry topicWorkers) pipelines entries := by
  induction pipelines generalizing start with
  | nil =>
      cases generated
      exact ⟨[], (List.append_nil _).symm, .nil⟩
  | cons definition rest ih =>
      obtain ⟨unseen, nodup⟩ := List.nodup_cons.mp distinct
      obtain ⟨freshHere, freshLater⟩ := List.forall_mem_cons.mp fresh
      rw [List.foldlM_cons] at generated
      cases built : buildPipeline definition topicWorkers with
      | error message => simp [built, bind, Except.bind] at generated
      | ok fields =>
          rw [built] at generated
          change rest.foldlM _ (setField start definition.name (.object fields)) = _ at generated
          rw [setField_of_fresh _ freshHere] at generated
          have stillFresh : ∀ other ∈ rest,
              ∀ entry ∈ start ++ [(definition.name, .object fields)], entry.1 ≠ other.name := by
            intro other member entry listed
            obtain earlier | here := List.mem_append.mp listed
            · exact freshLater other member entry earlier
            · rw [List.mem_singleton.mp here]
              exact fun same => unseen (List.mem_map.mpr ⟨other, member, same.symm⟩)
          obtain ⟨entries, rfl, each⟩ := ih nodup stillFresh generated
          exact ⟨(definition.name, .object fields) :: entries, by simp,
            .cons ⟨fields, built, rfl⟩ each⟩

/-- The generator succeeds when every definition can be rendered. -/
theorem generatePipelineConfig_ok_iff {pipelines : List PipelineDefinition}
    {topicWorkers : Int} :
    (∃ config, generatePipelineConfig pipelines topicWorkers = .ok config) ↔
      ∀ definition ∈ pipelines, ∃ fields, buildPipeline definition topicWorkers = .ok fields := by
  unfold generatePipelineConfig
  generalize ([] : Fields) = start
  induction pipelines generalizing start with
  | nil => simp [pure, Except.pure]
  | cons definition rest ih =>
      rw [List.foldlM_cons, List.forall_mem_cons]
      cases buildPipeline definition topicWorkers with
      | error message => simp [bind, Except.bind]
      | ok fields =>
          rw [← ih (setField start definition.name (.object fields))]
          simp only [Except.ok.injEq, exists_eq', true_and]
          rfl

/-- The source and the sinks of a rendered definition. -/
theorem buildPipeline_parts {definition : PipelineDefinition} {topicWorkers : Int}
    {fields : Fields} (built : buildPipeline definition topicWorkers = .ok fields) :
    ∃ source sinks, buildSource definition.source topicWorkers = .ok source ∧
      buildSinks definition.sink = .ok sinks ∧
      fields.lookup "source" = some (.object source) ∧
      fields.lookup "sink" = some (.list sinks) := by
  cases builtSource : buildSource definition.source topicWorkers with
  | error message =>
      simp [buildPipeline, builtSource, Except.mapError, bind, Except.bind] at built
  | ok source =>
      cases builtSinks : buildSinks definition.sink with
      | error message =>
          by_cases none : definition.processors = []
          · simp [buildPipeline, builtSource, builtSinks, none, Except.mapError, bind, Except.bind,
              pure, Except.pure] at built
          · cases processors : buildProcessors definition.processors <;>
              simp [buildPipeline, builtSource, builtSinks, none, processors, Except.mapError,
                bind, Except.bind, pure, Except.pure] at built
      | ok sinks =>
          obtain ⟨_, _, refused⟩ | ⟨_, found, _, rendered, atSource, atSink⟩ :=
            buildPipeline_cases builtSource builtSinks
          · rw [built] at refused
            cases refused
          · obtain rfl : fields = found := Except.ok.inj (built.symm.trans rendered)
            exact ⟨source, sinks, rfl, rfl, atSource, atSink⟩

/-- The definition that the map keeps under its name: no later one replaces it. -/
def Kept (pipelines : List PipelineDefinition) (definition : PipelineDefinition) : Prop :=
  ∃ front back, pipelines = front ++ definition :: back ∧
    ∀ other ∈ back, other.name ≠ definition.name

theorem Kept.mem {pipelines : List PipelineDefinition} {definition : PipelineDefinition}
    (kept : Kept pipelines definition) : definition ∈ pipelines := by
  obtain ⟨front, back, rfl, _⟩ := kept
  simp

theorem kept_of_distinct {pipelines : List PipelineDefinition}
    (distinct : (pipelines.map PipelineDefinition.name).Nodup) {definition : PipelineDefinition}
    (member : definition ∈ pipelines) : Kept pipelines definition := by
  obtain ⟨front, back, rfl⟩ := List.append_of_mem member
  refine ⟨front, back, rfl, ?_⟩
  intro other later same
  rw [List.map_append, List.map_cons] at distinct
  exact (List.nodup_cons.mp (List.nodup_append.mp distinct).2.1).1
    (List.mem_map.mpr ⟨other, later, same⟩)

/-- The entry under a name stays while other names are rendered. -/
theorem lookup_of_foldlM {pipelines : List PipelineDefinition} {topicWorkers : Int}
    {start config : Fields} {name : String} (others : ∀ other ∈ pipelines, other.name ≠ name)
    (generated : pipelines.foldlM (fun config pipeline => do
      let built ← buildPipeline pipeline topicWorkers
      pure (setField config pipeline.name (.object built))) start = .ok config) :
    config.lookup name = start.lookup name := by
  induction pipelines generalizing start with
  | nil =>
      cases generated
      rfl
  | cons definition rest ih =>
      obtain ⟨here, later⟩ := List.forall_mem_cons.mp others
      rw [List.foldlM_cons] at generated
      cases built : buildPipeline definition topicWorkers with
      | error message => simp [built, bind, Except.bind] at generated
      | ok fields =>
          rw [built] at generated
          rw [ih later generated, Value.lookup_setField_of_ne _ _ here.symm]

theorem lookup_of_kept {pipelines : List PipelineDefinition} {topicWorkers : Int}
    {config : Fields} {definition : PipelineDefinition} (kept : Kept pipelines definition)
    (generated : generatePipelineConfig pipelines topicWorkers = .ok config) :
    ∃ fields, buildPipeline definition topicWorkers = .ok fields ∧
      config.lookup definition.name = some (.object fields) := by
  obtain ⟨front, back, rfl, others⟩ := kept
  unfold generatePipelineConfig at generated
  rw [List.foldlM_append] at generated
  cases before : front.foldlM (fun config pipeline => do
      let built ← buildPipeline pipeline topicWorkers
      pure (setField config pipeline.name (.object built))) [] with
  | error message =>
      rw [before] at generated
      cases generated
  | ok start =>
      have resumed : ∀ next : Fields → Except String Fields,
          (Except.ok start >>= next) = next start := fun _ => rfl
      rw [before, resumed, List.foldlM_cons] at generated
      cases built : buildPipeline definition topicWorkers with
      | error message => simp [built, bind, Except.bind] at generated
      | ok fields =>
          rw [built] at generated
          refine ⟨fields, rfl, ?_⟩
          rw [lookup_of_foldlM others generated, Value.lookup_setField_same]

theorem exists_kept {pipelines : List PipelineDefinition} {definition : PipelineDefinition}
    (member : definition ∈ pipelines) :
    ∃ kept, Kept pipelines kept ∧ kept.name = definition.name := by
  induction pipelines generalizing definition with
  | nil => cases member
  | cons first rest ih =>
      by_cases later : ∃ other ∈ rest, other.name = definition.name
      · obtain ⟨other, listed, same⟩ := later
        obtain ⟨kept, ⟨front, back, rfl, others⟩, named⟩ := ih listed
        exact ⟨kept, ⟨first :: front, back, rfl, others⟩, named.trans same⟩
      · obtain rfl | listed := List.mem_cons.mp member
        · exact ⟨definition, ⟨[], rest, rfl, fun other listed same =>
            later ⟨other, listed, same⟩⟩, rfl⟩
        · exact absurd ⟨definition, listed, rfl⟩ later

/-- The document has entries for the names of definitions only. -/
theorem exists_kept_of_lookup {pipelines : List PipelineDefinition} {topicWorkers : Int}
    {config : Fields} {name : String} {entry : Value}
    (generated : generatePipelineConfig pipelines topicWorkers = .ok config)
    (found : config.lookup name = some entry) :
    ∃ definition, Kept pipelines definition ∧ definition.name = name := by
  by_cases defined : ∃ definition ∈ pipelines, definition.name = name
  · obtain ⟨definition, member, rfl⟩ := defined
    exact exists_kept member
  · have missing : config.lookup name = ([] : Fields).lookup name :=
      lookup_of_foldlM (fun other member same => defined ⟨other, member, same⟩) generated
    rw [found] at missing
    cases missing

/-- What a reader of the document finds under
`<name>.source.kafka.topics[0].workers`. -/
def topicWorkersIn (config : Fields) (name : String) : Option Value := do
  let .object pipeline ← config.lookup name | none
  let .object source ← pipeline.lookup "source" | none
  let .object kafka ← source.lookup "kafka" | none
  let .list (.object topic :: _) ← kafka.lookup "topics" | none
  topic.lookup "workers"

/-- Every Kafka source that stays in the document has the same topic workers; zero
leaves them out. -/
theorem topicWorkersIn_of_kept {pipelines : List PipelineDefinition} {topicWorkers : Int}
    {config : Fields} {definition : PipelineDefinition} {kafka : KafkaSourceSpec}
    (kept : Kept pipelines definition) (source : definition.source.kafka = some kafka)
    (generated : generatePipelineConfig pipelines topicWorkers = .ok config) :
    topicWorkersIn config definition.name =
      if 0 < topicWorkers then some (.number topicWorkers) else none := by
  obtain ⟨fields, built, found⟩ := lookup_of_kept kept generated
  obtain ⟨rendered, _, builtSource, _, atSource, _⟩ := buildPipeline_parts built
  have kafkaSource : rendered = buildKafkaSource kafka topicWorkers := by
    simpa [buildSource, source] using builtSource.symm
  unfold topicWorkersIn
  simp only [found, atSource, kafkaSource, buildKafkaSource, Option.bind_eq_bind,
    Option.bind_some, List.lookup_cons, beq_self_eq_true]
  by_cases positive : 0 < topicWorkers <;>
    simp [positive, positiveNumber, List.lookup_cons]

/-- Other sources have no topics. -/
theorem lookup_kafka_of_buildSource {source : SourceSpec} {topicWorkers : Int} {fields : Fields}
    (other : source.kafka = none) (built : buildSource source topicWorkers = .ok fields) :
    fields.lookup "kafka" = none := by
  unfold buildSource at built
  rw [other] at built
  split at built
  · contradiction
  · cases built
    rfl
  · cases built
    unfold buildOTelSource
    split <;> rfl
  · cases built
    rfl
  · cases built
    rfl
  · cases built

/-- The only topic workers in the document are those that were asked for. -/
theorem topicWorkersIn_eq_some {pipelines : List PipelineDefinition} {topicWorkers : Int}
    {config : Fields} {name : String} {value : Value}
    (generated : generatePipelineConfig pipelines topicWorkers = .ok config)
    (found : topicWorkersIn config name = some value) :
    0 < topicWorkers ∧ value = .number topicWorkers := by
  obtain ⟨entry, listed⟩ : ∃ entry, config.lookup name = some entry := by
    cases listed : config.lookup name with
    | none => simp [topicWorkersIn, listed] at found
    | some entry => exact ⟨entry, rfl⟩
  obtain ⟨definition, kept, rfl⟩ := exists_kept_of_lookup generated listed
  cases source : definition.source.kafka with
  | some kafka =>
      rw [topicWorkersIn_of_kept kept source generated] at found
      split at found
      · rename_i positive
        exact ⟨positive, (Option.some.inj found).symm⟩
      · cases found
  | none =>
      obtain ⟨fields, built, atName⟩ := lookup_of_kept kept generated
      obtain ⟨rendered, _, builtSource, _, atSource, _⟩ := buildPipeline_parts built
      simp [topicWorkersIn, atName, atSource, lookup_kafka_of_buildSource source builtSource]
        at found

theorem topicWorkersIn_sorted (config : Fields) (name : String) :
    topicWorkersIn (Value.sortFields (Value.canonicalFields config)) name =
      (topicWorkersIn config name).map Value.canonical := by
  unfold topicWorkersIn
  rw [Value.lookup_canonicalFields]
  rcases config.lookup name with _ | _ | _ | _ | _ | _ | pipeline <;> try rfl
  simp only [Option.map_some, Value.canonical, Option.bind_eq_bind, Option.bind_some,
    Value.lookup_canonicalFields]
  rcases pipeline.lookup "source" with _ | _ | _ | _ | _ | _ | source <;> try rfl
  simp only [Option.map_some, Value.canonical, Option.bind_some, Value.lookup_canonicalFields]
  rcases source.lookup "kafka" with _ | _ | _ | _ | _ | _ | kafka <;> try rfl
  simp only [Option.map_some, Value.canonical, Option.bind_some, Value.lookup_canonicalFields]
  rcases kafka.lookup "topics" with _ | _ | _ | _ | _ | topics | _ <;> try rfl
  rcases topics with _ | ⟨_ | _ | _ | _ | _ | topic, _⟩ <;> try rfl
  exact Value.lookup_canonicalFields topic "workers"

/-- Topic workers are numbers, so the order of the fields does not show. -/
theorem topicWorkersIn_canonical {pipelines : List PipelineDefinition} {topicWorkers : Int}
    {config : Fields} (generated : generatePipelineConfig pipelines topicWorkers = .ok config)
    (name : String) :
    topicWorkersIn (Value.sortFields (Value.canonicalFields config)) name =
      topicWorkersIn config name := by
  rw [topicWorkersIn_sorted]
  cases found : topicWorkersIn config name with
  | none => rfl
  | some value =>
      obtain ⟨_, rfl⟩ := topicWorkersIn_eq_some generated found
      rfl

end DataPrepperOperator.Generator
