import DataPrepperOperator.Generator.Documents
import DataPrepperOperator.Generator.Resources
import DataPrepperOperator.Library.ValuePaths

/-!
# Placeholders and environment variables

The document refers to credentials by `${NAME}`, and the pods get the variables from
Secrets.  Each family has one set of variables, taken from the first reference that the
scan meets; a reference that is rendered is one that the scan has met.
-/

namespace DataPrepperOperator.Generator

open DataPrepperOperator.Api
open Value (Fields AllTexts AllFieldTexts OnlyAdds)

def tagged (family : CredentialFamily) (reference : Option SecretReference) :
    List (CredentialFamily × SecretReference) :=
  reference.toList.map fun reference => (family, reference)

def sinkCredentials (sink : SinkSpec) : List (CredentialFamily × SecretReference) :=
  tagged .kafka (sink.kafka.bind (·.credentialsSecretRef)) ++
    tagged .openSearch (sink.openSearch.bind (·.credentialsSecretRef)) ++
    tagged .s3 (sink.s3.bind (·.credentialsSecretRef))

def definitionCredentials (definition : PipelineDefinition) :
    List (CredentialFamily × SecretReference) :=
  tagged .kafka (definition.source.kafka.bind (·.credentialsSecretRef)) ++
    tagged .s3 (definition.source.s3.bind (·.credentialsSecretRef)) ++
    definition.sink.flatMap sinkCredentials

/-- All credential references: pipelines in order, the source before the sinks. -/
def scanOrder (pipelines : List PipelineDefinition) :
    List (CredentialFamily × SecretReference) :=
  pipelines.flatMap definitionCredentials

def firstReference (family : CredentialFamily)
    (references : List (CredentialFamily × SecretReference)) : Option SecretReference :=
  (references.find? fun reference => reference.1 = family).map Prod.snd

theorem firstReference_append (family : CredentialFamily)
    (references : List (CredentialFamily × SecretReference))
    (reference : CredentialFamily × SecretReference) :
    firstReference family (references ++ [reference]) =
      (firstReference family references).or
        (if reference.1 = family then some reference.2 else none) := by
  unfold firstReference
  rw [List.find?_append, Option.map_or]
  congr 1
  by_cases same : reference.1 = family <;> simp [same]

theorem exists_firstReference {family : CredentialFamily} {reference : SecretReference}
    {references : List (CredentialFamily × SecretReference)}
    (member : (family, reference) ∈ references) :
    ∃ first, firstReference family references = some first := by
  cases found : references.find? fun reference => reference.1 = family with
  | some first => exact ⟨first.2, by simp [firstReference, found]⟩
  | none =>
      have missing := List.find?_eq_none.mp found (family, reference) member
      simp at missing

/-- Variables of different families have different names. -/
theorem envVars_family_eq {first second : CredentialFamily} {secret other : String}
    {env counterpart : EnvVar} (own : env ∈ first.envVars secret)
    (others : counterpart ∈ second.envVars other) (same : env.name = counterpart.name) :
    first = second := by
  cases first <;> cases second <;>
    simp only [CredentialFamily.envVars, secretEnvVar, List.mem_cons, List.not_mem_nil,
      or_false] at own others <;>
    first
    | rfl
    | (obtain rfl | rfl := own <;> obtain rfl | rfl := others <;> simp at same)

theorem nodup_envVars (family : CredentialFamily) (secret : String) :
    ((family.envVars secret).map EnvVar.name).Nodup := by
  cases family <;> simp [CredentialFamily.envVars, secretEnvVar]

/-- What the scan knows after some references. -/
structure Scanned (references : List (CredentialFamily × SecretReference))
    (scan : CredentialScan) : Prop where
  found : ∀ family, scan.found family = (firstReference family references).isSome
  mem : ∀ env, env ∈ scan.envs ↔ ∃ family reference,
    firstReference family references = some reference ∧ env ∈ family.envVars reference.name
  nodup : (scan.envs.map EnvVar.name).Nodup

theorem CredentialScan.found_mark (scan : CredentialScan) (family other : CredentialFamily) :
    (scan.mark family).found other = (scan.found other || decide (family = other)) := by
  cases family <;> cases other <;> simp [CredentialScan.mark, CredentialScan.found]

theorem CredentialScan.found_withEnvs (scan : CredentialScan) (envs : List EnvVar)
    (family : CredentialFamily) :
    CredentialScan.found { scan with envs := envs } family = scan.found family := by
  cases family <;> rfl

/-- A later reference of a known family changes nothing. -/
theorem Scanned.append_known {references : List (CredentialFamily × SecretReference)}
    {scan : CredentialScan} (before : Scanned references scan) {family : CredentialFamily}
    {first : SecretReference} (found : firstReference family references = some first)
    (reference : SecretReference) : Scanned (references ++ [(family, reference)]) scan := by
  have unchanged : ∀ other, firstReference other (references ++ [(family, reference)]) =
      firstReference other references := by
    intro other
    rw [firstReference_append]
    by_cases same : family = other
    · subst same
      rw [found, Option.some_or]
    · simp [same]
  exact ⟨fun other => by rw [unchanged, before.found],
    fun env => by simp only [unchanged, before.mem], before.nodup⟩

/-- The first reference of a family adds its variables. -/
theorem Scanned.append_fresh {references : List (CredentialFamily × SecretReference)}
    {scan : CredentialScan} (before : Scanned references scan) {family : CredentialFamily}
    (fresh : firstReference family references = none) (reference : SecretReference) :
    Scanned (references ++ [(family, reference)])
      { scan.mark family with envs := scan.envs ++ family.envVars reference.name } := by
  have now : ∀ other, firstReference other (references ++ [(family, reference)]) =
      if family = other then some reference else firstReference other references := by
    intro other
    rw [firstReference_append]
    by_cases same : family = other
    · subst same
      simp [fresh]
    · simp [same]
  refine ⟨?_, ?_, ?_⟩
  · intro other
    rw [CredentialScan.found_withEnvs, CredentialScan.found_mark, before.found, now]
    by_cases same : family = other <;> simp [same]
  · intro env
    simp only [List.mem_append, before.mem, now]
    constructor
    · rintro (⟨other, first, found, member⟩ | member)
      · refine ⟨other, first, ?_, member⟩
        have different : family ≠ other := by
          rintro rfl
          rw [fresh] at found
          cases found
        rw [if_neg different, found]
      · exact ⟨family, reference, if_pos rfl, member⟩
    · rintro ⟨other, first, found, member⟩
      split at found
      · rename_i same
        cases found
        subst same
        exact .inr member
      · exact .inl ⟨other, first, found, member⟩
  · rw [List.map_append, List.nodup_append]
    refine ⟨before.nodup, nodup_envVars family reference.name, ?_⟩
    intro name old _ new same
    obtain ⟨env, member, rfl⟩ := List.mem_map.mp old
    obtain ⟨other, first, found, own⟩ := (before.mem env).mp member
    obtain ⟨counterpart, listed, named⟩ := List.mem_map.mp new
    have equal := envVars_family_eq own listed (same.trans named.symm)
    rw [equal, fresh] at found
    cases found

theorem Scanned.use {references : List (CredentialFamily × SecretReference)}
    {scan : CredentialScan} (before : Scanned references scan) (family : CredentialFamily)
    (reference : SecretReference) :
    Scanned (references ++ [(family, reference)]) (scan.use family (some reference)) := by
  cases first : firstReference family references with
  | some earlier =>
      have known : scan.found family = true := by rw [before.found, first, Option.isSome_some]
      have same : scan.use family (some reference) = scan := by
        simp [CredentialScan.use, known]
      rw [same]
      exact before.append_known first reference
  | none =>
      have unknown : scan.found family = false := by rw [before.found, first, Option.isSome_none]
      have added : scan.use family (some reference) =
          { scan.mark family with envs := scan.envs ++ family.envVars reference.name } := by
        simp [CredentialScan.use, unknown]
      rw [added]
      exact before.append_fresh first reference

theorem Scanned.tagged {references : List (CredentialFamily × SecretReference)}
    {scan : CredentialScan} (before : Scanned references scan) (family : CredentialFamily)
    (reference : Option SecretReference) :
    Scanned (references ++ tagged family reference) (scan.use family reference) := by
  cases reference with
  | none => simpa [Generator.tagged, CredentialScan.use] using before
  | some reference => exact before.use family reference

/-- Once all families are found nothing more can be. -/
theorem Scanned.skip {references : List (CredentialFamily × SecretReference)}
    {scan : CredentialScan} (before : Scanned references scan) (complete : scan.complete = true)
    (rest : List (CredentialFamily × SecretReference)) : Scanned (references ++ rest) scan := by
  induction rest generalizing references with
  | nil => simpa using before
  | cons reference rest ih =>
      have all : ∀ family, scan.found family = true := by
        simp only [CredentialScan.complete, Bool.and_eq_true] at complete
        rintro (_ | _ | _)
        · exact complete.1.1
        · exact complete.1.2
        · exact complete.2
      have step := before.use reference.1 reference.2
      have same : scan.use reference.1 (some reference.2) = scan := by
        simp [CredentialScan.use, all]
      rw [same] at step
      simpa using ih step

theorem scanned_scanSinks {references : List (CredentialFamily × SecretReference)}
    {scan : CredentialScan} (before : Scanned references scan) (sinks : List SinkSpec) :
    Scanned (references ++ sinks.flatMap sinkCredentials) (scanSinks sinks scan) := by
  induction sinks generalizing references scan with
  | nil => simpa [scanSinks] using before
  | cons sink rest ih =>
      have here := ((before.tagged .kafka
        (sink.kafka.bind (·.credentialsSecretRef))).tagged .openSearch
          (sink.openSearch.bind (·.credentialsSecretRef))).tagged .s3
            (sink.s3.bind (·.credentialsSecretRef))
      rw [List.append_assoc references, List.append_assoc references] at here
      rw [List.flatMap_cons, ← List.append_assoc]
      simp only [scanSinks]
      split
      · rename_i complete
        exact here.skip complete _
      · exact ih here

theorem scanned_scanPipelines {references : List (CredentialFamily × SecretReference)}
    {scan : CredentialScan} (before : Scanned references scan)
    (pipelines : List PipelineDefinition) :
    Scanned (references ++ scanOrder pipelines) (scanPipelines pipelines scan) := by
  unfold scanOrder
  induction pipelines generalizing references scan with
  | nil => simpa [scanPipelines] using before
  | cons definition rest ih =>
      have source := (before.tagged .kafka
        (definition.source.kafka.bind (·.credentialsSecretRef))).tagged .s3
          (definition.source.s3.bind (·.credentialsSecretRef))
      have here := scanned_scanSinks source definition.sink
      rw [List.append_assoc references, List.append_assoc references] at here
      rw [List.flatMap_cons, ← List.append_assoc]
      simp only [scanPipelines]
      split
      · rename_i complete
        exact here.skip complete _
      · exact ih here

theorem scanned_credentialEnvVars (pipelines : List PipelineDefinition) :
    Scanned (scanOrder pipelines) (scanPipelines pipelines {}) := by
  have initially : Scanned [] {} := by
    refine ⟨?_, ?_, List.nodup_nil⟩
    · rintro (_ | _ | _) <;> rfl
    · intro env
      simp [firstReference]
  exact scanned_scanPipelines initially pipelines

theorem mem_credentialEnvVars {pipelines : List PipelineDefinition} {env : EnvVar} :
    env ∈ credentialEnvVars pipelines ↔ ∃ family reference,
      firstReference family (scanOrder pipelines) = some reference ∧
        env ∈ family.envVars reference.name :=
  (scanned_credentialEnvVars pipelines).mem env

theorem nodup_credentialEnvVars (pipelines : List PipelineDefinition) :
    ((credentialEnvVars pipelines).map EnvVar.name).Nodup :=
  (scanned_credentialEnvVars pipelines).nodup

def codecTexts (codec : CodecSpec) : List String :=
  (codec.csv.map (·.delimiter)).toList ++ (codec.avro.map (·.schema)).toList

def kafkaSourceTexts (kafka : KafkaSourceSpec) : List String :=
  kafka.topic :: kafka.groupId :: kafka.encryptionType.text :: kafka.bootstrapServers

def s3SourceTexts (s3 : S3SourceSpec) : List String :=
  [s3.bucket, s3.region, s3.pathPrefix, s3.sqsQueueUrl, s3.compression] ++
    s3.codec.toList.flatMap codecTexts

def sinkTexts (sink : SinkSpec) : List String :=
  (sink.openSearch.toList.flatMap fun openSearch =>
      openSearch.index :: openSearch.indexType :: (openSearch.hosts ++ openSearch.routes)) ++
    (sink.pipeline.map (·.name)).toList ++
    (sink.s3.toList.flatMap fun s3 =>
      [s3.bucket, s3.region, s3.keyPathPrefix, s3.codec, s3.compression]) ++
    sink.kafka.toList.flatMap fun kafka =>
      kafka.topic :: kafka.serdeFormat :: kafka.bootstrapServers

/-- The text is in the definition, outside its credential references. -/
inductive WrittenIn (definition : PipelineDefinition) : String → Prop
  | kafkaSource {kafka text} (source : definition.source.kafka = some kafka)
      (member : text ∈ kafkaSourceTexts kafka) : WrittenIn definition text
  | consumerConfig {kafka key text} (source : definition.source.kafka = some kafka)
      (entry : kafka.consumerConfig.lookup key = some text) : WrittenIn definition text
  | httpPath {http} (source : definition.source.http = some http) :
      WrittenIn definition http.path
  | s3Source {s3 text} (source : definition.source.s3 = some s3)
      (member : text ∈ s3SourceTexts s3) : WrittenIn definition text
  | sourcePipeline {pipeline} (source : definition.source.pipeline = some pipeline) :
      WrittenIn definition pipeline.name
  | processor {raw value path text} (member : raw ∈ definition.processors)
      (decoded : raw.unmarshalAny = .ok value) (found : value.textAt path = some text) :
      WrittenIn definition text
  | route {routes key text} (member : routes ∈ definition.routes)
      (entry : routes.lookup key = some text) : WrittenIn definition text
  | sink {sink text} (listed : sink ∈ definition.sink) (member : text ∈ sinkTexts sink) :
      WrittenIn definition text

def sourceWithoutCredentials (source : SourceSpec) : SourceSpec :=
  { source with
    kafka := source.kafka.map ({ · with credentialsSecretRef := none })
    s3 := source.s3.map ({ · with credentialsSecretRef := none }) }

def sinkWithoutCredentials (sink : SinkSpec) : SinkSpec :=
  { sink with
    openSearch := sink.openSearch.map ({ · with credentialsSecretRef := none })
    s3 := sink.s3.map ({ · with credentialsSecretRef := none })
    kafka := sink.kafka.map ({ · with credentialsSecretRef := none }) }

/-- The definition without its credential references. -/
def withoutCredentials (definition : PipelineDefinition) : PipelineDefinition :=
  { definition with
    source := sourceWithoutCredentials definition.source
    sink := definition.sink.map sinkWithoutCredentials }

/-- How the document refers to a variable. -/
def placeholder (name : String) : String := "$\x7b" ++ name ++ "\x7d"

def IsDefinedPlaceholder (pipelines : List PipelineDefinition) (text : String) : Prop :=
  ∃ env ∈ credentialEnvVars pipelines, text = placeholder env.name

theorem isDefined_of_scanned {pipelines : List PipelineDefinition} {family : CredentialFamily}
    {reference : SecretReference} (scanned : (family, reference) ∈ scanOrder pipelines)
    {env : EnvVar} {secret : String} (member : env ∈ family.envVars secret) :
    IsDefinedPlaceholder pipelines (placeholder env.name) := by
  obtain ⟨first, found⟩ := exists_firstReference scanned
  have own : ∃ counterpart ∈ family.envVars first.name, counterpart.name = env.name := by
    cases family <;>
      simp only [CredentialFamily.envVars, secretEnvVar, List.mem_cons, List.not_mem_nil,
        or_false] at member <;>
      obtain rfl | rfl := member <;>
      simp [CredentialFamily.envVars, secretEnvVar]
  obtain ⟨counterpart, listed, named⟩ := own
  exact ⟨counterpart, mem_credentialEnvVars.mpr ⟨family, first, found, listed⟩, by rw [named]⟩

section Additions

variable {pipelines : List PipelineDefinition}

theorem allTexts_kafkaAuthentication {reference : SecretReference}
    (scanned : (CredentialFamily.kafka, reference) ∈ scanOrder pipelines) :
    AllTexts (IsDefinedPlaceholder pipelines) kafkaAuthentication := by
  have username := isDefined_of_scanned scanned
    (List.mem_cons_self : _ ∈ CredentialFamily.kafka.envVars reference.name)
  have password := isDefined_of_scanned scanned
    (List.mem_cons_of_mem _ List.mem_cons_self :
      _ ∈ CredentialFamily.kafka.envVars reference.name)
  refine Value.allTexts_object ?_
  rw [Value.allFieldTexts_cons]
  refine ⟨Value.allTexts_object ?_, Value.allFieldTexts_nil⟩
  rw [Value.allFieldTexts_cons]
  refine ⟨Value.allTexts_object ?_, Value.allFieldTexts_nil⟩
  simp only [Value.allFieldTexts_cons, Value.allTexts_string, Value.allFieldTexts_nil, and_true]
  exact ⟨username, password⟩

theorem allFieldTexts_kafkaAuthenticationFor {reference : Option SecretReference}
    (scanned : ∀ secret ∈ reference, (CredentialFamily.kafka, secret) ∈ scanOrder pipelines) :
    AllFieldTexts (IsDefinedPlaceholder pipelines) (kafkaAuthenticationFor reference) := by
  cases reference with
  | none => exact Value.allFieldTexts_nil
  | some secret =>
      unfold kafkaAuthenticationFor
      rw [Value.allFieldTexts_cons]
      exact ⟨allTexts_kafkaAuthentication (scanned secret rfl), Value.allFieldTexts_nil⟩

theorem onlyAdds_kafkaSource {kafka : KafkaSourceSpec} (topicWorkers : Int)
    (scanned : ∀ secret ∈ kafka.credentialsSecretRef,
      (CredentialFamily.kafka, secret) ∈ scanOrder pipelines) :
    OnlyAdds (IsDefinedPlaceholder pipelines)
      (.object (buildKafkaSource { kafka with credentialsSecretRef := none } topicWorkers))
      (.object (buildKafkaSource kafka topicWorkers)) := by
  refine Value.onlyAdds_single "kafka" ?_
  have inserted := Value.onlyAdds_insert
    [("bootstrap_servers", stringList kafka.bootstrapServers),
      ("topics", .list [.object ([("name", .string kafka.topic),
        ("group_id", .string kafka.groupId)] ++ positiveNumber "workers" topicWorkers)])]
    ((if kafka.encryptionType = .unset then []
        else [("encryption", .object [("type", .string kafka.encryptionType.text)])]) ++
      (if kafka.consumerConfig = ∅ then []
        else [("consumer_config", Value.ofStrings kafka.consumerConfig)]))
    (allFieldTexts_kafkaAuthenticationFor scanned)
  simp only [kafkaAuthenticationFor, List.append_nil, List.append_assoc] at inserted ⊢
  exact inserted

theorem onlyAdds_openSearchSink {openSearch : OpenSearchSinkSpec}
    (scanned : ∀ secret ∈ openSearch.credentialsSecretRef,
      (CredentialFamily.openSearch, secret) ∈ scanOrder pipelines) :
    OnlyAdds (IsDefinedPlaceholder pipelines)
      (.object (buildOpenSearchSink { openSearch with credentialsSecretRef := none }))
      (.object (buildOpenSearchSink openSearch)) := by
  cases referenced : openSearch.credentialsSecretRef with
  | none =>
      have same : { openSearch with credentialsSecretRef := none } = openSearch := by
        cases openSearch
        simp_all
      rw [same]
      exact .refl _
  | some secret =>
      have known := scanned secret referenced
      have username := isDefined_of_scanned known
        (List.mem_cons_self : _ ∈ CredentialFamily.openSearch.envVars secret.name)
      have password := isDefined_of_scanned known
        (List.mem_cons_of_mem _ List.mem_cons_self :
          _ ∈ CredentialFamily.openSearch.envVars secret.name)
      have added : AllFieldTexts (IsDefinedPlaceholder pipelines)
          [("username", .string "$\x7bOPENSEARCH_USERNAME\x7d"),
            ("password", .string "$\x7bOPENSEARCH_PASSWORD\x7d")] := by
        simp only [Value.allFieldTexts_cons, Value.allTexts_string, Value.allFieldTexts_nil,
          and_true]
        exact ⟨username, password⟩
      have inserted := Value.onlyAdds_insert
        ([("hosts", stringList openSearch.hosts)] ++ optionalText "index" openSearch.index ++
          optionalText "index_type" openSearch.indexType)
        (if openSearch.routes = [] then [] else [("routes", stringList openSearch.routes)]) added
      refine Value.onlyAdds_single "opensearch" ?_
      simp only [referenced, List.append_nil]
      exact inserted

theorem onlyAdds_kafkaSink {kafka : KafkaSinkSpec}
    (scanned : ∀ secret ∈ kafka.credentialsSecretRef,
      (CredentialFamily.kafka, secret) ∈ scanOrder pipelines) :
    OnlyAdds (IsDefinedPlaceholder pipelines)
      (.object (buildKafkaSink { kafka with credentialsSecretRef := none }))
      (.object (buildKafkaSink kafka)) := by
  have inserted := Value.onlyAdds_insert
    ([("bootstrap_servers", stringList kafka.bootstrapServers), ("topic", .string kafka.topic)] ++
      optionalText "serde_format" kafka.serdeFormat) []
    (allFieldTexts_kafkaAuthenticationFor scanned)
  refine Value.onlyAdds_single "kafka" ?_
  simp only [kafkaAuthenticationFor, List.append_nil] at inserted ⊢
  exact inserted

theorem onlyAdds_buildSource {source : SourceSpec} {topicWorkers : Int} {fields : Fields}
    (built : buildSource source topicWorkers = .ok fields)
    (scanned : ∀ secret ∈ source.kafka.bind (·.credentialsSecretRef),
      (CredentialFamily.kafka, secret) ∈ scanOrder pipelines) :
    ∃ base, buildSource (sourceWithoutCredentials source) topicWorkers = .ok base ∧
      OnlyAdds (IsDefinedPlaceholder pipelines) (.object base) (.object fields) := by
  obtain ⟨kafka, http, otel, s3, pipeline⟩ := source
  unfold buildSource sourceWithoutCredentials at *
  cases kafka with
  | some kafka =>
      cases built
      exact ⟨_, rfl, onlyAdds_kafkaSource topicWorkers scanned⟩
  | none =>
      -- the other sources render no credentials
      refine ⟨fields, ?_, .refl _⟩
      rw [← built]
      cases http <;> cases otel <;> cases s3 <;> cases pipeline <;> rfl

theorem onlyAdds_buildSink {sink : SinkSpec} {fields : Fields}
    (built : buildSink sink = .ok fields)
    (scanned : ∀ reference ∈ sinkCredentials sink, reference ∈ scanOrder pipelines) :
    ∃ base, buildSink (sinkWithoutCredentials sink) = .ok base ∧
      OnlyAdds (IsDefinedPlaceholder pipelines) (.object base) (.object fields) := by
  obtain ⟨openSearch, pipeline, s3, kafka, stdout⟩ := sink
  simp only [sinkCredentials, tagged, List.forall_mem_append, List.forall_mem_map,
    Option.mem_toList] at scanned
  obtain ⟨⟨kafkaScanned, openSearchScanned⟩, _⟩ := scanned
  unfold buildSink sinkWithoutCredentials at *
  cases openSearch with
  | some openSearch =>
      cases built
      exact ⟨_, rfl, onlyAdds_openSearchSink openSearchScanned⟩
  | none =>
      cases pipeline with
      | some pipeline => exact ⟨fields, built, .refl _⟩
      | none =>
          cases s3 with
          | some s3 => exact ⟨fields, built, .refl _⟩
          | none =>
              cases kafka with
              | some kafka =>
                  cases built
                  exact ⟨_, rfl, onlyAdds_kafkaSink kafkaScanned⟩
              | none => exact ⟨fields, built, .refl _⟩

theorem onlyAdds_buildSinks {sinks : List SinkSpec} {values : List Value}
    (built : buildSinks sinks = .ok values)
    (scanned : ∀ sink ∈ sinks, ∀ reference ∈ sinkCredentials sink,
      reference ∈ scanOrder pipelines) :
    ∃ bases, buildSinks (sinks.map sinkWithoutCredentials) = .ok bases ∧
      List.Forall₂ (OnlyAdds (IsDefinedPlaceholder pipelines)) bases values := by
  unfold buildSinks at *
  rw [mapM_ok_iff_forall₂] at built
  simp only [mapM_ok_iff_forall₂, List.forall₂_map_left_iff]
  induction built with
  | nil => exact ⟨[], .nil, .nil⟩
  | @cons sink value rest values first _ ih =>
      rw [List.forall_mem_cons] at scanned
      obtain ⟨fields, builtSink, rfl⟩ := ok_of_map first
      obtain ⟨base, builtBase, added⟩ := onlyAdds_buildSink builtSink scanned.1
      obtain ⟨bases, builtBases, each⟩ := ih scanned.2
      refine ⟨.object base :: bases, .cons ?_ builtBases, .cons added each⟩
      rw [builtBase]
      rfl

def bufferFields (definition : PipelineDefinition) : Fields :=
  match definition.buffer.bind buildBuffer with
  | none => []
  | some buffer => [("buffer", .object buffer)]

def processorFields (definition : PipelineDefinition) (values : List Value) : Fields :=
  if definition.processors = [] then [] else [("processor", .list values)]

/-- What a rendered definition consists of. -/
theorem buildPipeline_ok_iff {definition : PipelineDefinition} {topicWorkers : Int}
    {fields : Fields} :
    buildPipeline definition topicWorkers = .ok fields ↔
      ∃ source values sinks, buildSource definition.source topicWorkers = .ok source ∧
        buildProcessors definition.processors = .ok values ∧
        buildSinks definition.sink = .ok sinks ∧
        fields = buildWorkers definition topicWorkers ++
          positiveNumber "delay" definition.delay ++ [("source", .object source)] ++
          (bufferFields definition ++ processorFields definition values ++
            buildRoutes definition.routes) ++ [("sink", .list sinks)] := by
  unfold buildPipeline processorFields bufferFields
  cases buildSource definition.source topicWorkers with
  | error message => simp [Except.mapError, bind, Except.bind]
  | ok source =>
      by_cases none : definition.processors = []
      · have noValues : buildProcessors definition.processors = .ok [] := by
          rw [none]
          rfl
        rw [noValues]
        cases buildSinks definition.sink with
        | error message => simp [none, Except.mapError, bind, Except.bind, pure, Except.pure]
        | ok sinks =>
            simp only [none, Except.mapError, bind, Except.bind, pure, Except.pure, if_true,
              Except.ok.injEq, List.append_assoc, List.nil_append]
            constructor
            · intro same
              exact ⟨_, _, _, rfl, rfl, rfl, same.symm⟩
            · rintro ⟨_, _, _, rfl, rfl, rfl, same⟩
              exact same.symm
      · cases buildProcessors definition.processors with
        | error message => simp [none, Except.mapError, bind, Except.bind]
        | ok values =>
            cases buildSinks definition.sink with
            | error message => simp [none, Except.mapError, bind, Except.bind, pure, Except.pure]
            | ok sinks =>
                simp only [none, Except.mapError, bind, Except.bind, pure, Except.pure, if_false,
                  Except.ok.injEq, List.append_assoc]
                constructor
                · intro same
                  exact ⟨_, _, _, rfl, rfl, rfl, same.symm⟩
                · rintro ⟨_, _, _, rfl, rfl, rfl, same⟩
                  exact same.symm

theorem onlyAdds_buildPipeline {definition : PipelineDefinition} {topicWorkers : Int}
    {fields : Fields} (built : buildPipeline definition topicWorkers = .ok fields)
    (scanned : ∀ reference ∈ definitionCredentials definition,
      reference ∈ scanOrder pipelines) :
    ∃ base, buildPipeline (withoutCredentials definition) topicWorkers = .ok base ∧
      OnlyAdds (IsDefinedPlaceholder pipelines) (.object base) (.object fields) := by
  obtain ⟨source, values, sinks, builtSource, builtProcessors, builtSinks, rfl⟩ :=
    buildPipeline_ok_iff.mp built
  simp only [definitionCredentials, List.forall_mem_append, List.forall_mem_flatMap] at scanned
  obtain ⟨⟨kafkaScanned, _⟩, sinksScanned⟩ := scanned
  simp only [tagged, List.forall_mem_map, Option.mem_toList] at kafkaScanned
  obtain ⟨baseSource, builtBase, sourceAdds⟩ := onlyAdds_buildSource builtSource kafkaScanned
  obtain ⟨baseSinks, builtBases, each⟩ := onlyAdds_buildSinks builtSinks sinksScanned
  refine ⟨_, buildPipeline_ok_iff.mpr
    ⟨baseSource, values, baseSinks, builtBase, builtProcessors, builtBases, rfl⟩, ?_⟩
  have sameWorkers : buildWorkers (withoutCredentials definition) topicWorkers =
      buildWorkers definition topicWorkers := by
    simp [buildWorkers, withoutCredentials, sourceWithoutCredentials]
  rw [sameWorkers]
  have sourceReplaced := Value.onlyAdds_replace
    (buildWorkers definition topicWorkers ++ positiveNumber "delay" definition.delay)
    (bufferFields definition ++ processorFields definition values ++
      buildRoutes definition.routes ++ [("sink", .list baseSinks)]) "source" sourceAdds
  have sinkReplaced := Value.onlyAdds_replace
    (buildWorkers definition topicWorkers ++ positiveNumber "delay" definition.delay ++
      [("source", .object source)] ++ (bufferFields definition ++
        processorFields definition values ++ buildRoutes definition.routes)) [] "sink"
    (Value.onlyAdds_list each)
  rw [List.append_nil, List.append_nil] at sinkReplaced
  simp only [List.append_assoc] at sourceReplaced sinkReplaced ⊢
  exact sourceReplaced.trans sinkReplaced

/-- The document has the texts of the one without credentials, and placeholders that are
defined. -/
theorem onlyAdds_generatePipelineConfig {topicWorkers : Int} {config : Fields}
    (generated : generatePipelineConfig pipelines topicWorkers = .ok config) :
    ∃ base, generatePipelineConfig (pipelines.map withoutCredentials) topicWorkers = .ok base ∧
      OnlyAdds (IsDefinedPlaceholder pipelines) (.object base) (.object config) := by
  have folded : ∀ (rest : List PipelineDefinition) (start startBase final : Fields),
      (∀ definition ∈ rest, ∀ reference ∈ definitionCredentials definition,
        reference ∈ scanOrder pipelines) →
      OnlyAdds (IsDefinedPlaceholder pipelines) (.object startBase) (.object start) →
      rest.foldlM (fun config pipeline => do
        let built ← buildPipeline pipeline topicWorkers
        pure (Value.setField config pipeline.name (.object built))) start = .ok final →
      ∃ base, (rest.map withoutCredentials).foldlM (fun config pipeline => do
        let built ← buildPipeline pipeline topicWorkers
        pure (Value.setField config pipeline.name (.object built))) startBase = .ok base ∧
        OnlyAdds (IsDefinedPlaceholder pipelines) (.object base) (.object final) := by
    intro rest
    induction rest with
    | nil =>
        intro start startBase final _ before finished
        cases finished
        exact ⟨startBase, rfl, before⟩
    | cons definition rest ih =>
        intro start startBase final scanned before finished
        rw [List.forall_mem_cons] at scanned
        rw [List.foldlM_cons] at finished
        cases built : buildPipeline definition topicWorkers with
        | error message => simp [built, bind, Except.bind] at finished
        | ok fields =>
            simp only [built, bind, Except.bind, pure, Except.pure] at finished
            obtain ⟨base, builtBase, added⟩ := onlyAdds_buildPipeline built scanned.1
            obtain ⟨others, generatedOthers, allAdded⟩ := ih _
              (Value.setField startBase definition.name (.object base)) final scanned.2
              (Value.onlyAdds_setField definition.name before added) finished
            refine ⟨others, ?_, allAdded⟩
            rw [List.map_cons, List.foldlM_cons, builtBase]
            exact generatedOthers
  refine folded pipelines [] [] config ?_ (.refl _) generated
  intro definition member reference referenced
  exact List.mem_flatMap.mpr ⟨definition, member, referenced⟩

end Additions

section Written

variable {definition : PipelineDefinition}

/-- The user wrote the text, or it is the notification type of an S3 source. -/
def FromUser (definition : PipelineDefinition) (text : String) : Prop :=
  text = "sqs" ∨ WrittenIn definition text

theorem allTexts_stringList {allowed : String → Prop} {items : List String}
    (all : ∀ item ∈ items, allowed item) : AllTexts allowed (stringList items) := by
  simpa [stringList] using all

theorem allFieldTexts_optionalText {allowed : String → Prop} {key text : String}
    (fits : allowed text) : AllFieldTexts allowed (optionalText key text) := by
  unfold optionalText
  split <;> simp [fits]

theorem allFieldTexts_positiveNumber {allowed : String → Prop} (key : String) (number : Int) :
    AllFieldTexts allowed (positiveNumber key number) := by
  unfold positiveNumber
  split <;> simp

theorem allFieldTexts_buildCodec {allowed : String → Prop} {codec : CodecSpec}
    (all : ∀ text ∈ codecTexts codec, allowed text) :
    AllFieldTexts allowed (buildCodec codec) := by
  have empty : AllTexts allowed (.object []) := Value.allTexts_object Value.allFieldTexts_nil
  unfold buildCodec
  split
  · simp [empty]
  · rename_i csv _ _ _ _ isCsv
    rw [Value.allFieldTexts_cons]
    refine ⟨Value.allTexts_object ?_, Value.allFieldTexts_nil⟩
    rw [Value.allFieldTexts_append]
    refine ⟨allFieldTexts_optionalText (all _ (by simp [codecTexts, isCsv])), ?_⟩
    split <;> simp
  · simp [empty]
  · simp [empty]
  · rename_i avro _ _ _ _ isAvro
    rw [Value.allFieldTexts_cons]
    refine ⟨Value.allTexts_object ?_, Value.allFieldTexts_nil⟩
    exact allFieldTexts_optionalText (all _ (by simp [codecTexts, isAvro]))
  · exact Value.allFieldTexts_nil

theorem allTexts_buildKafkaSource {kafka : KafkaSourceSpec} (topicWorkers : Int)
    (source : definition.source.kafka = some kafka) :
    AllTexts (FromUser definition)
      (.object (buildKafkaSource { kafka with credentialsSecretRef := none } topicWorkers)) := by
  have written : ∀ text ∈ kafkaSourceTexts kafka, FromUser definition text :=
    fun text member => .inr (.kafkaSource source member)
  simp only [kafkaSourceTexts, List.forall_mem_cons] at written
  obtain ⟨topic, group, encryption, servers⟩ := written
  have config : AllTexts (FromUser definition) (Value.ofStrings kafka.consumerConfig) :=
    Value.allTexts_ofStrings fun key text entry => .inr (.consumerConfig source entry)
  apply Value.allTexts_object
  rw [buildKafkaSource, Value.allFieldTexts_cons]
  refine ⟨Value.allTexts_object ?_, Value.allFieldTexts_nil⟩
  simp only [Value.allFieldTexts_append, Value.allFieldTexts_cons, Value.allTexts_list,
    List.mem_singleton, forall_eq]
  refine ⟨⟨⟨⟨allTexts_stringList servers, Value.allTexts_object ?_, Value.allFieldTexts_nil⟩,
    Value.allFieldTexts_nil⟩, ?_⟩, ?_⟩
  · simp [topic, group, allFieldTexts_positiveNumber]
  · split
    · exact Value.allFieldTexts_nil
    · simp only [Value.allFieldTexts_cons]
      refine ⟨Value.allTexts_object ?_, Value.allFieldTexts_nil⟩
      simp [encryption]
  · split
    · exact Value.allFieldTexts_nil
    · simp [config]

theorem allTexts_buildS3Source {s3 : S3SourceSpec} (source : definition.source.s3 = some s3) :
    AllTexts (FromUser definition)
      (.object (buildS3Source { s3 with credentialsSecretRef := none })) := by
  have written : ∀ text ∈ s3SourceTexts s3, FromUser definition text :=
    fun text member => .inr (.s3Source source member)
  simp only [s3SourceTexts, List.forall_mem_append, List.forall_mem_cons] at written
  obtain ⟨⟨bucket, region, path, queue, compression, _⟩, codec⟩ := written
  apply Value.allTexts_object
  rw [buildS3Source, Value.allFieldTexts_cons]
  refine ⟨Value.allTexts_object ?_, Value.allFieldTexts_nil⟩
  simp only [Value.allFieldTexts_append, Value.allFieldTexts_cons, Value.allTexts_string]
  refine ⟨⟨⟨⟨⟨bucket, region, Value.allFieldTexts_nil⟩, allFieldTexts_optionalText path⟩, ?_⟩, ?_⟩,
    allFieldTexts_optionalText compression⟩
  · split
    · exact Value.allFieldTexts_nil
    · simp only [Value.allFieldTexts_cons, Value.allTexts_string]
      refine ⟨.inl rfl, Value.allTexts_object ?_, Value.allFieldTexts_nil⟩
      simp [queue]
  · split
    · exact Value.allFieldTexts_nil
    · rename_i rendered
      simp only [Value.allFieldTexts_cons]
      refine ⟨Value.allTexts_object (allFieldTexts_buildCodec ?_), Value.allFieldTexts_nil⟩
      intro text member
      exact codec text (List.mem_flatMap.mpr ⟨_, by simp [rendered], member⟩)

theorem allTexts_pipelineConnector {allowed : String → Prop} {name : String}
    (fits : allowed name) : AllTexts allowed (.object (pipelineConnector name)) := by
  apply Value.allTexts_object
  rw [pipelineConnector, Value.allFieldTexts_cons]
  refine ⟨Value.allTexts_object ?_, Value.allFieldTexts_nil⟩
  simp [fits]

theorem allTexts_buildSource {topicWorkers : Int} {base : Fields}
    (built : buildSource (sourceWithoutCredentials definition.source) topicWorkers = .ok base) :
    AllTexts (FromUser definition) (.object base) := by
  unfold buildSource sourceWithoutCredentials at built
  dsimp only at built
  split at built
  · rename_i rendered
    obtain ⟨kafka, source, rfl⟩ := Option.map_eq_some_iff.mp rendered
    cases built
    exact allTexts_buildKafkaSource topicWorkers source
  · rename_i http _ source
    cases built
    have path : FromUser definition http.path := .inr (.httpPath source)
    apply Value.allTexts_object
    rw [buildHTTPSource, Value.allFieldTexts_cons]
    refine ⟨Value.allTexts_object ?_, Value.allFieldTexts_nil⟩
    simp [allFieldTexts_optionalText path]
  · cases built
    apply Value.allTexts_object
    rw [buildOTelSource, Value.allFieldTexts_cons]
    refine ⟨Value.allTexts_object ?_, Value.allFieldTexts_nil⟩
    simp
  · rename_i rendered
    obtain ⟨s3, source, rfl⟩ := Option.map_eq_some_iff.mp rendered
    cases built
    exact allTexts_buildS3Source source
  · rename_i source
    cases built
    exact allTexts_pipelineConnector (.inr (.sourcePipeline source))
  · cases built

theorem allTexts_buildOpenSearchSink {allowed : String → Prop} {openSearch : OpenSearchSinkSpec}
    (index : allowed openSearch.index) (indexType : allowed openSearch.indexType)
    (hosts : ∀ host ∈ openSearch.hosts, allowed host)
    (routes : ∀ route ∈ openSearch.routes, allowed route) :
    AllTexts allowed
      (.object (buildOpenSearchSink { openSearch with credentialsSecretRef := none })) := by
  apply Value.allTexts_object
  rw [buildOpenSearchSink, Value.allFieldTexts_cons]
  refine ⟨Value.allTexts_object ?_, Value.allFieldTexts_nil⟩
  simp only [Value.allFieldTexts_append, Value.allFieldTexts_cons]
  refine ⟨⟨⟨⟨⟨allTexts_stringList hosts, Value.allFieldTexts_nil⟩,
    allFieldTexts_optionalText index⟩, allFieldTexts_optionalText indexType⟩,
    Value.allFieldTexts_nil⟩, ?_⟩
  split
  · exact Value.allFieldTexts_nil
  · simp [allTexts_stringList routes]

theorem allTexts_buildS3Sink {allowed : String → Prop} {s3 : S3SinkSpec}
    (all : ∀ text ∈ [s3.bucket, s3.region, s3.keyPathPrefix, s3.codec, s3.compression],
      allowed text) :
    AllTexts allowed (.object (buildS3Sink { s3 with credentialsSecretRef := none })) := by
  simp only [List.forall_mem_cons] at all
  obtain ⟨bucket, region, path, codec, compression, _⟩ := all
  have aws : AllTexts allowed (.object [("region", .string s3.region)]) :=
    Value.allTexts_object (by simp [region])
  apply Value.allTexts_object
  rw [buildS3Sink, Value.allFieldTexts_cons]
  refine ⟨Value.allTexts_object ?_, Value.allFieldTexts_nil⟩
  simp [bucket, region, aws, allFieldTexts_optionalText path, allFieldTexts_optionalText codec,
    allFieldTexts_optionalText compression]

theorem allTexts_buildKafkaSink {allowed : String → Prop} {kafka : KafkaSinkSpec}
    (topic : allowed kafka.topic) (serde : allowed kafka.serdeFormat)
    (servers : ∀ server ∈ kafka.bootstrapServers, allowed server) :
    AllTexts allowed (.object (buildKafkaSink { kafka with credentialsSecretRef := none })) := by
  apply Value.allTexts_object
  rw [buildKafkaSink, Value.allFieldTexts_cons]
  refine ⟨Value.allTexts_object ?_, Value.allFieldTexts_nil⟩
  simp [topic, allTexts_stringList servers, allFieldTexts_optionalText serde,
    kafkaAuthenticationFor]

theorem allTexts_buildSink {sink : SinkSpec} {base : Fields} (listed : sink ∈ definition.sink)
    (built : buildSink (sinkWithoutCredentials sink) = .ok base) :
    AllTexts (FromUser definition) (.object base) := by
  have written : ∀ text ∈ sinkTexts sink, FromUser definition text :=
    fun text member => .inr (.sink listed member)
  simp only [sinkTexts, List.forall_mem_append] at written
  obtain ⟨⟨⟨openSearchTexts, connector⟩, s3Texts⟩, kafkaTexts⟩ := written
  unfold buildSink sinkWithoutCredentials at built
  dsimp only at built
  split at built
  · rename_i rendered
    obtain ⟨openSearch, here, rfl⟩ := Option.map_eq_some_iff.mp rendered
    cases built
    simp only [here, Option.toList_some, List.flatMap_singleton, List.forall_mem_cons,
      List.forall_mem_append] at openSearchTexts
    obtain ⟨index, indexType, hosts, routes⟩ := openSearchTexts
    exact allTexts_buildOpenSearchSink index indexType hosts routes
  · rename_i here
    cases built
    exact allTexts_pipelineConnector (connector _ (by simp [here]))
  · rename_i rendered
    obtain ⟨s3, here, rfl⟩ := Option.map_eq_some_iff.mp rendered
    cases built
    simp only [here, Option.toList_some, List.flatMap_singleton] at s3Texts
    exact allTexts_buildS3Sink s3Texts
  · rename_i rendered
    obtain ⟨kafka, here, rfl⟩ := Option.map_eq_some_iff.mp rendered
    cases built
    simp only [here, Option.toList_some, List.flatMap_singleton, List.forall_mem_cons] at kafkaTexts
    obtain ⟨topic, serde, servers⟩ := kafkaTexts
    exact allTexts_buildKafkaSink topic serde servers
  · cases built
    apply Value.allTexts_object
    rw [Value.allFieldTexts_cons]
    exact ⟨Value.allTexts_object Value.allFieldTexts_nil, Value.allFieldTexts_nil⟩
  · cases built

theorem lookup_foldl_copy {routes : List (GoMap String)} {start : GoMap String}
    {key text : String} (found : (routes.foldl GoMap.copy start).lookup key = some text) :
    start.lookup key = some text ∨ ∃ table ∈ routes, table.lookup key = some text := by
  induction routes generalizing start with
  | nil => exact .inl found
  | cons table rest ih =>
      obtain copied | ⟨other, member, entry⟩ := ih found
      · rw [GoMap.lookup_copy] at copied
        obtain own | ⟨_, old⟩ := Option.or_eq_some_iff.mp copied
        · exact .inr ⟨table, List.mem_cons_self, own⟩
        · exact .inl old
      · exact .inr ⟨other, List.mem_cons_of_mem _ member, entry⟩

theorem allFieldTexts_buildRoutes :
    AllFieldTexts (FromUser definition) (buildRoutes definition.routes) := by
  unfold buildRoutes
  split
  · exact Value.allFieldTexts_nil
  · rw [Value.allFieldTexts_cons]
    refine ⟨Value.allTexts_ofStrings ?_, Value.allFieldTexts_nil⟩
    intro key text found
    obtain absent | ⟨table, member, entry⟩ := lookup_foldl_copy found
    · simp at absent
    · exact .inr (.route member entry)

theorem allTexts_buildProcessors {values : List Value}
    (built : buildProcessors definition.processors = .ok values) :
    ∀ value ∈ values, AllTexts (FromUser definition) value := by
  intro value member path text found
  obtain ⟨raw, listed, decoded⟩ :=
    exists_of_forall₂ (mapM_ok_iff_forall₂.mp built) member
  cases unmarshalled : raw.unmarshalAny with
  | error message =>
      rw [unmarshalled] at decoded
      cases decoded
  | ok result =>
      rw [unmarshalled] at decoded
      cases decoded
      exact .inr (.processor listed unmarshalled found)

/-- Without credentials every text of a definition is one that the user wrote. -/
theorem allTexts_buildPipeline {topicWorkers : Int} {base : Fields}
    (built : buildPipeline (withoutCredentials definition) topicWorkers = .ok base) :
    AllTexts (FromUser definition) (.object base) := by
  obtain ⟨source, values, sinks, builtSource, builtProcessors, builtSinks, rfl⟩ :=
    buildPipeline_ok_iff.mp built
  have workers : AllFieldTexts (FromUser definition)
      (buildWorkers (withoutCredentials definition) topicWorkers) := by
    unfold buildWorkers
    split
    · simp
    · split <;> simp
  have buffer : AllFieldTexts (FromUser definition)
      (bufferFields (withoutCredentials definition)) := by
    unfold bufferFields
    split
    · exact Value.allFieldTexts_nil
    · rename_i rendered
      obtain ⟨spec, _, bounded⟩ := Option.bind_eq_some_iff.mp rendered
      obtain ⟨limits, _, rfl⟩ := Option.map_eq_some_iff.mp bounded
      rw [Value.allFieldTexts_cons]
      refine ⟨Value.allTexts_object ?_, Value.allFieldTexts_nil⟩
      rw [Value.allFieldTexts_cons]
      refine ⟨Value.allTexts_object ?_, Value.allFieldTexts_nil⟩
      simp [allFieldTexts_positiveNumber]
  have processors : AllFieldTexts (FromUser definition)
      (processorFields (withoutCredentials definition) values) := by
    unfold processorFields
    split
    · exact Value.allFieldTexts_nil
    · rw [Value.allFieldTexts_cons, Value.allTexts_list]
      exact ⟨allTexts_buildProcessors builtProcessors, Value.allFieldTexts_nil⟩
  have rendered : ∀ value ∈ sinks, AllTexts (FromUser definition) value := by
    intro value member
    obtain ⟨sink, listed, builtSink⟩ :=
      exists_of_forall₂ (mapM_ok_iff_forall₂.mp builtSinks) member
    obtain ⟨original, present, rfl⟩ := List.mem_map.mp listed
    obtain ⟨fields, builtOriginal, rfl⟩ := ok_of_map builtSink
    exact allTexts_buildSink present builtOriginal
  apply Value.allTexts_object
  simp only [Value.allFieldTexts_append, Value.allFieldTexts_cons, Value.allTexts_list]
  exact ⟨⟨⟨⟨workers, allFieldTexts_positiveNumber "delay" _⟩, allTexts_buildSource builtSource,
    Value.allFieldTexts_nil⟩, ⟨buffer, processors⟩, allFieldTexts_buildRoutes⟩, rendered,
    Value.allFieldTexts_nil⟩

theorem allTexts_withoutCredentials {pipelines : List PipelineDefinition} {topicWorkers : Int}
    {base : Fields}
    (generated : generatePipelineConfig (pipelines.map withoutCredentials) topicWorkers =
      .ok base) :
    AllTexts (fun text => ∃ definition ∈ pipelines, FromUser definition text) (.object base) := by
  have folded : ∀ (rest : List PipelineDefinition) (start final : Fields), rest ⊆ pipelines →
      AllFieldTexts (fun text => ∃ definition ∈ pipelines, FromUser definition text) start →
      (rest.map withoutCredentials).foldlM (fun config pipeline => do
        let built ← buildPipeline pipeline topicWorkers
        pure (Value.setField config pipeline.name (.object built))) start = .ok final →
      AllFieldTexts (fun text => ∃ definition ∈ pipelines, FromUser definition text) final := by
    intro rest
    induction rest with
    | nil =>
        intro start final _ before finished
        cases finished
        exact before
    | cons definition rest ih =>
        intro start final included before finished
        obtain ⟨member, later⟩ := List.cons_subset.mp included
        rw [List.map_cons, List.foldlM_cons] at finished
        cases built : buildPipeline (withoutCredentials definition) topicWorkers with
        | error message => simp [built, bind, Except.bind] at finished
        | ok fields =>
            rw [built] at finished
            refine ih _ final later ?_ finished
            exact Value.allFieldTexts_setField before
              ((allTexts_buildPipeline built).mono
                fun text written => ⟨definition, member, written⟩)
  exact Value.allTexts_object
    (folded pipelines [] base (List.Subset.refl _) Value.allFieldTexts_nil generated)

end Written

end DataPrepperOperator.Generator
