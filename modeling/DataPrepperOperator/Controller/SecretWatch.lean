import DataPrepperOperator.Controller.Footprint

/-!
# Which pipelines a Secret wakes up

A change of a Secret enqueues the pipelines whose stored spec references it,
whereas the pods and the configuration hash follow the merged spec.  The two agree
except for credentials that only the namespace defaults name.
-/

namespace DataPrepperOperator.Controller

open ServerProgram DataPrepperOperator.Api DataPrepperOperator.Generator

def secretRefIndexField : String := ".spec.secretRefs"

/-- `SetupWithManager` registers `referencedSecrets` of the stored spec. -/
def SecretIndexed (cluster : Cluster) : Prop :=
  cluster.fieldIndex secretRefIndexField = referencedSecrets

/-- `reconcile.Request`. -/
structure Request where
  name : String
  nameSpace : String
  deriving DecidableEq

def requestFor (pipeline : DataPrepperPipeline) : Request :=
  { name := pipeline.name, nameSpace := pipeline.metadata.nameSpace }

/-- The fallback: scan all pipelines of the namespace. -/
def findPipelinesForSecretUnindexed (secret : String) : Program Op Reply (List Request) := do
  match ← Client.listPipelines .everything with
  | .error _ => pure []
  | .ok pipelines =>
      pure ((pipelines.filter fun pipeline =>
        (referencedSecrets pipeline.spec).contains secret).map requestFor)

def findPipelinesForSecret (secret : String) : Program Op Reply (List Request) := do
  match ← Client.listPipelines (.matchingFields secretRefIndexField secret) with
  | .error _ => findPipelinesForSecretUnindexed secret
  | .ok pipelines => pure (pipelines.map requestFor)

/-- A server on which only the index may be unavailable. -/
abbrev IndexUnreliable : Server Cluster Op Reply :=
  Serves fun op _ => ∃ field value, op = .listPipelines (.matchingFields field value)

/-- A request names one stored pipeline. -/
theorem requestFor_mem_map {cluster : Cluster} {items : List DataPrepperPipeline}
    {Selected : DataPrepperPipeline → Prop}
    (listed : ∀ item, item ∈ items ↔
      cluster.find .pipeline item.name = some item ∧ Selected item)
    {name : String} {pipeline : DataPrepperPipeline}
    (found : cluster.find .pipeline name = some pipeline) :
    requestFor pipeline ∈ items.map requestFor ↔ Selected pipeline := by
  have named : pipeline.name = name := Cluster.name_of_find found
  constructor
  · intro member
    obtain ⟨item, itemMember, same⟩ := List.mem_map.mp member
    obtain ⟨itemFound, selected⟩ := (listed item).mp itemMember
    have sameName : item.name = name := (congrArg Request.name same).trans named
    rw [sameName, found, Option.some.injEq] at itemFound
    rwa [itemFound]
  · intro selected
    exact List.mem_map_of_mem ((listed pipeline).mpr ⟨by rwa [named], selected⟩)

/-- With or without the index, a Secret wakes up the stored pipelines that
reference it. -/
theorem mem_findPipelinesForSecret {cluster final : Cluster} {secret : String}
    {trace : List (Event Cluster Op Reply)} {requests : List Request} {name : String}
    {pipeline : DataPrepperPipeline} (indexed : SecretIndexed cluster)
    (found : cluster.find .pipeline name = some pipeline)
    (run : Runs IndexUnreliable (findPipelinesForSecret secret) cluster trace requests final) :
    requestFor pipeline ∈ requests ↔ secret ∈ referencedSecrets pipeline.spec := by
  obtain ⟨_, middle, reply, _, _, listed, rest⟩ := runs_bind_iff.mp run
  obtain ⟨served, _⟩ := runs_request_iff.mp listed
  have unchanged := served.unchanged rfl
  subst unchanged
  cases reply with
  | ok items =>
      obtain ⟨⟨honestItems, permuted, answered⟩, _⟩ :=
        served.honest_of_not_fails (by simp [Fails])
      cases answered
      obtain ⟨_, rfl, _⟩ := runs_done_iff.mp rest
      apply requestFor_mem_map _ found
      intro item
      rw [permuted.mem_iff, Cluster.mem_matching]
      refine and_congr_right fun _ => ?_
      change (middle.fieldIndex secretRefIndexField item.spec).contains secret = true ↔ _
      rw [show middle.fieldIndex secretRefIndexField = referencedSecrets from indexed,
        List.contains_iff_mem]
  | error error =>
      obtain ⟨_, later, scanned, _, _, scanning, finished⟩ := runs_bind_iff.mp rest
      obtain ⟨servedScan, _⟩ := runs_request_iff.mp scanning
      have genuine : Honest middle (.listPipelines .everything) scanned later := by
        cases servedScan with
        | honest honest => exact honest
        | failed fault _ =>
            obtain ⟨_, _, impossible⟩ := fault
            cases impossible
        | lost fault _ _ =>
            obtain ⟨_, _, impossible⟩ := fault
            cases impossible
      obtain ⟨⟨honestItems, permuted, rfl⟩, rfl⟩ := genuine
      obtain ⟨_, rfl, _⟩ := runs_done_iff.mp finished
      apply requestFor_mem_map _ found
      intro item
      rw [List.mem_filter, permuted.mem_iff, Cluster.mem_matching, List.contains_iff_mem]
      simp [Cluster.selects]

def PodsRead (deployment : Object .deployment) (secret : String) : Prop :=
  ∃ container ∈ deployment.spec.template.containers, ∃ env ∈ container.env,
    env.secretName = secret

/-- The Secret goes into the configuration hash, or the pods read it. -/
def UsesSecret (owner : DataPrepperPipeline) (mergedSpec : DataPrepperPipelineSpec)
    (secret : String) : Prop :=
  secret ∈ referencedSecrets mergedSpec ∨
    ∃ replicas needsPeerForwarder configHash, PodsRead
      (generateDeployment owner mergedSpec replicas needsPeerForwarder configHash) secret

namespace Credentials

variable {allowed : String → Prop}

def UsesOnly (allowed : String → Prop) (scan : CredentialScan) : Prop :=
  ∀ env ∈ scan.envs, allowed env.secretName

theorem usesOnly_use {scan : CredentialScan} (before : UsesOnly allowed scan)
    (family : CredentialFamily) {reference : Option SecretReference}
    (fits : ∀ secret ∈ reference, allowed secret.name) :
    UsesOnly allowed (scan.use family reference) := by
  cases reference with
  | none => exact before
  | some secret =>
      have named : allowed secret.name := fits secret rfl
      unfold CredentialScan.use
      simp only
      split
      · exact before
      · intro env member
        obtain old | new := List.mem_append.mp member
        · exact before env old
        · have own : env.secretName = secret.name := by
            cases family <;>
              simp only [CredentialFamily.envVars, List.mem_cons, List.not_mem_nil,
                or_false] at new <;>
              obtain rfl | rfl := new <;> rfl
          rwa [own]

theorem usesOnly_scanSinks {sinks : List SinkSpec} {scan : CredentialScan}
    (before : UsesOnly allowed scan)
    (fits : ∀ sink ∈ sinks, ∀ secret ∈ sinkReferences sink, allowed secret.name) :
    UsesOnly allowed (scanSinks sinks scan) := by
  induction sinks generalizing scan with
  | nil => exact before
  | cons sink rest ih =>
      have own := fits sink List.mem_cons_self
      simp only [sinkReferences, List.mem_append, Option.mem_toList] at own
      have kafka := usesOnly_use before .kafka fun secret member => own secret (.inr member)
      have openSearch := usesOnly_use kafka .openSearch
        fun secret member => own secret (.inl (.inl member))
      have s3 := usesOnly_use openSearch .s3 fun secret member => own secret (.inl (.inr member))
      simp only [scanSinks]
      split
      · exact s3
      · exact ih s3 fun other member =>
          fits other (List.mem_cons_of_mem _ member)

theorem usesOnly_scanPipelines {pipelines : List PipelineDefinition} {scan : CredentialScan}
    (before : UsesOnly allowed scan)
    (fits : ∀ pipeline ∈ pipelines, ∀ secret ∈ definitionReferences pipeline,
      allowed secret.name) :
    UsesOnly allowed (scanPipelines pipelines scan) := by
  induction pipelines generalizing scan with
  | nil => exact before
  | cons pipeline rest ih =>
      have own := fits pipeline List.mem_cons_self
      simp only [definitionReferences, sourceReferences, List.mem_append, Option.mem_toList,
        List.mem_flatMap] at own
      have kafka := usesOnly_use before .kafka
        fun secret member => own secret (.inl (.inl member))
      have s3 := usesOnly_use kafka .s3 fun secret member => own secret (.inl (.inr member))
      have sinks := usesOnly_scanSinks s3 fun sink listed secret member =>
        own secret (.inr ⟨sink, listed, member⟩)
      simp only [scanPipelines]
      split
      · exact sinks
      · exact ih sinks fun other member =>
          fits other (List.mem_cons_of_mem _ member)

end Credentials

theorem secretName_mem_referencedSecrets {spec : DataPrepperPipelineSpec} {env : EnvVar}
    (member : env ∈ credentialEnvVars spec.pipelines) :
    env.secretName ∈ referencedSecrets spec := by
  have initially : Credentials.UsesOnly (· ∈ referencedSecrets spec) {} := by
    intro other impossible
    cases impossible
  apply Credentials.usesOnly_scanPipelines initially _ env member
  intro pipeline listed reference referred
  exact mem_referencedSecrets.mpr ⟨pipeline, listed, reference, referred, rfl⟩

/-- The pods read no Secret that is not referenced. -/
theorem usesSecret_iff {owner : DataPrepperPipeline} {mergedSpec : DataPrepperPipelineSpec}
    {secret : String} :
    UsesSecret owner mergedSpec secret ↔ secret ∈ referencedSecrets mergedSpec := by
  constructor
  · rintro (referenced | ⟨_, _, _, container, member, env, read, rfl⟩)
    · exact referenced
    · obtain rfl := List.mem_singleton.mp member
      exact secretName_mem_referencedSecrets read
  · exact .inl

/-- The Secret that a definition without credentials takes over from the
defaults. -/
inductive Injected (defaults : DataPrepperDefaultsSpec) (pipeline : PipelineDefinition) :
    SecretReference → Prop where
  | kafka {fallback source reference} : defaults.kafka = some fallback →
      fallback.credentialsSecretRef = some reference → pipeline.source.kafka = some source →
      source.credentialsSecretRef = none → Injected defaults pipeline reference
  | openSearch {fallback sink openSearch reference} :
      defaults.sink.bind (·.openSearch) = some fallback →
      fallback.credentialsSecretRef = some reference → sink ∈ pipeline.sink →
      sink.openSearch = some openSearch → openSearch.credentialsSecretRef = none →
      Injected defaults pipeline reference

theorem kafkaReference_mergeDefinition {defaults : DataPrepperDefaultsSpec}
    {pipeline : PipelineDefinition} {reference : SecretReference} :
    (Defaults.mergeDefinition defaults pipeline).source.kafka.bind (·.credentialsSecretRef) =
        some reference ↔
      pipeline.source.kafka.bind (·.credentialsSecretRef) = some reference ∨
        ∃ fallback source, defaults.kafka = some fallback ∧
          fallback.credentialsSecretRef = some reference ∧ pipeline.source.kafka = some source ∧
          source.credentialsSecretRef = none := by
  rw [Defaults.mergeDefinition_kafka]
  cases defaults.kafka with
  | none => simp
  | some fallback =>
      cases pipeline.source.kafka with
      | none => simp
      | some source =>
          simp only [Option.map_some, Option.bind_some, Defaults.mergeKafkaSource,
            Defaults.mergeSection_eq_some, Option.some.injEq, exists_and_left, exists_eq_left']
          exact or_congr_right and_comm

theorem mem_sinkReferences_merge {fallback : OpenSearchSinkSpec} {sink : SinkSpec}
    {reference : SecretReference} :
    reference ∈ sinkReferences
        { sink with openSearch := sink.openSearch.map (Defaults.mergeOpenSearchSink fallback) } ↔
      reference ∈ sinkReferences sink ∨
        ∃ openSearch, sink.openSearch = some openSearch ∧
          openSearch.credentialsSecretRef = none ∧
          fallback.credentialsSecretRef = some reference := by
  unfold sinkReferences
  cases sink.openSearch with
  | none => simp
  | some openSearch =>
      simp only [Option.map_some, Option.bind_some, Defaults.mergeOpenSearchSink,
        List.mem_append, Option.mem_toList, Defaults.mergeSection_eq_some, Option.some.injEq,
        exists_eq_left']
      tauto

theorem mem_sinkReferences_mergeDefinition {defaults : DataPrepperDefaultsSpec}
    {pipeline : PipelineDefinition} {reference : SecretReference} :
    reference ∈ (Defaults.mergeDefinition defaults pipeline).sink.flatMap sinkReferences ↔
      reference ∈ pipeline.sink.flatMap sinkReferences ∨
        ∃ fallback sink openSearch, defaults.sink.bind (·.openSearch) = some fallback ∧
          fallback.credentialsSecretRef = some reference ∧ sink ∈ pipeline.sink ∧
          sink.openSearch = some openSearch ∧ openSearch.credentialsSecretRef = none := by
  rw [Defaults.mergeDefinition_sink]
  cases defaults.sink.bind (·.openSearch) with
  | none => simp
  | some fallback =>
      simp only [List.mem_flatMap, List.mem_map, exists_exists_and_eq_and,
        mem_sinkReferences_merge, Option.some.injEq, exists_and_left, exists_eq_left']
      constructor
      · rintro ⟨sink, member, own | ⟨openSearch, present, missing, taken⟩⟩
        · exact .inl ⟨sink, member, own⟩
        · exact .inr ⟨taken, sink, member, openSearch, present, missing⟩
      · rintro (⟨sink, member, own⟩ | ⟨taken, sink, member, openSearch, present, missing⟩)
        · exact ⟨sink, member, .inl own⟩
        · exact ⟨sink, member, .inr ⟨openSearch, present, missing, taken⟩⟩

/-- Merging adds the injected references to a definition and no others. -/
theorem mem_definitionReferences_mergeDefinition {defaults : DataPrepperDefaultsSpec}
    {pipeline : PipelineDefinition} {reference : SecretReference} :
    reference ∈ definitionReferences (Defaults.mergeDefinition defaults pipeline) ↔
      reference ∈ definitionReferences pipeline ∨ Injected defaults pipeline reference := by
  unfold definitionReferences sourceReferences
  rw [List.mem_append, List.mem_append, List.mem_append, List.mem_append, Option.mem_toList,
    Option.mem_toList, Option.mem_toList, Option.mem_toList, kafkaReference_mergeDefinition,
    mem_sinkReferences_mergeDefinition, Defaults.mergeDefinition_s3]
  constructor
  · rintro (((own | ⟨_, _, given, taken, present, missing⟩) | own) |
      (own | ⟨_, _, _, given, taken, member, present, missing⟩))
    · exact .inl (.inl (.inl own))
    · exact .inr (.kafka given taken present missing)
    · exact .inl (.inl (.inr own))
    · exact .inl (.inr own)
    · exact .inr (.openSearch given taken member present missing)
  · rintro (((own | own) | own) | injected)
    · exact .inl (.inl (.inl own))
    · exact .inl (.inr own)
    · exact .inr (.inl own)
    · cases injected with
      | kafka given taken present missing =>
          exact .inl (.inl (.inr ⟨_, _, given, taken, present, missing⟩))
      | openSearch given taken member present missing =>
          exact .inr (.inr ⟨_, _, _, given, taken, member, present, missing⟩)

/-- Some definition of the pipeline takes the Secret over from the defaults. -/
def InjectsSecret (defaults : Option DataPrepperDefaultsSpec) (spec : DataPrepperPipelineSpec)
    (secret : String) : Prop :=
  ∃ given ∈ defaults, ∃ pipeline ∈ spec.pipelines, ∃ reference,
    Injected given pipeline reference ∧ reference.name = secret

theorem mem_referencedSecrets_mergeSpec {defaults : Option DataPrepperDefaultsSpec}
    {spec : DataPrepperPipelineSpec} {secret : String} :
    secret ∈ referencedSecrets (Defaults.mergeSpec defaults spec) ↔
      secret ∈ referencedSecrets spec ∨ InjectsSecret defaults spec secret := by
  cases defaults with
  | none => simp [Defaults.mergeSpec, InjectsSecret]
  | some given =>
      rw [mem_referencedSecrets, mem_referencedSecrets, Defaults.mergeSpec,
        Defaults.mergePipelines_eq_map]
      simp only [List.mem_map, exists_exists_and_eq_and, mem_definitionReferences_mergeDefinition,
        InjectsSecret, Option.mem_def, Option.some.injEq, exists_eq_left']
      constructor
      · rintro ⟨pipeline, member, reference, own | injected, named⟩
        · exact .inl ⟨pipeline, member, reference, own, named⟩
        · exact .inr ⟨pipeline, member, reference, injected, named⟩
      · rintro (⟨pipeline, member, reference, own, named⟩ |
          ⟨pipeline, member, reference, injected, named⟩)
        · exact ⟨pipeline, member, reference, .inl own, named⟩
        · exact ⟨pipeline, member, reference, .inr injected, named⟩

/-- Every Secret in use wakes up its pipeline, if and only if the stored spec
itself references each Secret that the defaults inject. -/
theorem secret_wakes_users_iff {cluster : Cluster} {name : String}
    {pipeline : DataPrepperPipeline} (indexed : SecretIndexed cluster)
    (found : cluster.find .pipeline name = some pipeline)
    (defaults : Option DataPrepperDefaultsSpec) :
    (∀ secret, UsesSecret pipeline (Defaults.mergeSpec defaults pipeline.spec) secret →
      ∀ trace requests final,
        Runs IndexUnreliable (findPipelinesForSecret secret) cluster trace requests final →
        requestFor pipeline ∈ requests) ↔
      ∀ secret, InjectsSecret defaults pipeline.spec secret →
        secret ∈ referencedSecrets pipeline.spec := by
  constructor
  · intro wakes secret injected
    obtain ⟨trace, run⟩ : ∃ trace, Runs IndexUnreliable (findPipelinesForSecret secret) cluster
      trace _ _ := runs_execute _ _
    have used : UsesSecret pipeline (Defaults.mergeSpec defaults pipeline.spec) secret :=
      usesSecret_iff.mpr (mem_referencedSecrets_mergeSpec.mpr (.inr injected))
    exact (mem_findPipelinesForSecret indexed found run).mp (wakes secret used _ _ _ run)
  · intro covered secret used trace requests final run
    apply (mem_findPipelinesForSecret indexed found run).mpr
    obtain own | injected := mem_referencedSecrets_mergeSpec.mp (usesSecret_iff.mp used)
    · exact own
    · exact covered secret injected

/-- A namespace in which `SetupWithManager` has run. -/
def indexedNamespace : Cluster :=
  { Cluster.empty with
    fieldIndex := fun field spec =>
      if field = secretRefIndexField then referencedSecrets spec else [] }

def kafkaNamespace (credentials : Option SecretReference) : Cluster :=
  indexedNamespace.commit (kafkaPipeline credentials)

theorem secretIndexed_kafkaNamespace (credentials : Option SecretReference) :
    SecretIndexed (kafkaNamespace credentials) := by
  funext spec
  simp [kafkaNamespace, indexedNamespace, Cluster.commit]

def kafkaDefaults : DataPrepperDefaultsSpec where
  kafka := some { credentialsSecretRef := some { name := "shared-kafka" } }

/-- A pipeline with credentials of its own is woken up by them. -/
theorem secret_wakes_users_of_own_credentials :
    ∃ trace requests final, Runs IndexUnreliable (findPipelinesForSecret "own-kafka")
        (kafkaNamespace (some { name := "own-kafka" })) trace requests final ∧
      { name := "ingest", nameSpace := "logs" } ∈ requests := by
  have found : (kafkaNamespace (some { name := "own-kafka" })).find .pipeline "ingest" = some _ :=
    Cluster.find_commit_same _ _
  obtain ⟨trace, run⟩ : ∃ trace, Runs IndexUnreliable (findPipelinesForSecret "own-kafka")
    (kafkaNamespace (some { name := "own-kafka" })) trace _ _ := runs_execute _ _
  have wakes := (secret_wakes_users_iff (secretIndexed_kafkaNamespace _) found
    (some kafkaDefaults)).mpr
  refine ⟨trace, _, _, run, wakes ?_ "own-kafka" ?_ _ _ _ run⟩
  · rintro secret ⟨_, ⟨⟩, pipeline, member, reference, injected, rfl⟩
    obtain rfl := List.mem_singleton.mp member
    cases injected with
    | kafka _ _ present missing =>
        cases present
        cases missing
    | openSearch given => cases given
  · exact usesSecret_iff.mpr (by decide +kernel)

/-- The pods use the Secret of the defaults, but its changes wake up nobody. -/
theorem injected_secret_wakes_nobody :
    ∃ stored trace final, (kafkaNamespace none).find .pipeline "ingest" = some stored ∧
      PodsRead (generateDeployment stored
        (Defaults.mergeSpec (some kafkaDefaults) stored.spec) 1 false "") "shared-kafka" ∧
      Runs Reliable (findPipelinesForSecret "shared-kafka") (kafkaNamespace none) trace []
        final := by
  obtain ⟨trace, run⟩ : ∃ trace, Runs Reliable (findPipelinesForSecret "shared-kafka")
    (kafkaNamespace none) trace _ _ := runs_execute _ _
  have nobody : ((findPipelinesForSecret "shared-kafka").execute Cluster.answer
      (kafkaNamespace none)).1 = [] := by decide +kernel
  rw [nobody] at run
  refine ⟨_, trace, _, Cluster.find_commit_same _ _, ?_, run⟩
  exact ⟨_, List.mem_singleton_self _, secretEnvVar "KAFKA_USERNAME" "shared-kafka" "username",
    by decide +kernel, rfl⟩

end DataPrepperOperator.Controller
