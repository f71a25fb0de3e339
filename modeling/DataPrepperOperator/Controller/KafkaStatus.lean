import DataPrepperOperator.Controller.Convergence
import DataPrepperOperator.Controller.KafkaScaling

/-!
# The Kafka section of the status

A successful lookup of the partitions is recorded in `status.kafka`.  Every other
scaling decision carries the section over, so it may describe an earlier deployment.
-/

namespace DataPrepperOperator.Controller

open ServerProgram DataPrepperOperator.Api DataPrepperOperator.Generator

/-- The topic workers that a ConfigMap with a `pipelines.yaml` gives to one source. -/
def renderedWorkers (read : String → Option Value) (data : GoMap String) (source : String) :
    Option Value := do
  let text ← data.lookup "pipelines.yaml"
  let .object config ← read text | none
  topicWorkersIn config source

/-- The section describes the ConfigMap and the Deployment of the pipeline. -/
structure DescribesDeployed (read : String → Option Value) (name : String) (cluster : Cluster)
    (kafka : KafkaStatus) : Prop where
  workers : ∃ configMap, cluster.find .configMap (name ++ "-pipelines") = some configMap ∧
    (∃ source, renderedWorkers read configMap.spec source =
      some (.number kafka.workersPerPod)) ∧
    ∀ source value, renderedWorkers read configMap.spec source = some value →
      value = .number kafka.workersPerPod
  consumers : ∃ deployment, cluster.find .deployment name = some deployment ∧
    kafka.totalConsumers = deployment.spec.replicas * kafka.workersPerPod

/-- A reader finds the workers of the generated document. -/
theorem renderedWorkers_of_generateConfigs {toolkit : Toolkit} {read : String → Option Value}
    {pipeline : DataPrepperPipeline} {mergedSpec : DataPrepperPipelineSpec} {topicWorkers : Int}
    {needsPeerForwarder : Bool} {configs : GoMap String × GoMap String}
    (readable : toolkit.ReadBy read)
    (generated : generateConfigs toolkit pipeline mergedSpec topicWorkers needsPeerForwarder =
      .ok configs) :
    ∃ config, generatePipelineConfig mergedSpec.pipelines topicWorkers = .ok config ∧
      ∀ source, renderedWorkers read configs.1 source = topicWorkersIn config source := by
  obtain ⟨config, text, _, _, rendered, marshalled, _, _, pipelines, _⟩ :=
    generateConfigs_ok generated
  refine ⟨config, rendered, ?_⟩
  intro source
  have held : configs.1.lookup "pipelines.yaml" = some text := by
    rw [pipelines]
    exact Finmap.lookup_insert _
  simp only [renderedWorkers, held, readable _ _ marshalled, Option.bind_eq_bind, Option.bind_some]
  exact topicWorkersIn_canonical rendered source

def KafkaAgrees (read : String → Option Value) (name : String) (cluster : Cluster) : Prop :=
  ∀ pipeline kafka, cluster.find .pipeline name = some pipeline →
    pipeline.status.kafka = some kafka → DescribesDeployed read name cluster kafka

namespace Inputs

variable (inputs : Inputs) (reconciler : PipelineReconciler)

/-- The count of partitions that decides. -/
def decidingPartitions : Option Int :=
  decidingCount reconciler inputs.mergedSpec inputs.partitionsOf

end Inputs

theorem kafka_withCondition (pipeline : DataPrepperPipeline) (type : String)
    (status : ConditionStatus) (reason message : String) :
    (withCondition pipeline type status reason message).status.kafka = pipeline.status.kafka :=
  rfl

theorem kafka_recordPeerForwarder (pipeline : DataPrepperPipeline) (needed : Bool) :
    (recordPeerForwarder pipeline needed).status.kafka = pipeline.status.kafka := by
  cases needed <;> rfl

/-- A decision without a section leaves the recorded one. -/
theorem kafka_recordScaling (pipeline : DataPrepperPipeline)
    (calculated : Except String ScalingDecision) :
    (recordScaling pipeline calculated).status.kafka =
      (effectiveScaling calculated).kafka.or pipeline.status.kafka := by
  cases calculated with
  | error message => rfl
  | ok decision =>
      dsimp only [recordScaling, effectiveScaling]
      rw [kafka_withCondition]
      cases decision.kafka <;> rfl

section Storing

variable {Result : Type} {server : Server Cluster Op Reply} {state final : Cluster}
  {trace : List (Event Cluster Op Reply)}

theorem runs_retryOnConflict_ok {attempt : Client.Call Result} {further : Nat} {result : Result}
    (run : Runs server (retryOnConflict attempt further) state trace (.ok result) final) :
    ∃ middle later, Runs server attempt middle later (.ok result) final := by
  induction further generalizing state trace with
  | zero => exact ⟨state, trace, run⟩
  | succ further ih =>
      obtain ⟨earlier, middle, attempted, later, rfl, tried, rest⟩ := runs_bind_iff.mp run
      cases attempted with
      | ok stored =>
          obtain ⟨_, same, rfl⟩ := runs_done_iff.mp rest
          cases same
          exact ⟨state, earlier, tried⟩
      | error error =>
          cases error with
          | conflict kind name => exact ih rest
          | notFound | alreadyExists | refused =>
              obtain ⟨_, impossible, _⟩ := runs_done_iff.mp rest
              cases impossible

variable {faulty : (op : Op) → Reply op → Prop}

theorem stored_of_storeStatus {name : String} {desired : DataPrepperPipelineStatus}
    {stored : DataPrepperPipeline}
    (run : Runs (Serves faulty) (storeStatus name desired) state trace (.ok stored) final) :
    final.find .pipeline name = some stored ∧ stored.status = desired := by
  obtain ⟨reply, middle, later, fetched, _, rest⟩ := runs_call_iff.mp run
  cases reply with
  | error error =>
      obtain ⟨_, impossible, _⟩ := runs_done_iff.mp rest
      cases impossible
  | ok current =>
      have named : current.name = name := Cluster.name_of_find fetched.find_of_get.1
      obtain ⟨served, _⟩ := runs_request_iff.mp rest
      have placed := (find_of_updateStatus served).1
      exact ⟨named ▸ placed, status_of_updateStatus served⟩

theorem reports_of_stored {pipeline : DataPrepperPipeline} {errorPhase : Bool}
    {message : String} {result : ReconcileResult}
    (run : Runs (Serves faulty) (updateStatus pipeline errorPhase message).run state trace
      (.ok result) final) :
    ∃ stored, final.find .pipeline pipeline.name = some stored ∧
      Reports pipeline stored.status := by
  obtain ⟨_, _, counted, _, _, counting, rest⟩ := runs_lift_bind run
  have reports : counted.observedGeneration = pipeline.metadata.generation ∧
      counted.kafka = pipeline.status.kafka ∧
      counted.conditions = pipeline.status.conditions := by
    obtain ⟨reply, _, _, _, _, answered⟩ := runs_call_iff.mp counting
    cases reply with
    | error | ok =>
        obtain ⟨_, rfl, _⟩ := runs_done_iff.mp answered
        exact ⟨rfl, rfl, rfl⟩
  obtain ⟨generation, kafka, conditions⟩ := reports
  obtain ⟨_, written, _, _, _, storing, finished⟩ := runs_bind_ok rest
  obtain ⟨_, _, _, _, _, called, dropped⟩ := runs_bind_ok (runs_wrapError_ok storing)
  obtain ⟨_, _, attempted⟩ := runs_retryOnConflict_ok (runs_callApi_ok called)
  obtain ⟨placed, same⟩ := stored_of_storeStatus attempted
  obtain ⟨_, _, rfl⟩ := runs_pure_iff.mp dropped
  have unchanged : final = written := by
    split at finished
    · exact (runs_pure_iff.mp finished).2.2
    · exact (runs_pure_iff.mp finished).2.2
  subst unchanged
  refine ⟨_, placed, ?_⟩
  rw [same]
  exact reports_withReadyCondition message generation kafka conditions

end Storing

section Reconcile

variable {reconciler : PipelineReconciler} {name : String} {inputs : Inputs}
  {state final : Cluster} {trace : List (Event Cluster Op Reply)} {result : ReconcileResult}
  {stored : DataPrepperPipeline}

/-- The section after a reconcile is the one that the scaling decided on, or else the
one from before. -/
theorem kafka_of_reconcile (known : inputsOf state name = some inputs)
    (valid : Validation.validateGraph (graphDefs inputs.mergedSpec.pipelines) = .ok ())
    (found : state.find .pipeline name = some stored)
    (run : Runs Disturbed (reconcile reconciler name).run state trace (.ok result) final) :
    ∃ pipeline, final.find .pipeline name = some pipeline ∧
      pipeline.status.kafka =
        (effectiveScaling (inputs.scaling reconciler)).kafka.or stored.status.kafka := by
  obtain ⟨⟨_, impossible⟩, _⟩ |
    ⟨ready, current, later, _, agree, named, sameSpace, _, status, ran⟩ :=
      runs_reconcileMerged known run
  · cases impossible
  simp only [reconcileMerged, valid] at ran
  obtain ⟨_, _, planned, _, _, planning, rest⟩ := runs_bind_ok ran
  obtain ⟨_, recorded, rfl⟩ := runs_makePlan agree planning sameSpace
  obtain ⟨_, _, _, _, _, _, finishing⟩ := runs_bind_ok rest
  obtain ⟨_, _, _, _, _, _, listing⟩ := runs_bind_ok finishing
  obtain ⟨_, _, _, _, _, _, storing⟩ := runs_lift_bind listing
  obtain ⟨pipeline, placed, reports⟩ := reports_of_stored storing
  have plannedName : planned.2.name = name :=
    (congrArg ObjectMeta.name (plannedFor_of_runs planning).metadata :).trans named
  rw [plannedName] at placed
  refine ⟨pipeline, placed, ?_⟩
  rw [reports.kafka, recorded planned rfl, kafka_recordPeerForwarder, kafka_recordScaling,
    kafka_withCondition, status stored found]

/-- A cluster holds the documents and the replicas of a scaling decision. -/
structure Deployed (read : String → Option Value) (name : String)
    (pipelines : List PipelineDefinition) (scaling : ScalingDecision) (cluster : Cluster)
    (config : Value.Fields) : Prop where
  generated : generatePipelineConfig pipelines scaling.topicWorkers = .ok config
  workers : ∃ configMap, cluster.find .configMap (name ++ "-pipelines") = some configMap ∧
    ∀ source, renderedWorkers read configMap.spec source = topicWorkersIn config source
  replicas : ∃ deployment, cluster.find .deployment name = some deployment ∧
    deployment.spec.replicas = scaling.replicas

theorem deployed_of_reconcile {read : String → Option Value}
    (readable : reconciler.toolkit.ReadBy read) (known : inputsOf state name = some inputs)
    (valid : Validation.validateGraph (graphDefs inputs.mergedSpec.pipelines) = .ok ())
    (run : Runs Disturbed (reconcile reconciler name).run state trace (.ok result) final) :
    ∃ config, Deployed read name inputs.mergedSpec.pipelines
      (effectiveScaling (inputs.scaling reconciler)) final config := by
  obtain ⟨plan, planned, realized⟩ := realized_of_reconcile known valid run
  have realizes := realizes_of_children realized
  obtain ⟨_, _, scaling, _, generated, _⟩ := Inputs.plan_ok planned
  obtain ⟨config, rendered, same⟩ := renderedWorkers_of_generateConfigs readable generated
  obtain ⟨configMap, foundMap, _, _, data⟩ := realizes.pipelines
  obtain ⟨deployment, foundDeployment, _, _, content⟩ := realizes.deployment
  refine ⟨config, scaling ▸ rendered, ⟨configMap, foundMap, ?_⟩, deployment, foundDeployment, ?_⟩
  · intro source
    rw [← same source]
    exact congrArg (renderedWorkers read · source) data
  · rw [← scaling]
    exact congrArg DeploymentSpec.replicas content

end Reconcile

theorem distinct_of_valid {pipelines : List PipelineDefinition}
    (valid : Validation.validateGraph (graphDefs pipelines) = .ok ()) :
    (pipelines.map PipelineDefinition.name).Nodup := by
  have distinct := ((Validation.validateGraph_ok_iff _).mp valid).1
  have names : (graphDefs pipelines).map Validation.PipelineDef.name =
      pipelines.map PipelineDefinition.name := by
    simp [graphDefs, Function.comp_def]
  rwa [names] at distinct

/-- In a valid graph the Kafka source that decides stays in the document. -/
theorem exists_kept_kafka {pipelines : List PipelineDefinition} {kafka : KafkaSourceSpec}
    (valid : Validation.validateGraph (graphDefs pipelines) = .ok ())
    (first : pipelines.findSome? (·.source.kafka) = some kafka) :
    ∃ definition, Kept pipelines definition ∧ definition.source.kafka = some kafka := by
  obtain ⟨definition, member, source⟩ := List.exists_of_findSome?_eq_some first
  exact ⟨definition, kept_of_distinct (distinct_of_valid valid) member, source⟩

namespace Inputs

variable (inputs : Inputs) (reconciler : PipelineReconciler)

/-- A reconcile with these inputs learns the partitions. -/
def Counts : Prop := (inputs.decidingPartitions reconciler).isSome = true

/-- What it then reports as the number of consumers fits into 32 bits. -/
def ConsumersFit : Prop :=
  ∀ partitions, inputs.decidingPartitions reconciler = some partitions →
    let consumers :=
      replicasFor inputs.mergedSpec partitions * workersFor inputs.mergedSpec partitions
    consumers < 2 ^ 31 ∧ -2 ^ 31 ≤ consumers

instance : Decidable (inputs.Counts reconciler) :=
  inferInstanceAs (Decidable (_ = true))

instance : Decidable (inputs.ConsumersFit reconciler) :=
  inferInstanceAs (Decidable (∀ partitions ∈ inputs.decidingPartitions reconciler, _ ∧ _))

end Inputs

section Deployments

variable {read : String → Option Value} {name : String} {pipelines : List PipelineDefinition}
  {scaling : ScalingDecision} {cluster : Cluster} {config : Value.Fields} {kafka : KafkaStatus}

/-- No section describes a deployment without topic workers. -/
theorem Deployed.positive_of_describes
    (deployed : Deployed read name pipelines scaling cluster config)
    (describes : DescribesDeployed read name cluster kafka) : 0 < scaling.topicWorkers := by
  obtain ⟨configMap, found, workers⟩ := deployed.workers
  obtain ⟨_, again, ⟨source, shown⟩, _⟩ := describes.workers
  rw [found, Option.some.injEq] at again
  rw [← again, workers] at shown
  exact (topicWorkersIn_eq_some deployed.generated shown).1

/-- A section with the workers of the deployment describes it if the consumers are right. -/
theorem Deployed.describes_iff (deployed : Deployed read name pipelines scaling cluster config)
    (valid : Validation.validateGraph (graphDefs pipelines) = .ok ())
    (first : ∃ source, pipelines.findSome? (·.source.kafka) = some source)
    (positive : 0 < scaling.topicWorkers) (same : kafka.workersPerPod = scaling.topicWorkers) :
    DescribesDeployed read name cluster kafka ↔
      kafka.totalConsumers = scaling.replicas * scaling.topicWorkers := by
  obtain ⟨deployment, foundDeployment, replicas⟩ := deployed.replicas
  constructor
  · rintro ⟨_, _, again, total⟩
    rw [foundDeployment, Option.some.injEq] at again
    rw [total, ← again, replicas, same]
  · intro total
    obtain ⟨configMap, foundMap, workers⟩ := deployed.workers
    obtain ⟨source, decides⟩ := first
    obtain ⟨definition, kept, isKafka⟩ := exists_kept_kafka valid decides
    have shown : topicWorkersIn config definition.name = some (.number scaling.topicWorkers) := by
      rw [topicWorkersIn_of_kept kept isKafka deployed.generated, if_pos positive]
    refine ⟨⟨configMap, foundMap, ⟨definition.name, ?_⟩, ?_⟩, deployment, foundDeployment, ?_⟩
    · rw [workers, shown, same]
    · intro other value found
      rw [workers] at found
      rw [same]
      exact (topicWorkersIn_eq_some deployed.generated found).2
    · rw [total, replicas, same]

end Deployments

/-- The Kafka section of a stored pipeline. -/
def kafkaSection (name : String) (cluster : Cluster) : Option KafkaStatus :=
  (cluster.find .pipeline name).bind (·.status.kafka)

section Round

variable {reconciler : PipelineReconciler} {read : String → Option Value} {name : String}
  {inputs : Inputs} {state final : Cluster} {trace : List (Event Cluster Op Reply)}
  {result : ReconcileResult} (known : inputsOf state name = some inputs)
  (valid : Validation.validateGraph (graphDefs inputs.mergedSpec.pipelines) = .ok ())
  (run : Runs Disturbed (reconcile reconciler name).run state trace (.ok result) final)

include known valid run

/-- The section stays empty only if it was and the reconcile learns no partitions. -/
theorem kafkaSection_of_reconcile :
    kafkaSection name final ≠ none ↔
      inputs.Counts reconciler ∨ kafkaSection name state ≠ none := by
  obtain ⟨stored, found, _⟩ := stored_of_inputsOf known
  obtain ⟨pipeline, placed, kafka⟩ := kafka_of_reconcile known valid found run
  rw [kafkaSection, kafkaSection, placed, found, Option.bind_some, Option.bind_some, kafka,
    Inputs.Counts]
  cases deciding : inputs.decidingPartitions reconciler with
  | none =>
      have unrecorded : (effectiveScaling (inputs.scaling reconciler)).kafka = none :=
        (decideScaling_of_no_count deciding).2
      simp [unrecorded]
  | some partitions =>
      obtain ⟨_, _, _, decided⟩ := decideScaling_of_count deciding
      simp [Inputs.scaling, decided, effectiveScaling]

/-- The section agrees with what a reconcile deploys exactly if the reconcile learns the
partitions and the consumers fit into 32 bits, or if it learns none and there was none. -/
theorem kafkaAgrees_of_reconcile_iff (readable : reconciler.toolkit.ReadBy read) :
    KafkaAgrees read name final ↔ inputs.ConsumersFit reconciler ∧
      (kafkaSection name state ≠ none → inputs.Counts reconciler) := by
  obtain ⟨stored, found, _⟩ := stored_of_inputsOf known
  obtain ⟨pipeline, placed, kafka⟩ := kafka_of_reconcile known valid found run
  obtain ⟨config, deployed⟩ := deployed_of_reconcile readable known valid run
  have agrees : KafkaAgrees read name final ↔ ∀ section_, pipeline.status.kafka = some section_ →
      DescribesDeployed read name final section_ := by
    constructor
    · exact fun agrees section_ => agrees pipeline section_ placed
    · intro describes other section_ again
      rw [placed, Option.some.injEq] at again
      exact again ▸ describes section_
  rw [agrees, kafkaSection, found, Option.bind_some, Inputs.ConsumersFit, Inputs.Counts]
  cases deciding : inputs.decidingPartitions reconciler with
  | none =>
      obtain ⟨noWorkers, unrecorded⟩ : (effectiveScaling (inputs.scaling reconciler)).topicWorkers =
          0 ∧ (effectiveScaling (inputs.scaling reconciler)).kafka = none :=
        decideScaling_of_no_count deciding
      rw [kafka, unrecorded, Option.none_or]
      constructor
      · refine fun describes => ⟨by simp, fun recorded => ?_⟩
        obtain ⟨section_, present⟩ := Option.ne_none_iff_exists'.mp recorded
        have positive := deployed.positive_of_describes (describes section_ present)
        omega
      · rintro ⟨_, counts⟩ section_ present
        cases counts (by simp [present])
  | some partitions =>
      obtain ⟨⟨source, first, _⟩, _, _, decided⟩ := decideScaling_of_count deciding
      rw [Inputs.scaling, decided] at kafka deployed
      have positive : 0 < workersFor inputs.mergedSpec partitions :=
        lt_of_lt_of_le Int.one_pos (le_max_right _ _)
      simp only [kafka, effectiveScaling, Option.some_or, Option.some.injEq, forall_eq']
      rw [deployed.describes_iff valid ⟨source, first⟩ positive rfl]
      exact Scaling.toInt32_eq_self_iff.trans (and_iff_left fun _ => rfl).symm

end Round

/-- A successful reconcile of a pipeline with a valid graph, and the inputs that it read. -/
structure KafkaRound where
  before : Cluster
  inputs : Inputs
  after : Cluster

/-- Reconciles of one pipeline in turn.  In between anything may change, the spec, the brokers
and the objects, also by reconciles that fail, but not the section: only a reconcile that
reaches its status update writes it. -/
inductive KafkaHistory (reconciler : PipelineReconciler) (name : String) :
    Cluster → List KafkaRound → Prop where
  | nil {start} : KafkaHistory reconciler name start []
  | cons {start round trace result rounds} :
      kafkaSection name round.before = kafkaSection name start →
      inputsOf round.before name = some round.inputs →
      Validation.validateGraph (graphDefs round.inputs.mergedSpec.pipelines) = .ok () →
      Runs Disturbed (reconcile reconciler name).run round.before trace (.ok result) round.after →
      KafkaHistory reconciler name round.after rounds →
      KafkaHistory reconciler name start (round :: rounds)

/-- The section agrees after every reconcile exactly if the consumers always fit, and the
partitions, once recorded, are counted by every later reconcile. -/
theorem kafka_status_agrees_iff {reconciler : PipelineReconciler} {read : String → Option Value}
    {name : String} {start : Cluster} {rounds : List KafkaRound}
    (readable : reconciler.toolkit.ReadBy read)
    (history : KafkaHistory reconciler name start rounds) :
    (∀ round ∈ rounds, KafkaAgrees read name round.after) ↔
      (∀ round ∈ rounds, round.inputs.ConsumersFit reconciler) ∧
      (kafkaSection name start ≠ none → ∀ round ∈ rounds, round.inputs.Counts reconciler) ∧
      rounds.Pairwise fun earlier later =>
        earlier.inputs.Counts reconciler → later.inputs.Counts reconciler := by
  induction history with
  | nil => simp
  | cons same known valid run _ ih =>
      -- the tail starts with a section iff the head counts or started with one
      rw [List.forall_mem_cons, List.forall_mem_cons, List.forall_mem_cons, List.pairwise_cons,
        ih, kafkaAgrees_of_reconcile_iff known valid run readable,
        kafkaSection_of_reconcile known valid run, same]
      grind

def kafkaReconciler : PipelineReconciler :=
  { sampleReconciler with toolkit := jsonToolkit, adminClientFactory := true }

def withScaling (pipeline : DataPrepperPipeline) (scaling : ScalingSpec) : DataPrepperPipeline :=
  { pipeline with spec := { pipeline.spec with scaling := some scaling } }

/-- A topic with four partitions and a pipeline that scales with them. -/
def fourPartitions : Cluster :=
  (Cluster.create
    { Cluster.empty with
      kafka := fun _ => .ok { partitionCount := fun _ => .ok 4, topics := .ok [] } }
    (withScaling (kafkaPipeline none) { mode := .auto, maxReplicas := some 2 })).2

abbrev afterIngest : Cluster → Cluster := reconciledBy kafkaReconciler "ingest"

/-- The user changes the scaling. -/
def rescale (scaling : ScalingSpec) (cluster : Cluster) : Cluster :=
  match cluster.find .pipeline "ingest" with
  | none => cluster
  | some pipeline => (cluster.update (withScaling pipeline scaling)).2

/-- The reconcile succeeds with a valid graph, and counts partitions. -/
def countsIngest (cluster : Cluster) : Bool :=
  decide (Completes kafkaReconciler "ingest" cluster) &&
    (inputsOf cluster "ingest").any fun inputs =>
      decide (Validation.validateGraph (graphDefs inputs.mergedSpec.pipelines) = .ok ()) &&
        decide (inputs.Counts kafkaReconciler) && decide (inputs.ConsumersFit kafkaReconciler)

theorem exists_round_of_countsIngest {cluster : Cluster} (counts : countsIngest cluster = true) :
    ∃ inputs trace result, inputsOf cluster "ingest" = some inputs ∧
      Validation.validateGraph (graphDefs inputs.mergedSpec.pipelines) = .ok () ∧
      Runs Disturbed (reconcile kafkaReconciler "ingest").run cluster trace (.ok result)
        (afterIngest cluster) ∧
      inputs.Counts kafkaReconciler ∧ inputs.ConsumersFit kafkaReconciler := by
  simp only [countsIngest, Bool.and_eq_true, decide_eq_true_eq, Option.any_eq_true] at counts
  obtain ⟨success, inputs, known, ⟨valid, counted⟩, fit⟩ := counts
  obtain ⟨trace, run⟩ := runs_of_completes ChildFault success
  exact ⟨inputs, trace, _, known, valid, run, counted, fit⟩

/-- The user gives up one replica after the first reconcile. -/
def oneReplica : Cluster :=
  rescale { mode := .auto, maxReplicas := some 1 } (afterIngest fourPartitions)

theorem kafka_status_agrees_with_four_partitions :
    ∃ rounds, rounds.map KafkaRound.before = [fourPartitions, oneReplica] ∧
      KafkaHistory kafkaReconciler "ingest" fourPartitions rounds ∧
      ∀ round ∈ rounds, KafkaAgrees Value.readText "ingest" round.after := by
  obtain ⟨first, _, _, firstKnown, firstValid, firstRun, firstCounts, firstFit⟩ :=
    exists_round_of_countsIngest (show countsIngest fourPartitions = true by decide +kernel)
  obtain ⟨second, _, _, secondKnown, secondValid, secondRun, secondCounts, secondFit⟩ :=
    exists_round_of_countsIngest (show countsIngest oneReplica = true by decide +kernel)
  have same : kafkaSection "ingest" oneReplica =
      kafkaSection "ingest" (afterIngest fourPartitions) := by decide +kernel
  generalize (afterIngest fourPartitions) = between at same firstRun
  generalize (afterIngest oneReplica) = final at secondRun
  let rounds : List KafkaRound := [⟨fourPartitions, first, between⟩, ⟨oneReplica, second, final⟩]
  have history : KafkaHistory kafkaReconciler "ingest" fourPartitions rounds :=
    .cons rfl firstKnown firstValid firstRun (.cons same secondKnown secondValid secondRun .nil)
  refine ⟨rounds, rfl, history, (kafka_status_agrees_iff jsonToolkit_readBy history).mpr ?_⟩
  simp [rounds, firstCounts, firstFit, secondCounts, secondFit]

/-- The pipeline was reconciled with the partitions before. -/
def fixedAtThree : Cluster :=
  rescale { mode := .manual, fixedReplicas := some 3 } (afterIngest fourPartitions)

/-- Three replicas without topic workers run, and the status still tells of two workers
and four consumers. -/
theorem kafka_status_outdated :
    (inputsOf fixedAtThree "ingest").map (fun inputs =>
      Validation.validateGraph (graphDefs inputs.mergedSpec.pipelines)) = some (.ok ()) ∧
    ∃ trace result final,
      Runs Disturbed (reconcile kafkaReconciler "ingest").run fixedAtThree trace (.ok result)
        final ∧
      ¬KafkaAgrees Value.readText "ingest" final := by
  refine ⟨by decide +kernel, ?_⟩
  -- evaluated together, so that the run is computed once
  obtain ⟨success, section_, replicas⟩ :
      Completes kafkaReconciler "ingest" fixedAtThree ∧
      ((afterIngest fixedAtThree).find .pipeline "ingest").map (·.status.kafka) =
        some (some { topicPartitions := 4, workersPerPod := 2, totalConsumers := 4 }) ∧
      ((afterIngest fixedAtThree).find .deployment "ingest").map (·.spec.replicas) =
        some 3 := by
    decide +kernel
  obtain ⟨trace, run⟩ := runs_of_completes ChildFault success
  refine ⟨trace, _, _, run, ?_⟩
  intro agrees
  obtain ⟨pipeline, placed, kafka⟩ := Option.map_eq_some_iff.mp section_
  obtain ⟨_, deployment, found, total⟩ := agrees pipeline _ placed kafka
  rw [found, Option.map_some, Option.some.injEq] at replicas
  rw [replicas] at total
  cases total

end DataPrepperOperator.Controller
