import DataPrepperOperator.Controller.Helpers
import DataPrepperOperator.Defaults.Merge
import DataPrepperOperator.Generator.Resources
import DataPrepperOperator.Validation.Graph

/-!
# The pipeline reconciler

`DataPrepperPipelineReconciler.Reconcile` and the functions it calls, as client
programs.  Events, logs and metrics are left out.
-/

namespace DataPrepperOperator.Controller

open ServerProgram DataPrepperOperator.Api DataPrepperOperator.Generator

def pipelineFinalizerName : String := "dataprepper.kaasops.io/pipeline-finalizer"

def defaultTargetCPU : Int := 70

/-- `time.Second`; durations are in nanoseconds. -/
def second : Int := 1000000000

/-- `ctrl.Result`. -/
structure ReconcileResult where
  requeueAfter : Int := 0
  deriving DecidableEq

structure PipelineReconciler where
  toolkit : Toolkit
  nameSpace : String
  /-- Whether a Kafka admin client factory is configured. -/
  adminClientFactory : Bool
  serviceMonitorAvailable : Bool

/-- `meta.SetStatusCondition`. -/
def setStatusCondition (condition : Condition) : List Condition → List Condition
  | [] => [condition]
  | present :: rest =>
      if present.type = condition.type then condition :: rest
      else present :: setStatusCondition condition rest

/-- Set a condition for the generation of the object in hand. -/
def withCondition (pipeline : DataPrepperPipeline) (type : String) (status : ConditionStatus)
    (reason message : String) : DataPrepperPipeline :=
  { pipeline with status := { pipeline.status with
    conditions := setStatusCondition
      { type := type, status := status, observedGeneration := pipeline.metadata.generation,
        reason := reason, message := message } pipeline.status.conditions } }

/-- What `calculateScaling` returns, with the Kafka status it stores on the way. -/
structure ScalingDecision where
  replicas : Int
  topicWorkers : Int
  useHPA : Bool
  kafka : Option KafkaStatus := none
  deriving DecidableEq

def staticDecision (replicas : Int) : ScalingDecision :=
  { replicas := (Scaling.calculateStatic replicas).replicas
    topicWorkers := (Scaling.calculateStatic replicas).topicWorkers
    useHPA := false }

/-- Connect to the brokers and ask for the partitions of a topic. -/
def askPartitions (config : KafkaConfig) (topic : String) : Reconciler Int := do
  wrapError "create kafka admin client: " (ExceptT.mk (Client.kafkaConnect config))
  wrapError "get partition count: " (ExceptT.mk (Client.kafkaPartitionCount config topic))

/-- The decision for a partition count, and the status that records it. -/
def kafkaDecision (minReplicas maxReplicas partitions : Int) : Except String ScalingDecision := do
  let result ← Scaling.calculateKafka partitions maxReplicas minReplicas
  pure
    { replicas := result.replicas
      topicWorkers := result.topicWorkers
      useHPA := false
      kafka := some
        { topicPartitions := partitions
          workersPerPod := result.topicWorkers
          totalConsumers := Scaling.toInt32 (result.replicas * result.topicWorkers) } }

def calculateKafkaScaling (reconciler : PipelineReconciler) (kafka : KafkaSourceSpec)
    (minReplicas maxReplicas : Int) : Reconciler ScalingDecision := do
  if reconciler.adminClientFactory = false then
    pure { replicas := minReplicas, topicWorkers := 0, useHPA := false }
  else
    let config ← kafkaConfigFromSecret kafka.bootstrapServers kafka.credentialsSecretRef
    let partitions ← askPartitions config kafka.topic
    Fallible.ofExcept (kafkaDecision minReplicas maxReplicas partitions)

/-- The branches of `calculateScaling`: a decision from the spec alone, or the
Kafka source that decides. -/
inductive ScalingBranch where
  | decided (decision : ScalingDecision)
  | kafka (source : KafkaSourceSpec) (minReplicas maxReplicas : Int)

/-- The first Kafka source decides for the whole pipeline; without Kafka and S3
sources the count is left to an autoscaler. -/
def scalingBranch (spec : DataPrepperPipelineSpec) : ScalingBranch :=
  match spec.scaling with
  | none => .decided (staticDecision 1)
  | some scaling =>
      match scaling.mode with
      | .unset | .manual => .decided (staticDecision (scaling.fixedReplicas.getD 1))
      | .auto =>
          let bounds := Scaling.scalingBounds spec.scaling
          match spec.pipelines.findSome? (·.source.kafka) with
          | some kafka => .kafka kafka bounds.1 bounds.2
          | none =>
              if spec.pipelines.any (·.source.s3.isSome) then .decided (staticDecision bounds.1)
              else .decided { replicas := bounds.1, topicWorkers := 0, useHPA := true }

def calculateScaling (reconciler : PipelineReconciler) (spec : DataPrepperPipelineSpec) :
    Reconciler ScalingDecision :=
  match scalingBranch spec with
  | .decided decision => pure decision
  | .kafka source minReplicas maxReplicas =>
      calculateKafkaScaling reconciler source minReplicas maxReplicas

/-- A failed calculation falls back to one replica. -/
def effectiveScaling : Except String ScalingDecision → ScalingDecision
  | .ok decision => decision
  | .error _ => { replicas := 1, topicWorkers := 0, useHPA := false }

def recordScaling (pipeline : DataPrepperPipeline) :
    Except String ScalingDecision → DataPrepperPipeline
  | .error message =>
      withCondition pipeline "ScalingReady" .false "ScalingFailed"
        ("Scaling calculation failed: " ++ message ++ ", using 1 replica")
  | .ok decision =>
      let pipeline := match decision.kafka with
        | none => pipeline
        | some kafka => { pipeline with status := { pipeline.status with kafka := some kafka } }
      withCondition pipeline "ScalingReady" .true "Calculated"
        ("Scaling: " ++ toString decision.replicas ++ " replicas")

def recordPeerForwarder (pipeline : DataPrepperPipeline) (needed : Bool) :
    DataPrepperPipeline :=
  if needed then
    withCondition pipeline "PeerForwarderConfigured" .true "Configured"
      "Peer forwarder auto-configured for stateful processors"
  else
    withCondition pipeline "PeerForwarderConfigured" .false "NotNeeded"
      "No stateful processors detected or single replica"

def sourceReferences (source : SourceSpec) : List SecretReference :=
  (source.kafka.bind (·.credentialsSecretRef)).toList ++
    (source.s3.bind (·.credentialsSecretRef)).toList

def sinkReferences (sink : SinkSpec) : List SecretReference :=
  (sink.openSearch.bind (·.credentialsSecretRef)).toList ++
    (sink.s3.bind (·.credentialsSecretRef)).toList ++
    (sink.kafka.bind (·.credentialsSecretRef)).toList

/-- The references of a definition in the order in which they are visited. -/
def definitionReferences (pipeline : PipelineDefinition) : List SecretReference :=
  sourceReferences pipeline.source ++ pipeline.sink.flatMap sinkReferences

def addReference (names : List String) (reference : SecretReference) : List String :=
  if reference.name ∈ names then names else names ++ [reference.name]

/-- Every referenced Secret once, in order of first reference. -/
def referencedSecrets (spec : DataPrepperPipelineSpec) : List String :=
  (spec.pipelines.flatMap definitionReferences).foldl addReference []

theorem mem_foldl_addReference {references : List SecretReference} {names : List String}
    {name : String} :
    name ∈ references.foldl addReference names ↔
      name ∈ names ∨ ∃ reference ∈ references, reference.name = name := by
  induction references generalizing names with
  | nil => simp
  | cons reference rest ih =>
      rw [List.foldl_cons, ih]
      have added : name ∈ addReference names reference ↔
          name ∈ names ∨ reference.name = name := by
        unfold addReference
        split
        · rename_i present
          constructor
          · exact .inl
          · rintro (old | rfl)
            · exact old
            · exact present
        · simp only [List.mem_append, List.mem_singleton, eq_comm]
      rw [added]
      simp only [List.mem_cons, exists_eq_or_imp, or_assoc]

theorem mem_referencedSecrets {spec : DataPrepperPipelineSpec} {name : String} :
    name ∈ referencedSecrets spec ↔
      ∃ pipeline ∈ spec.pipelines, ∃ reference ∈ definitionReferences pipeline,
        reference.name = name := by
  unfold referencedSecrets
  rw [mem_foldl_addReference]
  simp only [List.not_mem_nil, false_or, List.mem_flatMap]
  constructor
  · rintro ⟨reference, ⟨pipeline, member, referenced⟩, named⟩
    exact ⟨pipeline, member, reference, referenced, named⟩
  · rintro ⟨pipeline, member, reference, referenced, named⟩
    exact ⟨reference, ⟨pipeline, member, referenced⟩, named⟩

/-- The fields that one Secret writes to the hash; a Secret that cannot be read
writes none. -/
def secretFields (name : String) : Program Op Reply (List Bytes) := do
  match ← Client.get .secret name with
  | .error _ => pure []
  | .ok secret =>
      let order ← Client.rangeOver (GoMap.sortedKeys secret.spec)
      pure (hashedFields (GoMap.sortStrings order.1) fun key => (secret.spec.lookup key).getD [])

def allSecretFields : List String → Program Op Reply (List Bytes)
  | [] => pure []
  | name :: rest => do
      let fields ← secretFields name
      let others ← allSecretFields rest
      pure (fields ++ others)

def secretHash (toolkit : Toolkit) (spec : DataPrepperPipelineSpec) :
    Program Op Reply String :=
  match referencedSecrets spec with
  | [] => pure ""
  | names => do
      let fields ← allSecretFields names
      pure (toolkit.truncatedHash fields.flatten)

def dataHash (toolkit : Toolkit) (data : GoMap String) : Program Op Reply String := do
  let order ← Client.rangeOver (GoMap.sortedKeys data)
  pure (hashOfData toolkit order.1 data)

/-- What is computed before the first child object is written. -/
structure Plan where
  scaling : ScalingDecision
  needsPeerForwarder : Bool
  pipelinesData : GoMap String
  configData : GoMap String
  configHash : String

/-- The contents of the two ConfigMaps. -/
def generateConfigs (toolkit : Toolkit) (pipeline : DataPrepperPipeline)
    (mergedSpec : DataPrepperPipelineSpec) (topicWorkers : Int) (needsPeerForwarder : Bool) :
    Except String (GoMap String × GoMap String) := do
  let pipelineConfig ← (generatePipelineConfig mergedSpec.pipelines topicWorkers).mapError
    ("generate pipeline config: " ++ ·)
  let pipelineYAML ← (toolkit.marshalYAML (.object pipelineConfig)).mapError
    ("marshal pipeline config: " ++ ·)
  let dpConfig ← (generateDPConfig mergedSpec needsPeerForwarder pipeline.name
    pipeline.metadata.nameSpace).mapError ("generate dp config: " ++ ·)
  let dpConfigYAML ← (toolkit.marshalYAML (.object dpConfig)).mapError
    ("marshal dp config: " ++ ·)
  pure (GoMap.ofList [("pipelines.yaml", pipelineYAML)],
    GoMap.ofList [("data-prepper-config.yaml", dpConfigYAML)])

/-- Each ConfigMap holds one YAML document. -/
theorem generateConfigs_ok {toolkit : Toolkit} {pipeline : DataPrepperPipeline}
    {mergedSpec : DataPrepperPipelineSpec} {topicWorkers : Int} {needsPeerForwarder : Bool}
    {configs : GoMap String × GoMap String}
    (generated : generateConfigs toolkit pipeline mergedSpec topicWorkers needsPeerForwarder =
      .ok configs) :
    ∃ pipelineConfig pipelineYAML dpConfig dpConfigYAML,
      generatePipelineConfig mergedSpec.pipelines topicWorkers = .ok pipelineConfig ∧
      toolkit.marshalYAML (.object pipelineConfig) = .ok pipelineYAML ∧
      generateDPConfig mergedSpec needsPeerForwarder pipeline.name pipeline.metadata.nameSpace =
        .ok dpConfig ∧
      toolkit.marshalYAML (.object dpConfig) = .ok dpConfigYAML ∧
      configs.1 = GoMap.ofList [("pipelines.yaml", pipelineYAML)] ∧
      configs.2 = GoMap.ofList [("data-prepper-config.yaml", dpConfigYAML)] := by
  unfold generateConfigs at generated
  cases pipelineConfig : generatePipelineConfig mergedSpec.pipelines topicWorkers with
  | error message => simp [pipelineConfig, Except.mapError, bind, Except.bind] at generated
  | ok fields =>
      cases pipelineYAML : toolkit.marshalYAML (.object fields) with
      | error message =>
          simp [pipelineConfig, pipelineYAML, Except.mapError, bind, Except.bind] at generated
      | ok pipelines =>
          cases dpConfig : generateDPConfig mergedSpec needsPeerForwarder pipeline.name
              pipeline.metadata.nameSpace with
          | error message =>
              simp [pipelineConfig, pipelineYAML, dpConfig, Except.mapError, bind,
                Except.bind] at generated
          | ok config =>
              cases marshalled : toolkit.marshalYAML (.object config) with
              | error message =>
                  simp [pipelineConfig, pipelineYAML, dpConfig, marshalled, Except.mapError,
                    bind, Except.bind] at generated
              | ok yaml =>
                  simp only [pipelineConfig, pipelineYAML, dpConfig, marshalled, Except.mapError,
                    bind, Except.bind, pure, Except.pure, Except.ok.injEq] at generated
                  rw [← generated]
                  exact ⟨fields, pipelines, config, yaml, rfl, pipelineYAML, rfl, marshalled, rfl,
                    rfl⟩

/-- Steps 5 to 8: everything up to the configuration hash. -/
def makePlan (reconciler : PipelineReconciler) (pipeline : DataPrepperPipeline)
    (mergedSpec : DataPrepperPipelineSpec) : Reconciler (Plan × DataPrepperPipeline) := do
  let processorMaps ← Fallible.ofExcept
    ((extractProcessorMaps mergedSpec.pipelines).mapError ("extract processors: " ++ ·))
  let calculated ← Fallible.lift (calculateScaling reconciler mergedSpec).run
  let scaling := effectiveScaling calculated
  -- the autoscaler's lower bound stands for the count when `useHPA` holds
  let needsPeerForwarder :=
    PeerForwarder.needsForwarding processorMaps && decide (1 < scaling.replicas)
  let configs ← Fallible.ofExcept (generateConfigs reconciler.toolkit pipeline mergedSpec
    scaling.topicWorkers needsPeerForwarder)
  let pipelinesHash ← Fallible.lift (dataHash reconciler.toolkit configs.1)
  let configHash ← Fallible.lift (dataHash reconciler.toolkit configs.2)
  let secrets ← Fallible.lift (secretHash reconciler.toolkit mergedSpec)
  pure
    ({ scaling := scaling
       needsPeerForwarder := needsPeerForwarder
       pipelinesData := configs.1
       configData := configs.2
       configHash := pipelinesHash ++ configHash ++ secrets },
      recordPeerForwarder (recordScaling pipeline calculated) needsPeerForwarder)

/-- The common shape of the mutate functions: set the labels, assign part of the
spec, and claim the object. -/
def claimWith {kind : Kind} (owner : DataPrepperPipeline) (labels : GoMap String)
    (assign : kind.Spec → kind.Spec) (object : Object kind) : Except String (Object kind) :=
  setControllerReference owner
    { object with
      metadata := { object.metadata with labels := labels }
      spec := assign object.spec }

def reconcileConfigMap (owner : DataPrepperPipeline) (name : String) (data : GoMap String) :
    Reconciler Unit :=
  createOrUpdate (Object.named .configMap name owner.metadata.nameSpace)
    (claimWith owner (commonLabels owner.name) fun _ => data)

def reconcileDeployment (owner : DataPrepperPipeline) (desired : Object .deployment) :
    Reconciler Unit :=
  createOrUpdate (Object.named .deployment desired.name desired.metadata.nameSpace)
    (claimWith owner desired.metadata.labels fun _ => desired.spec)

def assignService (desired : ServiceSpec) (spec : ServiceSpec) : ServiceSpec :=
  { spec with type := desired.type, selector := desired.selector, ports := desired.ports }

def assignHeadlessService (desired : ServiceSpec) (spec : ServiceSpec) : ServiceSpec :=
  { spec with
    type := desired.type
    clusterIP := desired.clusterIP
    selector := desired.selector
    ports := desired.ports }

def reconcileService (owner : DataPrepperPipeline) (needed : Bool)
    (spec : DataPrepperPipelineSpec) : Reconciler Unit :=
  let desired := generateService owner spec
  reconcileOrDelete (Object.named .service owner.name owner.metadata.nameSpace) needed
    (claimWith owner desired.metadata.labels (assignService desired.spec))

def reconcileHeadlessService (owner : DataPrepperPipeline) (needed : Bool) : Reconciler Unit :=
  let desired := generateHeadlessService owner
  reconcileOrDelete
    (Object.named .service (owner.name ++ "-headless") owner.metadata.nameSpace) needed
    (claimWith owner desired.metadata.labels (assignHeadlessService desired.spec))

def reconcileHPA (owner : DataPrepperPipeline) (spec : DataPrepperPipelineSpec)
    (needed : Bool) : Reconciler Unit :=
  let bounds := Scaling.scalingBounds spec.scaling
  let desired := generateHPA owner bounds.1 bounds.2 defaultTargetCPU
  reconcileOrDelete
    (Object.named .horizontalPodAutoscaler owner.name owner.metadata.nameSpace) needed
    (claimWith owner desired.metadata.labels fun _ => desired.spec)

def reconcilePDB (owner : DataPrepperPipeline) (replicas : Int) : Reconciler Unit :=
  let desired := generatePDB owner replicas
  reconcileOrDelete (Object.named .podDisruptionBudget owner.name owner.metadata.nameSpace)
    (decide (1 < replicas))
    (claimWith owner desired.metadata.labels fun _ => desired.spec)

def reconcileServiceMonitor (owner : DataPrepperPipeline) (spec : DataPrepperPipelineSpec)
    (needed : Bool) : Reconciler Unit :=
  let desired := generateServiceMonitor owner spec
  reconcileOrDelete (Object.named .serviceMonitor owner.name owner.metadata.nameSpace) needed
    (claimWith owner desired.metadata.labels fun _ => desired.spec)

/-- Steps 9 to 12: the child objects that a failure is reported for. -/
def deployChildren (pipeline : DataPrepperPipeline) (mergedSpec : DataPrepperPipelineSpec)
    (plan : Plan) : Reconciler Unit := do
  wrapError "reconcile pipelines configmap: "
    (reconcileConfigMap pipeline (pipeline.name ++ "-pipelines") plan.pipelinesData)
  wrapError "reconcile dp-config configmap: "
    (reconcileConfigMap pipeline (pipeline.name ++ "-config") plan.configData)
  wrapError "reconcile deployment: "
    (reconcileDeployment pipeline (generateDeployment pipeline mergedSpec plan.scaling.replicas
      plan.needsPeerForwarder plan.configHash))
  wrapError "reconcile service: "
    (reconcileService pipeline (needsService mergedSpec.pipelines mergedSpec.serviceMonitor)
      mergedSpec)
  wrapError "reconcile headless service: "
    (reconcileHeadlessService pipeline plan.needsPeerForwarder)
  wrapError "reconcile hpa: " (reconcileHPA pipeline mergedSpec plan.scaling.useHPA)
  wrapError "reconcile pdb: " (reconcilePDB pipeline plan.scaling.replicas)

/-- A failing ServiceMonitor is only logged. -/
def deployServiceMonitor (reconciler : PipelineReconciler) (pipeline : DataPrepperPipeline)
    (mergedSpec : DataPrepperPipelineSpec) : Reconciler Unit := do
  if reconciler.serviceMonitorAvailable then
    let _ ← Fallible.lift (reconcileServiceMonitor pipeline mergedSpec
      (mergedSpec.serviceMonitor.any (·.enabled))).run
    pure ()
  else
    pure ()

def pipelinePhase (errorPhase : Bool) (status : DataPrepperPipelineStatus) : PipelinePhase :=
  if errorPhase then .error
  else if status.replicas = 0 then .pending
  else if status.readyReplicas = 0 then .pending
  else if status.readyReplicas < status.replicas then .degraded
  else .running

def withReadyCondition (pipeline : DataPrepperPipeline) (message : String) :
    DataPrepperPipeline :=
  match pipeline.status.phase with
  | .error => withCondition pipeline "Ready" .false "ValidationFailed" message
  | .pending =>
      withCondition pipeline "Ready" .false "DeploymentNotReady"
        "Waiting for deployment to become ready"
  | .degraded =>
      withCondition pipeline "Ready" .false "PartiallyReady"
        (toString pipeline.status.readyReplicas ++ "/" ++ toString pipeline.status.replicas ++
          " replicas ready")
  | .running | .unset =>
      withCondition pipeline "Ready" .true "Reconciled" "Pipeline reconciled successfully"

/-- One attempt of the conflict retry: the status goes onto a fresh read. -/
def storeStatus (name : String) (desired : DataPrepperPipelineStatus) :
    Program Op Reply (Except ApiError DataPrepperPipeline) := do
  match ← Client.get .pipeline name with
  | .error error => pure (.error error)
  | .ok current =>
      Client.updateStatus { current with status :=
        { phase := desired.phase
          replicas := desired.replicas
          readyReplicas := desired.readyReplicas
          observedGeneration := desired.observedGeneration
          conditions := desired.conditions
          kafka := desired.kafka } }

/-- The replica counts of the Deployment, if it can be read. -/
def countReplicas (name : String) (status : DataPrepperPipelineStatus) :
    Program Op Reply DataPrepperPipelineStatus := do
  match ← Client.get .deployment name with
  | .error _ => pure status
  | .ok deployment =>
      pure
        { status with
          replicas := deployment.status.replicas
          readyReplicas := deployment.status.readyReplicas }

def updateStatus (pipeline : DataPrepperPipeline) (errorPhase : Bool) (message : String) :
    Reconciler ReconcileResult := do
  let counted ← Fallible.lift (countReplicas pipeline.name
    { pipeline.status with observedGeneration := pipeline.metadata.generation })
  let phased : DataPrepperPipeline :=
    { pipeline with status := { counted with phase := pipelinePhase errorPhase counted } }
  let desired := (withReadyCondition phased message).status
  wrapError "update status: "
    (do let _ ← callApi (retryOnConflict (storeStatus pipeline.name desired) defaultRetries))
  if desired.phase = .pending ∨ desired.phase = .degraded then
    pure { requeueAfter := 30 * second }
  else
    pure {}

def graphDefs (pipelines : List PipelineDefinition) : List Validation.PipelineDef :=
  pipelines.map fun pipeline =>
    { name := pipeline.name
      sourcePipeline := (pipeline.source.pipeline.map (·.name)).getD ""
      sinkPipelines := pipeline.sink.filterMap fun sink => sink.pipeline.map (·.name) }

theorem sinkConnectors_of_sameShape {sinks filled : List SinkSpec}
    (shapes : List.Forall₂ Defaults.SameSinkShape sinks filled) :
    filled.filterMap (fun sink => sink.pipeline.map (·.name)) =
      sinks.filterMap fun sink => sink.pipeline.map (·.name) := by
  induction shapes with
  | nil => rfl
  | cons head _ ih =>
      rw [List.filterMap_cons, List.filterMap_cons, head.connector, ih]

/-- The graph does not depend on the defaults. -/
theorem graphDefs_mergeSpec (defaults : Option DataPrepperDefaultsSpec)
    (spec : DataPrepperPipelineSpec) :
    graphDefs (Defaults.mergeSpec defaults spec).pipelines = graphDefs spec.pipelines := by
  have shapes := Defaults.sameShape_mergeSpec defaults spec
  generalize (Defaults.mergeSpec defaults spec).pipelines = filled, spec.pipelines = given
    at shapes ⊢
  unfold graphDefs
  induction shapes with
  | nil => rfl
  | cons head _ ih =>
      rw [List.map_cons, List.map_cons, head.name, head.connector,
        sinkConnectors_of_sameShape head.sinks, ih]

/-- A pipeline being deleted only loses its finalizer. -/
def finalize (pipeline : DataPrepperPipeline) : Reconciler ReconcileResult := do
  if pipelineFinalizerName ∈ pipeline.metadata.finalizers then
    let _ ← wrapError "remove finalizer: " (callApi (Client.update
      { pipeline with metadata := { pipeline.metadata with
        finalizers := pipeline.metadata.finalizers.filter (· ≠ pipelineFinalizerName) } }))
    pure {}
  else
    pure {}

def ensureFinalizer (pipeline : DataPrepperPipeline) : Reconciler DataPrepperPipeline :=
  if pipelineFinalizerName ∈ pipeline.metadata.finalizers then pure pipeline
  else
    wrapError "add finalizer: " (callApi (Client.update
      { pipeline with metadata := { pipeline.metadata with
        finalizers := pipeline.metadata.finalizers ++ [pipelineFinalizerName] } }))

/-- The defaults of the namespace; any error counts as none. -/
def fetchDefaults : Reconciler (Option DataPrepperDefaultsSpec) := do
  match ← Fallible.lift (Client.get .defaults "default") with
  | .error _ => pure none
  | .ok defaults => pure (some defaults.spec)

/-- What follows the child objects: the ServiceMonitor and the status. -/
def finish (reconciler : PipelineReconciler) (pipeline : DataPrepperPipeline)
    (mergedSpec : DataPrepperPipelineSpec) : Reconciler ReconcileResult := do
  deployServiceMonitor reconciler pipeline mergedSpec
  -- the list only feeds a gauge
  let _ ← Fallible.lift (Client.listPipelines .everything)
  updateStatus pipeline false ""

/-- Steps 5 to 14, for a pipeline with a valid graph. -/
def reconcileValid (reconciler : PipelineReconciler) (pipeline : DataPrepperPipeline)
    (mergedSpec : DataPrepperPipelineSpec) : Reconciler ReconcileResult := do
  let planned ← makePlan reconciler
    (withCondition pipeline "ConfigValid" .true "Valid" "Pipeline configuration is valid")
    mergedSpec
  deployChildren planned.2 mergedSpec planned.1
  finish reconciler planned.2 mergedSpec

/-- Steps 4 to 14; an invalid graph is only reported. -/
def reconcileMerged (reconciler : PipelineReconciler) (pipeline : DataPrepperPipeline)
    (mergedSpec : DataPrepperPipelineSpec) : Reconciler ReconcileResult :=
  match Validation.validateGraph (graphDefs mergedSpec.pipelines) with
  | .error error =>
      updateStatus
        (withCondition pipeline "ConfigValid" .false "ValidationFailed" error.message)
        true error.message
  | .ok () => reconcileValid reconciler pipeline mergedSpec

/-- Steps 2 to 14, for a pipeline that is not being deleted. -/
def reconcileLive (reconciler : PipelineReconciler) (fetched : DataPrepperPipeline) :
    Reconciler ReconcileResult := do
  let pipeline ← ensureFinalizer fetched
  let defaults ← fetchDefaults
  reconcileMerged reconciler pipeline (Defaults.mergeSpec defaults pipeline.spec)

def reconcile (reconciler : PipelineReconciler) (name : String) :
    Reconciler ReconcileResult := do
  match ← Fallible.lift (Client.get .pipeline name) with
  | .error (.notFound _ _) => pure {}
  | .error error => throw error.message
  | .ok pipeline =>
      if pipeline.metadata.deleting then finalize pipeline
      else reconcileLive reconciler pipeline

def sampleReconciler : PipelineReconciler where
  toolkit := sampleToolkit
  nameSpace := "logs"
  adminClientFactory := false
  serviceMonitorAvailable := false

/-- A stateless pipeline with an HTTP source. -/
def httpPipeline (name : String) : DataPrepperPipeline where
  metadata := { name := name, nameSpace := "logs" }
  spec :=
    { image := "data-prepper"
      pipelines :=
        [{ name := "ingest"
           source := { http := some { port := 2021 } }
           sink := [{ stdout := some {} }] }] }
  status := {}

/-- The same pipeline with an autoscaler. -/
def autoscaledPipeline (name : String) (minReplicas maxReplicas : Int) : DataPrepperPipeline where
  metadata := (httpPipeline name).metadata
  spec :=
    { (httpPipeline name).spec with
      scaling := some
        { mode := .auto, minReplicas := some minReplicas, maxReplicas := some maxReplicas } }
  status := {}

def kafkaSource (credentials : Option SecretReference) : KafkaSourceSpec where
  bootstrapServers := ["kafka:9092"]
  topic := "logs"
  groupId := "ingest"
  credentialsSecretRef := credentials

/-- A stateless pipeline with a Kafka source. -/
def kafkaPipeline (credentials : Option SecretReference) : DataPrepperPipeline where
  metadata := (httpPipeline "ingest").metadata
  spec :=
    { image := "data-prepper"
      pipelines :=
        [{ name := "ingest"
           source := { kafka := some (kafkaSource credentials) }
           sink := [{ stdout := some {} }] }] }
  status := {}

/-- A reconcile that nothing disturbs succeeds. -/
abbrev Completes (reconciler : PipelineReconciler) (name : String) (cluster : Cluster) : Prop :=
  ((reconcile reconciler name).run.execute Cluster.answer cluster).1 =
    .ok { requeueAfter := 30 * second }

/-- The cluster after that reconcile. -/
def reconciledBy (reconciler : PipelineReconciler) (name : String) (cluster : Cluster) : Cluster :=
  ((reconcile reconciler name).run.execute Cluster.answer cluster).2

abbrev reconciled : String → Cluster → Cluster := reconciledBy sampleReconciler

theorem runs_of_completes (faulty : (op : Op) → Reply op → Prop)
    {reconciler : PipelineReconciler} {name : String} {cluster : Cluster}
    (completes : Completes reconciler name cluster) :
    ∃ trace, Runs (Serves faulty) (reconcile reconciler name).run cluster trace
      (.ok { requeueAfter := 30 * second }) (reconciledBy reconciler name cluster) := by
  rw [← completes]
  exact runs_execute _ _

end DataPrepperOperator.Controller
