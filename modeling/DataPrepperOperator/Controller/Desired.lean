import DataPrepperOperator.Controller.Children

/-!
# The desired state of a pipeline

What the child objects of a pipeline should be, as a function of everything a
reconcile reads about it: the stored spec, the namespace defaults, the referenced
Secrets and the brokers.  `runs_makePlan` says that planning computes this
function.
-/

namespace DataPrepperOperator.Controller

open ServerProgram DataPrepperOperator.Api DataPrepperOperator.Generator

structure Inputs where
  spec : DataPrepperPipelineSpec
  uid : String
  nameSpace : String
  defaults : Option DataPrepperDefaultsSpec
  /-- The data of the referenced Secrets that exist. -/
  secrets : String → Option (GoMap Bytes)
  /-- What the brokers say about the partitions of a topic. -/
  partitions : KafkaConfig → String → Except String Int

def Inputs.mergedSpec (inputs : Inputs) : DataPrepperPipelineSpec :=
  Defaults.mergeSpec inputs.defaults inputs.spec

def partitionAnswer (cluster : Cluster) (config : KafkaConfig) (topic : String) :
    Except String Int :=
  match cluster.kafka config with
  | .error message => .error ("create kafka admin client: " ++ message)
  | .ok brokers => (brokers.partitionCount topic).mapError ("get partition count: " ++ ·)

/-- What `calculateScaling` decides, by what it gets to know about the partitions. -/
def decideScaling (reconciler : PipelineReconciler) (spec : DataPrepperPipelineSpec)
    (counted : KafkaSourceSpec → Except String Int) : Except String ScalingDecision :=
  match scalingBranch spec with
  | .decided decision => .ok decision
  | .kafka source minReplicas maxReplicas =>
      if reconciler.adminClientFactory = false then
        .ok { replicas := minReplicas, topicWorkers := 0, useHPA := false }
      else (counted source).bind (kafkaDecision minReplicas maxReplicas)

/-- The inputs of a stored pipeline that is not being deleted. -/
def inputsOf (cluster : Cluster) (name : String) : Option Inputs :=
  match cluster.find .pipeline name with
  | none => none
  | some pipeline =>
      if pipeline.metadata.deleting then none
      else
        let defaults := (cluster.find .defaults "default").map (·.spec)
        some
          { spec := pipeline.spec
            uid := pipeline.metadata.uid
            nameSpace := pipeline.metadata.nameSpace
            defaults := defaults
            secrets := fun secret =>
              if secret ∈ referencedSecrets (Defaults.mergeSpec defaults pipeline.spec) then
                (cluster.find .secret secret).map (·.spec)
              else none
            partitions := partitionAnswer cluster }

namespace Inputs

variable (inputs : Inputs)

/-- The pipeline as far as its children can tell. -/
def owner (name : String) : DataPrepperPipeline :=
  { metadata := { name := name, nameSpace := inputs.nameSpace, uid := inputs.uid }
    spec := inputs.spec
    status := {} }

def kafkaConfig (kafka : KafkaSourceSpec) : Except String KafkaConfig :=
  match kafka.credentialsSecretRef with
  | none => .ok { bootstrapServers := kafka.bootstrapServers }
  | some reference =>
      match inputs.secrets reference.name with
      | none =>
          .error ("read kafka credentials secret: " ++
            (ApiError.notFound .secret reference.name).message)
      | some data =>
          .ok
            { bootstrapServers := kafka.bootstrapServers
              username := (data.lookup "username").getD []
              password := (data.lookup "password").getD [] }

/-- What there is to know about the partitions of the topic of a source. -/
def partitionsOf (kafka : KafkaSourceSpec) : Except String Int :=
  (inputs.kafkaConfig kafka).bind (inputs.partitions · kafka.topic)

def scaling (reconciler : PipelineReconciler) : Except String ScalingDecision :=
  decideScaling reconciler inputs.mergedSpec inputs.partitionsOf

/-- What the data of a Secret writes to the hash. -/
def storedFields : Option (GoMap Bytes) → List Bytes
  | none => []
  | some data => hashedFields (GoMap.sortedKeys data) fun key => (data.lookup key).getD []

/-- Everything that the referenced Secrets write to the hash. -/
def secretStream : List Bytes :=
  (referencedSecrets inputs.mergedSpec).flatMap fun name => storedFields (inputs.secrets name)

def secretHash (toolkit : Toolkit) : String :=
  match referencedSecrets inputs.mergedSpec with
  | [] => ""
  | _ => toolkit.truncatedHash inputs.secretStream.flatten

def plan (reconciler : PipelineReconciler) (name : String) : Except String Plan := do
  let processorMaps ←
    (extractProcessorMaps inputs.mergedSpec.pipelines).mapError ("extract processors: " ++ ·)
  let scaling := effectiveScaling (inputs.scaling reconciler)
  let needsPeerForwarder :=
    PeerForwarder.needsForwarding processorMaps && decide (1 < scaling.replicas)
  let configs ← generateConfigs reconciler.toolkit (inputs.owner name) inputs.mergedSpec
    scaling.topicWorkers needsPeerForwarder
  pure
    { scaling := scaling
      needsPeerForwarder := needsPeerForwarder
      pipelinesData := configs.1
      configData := configs.2
      configHash :=
        reconciler.toolkit.truncatedHash (dataFields configs.1).flatten ++
          reconciler.toolkit.truncatedHash (dataFields configs.2).flatten ++
          inputs.secretHash reconciler.toolkit }

end Inputs

/-- Everything that goes into a plan. -/
theorem Inputs.plan_ok {inputs : Inputs} {reconciler : PipelineReconciler} {name : String}
    {plan : Plan} (planned : inputs.plan reconciler name = .ok plan) :
    ∃ processorMaps, extractProcessorMaps inputs.mergedSpec.pipelines = .ok processorMaps ∧
      plan.scaling = effectiveScaling (inputs.scaling reconciler) ∧
      plan.needsPeerForwarder =
        (PeerForwarder.needsForwarding processorMaps && decide (1 < plan.scaling.replicas)) ∧
      generateConfigs reconciler.toolkit (inputs.owner name) inputs.mergedSpec
          plan.scaling.topicWorkers plan.needsPeerForwarder =
        .ok (plan.pipelinesData, plan.configData) ∧
      plan.configHash =
        reconciler.toolkit.truncatedHash (dataFields plan.pipelinesData).flatten ++
          reconciler.toolkit.truncatedHash (dataFields plan.configData).flatten ++
          inputs.secretHash reconciler.toolkit := by
  unfold Inputs.plan at planned
  cases extracted : extractProcessorMaps inputs.mergedSpec.pipelines with
  | error message => simp [extracted, Except.mapError, bind, Except.bind] at planned
  | ok processorMaps =>
      simp only [extracted, Except.mapError, bind, Except.bind, pure, Except.pure] at planned
      split at planned
      · cases planned
      · rename_i configs generated
        cases planned
        exact ⟨processorMaps, rfl, rfl, rfl, generated, rfl⟩

theorem Inputs.scaling_of_plan {inputs : Inputs} {reconciler : PipelineReconciler} {name : String}
    {plan : Plan} {decision : ScalingDecision}
    (planned : inputs.plan reconciler name = .ok plan)
    (decided : scalingBranch inputs.mergedSpec = .decided decision) : plan.scaling = decision := by
  obtain ⟨_, _, scaling, _⟩ := Inputs.plan_ok planned
  rw [scaling]
  unfold Inputs.scaling decideScaling
  rw [decided]
  rfl

/-- The part of a child object that the operator manages. -/
structure Managed (Content : Type) where
  labels : GoMap String
  controller : Option OwnerReference
  content : Content

/-- The fields that `reconcileService` assigns. -/
structure ServiceFields where
  type : String
  selector : GoMap String
  ports : List ServicePort

def serviceFields (spec : ServiceSpec) : ServiceFields :=
  { type := spec.type, selector := spec.selector, ports := spec.ports }

/-- `reconcileHeadlessService` assigns the cluster IP as well. -/
def headlessServiceFields (spec : ServiceSpec) : ServiceFields × String :=
  (serviceFields spec, spec.clusterIP)

structure DerivedContent where
  pipelines : Managed (GoMap String)
  config : Managed (GoMap String)
  deployment : Managed DeploymentSpec
  service : Option (Managed ServiceFields)
  headlessService : Option (Managed (ServiceFields × String))
  horizontalPodAutoscaler : Option (Managed HorizontalPodAutoscalerSpec)
  podDisruptionBudget : Option (Managed PodDisruptionBudgetSpec)

namespace Inputs

variable (inputs : Inputs) (name : String)

def managed {Content : Type} (content : Content) : Managed Content :=
  { labels := commonLabels name
    controller := some (controllerReference (inputs.owner name))
    content := content }

/-- What a plan asks for; an optional object is there when it is needed. -/
def content (plan : Plan) : DerivedContent :=
  let owner := inputs.owner name
  let spec := inputs.mergedSpec
  let bounds := Scaling.scalingBounds spec.scaling
  { pipelines := inputs.managed name plan.pipelinesData
    config := inputs.managed name plan.configData
    deployment := inputs.managed name (generateDeployment owner spec plan.scaling.replicas
      plan.needsPeerForwarder plan.configHash).spec
    service :=
      if needsService spec.pipelines spec.serviceMonitor then
        some (inputs.managed name (serviceFields (generateService owner spec).spec))
      else none
    headlessService :=
      if plan.needsPeerForwarder then
        some (inputs.managed name (headlessServiceFields (generateHeadlessService owner).spec))
      else none
    horizontalPodAutoscaler :=
      if plan.scaling.useHPA then
        some (inputs.managed name (generateHPA owner bounds.1 bounds.2 defaultTargetCPU).spec)
      else none
    podDisruptionBudget :=
      if 1 < plan.scaling.replicas then
        some (inputs.managed name (generatePDB owner plan.scaling.replicas).spec)
      else none }

end Inputs

section Presence

variable {kind : Kind} {Content : Type}

/-- The object is stored with the given content. -/
def Stored (cluster : Cluster) (kind : Kind) (name : String) (project : kind.Spec → Content)
    (managed : Managed Content) : Prop :=
  ∃ object, cluster.find kind name = some object ∧
    object.metadata.labels = managed.labels ∧ object.controllerOf = managed.controller ∧
    project object.spec = managed.content

/-- The object is stored if there is something to store; if not, it is absent, or
terminating and held by finalizers. -/
def StoredIff (cluster : Cluster) (kind : Kind) (name : String) (project : kind.Spec → Content) :
    Option (Managed Content) → Prop
  | some managed => Stored cluster kind name project managed
  | none => Removed cluster kind name

end Presence

/-- The seven child objects of a pipeline are as desired. -/
structure Realizes (cluster : Cluster) (name : String) (desired : DerivedContent) : Prop where
  pipelines : Stored cluster .configMap (name ++ "-pipelines") id desired.pipelines
  config : Stored cluster .configMap (name ++ "-config") id desired.config
  deployment : Stored cluster .deployment name id desired.deployment
  service : StoredIff cluster .service name serviceFields desired.service
  headlessService : StoredIff cluster .service (name ++ "-headless") headlessServiceFields
    desired.headlessService
  horizontalPodAutoscaler : StoredIff cluster .horizontalPodAutoscaler name id
    desired.horizontalPodAutoscaler
  podDisruptionBudget : StoredIff cluster .podDisruptionBudget name id
    desired.podDisruptionBudget

/-- The names of the seven child objects. -/
def derivedObjects (name : String) : List (Kind × String) :=
  [(.configMap, name ++ "-pipelines"), (.configMap, name ++ "-config"), (.deployment, name),
    (.service, name), (.service, name ++ "-headless"), (.horizontalPodAutoscaler, name),
    (.podDisruptionBudget, name)]

section Refinement

variable {state final : Cluster} {trace : List (Event Cluster Op Reply)}
  {faulty : (op : Op) → Reply op → Prop}

theorem runs_dataHash {toolkit : Toolkit} {data : GoMap String} {hash : String}
    (run : Runs (Serves faulty) (dataHash toolkit data) state trace hash final) :
    hash = toolkit.truncatedHash (dataFields data).flatten ∧
      (∃ order, trace = [⟨state, .rangeOver (GoMap.sortedKeys data), order, state⟩]) ∧
      final = state := by
  obtain ⟨first, middle, order, second, rfl, ranged, finished⟩ := runs_bind_iff.mp run
  obtain ⟨served, rfl⟩ := runs_request_iff.mp ranged
  have unchanged := served.unchanged rfl
  subst unchanged
  obtain ⟨rfl, rfl, rfl⟩ := runs_done_iff.mp finished
  exact ⟨hashOfData_eq toolkit order.2, ⟨order, rfl⟩, rfl⟩

theorem runs_secretFields {name : String} {fields : List Bytes}
    (run : Runs Disturbed (secretFields name) state trace fields final) :
    fields = Inputs.storedFields ((state.find .secret name).map (·.spec)) ∧ final = state := by
  obtain ⟨first, middle, reply, second, rfl, asked, rest⟩ := runs_bind_iff.mp run
  obtain ⟨served, _⟩ := runs_request_iff.mp asked
  obtain ⟨answered, rfl⟩ := Disturbed.read_input id served
  unfold Cluster.read at answered
  cases found : middle.find .secret name with
  | none =>
      simp only [found] at answered
      subst answered
      obtain ⟨_, rfl, rfl⟩ := runs_done_iff.mp rest
      exact ⟨rfl, rfl⟩
  | some secret =>
      simp only [found] at answered
      subst answered
      obtain ⟨_, between, order, _, rfl, ranged, finished⟩ := runs_bind_iff.mp rest
      obtain ⟨orderServed, _⟩ := runs_request_iff.mp ranged
      have unchanged := orderServed.unchanged rfl
      subst unchanged
      obtain ⟨_, rfl, rfl⟩ := runs_done_iff.mp finished
      refine ⟨?_, rfl⟩
      simp only [Option.map_some, Inputs.storedFields]
      rw [GoMap.sortStrings_of_perm_sortedKeys order.2]

theorem runs_allSecretFields {names : List String} {fields : List Bytes}
    (run : Runs Disturbed (allSecretFields names) state trace fields final) :
    fields = names.flatMap (fun name =>
        Inputs.storedFields ((state.find .secret name).map (·.spec))) ∧ final = state := by
  induction names generalizing fields trace final with
  | nil =>
      obtain ⟨_, rfl, rfl⟩ := runs_done_iff.mp run
      exact ⟨rfl, rfl⟩
  | cons name rest ih =>
      obtain ⟨_, middle, own, _, rfl, ownRun, later⟩ := runs_bind_iff.mp run
      obtain ⟨rfl, rfl⟩ := runs_secretFields ownRun
      obtain ⟨_, between, others, _, rfl, othersRun, finished⟩ := runs_bind_iff.mp later
      obtain ⟨rfl, rfl⟩ := ih othersRun
      obtain ⟨_, rfl, rfl⟩ := runs_done_iff.mp finished
      exact ⟨rfl, rfl⟩

theorem runs_kafkaConfigFromSecret {inputs : Inputs} {kafka : KafkaSourceSpec}
    {outcome : Except String KafkaConfig}
    (known : ∀ reference, kafka.credentialsSecretRef = some reference →
      inputs.secrets reference.name = (state.find .secret reference.name).map (·.spec))
    (run : Runs Disturbed (kafkaConfigFromSecret kafka.bootstrapServers
      kafka.credentialsSecretRef).run state trace outcome final) :
    outcome = inputs.kafkaConfig kafka ∧ final = state := by
  unfold Inputs.kafkaConfig
  cases referred : kafka.credentialsSecretRef with
  | none =>
      rw [referred] at run
      obtain ⟨_, rfl, rfl⟩ := runs_pure_iff.mp run
      exact ⟨rfl, rfl⟩
  | some reference =>
      rw [referred] at run
      simp only [known reference referred]
      obtain ⟨reply, middle, later, served, _, rest⟩ := runs_call_iff.mp run
      obtain ⟨answered, rfl⟩ := Disturbed.read_input id served
      unfold Cluster.read at answered
      cases found : middle.find .secret reference.name with
      | none | some =>
          simp only [found] at answered
          subst answered
          obtain ⟨_, rfl, rfl⟩ := runs_done_iff.mp rest
          exact ⟨rfl, rfl⟩

theorem runs_askPartitions {config : KafkaConfig} {topic : String}
    {outcome : Except String Int}
    (run : Runs Disturbed (askPartitions config topic).run state trace outcome final) :
    outcome = partitionAnswer state config topic ∧ final = state := by
  obtain ⟨connected, middle, later, served, _, rest⟩ := runs_call_iff.mp run
  obtain ⟨answered, rfl⟩ := served.honest_of_genuine id
  unfold partitionAnswer
  cases reached : middle.kafka config with
  | error message =>
      simp only [reached, Except.map] at answered
      subst answered
      obtain ⟨_, rfl, rfl⟩ := runs_done_iff.mp rest
      exact ⟨rfl, rfl⟩
  | ok brokers =>
      simp only [reached, Except.map] at answered
      subst answered
      obtain ⟨count, between, _, counted, _, finished⟩ := runs_call_iff.mp rest
      obtain ⟨answeredCount, rfl⟩ := counted.honest_of_genuine id
      simp only [reached, Except.bind] at answeredCount
      subst answeredCount
      cases answer : brokers.partitionCount topic with
      | error | ok =>
          rw [answer] at finished
          obtain ⟨_, rfl, rfl⟩ := runs_done_iff.mp finished
          simp only [answer, Except.mapError, and_self]

/-- The part of the inputs that planning reads is as in the cluster. -/
structure Inputs.AgreeWith (inputs : Inputs) (cluster : Cluster) : Prop where
  secrets : ∀ name ∈ referencedSecrets inputs.mergedSpec,
    inputs.secrets name = (cluster.find .secret name).map (·.spec)
  partitions : inputs.partitions = partitionAnswer cluster

theorem scalingBranch_kafka {spec : DataPrepperPipelineSpec} {source : KafkaSourceSpec}
    {minReplicas maxReplicas : Int}
    (branch : scalingBranch spec = .kafka source minReplicas maxReplicas) :
    spec.pipelines.findSome? (·.source.kafka) = some source ∧
      Scaling.scalingBounds spec.scaling = (minReplicas, maxReplicas) := by
  unfold scalingBranch at branch
  split at branch
  · cases branch
  · rename_i scaling given
    dsimp only at branch
    split at branch
    · cases branch
    · cases branch
    · split at branch
      · rename_i first
        cases branch
        exact ⟨first, rfl⟩
      · split at branch <;> cases branch

/-- The Secret of the deciding Kafka source is one of the referenced Secrets. -/
theorem mem_referencedSecrets_of_scalingBranch {spec : DataPrepperPipelineSpec}
    {source : KafkaSourceSpec} {minReplicas maxReplicas : Int}
    (branch : scalingBranch spec = .kafka source minReplicas maxReplicas)
    {reference : SecretReference} (referred : source.credentialsSecretRef = some reference) :
    reference.name ∈ referencedSecrets spec := by
  obtain ⟨pipeline, member, kafka⟩ :=
    List.exists_of_findSome?_eq_some (scalingBranch_kafka branch).1
  refine mem_referencedSecrets.mpr ⟨pipeline, member, reference, ?_, rfl⟩
  simp [definitionReferences, sourceReferences, kafka, referred]

variable {inputs : Inputs}

theorem runs_calculateScaling {reconciler : PipelineReconciler}
    {outcome : Except String ScalingDecision} (agree : inputs.AgreeWith state)
    (run : Runs Disturbed (calculateScaling reconciler inputs.mergedSpec).run state trace outcome
      final) :
    outcome = inputs.scaling reconciler ∧ final = state := by
  unfold calculateScaling at run
  unfold Inputs.scaling decideScaling
  cases branch : scalingBranch inputs.mergedSpec with
  | decided decision =>
      rw [branch] at run
      obtain ⟨_, rfl, rfl⟩ := runs_pure_iff.mp run
      exact ⟨rfl, rfl⟩
  | kafka source minReplicas maxReplicas =>
      rw [branch] at run
      simp only [calculateKafkaScaling] at run ⊢
      split at run
      · rename_i unavailable
        obtain ⟨_, rfl, rfl⟩ := runs_pure_iff.mp run
        rw [if_pos unavailable]
        exact ⟨rfl, rfl⟩
      · rename_i available
        rw [if_neg available, Inputs.partitionsOf]
        have known : ∀ reference, source.credentialsSecretRef = some reference →
            inputs.secrets reference.name =
              (state.find .secret reference.name).map (·.spec) := fun reference referred =>
          agree.secrets _ (mem_referencedSecrets_of_scalingBranch branch referred)
        rcases runs_fallible_bind_iff.mp run with
          ⟨failure, rfl, configured⟩ | ⟨_, _, config, _, _, configured, rest⟩
        · obtain ⟨failed, rfl⟩ := runs_kafkaConfigFromSecret known configured
          rw [← failed]
          exact ⟨rfl, rfl⟩
        · obtain ⟨made, rfl⟩ := runs_kafkaConfigFromSecret known configured
          rw [← made, agree.partitions]
          rcases runs_fallible_bind_iff.mp rest with
            ⟨failure, rfl, asked⟩ | ⟨_, _, count, _, _, asked, finished⟩
          · obtain ⟨failed, rfl⟩ := runs_askPartitions asked
            exact ⟨by simp only [Except.bind, ← failed], rfl⟩
          · obtain ⟨counted, rfl⟩ := runs_askPartitions asked
            obtain ⟨_, rfl, rfl⟩ := runs_ofExcept_iff.mp finished
            exact ⟨by simp only [Except.bind, ← counted], rfl⟩

theorem runs_secretHash {toolkit : Toolkit} {hash : String} (agree : inputs.AgreeWith state)
    (run : Runs Disturbed (secretHash toolkit inputs.mergedSpec) state trace hash final) :
    hash = inputs.secretHash toolkit ∧ final = state := by
  unfold secretHash at run
  unfold Inputs.secretHash Inputs.secretStream
  have known := agree.secrets
  generalize referencedSecrets inputs.mergedSpec = names at run known ⊢
  cases names with
  | nil =>
      obtain ⟨_, rfl, rfl⟩ := runs_done_iff.mp run
      exact ⟨rfl, rfl⟩
  | cons first rest =>
      obtain ⟨_, _, fields, _, rfl, collected, finished⟩ := runs_bind_iff.mp run
      obtain ⟨rfl, rfl⟩ := runs_allSecretFields collected
      obtain ⟨_, rfl, rfl⟩ := runs_done_iff.mp finished
      have same : (first :: rest).flatMap (fun name =>
          Inputs.storedFields ((final.find .secret name).map (·.spec))) =
          (first :: rest).flatMap (fun name => Inputs.storedFields (inputs.secrets name)) :=
        List.flatMap_congr fun name member => by rw [known name member]
      rw [same]
      exact ⟨rfl, rfl⟩

theorem generateConfigs_congr {toolkit : Toolkit} {first second : DataPrepperPipeline}
    (sameName : first.name = second.name)
    (sameSpace : first.metadata.nameSpace = second.metadata.nameSpace)
    (mergedSpec : DataPrepperPipelineSpec) (topicWorkers : Int) (needsPeerForwarder : Bool) :
    generateConfigs toolkit first mergedSpec topicWorkers needsPeerForwarder =
      generateConfigs toolkit second mergedSpec topicWorkers needsPeerForwarder := by
  unfold generateConfigs
  rw [sameName, sameSpace]

/-- Planning reads the inputs and computes the desired plan. -/
theorem runs_makePlan {reconciler : PipelineReconciler} {pipeline : DataPrepperPipeline}
    {outcome : Except String (Plan × DataPrepperPipeline)} (agree : inputs.AgreeWith state)
    (run : Runs Disturbed (makePlan reconciler pipeline inputs.mergedSpec).run state trace outcome
      final)
    (sameSpace : pipeline.metadata.nameSpace = inputs.nameSpace) :
    outcome.map Prod.fst = inputs.plan reconciler pipeline.name ∧
      (∀ planned, outcome = .ok planned → planned.2 = recordPeerForwarder
        (recordScaling pipeline (inputs.scaling reconciler)) planned.1.needsPeerForwarder) ∧
      final = state := by
  unfold Inputs.plan
  obtain ⟨failure, failed, rfl, rfl⟩ | ⟨processorMaps, extracted, rest⟩ :=
    runs_ofExcept_bind run
  · rw [failed]
    exact ⟨rfl, (by simp), rfl⟩
  rw [extracted]
  obtain ⟨_, _, _, _, _, scaling, configuring⟩ := runs_lift_bind rest
  obtain ⟨rfl, rfl⟩ := runs_calculateScaling agree scaling
  have sameConfigs : ∀ topicWorkers needed,
      generateConfigs reconciler.toolkit (inputs.owner pipeline.name) inputs.mergedSpec
          topicWorkers needed =
        generateConfigs reconciler.toolkit pipeline inputs.mergedSpec topicWorkers needed := by
    apply generateConfigs_congr
    · rfl
    · exact sameSpace.symm
  simp only [bind, Except.bind, sameConfigs]
  obtain ⟨failure, failed, rfl, rfl⟩ | ⟨configs, generated, hashing⟩ :=
    runs_ofExcept_bind configuring
  · rw [failed]
    exact ⟨rfl, (by simp), rfl⟩
  rw [generated]
  obtain ⟨_, _, _, _, _, pipelinesHashed, hashingConfig⟩ := runs_lift_bind hashing
  obtain ⟨rfl, _, rfl⟩ := runs_dataHash pipelinesHashed
  obtain ⟨_, _, _, _, _, configHashed, hashingSecrets⟩ := runs_lift_bind hashingConfig
  obtain ⟨rfl, _, rfl⟩ := runs_dataHash configHashed
  obtain ⟨_, _, _, _, _, secretsHashed, finished⟩ := runs_lift_bind hashingSecrets
  obtain ⟨rfl, rfl⟩ := runs_secretHash agree secretsHashed
  obtain ⟨_, rfl, rfl⟩ := runs_pure_iff.mp finished
  refine ⟨rfl, ?_, rfl⟩
  rintro _ ⟨⟩
  rfl

end Refinement

end DataPrepperOperator.Controller
