import DataPrepperOperator.Controller.Pipeline
import DataPrepperOperator.Discovery.Template

/-!
# The source discovery reconciler

`DataPrepperSourceDiscoveryReconciler.Reconcile` and the functions it calls, as
client programs.  Events, logs and metrics are left out.  The in-memory object
that the source passes by pointer is returned by each step that assigns to it.
-/

namespace DataPrepperOperator.Controller.SourceDiscovery

open ServerProgram DataPrepperOperator.Api DataPrepperOperator.Discovery

def defaultMaxCreationsPerCycle : Int := 10
def defaultPollInterval : Int := 30 * second
def stagedRolloutRequeue : Int := 30 * second
def maxDiscoveryBackoff : Int := 300 * second
def discoveryLabelKey : String := "dataprepper.kaasops.io/discovery"
def orphanedLabelKey : String := "dataprepper.kaasops.io/orphaned"
def templateGenerationKey : String := "dataprepper.kaasops.io/template-generation"
def discoveryFinalizerName : String := "dataprepper.kaasops.io/discovery-finalizer"
def discoveryFailureCountKey : String := "dataprepper.kaasops.io/failure-count"

structure DiscoveryReconciler where
  toolkit : Toolkit
  /-- Whether a Kafka admin client factory is configured. -/
  adminClientFactory : Bool
  /-- Whether an S3 client factory is configured. -/
  s3ClientFactory : Bool

/-- `reconcileResult`. -/
structure Rollout where
  created : Nat := 0
  updated : Nat := 0
  pendingUpdates : Nat := 0
  healthCheckFail : Bool := false
  deriving DecidableEq

def parsePollInterval (toolkit : Toolkit) (text : String) : Int :=
  if text = "" then defaultPollInterval
  else
    match toolkit.parseDuration text with
    | .error _ => defaultPollInterval
    | .ok duration => duration

def discoveryMaxCreationsPerCycle (discovery : DataPrepperSourceDiscovery) : Int :=
  match discovery.spec.maxCreationsPerCycle with
  | none => defaultMaxCreationsPerCycle
  | some limit => if 0 < limit then limit else defaultMaxCreationsPerCycle

def discoveryPollInterval (discovery : DataPrepperSourceDiscovery) : String :=
  match discovery.spec.kafka, discovery.spec.s3 with
  | some kafka, _ => kafka.pollInterval
  | none, some s3 => s3.pollInterval
  | none, none => ""

/-- An unset Kafka policy falls through to the policy for S3. -/
def discoveryCleanupPolicy (discovery : DataPrepperSourceDiscovery) : CleanupPolicy :=
  match (discovery.spec.kafka.map (·.cleanupPolicy)).getD .unset with
  | .unset =>
      match (discovery.spec.s3.map (·.cleanupPolicy)).getD .unset with
      | .unset => .delete
      | policy => policy
  | policy => policy

theorem discoveryMaxCreationsPerCycle_pos (discovery : DataPrepperSourceDiscovery) :
    0 < discoveryMaxCreationsPerCycle discovery := by
  unfold discoveryMaxCreationsPerCycle
  split
  · decide
  · split
    · assumption
    · decide

theorem discoveryCleanupPolicy_ne_unset (discovery : DataPrepperSourceDiscovery) :
    discoveryCleanupPolicy discovery ≠ .unset := by
  unfold discoveryCleanupPolicy
  split
  · split
    · simp
    · assumption
  · assumption

/-- The object with the raised counter, and the counter. -/
def incrementFailureCount (discovery : DataPrepperSourceDiscovery) :
    DataPrepperSourceDiscovery × Int :=
  let count := GoText.toInt (GoText.atoi
    ((discovery.metadata.annotations.lookup discoveryFailureCountKey).getD "") + 1)
  ({ discovery with metadata := { discovery.metadata with
      annotations := discovery.metadata.annotations.insert discoveryFailureCountKey
        (toString count) } }, count)

def resetFailureCount (discovery : DataPrepperSourceDiscovery) : DataPrepperSourceDiscovery :=
  { discovery with metadata := { discovery.metadata with
    annotations := discovery.metadata.annotations.erase discoveryFailureCountKey } }

def discoveryBackoff (failures : Int) : Int :=
  if failures ≤ 1 then defaultPollInterval
  else min (defaultPollInterval * 2 ^ (failures - 1).toNat) maxDiscoveryBackoff

/-- An object in memory, and how the last attempt to store it ended. -/
abbrev Attempt := DataPrepperSourceDiscovery × Except ApiError Unit

/-- `retry.RetryOnConflict` around a closure that assigns to an object. -/
def retryAssigning (attempt : DataPrepperSourceDiscovery → Program Op Reply Attempt) :
    Nat → DataPrepperSourceDiscovery → Program Op Reply Attempt
  | 0, discovery => attempt discovery
  | further + 1, discovery => do
      let tried ← attempt discovery
      match tried.2 with
      | .error (.conflict _ _) => retryAssigning attempt further tried.1
      | _ => pure tried

/-- Read the object again, change it, and store it. -/
def storeFresh (store : DataPrepperSourceDiscovery → Client.Call DataPrepperSourceDiscovery)
    (change : DataPrepperSourceDiscovery → DataPrepperSourceDiscovery)
    (discovery : DataPrepperSourceDiscovery) : Program Op Reply Attempt := do
  match ← Client.get .sourceDiscovery discovery.name with
  | .error error => pure (discovery, .error error)
  | .ok fresh =>
      match ← store (change fresh) with
      | .error error => pure (change fresh, .error error)
      | .ok stored => pure (stored, .ok ())

def discoverKafka (reconciler : DiscoveryReconciler) (kafka : KafkaDiscoverySpec) :
    Reconciler (List DiscoveredSource) := do
  if reconciler.adminClientFactory = false then
    throw "kafka admin client factory not configured"
  else
    let config ← kafkaConfigFromSecret kafka.bootstrapServers kafka.credentialsSecretRef
    wrapError "create kafka admin client: " (ExceptT.mk (Client.kafkaConnect config))
    KafkaDiscoverer.discover
      { client := config
        topicPrefix := kafka.topicSelector.topicPrefix
        excludePatterns := kafka.topicSelector.excludePatterns } reconciler.toolkit

def discoverS3 (reconciler : DiscoveryReconciler) (s3 : S3DiscoverySpec) :
    Reconciler (List DiscoveredSource) := do
  if reconciler.s3ClientFactory = false then
    throw "s3 client factory not configured"
  else
    let config ← s3ConfigFromSecret s3
    wrapError "create s3 client: " (ExceptT.mk (Client.s3Connect config))
    S3Discoverer.discover
      { client := config
        bucket := s3.bucket
        region := s3.region
        pathPrefix := s3.prefixSelector.pathPrefix
        depth := s3.prefixSelector.depth
        excludePatterns := s3.prefixSelector.excludePatterns
        sqsMapping := s3.sqsQueueMapping } reconciler.toolkit

/-- The configured kind of discovery; Kafka goes first. -/
def discoverSources (reconciler : DiscoveryReconciler) (spec : DataPrepperSourceDiscoverySpec) :
    Option (Reconciler (List DiscoveredSource)) :=
  match spec.kafka, spec.s3 with
  | some kafka, _ => some (discoverKafka reconciler kafka)
  | none, some s3 => some (discoverS3 reconciler s3)
  | none, none => none

def childSelector (discovery : DataPrepperSourceDiscovery) : Selector :=
  .matchingLabels discoveryLabelKey discovery.name

/-- The mutate function of creations and updates. -/
def adoptChild (discovery : DataPrepperSourceDiscovery) (wanted : Desired)
    (pipeline : DataPrepperPipeline) : Except String DataPrepperPipeline :=
  setControllerReference discovery
    { pipeline with
      metadata := { pipeline.metadata with
        labels := (pipeline.metadata.labels.insert "app.kubernetes.io/managed-by"
          "dataprepper-operator").insert discoveryLabelKey discovery.name
        annotations := pipeline.metadata.annotations.insert templateGenerationKey wanted.hash }
      spec := wanted.spec }

def writeChild (discovery : DataPrepperSourceDiscovery) (name : String) (wanted : Desired) :
    Reconciler Unit :=
  createOrUpdate (Object.named .pipeline name discovery.metadata.nameSpace)
    (adoptChild discovery wanted)

def existingByName (items : List DataPrepperPipeline) : GoMap DataPrepperPipeline :=
  items.foldl (fun table item => table.insert item.name item) ∅

/-- Phase 1: create what is missing, up to the limit. -/
def createMissing (discovery : DataPrepperSourceDiscovery) (desired : GoMap Desired)
    (existing : GoMap DataPrepperPipeline) (creationLimit : Int) :
    List String → Nat → Reconciler Nat
  | [], created => pure created
  | name :: rest, created =>
      match existing.lookup name, desired.lookup name with
      | none, some wanted =>
          if creationLimit ≤ created then
            createMissing discovery desired existing creationLimit rest created
          else do
            wrapError ("create pipeline " ++ GoText.quote name ++ ": ")
              (writeChild discovery name wanted)
            createMissing discovery desired existing creationLimit rest (created + 1)
      | _, _ => createMissing discovery desired existing creationLimit rest created

/-- Phase 2: the annotation of an existing child is not the desired hash. -/
def isStale (desired : GoMap Desired) (existing : GoMap DataPrepperPipeline)
    (name : String) : Bool :=
  match existing.lookup name, desired.lookup name with
  | some child, some wanted =>
      decide ((child.metadata.annotations.lookup templateGenerationKey).getD "" ≠ wanted.hash)
  | _, _ => false

/-- Phase 3: a child that has the desired hash is degraded or in error. -/
def isUnhealthy (desired : GoMap Desired) (existing : GoMap DataPrepperPipeline)
    (name : String) : Bool :=
  match existing.lookup name, desired.lookup name with
  | some child, some wanted =>
      decide (child.metadata.annotations ≠ ∅ ∧
        (child.metadata.annotations.lookup templateGenerationKey).getD "" = wanted.hash ∧
        (child.status.phase = .degraded ∨ child.status.phase = .error))
  | _, _ => false

def maxUpdatesPerCycle (totalPipelines : Nat) : Nat := max 1 ((totalPipelines + 4) / 5)

/-- Phase 4: update one batch. -/
def updateBatch (discovery : DataPrepperSourceDiscovery) (desired : GoMap Desired)
    (limit : Nat) : List String → Nat → Reconciler Nat
  | [], updated => pure updated
  | name :: rest, updated =>
      if limit ≤ updated then pure updated
      else
        match desired.lookup name with
        | none => updateBatch discovery desired limit rest updated
        | some wanted => do
            wrapError ("update pipeline " ++ GoText.quote name ++ ": ")
              (writeChild discovery name wanted)
            updateBatch discovery desired limit rest (updated + 1)

/-- Phases 3 and 4, for the children that need an update. -/
def updateStaged (discovery : DataPrepperSourceDiscovery) (desired : GoMap Desired)
    (existing : GoMap DataPrepperPipeline) (created : Nat) (toUpdate : List String) :
    Reconciler Rollout := do
  let order ← Fallible.lift (Client.rangeOver (GoMap.sortedKeys existing))
  if order.1.any (isUnhealthy desired existing) then
    pure { created := created, pendingUpdates := toUpdate.length, healthCheckFail := true }
  else
    let updated ← updateBatch discovery desired
      (maxUpdatesPerCycle (GoMap.sortedKeys existing).length) toUpdate 0
    pure { created := created, updated := updated, pendingUpdates := toUpdate.length - updated }

/-- Phases 1 to 4. -/
def rollOut (discovery : DataPrepperSourceDiscovery) (desired : GoMap Desired)
    (existing : GoMap DataPrepperPipeline) : Reconciler Rollout := do
  let creationOrder ← Fallible.lift (Client.rangeOver (GoMap.sortedKeys desired))
  let created ← createMissing discovery desired existing
    (discoveryMaxCreationsPerCycle discovery) creationOrder.1 0
  let updateOrder ← Fallible.lift (Client.rangeOver (GoMap.sortedKeys desired))
  let toUpdate := updateOrder.1.filter (isStale desired existing)
  if toUpdate = [] then
    pure { created := created }
  else
    updateStaged discovery desired existing created toUpdate

/-- Everything is rendered before the first child is written. -/
def reconcilePipelines (reconciler : DiscoveryReconciler)
    (discovery : DataPrepperSourceDiscovery) (sources : List DiscoveredSource) :
    Reconciler Rollout := do
  let desired ← Fallible.ofExcept (desiredPipelines reconciler.toolkit discovery sources ∅)
  let items ← wrapError "list child pipelines: "
    (callApi (Client.listPipelines (childSelector discovery)))
  rollOut discovery desired (existingByName items)

def removeOwnerRef (references : List OwnerReference) (uid : String) : List OwnerReference :=
  references.filter fun reference => decide (reference.uid ≠ uid)

/-- A child that is let go. -/
def orphaned (discovery : DataPrepperSourceDiscovery) (pipeline : DataPrepperPipeline) :
    DataPrepperPipeline :=
  { pipeline with metadata := { pipeline.metadata with
    ownerReferences := removeOwnerRef pipeline.metadata.ownerReferences discovery.metadata.uid
    labels := (pipeline.metadata.labels.erase discoveryLabelKey).insert orphanedLabelKey
      "true" } }

def orphan (discovery : DataPrepperSourceDiscovery) (pipeline : DataPrepperPipeline) :
    Reconciler Unit := do
  let _ ← wrapError ("orphan pipeline " ++ GoText.quote pipeline.name ++ ": ")
    (callApi (Client.update (orphaned discovery pipeline)))

def cleanUp (discovery : DataPrepperSourceDiscovery) (pipeline : DataPrepperPipeline) :
    Reconciler Unit :=
  match discoveryCleanupPolicy discovery with
  | .delete =>
      wrapError ("delete orphaned pipeline " ++ GoText.quote pipeline.name ++ ": ")
        (callApi (Client.delete .pipeline pipeline.name))
  | .orphan => orphan discovery pipeline
  | .unset => pure ()

/-- Clean up the children that are not active, up to the first failure. -/
def cleanUpAll (discovery : DataPrepperSourceDiscovery) (activeNames : List String) :
    List DataPrepperPipeline → Reconciler Unit
  | [] => pure ()
  | pipeline :: rest =>
      if pipeline.name ∈ activeNames then cleanUpAll discovery activeNames rest
      else do
        cleanUp discovery pipeline
        cleanUpAll discovery activeNames rest

/-- The names that the sources keep alive. -/
def activeNames (discovery : String) (sources : List DiscoveredSource) : List String :=
  sources.map fun source => childName discovery source.name

def cleanupOrphans (discovery : DataPrepperSourceDiscovery) (sources : List DiscoveredSource) :
    Reconciler Unit := do
  let items ← wrapError "list child pipelines: "
    (callApi (Client.listPipelines (childSelector discovery)))
  cleanUpAll discovery (activeNames discovery.name sources) items

/-- Only the orphan policy does anything; owner references delete the others. -/
def orphanAll (discovery : DataPrepperSourceDiscovery) :
    List DataPrepperPipeline → Reconciler Unit
  | [] => pure ()
  | pipeline :: rest => do
      orphan discovery pipeline
      orphanAll discovery rest

def cleanupOnDeletion (discovery : DataPrepperSourceDiscovery) : Reconciler Unit := do
  let items ← wrapError "list child pipelines: "
    (callApi (Client.listPipelines (childSelector discovery)))
  match discoveryCleanupPolicy discovery with
  | .orphan => orphanAll discovery items
  | .delete | .unset => pure ()

/-- The conditions of a discovery carry no generation. -/
def withCondition (discovery : DataPrepperSourceDiscovery) (type : String)
    (status : ConditionStatus) (reason message : String) : DataPrepperSourceDiscovery :=
  { discovery with status := { discovery.status with
    conditions := setStatusCondition
      { type := type, status := status, reason := reason, message := message }
      discovery.status.conditions } }

/-- The partition count among the metadata, zero without one. -/
def partitionsOf (metadata : Value.Fields) : Int :=
  match metadata.lookup "partitions" with
  | some (.number partitions) => partitions.num
  | _ => 0

def sourceStatus (discovery : String) (source : DiscoveredSource) : DiscoveredSourceStatus where
  name := source.name
  partitions := partitionsOf source.metadata
  pipelineRef := childName discovery source.name
  status := "Active"

def buildDiscoveryStatus (discovery : DataPrepperSourceDiscovery) (phase : DiscoveryPhase)
    (sources : List DiscoveredSource) (message : String) (now : Nat) :
    DataPrepperSourceDiscovery :=
  let reported : DataPrepperSourceDiscovery :=
    { discovery with status := { discovery.status with
      phase := phase
      observedGeneration := discovery.metadata.generation
      discoveredSources := Scaling.toInt32 sources.length
      lastPollTime := some now
      sources := sources.map (sourceStatus discovery.name) } }
  if phase = .error then withCondition reported "Ready" .false "DiscoveryFailed" message
  else
    withCondition reported "Ready" .true "DiscoverySucceeded"
      ("Discovered " ++ toString sources.length ++ " sources")

def withRollout (discovery : DataPrepperSourceDiscovery) (rollout : Rollout) :
    DataPrepperSourceDiscovery :=
  let counted : DataPrepperSourceDiscovery :=
    { discovery with status := { discovery.status with
      updatingPipelines := Scaling.toInt32 rollout.pendingUpdates } }
  let paused :=
    if rollout.healthCheckFail then
      withCondition counted "StagedRolloutPaused" .true "HealthCheckFailed"
        "Previously updated pipeline is unhealthy, rollout paused"
    else
      withCondition counted "StagedRolloutPaused" .false "Healthy"
        "All updated pipelines are healthy"
  if 0 < rollout.pendingUpdates then
    withCondition paused "StagedRolloutInProgress" .true "Updating"
      (toString rollout.pendingUpdates ++ " pipelines pending update")
  else
    withCondition paused "StagedRolloutInProgress" .false "Complete"
      "All pipelines are up to date"

/-- The number of children, if they can be listed. -/
def countActive (discovery : DataPrepperSourceDiscovery) :
    Program Op Reply DataPrepperSourceDiscoveryStatus := do
  match ← Client.listPipelines (childSelector discovery) with
  | .error _ => pure discovery.status
  | .ok items =>
      pure { discovery.status with activePipelines := Scaling.toInt32 items.length }

def updateDiscoveryStatus (discovery : DataPrepperSourceDiscovery) : Program Op Reply Attempt := do
  let status ← countActive discovery
  retryAssigning (storeFresh Client.updateStatus fun fresh => { fresh with status := status })
    defaultRetries discovery

def requeue (toolkit : Toolkit) (discovery : DataPrepperSourceDiscovery) (rollout : Rollout)
    (sources : Nat) : ReconcileResult :=
  if discoveryMaxCreationsPerCycle discovery ≤ rollout.created ∧ rollout.created < sources then
    { requeueAfter := 1 * second }
  else if 0 < rollout.pendingUpdates then
    { requeueAfter := stagedRolloutRequeue }
  else
    { requeueAfter := parsePollInterval toolkit (discoveryPollInterval discovery) }

/-- A failed discovery is counted and reported; nothing of that can fail the
reconcile. -/
def reportFailure (discovery : DataPrepperSourceDiscovery) (message : String) :
    Program Op Reply ReconcileResult := do
  let counted := incrementFailureCount discovery
  let persisted ← retryAssigning
    (storeFresh Client.update fun fresh => (incrementFailureCount fresh).1) defaultRetries counted.1
  let now ← Client.now
  let _ ← updateDiscoveryStatus (buildDiscoveryStatus persisted.1 .error [] message now)
  pure { requeueAfter := discoveryBackoff counted.2 }

def clearFailures (discovery : DataPrepperSourceDiscovery) :
    Program Op Reply DataPrepperSourceDiscovery := do
  if (discovery.metadata.annotations.lookup discoveryFailureCountKey).getD "" = "" then
    pure discovery
  else
    let stored ← retryAssigning (storeFresh Client.update resetFailureCount) defaultRetries
      discovery
    pure stored.1

/-- Steps 5 to 7, after the children are reconciled. -/
def report (reconciler : DiscoveryReconciler) (discovery : DataPrepperSourceDiscovery)
    (sources : List DiscoveredSource) (rollout : Rollout) : Reconciler ReconcileResult := do
  let now ← Fallible.lift Client.now
  let stored ← Fallible.lift (updateDiscoveryStatus
    (withRollout (buildDiscoveryStatus discovery .running sources "" now) rollout))
  match stored.2 with
  | .error error => throw ("update discovery status: " ++ error.message)
  | .ok () => pure (requeue reconciler.toolkit stored.1 rollout sources.length)

/-- Steps 3 to 7, with the discovered sources. -/
def reconcileSources (reconciler : DiscoveryReconciler) (discovery : DataPrepperSourceDiscovery)
    (sources : List DiscoveredSource) : Reconciler ReconcileResult := do
  let current ← Fallible.lift (clearFailures discovery)
  let rollout ← reconcilePipelines reconciler current sources
  cleanupOrphans current sources
  report reconciler current sources rollout

def runCycle (reconciler : DiscoveryReconciler) (discovery : DataPrepperSourceDiscovery)
    (discover : Reconciler (List DiscoveredSource)) : Reconciler ReconcileResult := do
  match ← Fallible.lift discover.run with
  | .error message => Fallible.lift (reportFailure discovery message)
  | .ok sources => reconcileSources reconciler discovery sources

/-- A discovery being deleted lets its children go and loses its finalizer. -/
def finalize (discovery : DataPrepperSourceDiscovery) : Reconciler ReconcileResult := do
  if discoveryFinalizerName ∈ discovery.metadata.finalizers then
    wrapError "cleanup on deletion: " (cleanupOnDeletion discovery)
    let _ ← wrapError "remove finalizer: " (callApi (Client.update
      { discovery with metadata := { discovery.metadata with
        finalizers := discovery.metadata.finalizers.filter (· ≠ discoveryFinalizerName) } }))
    pure {}
  else
    pure {}

def ensureFinalizer (discovery : DataPrepperSourceDiscovery) :
    Reconciler DataPrepperSourceDiscovery :=
  if discoveryFinalizerName ∈ discovery.metadata.finalizers then pure discovery
  else
    wrapError "add finalizer: " (callApi (Client.update
      { discovery with metadata := { discovery.metadata with
        finalizers := discovery.metadata.finalizers ++ [discoveryFinalizerName] } }))

def reconcileLive (reconciler : DiscoveryReconciler) (fetched : DataPrepperSourceDiscovery) :
    Reconciler ReconcileResult := do
  let discovery ← ensureFinalizer fetched
  match discoverSources reconciler discovery.spec with
  | none => pure {}
  | some discover => runCycle reconciler discovery discover

def reconcile (reconciler : DiscoveryReconciler) (name : String) :
    Reconciler ReconcileResult := do
  match ← Fallible.lift (Client.get .sourceDiscovery name) with
  | .error (.notFound _ _) => pure {}
  | .error error => throw error.message
  | .ok discovery =>
      if discovery.metadata.deleting then finalize discovery
      else reconcileLive reconciler discovery

/-- The stand-ins, with a hash that keeps the first bytes of its input. -/
def sampleDiscoveryReconciler : DiscoveryReconciler where
  toolkit :=
    { sampleToolkit with
      sha256 := fun bytes => (bytes ++ List.replicate 32 0).take 32
      sha256_length := length_take_padded }
  adminClientFactory := true
  s3ClientFactory := false

/-- A discovery of all topics, with one image for every child. -/
def topicDiscovery (image : String) (policy : CleanupPolicy) : DataPrepperSourceDiscovery where
  metadata :=
    { name := "topics", nameSpace := "logs", finalizers := [discoveryFinalizerName] }
  spec :=
    { kafka := some
        { bootstrapServers := ["kafka:9092"]
          topicSelector := { topicPrefix := "" }
          cleanupPolicy := policy }
      pipelineTemplate := { spec := { image := image } } }
  status := {}

/-- The brokers have these topics. -/
def withTopics (topics : List String) (cluster : Cluster) : Cluster :=
  { cluster with
    kafka := fun _ => .ok
      { partitionCount := fun _ => .ok 1, topics := .ok (topics.map fun topic => (topic, 1)) } }

/-- The state after one cycle of the sample discovery. -/
def afterCycle (cluster : Cluster) : Cluster :=
  ((reconcile sampleDiscoveryReconciler "topics").run.execute Cluster.answer cluster).2

/-- The user changes the spec of the sample discovery. -/
def withDiscoverySpec (spec : DataPrepperSourceDiscoverySpec) (cluster : Cluster) : Cluster :=
  match cluster.find .sourceDiscovery "topics" with
  | some stored => (cluster.update { stored with spec := spec }).2
  | none => cluster

end DataPrepperOperator.Controller.SourceDiscovery
