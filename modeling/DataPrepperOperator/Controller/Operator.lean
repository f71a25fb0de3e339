import DataPrepperOperator.Controller.DiscoveryCycle
import DataPrepperOperator.Controller.SharedPipeline

/-!
# What the operator writes

The three reconcilers against any server.  For each of them a structure lists its
writes, with what is known of the object in hand and of the reason for the write; a
predicate on operations that admits these writes is never violated.  So an invariant of
the cluster that the listed writes keep holds in every interleaving of all workers.
-/

namespace DataPrepperOperator.Controller.Operator

open ServerProgram DataPrepperOperator.Api DataPrepperOperator.Discovery
open SharedPipeline (Writer Worker Works Workers)
open SourceDiscovery (DiscoveryReconciler WritesChildren)

variable {allowed : Op → Prop} {possible : (op : Op) → Reply op → Prop}

/-- The status that `updateStatus` asks for, with some replica counts. -/
def Describes (pipeline : DataPrepperPipeline) (errorPhase : Bool) (message : String)
    (status : DataPrepperPipelineStatus) : Prop :=
  ∃ counted : DataPrepperPipelineStatus,
    (counted.observedGeneration = pipeline.metadata.generation ∧
      counted.kafka = pipeline.status.kafka ∧
      counted.conditions = pipeline.status.conditions) ∧
    status = (withReadyCondition
      { pipeline with status := { counted with phase := pipelinePhase errorPhase counted } }
      message).status

/-- A child object as the mutate functions leave it. -/
structure Claims (owner : DataPrepperPipeline) {kind : Kind} (claimed : Object kind) : Prop where
  child : IsChild kind
  target : (kind, claimed.name) ∈ (Kind.serviceMonitor, owner.name) :: derivedObjects owner.name
  labels : claimed.metadata.labels = Generator.commonLabels owner.name
  controller : claimed.controllerOf = some (controllerReference owner)

/-- The pipeline in hand when the children of a valid pipeline have been deployed. -/
def planned (pipeline : DataPrepperPipeline) (calculated : Except String ScalingDecision)
    (needsPeerForwarder : Bool) : DataPrepperPipeline :=
  recordPeerForwarder
    (recordScaling
      (withCondition pipeline "ConfigValid" .true "Valid" "Pipeline configuration is valid")
      calculated)
    needsPeerForwarder

/-- The writes of the pipeline reconciler for one name, with a property of every version in
hand. -/
structure PipelineWrites (name : String) (allowed : Op → Prop)
    (possible : (op : Op) → Reply op → Prop) (held : DataPrepperPipeline → Prop) : Prop where
  reads : ∀ op, op.target = none → allowed op
  expected : ∀ op reply, possible op reply → Expected op reply
  fetched : ∀ pipeline, possible (.get .pipeline name) (.ok pipeline) → held pipeline
  finalizers : ∀ pipeline finalizers, held pipeline → allowed (.update .pipeline
    { pipeline with metadata := { pipeline.metadata with finalizers := finalizers } })
  stored : ∀ pipeline finalizers current, held pipeline → possible (.update .pipeline
    { pipeline with metadata := { pipeline.metadata with finalizers := finalizers } })
      (.ok current) → held current
  deploys : ∀ (pipeline owner : DataPrepperPipeline) (kind : Kind) (claimed : Object kind),
    held pipeline → owner.metadata = pipeline.metadata → Claims owner claimed →
    allowed (.create kind claimed) ∧ allowed (.update kind claimed)
  removes : ∀ (pipeline : DataPrepperPipeline) kind removed, held pipeline → IsChild kind →
    (kind, removed) ∈ (Kind.serviceMonitor, pipeline.name) :: derivedObjects pipeline.name →
    allowed (.delete kind removed)
  rejects : ∀ (pipeline : DataPrepperPipeline) defaults error (object : DataPrepperPipeline),
    held pipeline → object.name = pipeline.name →
    Validation.validateGraph (graphDefs (Defaults.mergeSpec defaults pipeline.spec).pipelines) =
      .error error →
    Describes (withCondition pipeline "ConfigValid" .false "ValidationFailed" error.message) true
      error.message object.status →
    allowed (.updateStatus .pipeline object)
  reports : ∀ (pipeline : DataPrepperPipeline) calculated needsPeerForwarder
    (object : DataPrepperPipeline), held pipeline → object.name = pipeline.name →
    (needsPeerForwarder = true → 1 < (effectiveScaling calculated).replicas) →
    Describes (planned pipeline calculated needsPeerForwarder) false "" object.status →
    allowed (.updateStatus .pipeline object)

section Pipeline

variable {name : String} {held : DataPrepperPipeline → Prop}

/-- Peers are only forwarded to when there is more than one replica. -/
theorem returns_makePlan (reconciler : PipelineReconciler) (pipeline : DataPrepperPipeline)
    (mergedSpec : DataPrepperPipelineSpec) :
    Returns (OnSuccess fun planned => planned.1.needsPeerForwarder = true →
      1 < planned.1.scaling.replicas) (makePlan reconciler pipeline mergedSpec).run := by
  apply Issues.bind_fallible _ (returns_fallible _)
  intro processorMaps _
  apply Issues.bind_fallible _ (returns_fallible _)
  intro calculated _
  apply Issues.bind_fallible _ (returns_fallible _)
  intro configs _
  apply Issues.bind_fallible _ (returns_fallible _)
  intro pipelinesHash _
  apply Issues.bind_fallible _ (returns_fallible _)
  intro configHash _
  apply Issues.bind_fallible _ (returns_fallible _)
  intro secrets _ needed
  simp only [Bool.and_eq_true, decide_eq_true_eq] at needed
  exact needed.2

theorem PipelineWrites.deploy (writes : PipelineWrites name allowed possible held)
    {pipeline owner : DataPrepperPipeline} {child : Child} (holds : held pipeline)
    (sameMeta : owner.metadata = pipeline.metadata) (isChild : IsChild child.kind)
    (target : child.target ∈ (Kind.serviceMonitor, owner.name) :: derivedObjects owner.name)
    (labels : child.labels = Generator.commonLabels owner.name) :
    Issues allowed possible (OnSuccess fun _ => True) (child.deploy owner).run := by
  apply issues_reconcileOrDelete (writes.reads _ rfl) writes.expected
  · intro object claimed named success
    obtain ⟨claimedLabels, _, _, controller, claimedName, _⟩ := claimWith_content success
    have claims : Claims owner claimed :=
      ⟨isChild, by rw [claimedName, named]; exact target, claimedLabels.trans labels, controller⟩
    exact writes.deploys pipeline owner child.kind claimed holds sameMeta claims
  · intro _
    apply writes.removes pipeline _ _ holds isChild
    rw [← show owner.name = pipeline.name from congrArg ObjectMeta.name sameMeta]
    exact target

theorem PipelineWrites.updateStatus (writes : PipelineWrites name allowed possible held)
    {pipeline : DataPrepperPipeline} {errorPhase : Bool} {message : String}
    (status : ∀ object : DataPrepperPipeline, object.name = pipeline.name →
      Describes pipeline errorPhase message object.status →
      allowed (.updateStatus .pipeline object)) :
    Issues allowed possible (OnSuccess fun _ => True)
      (updateStatus pipeline errorPhase message).run := by
  apply issues_updateStatus_desired writes.expected (writes.reads _ rfl) (writes.reads _ rfl)
  intro object counted named same stored
  exact status object named ⟨counted, same, stored⟩

theorem PipelineWrites.reconcileValid (writes : PipelineWrites name allowed possible held)
    (reconciler : PipelineReconciler) {pipeline : DataPrepperPipeline}
    (mergedSpec : DataPrepperPipelineSpec) (holds : held pipeline) :
    Issues allowed possible (OnSuccess fun _ => True)
      (reconcileValid reconciler pipeline mergedSpec).run := by
  apply Issues.bind_fallible _
    ((issues_makePlan_planned (.of_reads writes.reads) reconciler _).and_returns
      (returns_makePlan reconciler _ mergedSpec))
  rintro plan ⟨⟨calculated, made⟩, several⟩
  have sameMeta : plan.2.metadata = pipeline.metadata := made.plannedFor.metadata
  apply Issues.bind_fallible (fun _ => True)
  · rw [deployChildren_eq]
    apply issues_deployAll
    intro step member
    have target := List.mem_cons_of_mem (Kind.serviceMonitor, plan.2.name)
      (target_mem_derivedObjects member)
    simp only [children, List.mem_cons, List.not_mem_nil, or_false] at member
    obtain rfl | rfl | rfl | rfl | rfl | rfl | rfl := member
    all_goals exact writes.deploy holds sameMeta trivial target rfl
  · intro _ _
    apply issues_finish_reporting writes.reads reconciler
    · exact writes.deploy holds sameMeta trivial List.mem_cons_self rfl
    · apply writes.updateStatus
      intro object named described
      have target : object.name = pipeline.name :=
        named.trans (congrArg ObjectMeta.name sameMeta)
      rw [made.recorded] at described
      rw [made.scaling] at several
      exact writes.reports pipeline calculated plan.1.needsPeerForwarder object holds target
        several described

theorem PipelineWrites.reconcile (writes : PipelineWrites name allowed possible held)
    (reconciler : PipelineReconciler) :
    Issues allowed possible (OnSuccess fun _ => True) (reconcile reconciler name).run := by
  apply Issues.bind_fallible (OnSuccess held)
  · apply Issues.lift
    apply Issues.request _ (writes.reads _ rfl)
    intro reply possibleReply
    cases reply with
    | error error => trivial
    | ok pipeline => exact writes.fetched pipeline possibleReply
  intro reply holds
  cases reply with
  | error error => cases error <;> trivial
  | ok fetched =>
      change Issues _ _ _ (if fetched.metadata.deleting then _ else _ : Reconciler _).run
      split
      · unfold finalize
        split
        · apply Issues.bind_fallible (fun _ => True)
          · apply issues_wrapError
            apply issues_callApi
            exact Issues.request _ (writes.finalizers fetched _ holds)
              fun reply _ => onSuccess_true reply
          · exact fun _ _ => trivial
        · trivial
      · apply Issues.bind_fallible held
        · unfold ensureFinalizer
          split
          · exact holds
          · apply issues_wrapError
            apply issues_callApi
            apply Issues.request _ (writes.finalizers fetched _ holds)
            intro reply possibleReply
            cases reply with
            | error error => trivial
            | ok pipeline => exact writes.stored fetched _ pipeline holds possibleReply
        · intro pipeline holds
          apply Issues.bind_fallible _ (issues_fetchDefaults writes.reads)
          intro defaults _
          unfold reconcileMerged
          split
          next error invalid =>
            apply writes.updateStatus
            intro object named described
            exact writes.rejects pipeline defaults error object holds named invalid described
          next => exact writes.reconcileValid reconciler _ holds

end Pipeline

/-- Up to its bookkeeping the discovery is the one in hand. -/
def Edited (discovery edited : DataPrepperSourceDiscovery) : Prop :=
  ∃ finalizers annotations, edited = { discovery with metadata := { discovery.metadata with
    finalizers := finalizers, annotations := annotations } }

/-- The writes of the discovery reconciler, with a property of every version in hand. -/
structure DiscoveryWrites (allowed : Op → Prop) (possible : (op : Op) → Reply op → Prop)
    (held : DataPrepperSourceDiscovery → Prop) : Prop where
  reads : ∀ op, op.target = none → allowed op
  expected : ∀ op reply, possible op reply → Expected op reply
  fetched : ∀ name discovery, possible (.get .sourceDiscovery name) (.ok discovery) →
    held discovery
  edits : ∀ discovery edited, held discovery → Edited discovery edited →
    held edited ∧ allowed (.update .sourceDiscovery edited)
  stored : ∀ discovery edited current, held discovery → Edited discovery edited →
    possible (.update .sourceDiscovery edited) (.ok current) → held current
  children : ∀ discovery, held discovery → WritesChildren allowed discovery
  reportsFailure : ∀ (discovery : DataPrepperSourceDiscovery) message now count
    (object : DataPrepperSourceDiscovery), held discovery → object.name = discovery.name →
    object.status = { (SourceDiscovery.buildDiscoveryStatus discovery .error [] message now).status
      with activePipelines := count } →
    allowed (.updateStatus .sourceDiscovery object)
  reports : ∀ (discovery : DataPrepperSourceDiscovery) sources now count
    (rollout : SourceDiscovery.Rollout) (object : DataPrepperSourceDiscovery), held discovery →
    (rollout.healthCheckFail = true → 0 < rollout.pendingUpdates) →
    object.name = discovery.name →
    object.status = { (SourceDiscovery.withRollout (SourceDiscovery.buildDiscoveryStatus discovery
      .running sources "" now) rollout).status with activePipelines := count } →
    allowed (.updateStatus .sourceDiscovery object)

section Discovery

variable {held : DataPrepperSourceDiscovery → Prop}

/-- A rollout is only paused while updates are pending. -/
theorem returns_rollOut (discovery : DataPrepperSourceDiscovery)
    (desired : GoMap Desired) (existing : GoMap DataPrepperPipeline) :
    Returns (OnSuccess fun rollout : SourceDiscovery.Rollout =>
      rollout.healthCheckFail = true → 0 < rollout.pendingUpdates)
      (SourceDiscovery.rollOut discovery desired existing).run := by
  apply Issues.bind_fallible _ (returns_fallible _)
  intro creationOrder _
  apply Issues.bind_fallible _ (returns_fallible _)
  intro created _
  apply Issues.bind_fallible _ (returns_fallible _)
  intro updateOrder _
  dsimp only
  split
  · intro paused
    cases paused
  · rename_i stale
    apply Issues.bind_fallible _ (returns_fallible _)
    intro order _
    split
    · exact fun _ => List.length_pos_iff.mpr stale
    · apply Issues.bind_fallible _ (returns_fallible _)
      intro updated _ paused
      cases paused

theorem returns_reconcilePipelines (reconciler : DiscoveryReconciler)
    (discovery : DataPrepperSourceDiscovery) (sources : List DiscoveredSource) :
    Returns (OnSuccess fun rollout : SourceDiscovery.Rollout =>
      rollout.healthCheckFail = true → 0 < rollout.pendingUpdates)
      (SourceDiscovery.reconcilePipelines reconciler discovery sources).run := by
  apply Issues.bind_fallible _ (returns_fallible _)
  intro desired _
  apply Issues.bind_fallible _ (returns_fallible _)
  exact fun items _ => returns_rollOut discovery desired _

theorem edited_incrementFailureCount (discovery : DataPrepperSourceDiscovery) :
    Edited discovery (SourceDiscovery.incrementFailureCount discovery).1 :=
  ⟨_, _, rfl⟩

theorem edited_resetFailureCount (discovery : DataPrepperSourceDiscovery) :
    Edited discovery (SourceDiscovery.resetFailureCount discovery) :=
  ⟨_, _, rfl⟩

/-- The bookkeeping goes onto fresh reads until it is stored. -/
theorem DiscoveryWrites.storeFresh (writes : DiscoveryWrites allowed possible held)
    {change : DataPrepperSourceDiscovery → DataPrepperSourceDiscovery}
    (edited : ∀ discovery, Edited discovery (change discovery))
    {discovery : DataPrepperSourceDiscovery} (holds : held discovery) :
    Issues allowed possible (fun attempt => held attempt.1)
      (SourceDiscovery.retryAssigning (SourceDiscovery.storeFresh Client.update change)
        defaultRetries discovery) := by
  apply SourceDiscovery.issues_retryAssigning writes.reads _ _ _ _ holds
  · intro tried _ reply possibleReply
    cases reply with
    | error error => trivial
    | ok fresh => exact writes.fetched tried.name fresh possibleReply
  · exact fun fresh fetched => (writes.edits fresh _ fetched (edited fresh)).1
  · intro fresh fetched
    apply Issues.request _ (writes.edits fresh _ fetched (edited fresh)).2
    intro reply possibleReply
    cases reply with
    | error error => trivial
    | ok object => exact writes.stored fresh _ object fetched (edited fresh) possibleReply

theorem DiscoveryWrites.updateStatus (writes : DiscoveryWrites allowed possible held)
    {discovery : DataPrepperSourceDiscovery}
    (status : ∀ (object : DataPrepperSourceDiscovery) count, object.name = discovery.name →
      object.status = { discovery.status with activePipelines := count } →
      allowed (.updateStatus .sourceDiscovery object)) :
    Issues allowed possible (fun _ => True)
      (SourceDiscovery.updateDiscoveryStatus discovery) := by
  apply SourceDiscovery.issues_updateDiscoveryStatus writes.reads writes.expected
  intro object named same
  apply status object object.status.activePipelines named
  rw [← same]

theorem DiscoveryWrites.reportFailure (writes : DiscoveryWrites allowed possible held)
    {discovery : DataPrepperSourceDiscovery} (holds : held discovery) (message : String) :
    Issues allowed possible (fun _ => True)
      (SourceDiscovery.reportFailure discovery message) := by
  have counted := (writes.edits discovery _ holds (edited_incrementFailureCount discovery)).1
  apply Issues.bind (writes.storeFresh edited_incrementFailureCount counted)
  intro persisted current
  apply Issues.bind (issues_read writes.reads .now rfl)
  intro now _
  apply Issues.bind
  · apply writes.updateStatus
    intro object count named same
    exact writes.reportsFailure persisted.1 message now count object current named same
  · exact fun _ _ => trivial

theorem DiscoveryWrites.reconcileSources (writes : DiscoveryWrites allowed possible held)
    (reconciler : DiscoveryReconciler) {discovery : DataPrepperSourceDiscovery}
    (holds : held discovery) (sources : List DiscoveredSource) :
    Issues allowed possible (OnSuccess fun _ => True)
      (SourceDiscovery.reconcileSources reconciler discovery sources).run := by
  apply Issues.bind_fallible held
  · apply Issues.lift
    unfold SourceDiscovery.clearFailures
    split
    · exact holds
    · exact (writes.storeFresh edited_resetFailureCount holds).bind fun _ stored => stored
  intro current holds
  have children := writes.children current holds
  apply Issues.bind_fallible _
    ((SourceDiscovery.issues_reconcilePipelines writes.reads writes.expected children reconciler
      sources).and_returns (returns_reconcilePipelines reconciler current sources))
  rintro rollout ⟨_, paused⟩
  apply Issues.bind_fallible _
    (SourceDiscovery.issues_cleanupOrphans writes.reads children sources)
  intro _ _
  apply Issues.bind_fallible _ (Issues.lift (issues_read writes.reads .now rfl))
  intro now _
  apply Issues.bind_fallible
  · apply Issues.lift
    apply writes.updateStatus
    intro object count named stored
    have same : SourceDiscovery.SameSource current current := ⟨rfl, rfl, rfl⟩
    have reported := SourceDiscovery.sameSource_withRollout
      (SourceDiscovery.sameSource_buildDiscoveryStatus same .running sources "" now) rollout
    exact writes.reports current sources now count rollout object holds paused
      (named.trans reported.name) stored
  · intro stored _
    split <;> trivial

theorem DiscoveryWrites.reconcile (writes : DiscoveryWrites allowed possible held)
    (reconciler : DiscoveryReconciler) (name : String) :
    Issues allowed possible (OnSuccess fun _ => True)
      (SourceDiscovery.reconcile reconciler name).run := by
  apply Issues.bind_fallible (OnSuccess held)
  · apply Issues.lift
    apply Issues.request _ (writes.reads _ rfl)
    intro reply possibleReply
    cases reply with
    | error error => trivial
    | ok discovery => exact writes.fetched name discovery possibleReply
  intro reply holds
  cases reply with
  | error error => cases error <;> trivial
  | ok fetched =>
      have finalizers : ∀ finalizers, allowed (.update .sourceDiscovery
          { fetched with metadata := { fetched.metadata with finalizers := finalizers } }) :=
        fun finalizers => (writes.edits fetched _ holds ⟨finalizers, _, rfl⟩).2
      change Issues _ _ _ (if fetched.metadata.deleting then _ else _ : Reconciler _).run
      split
      · exact SourceDiscovery.issues_finalize writes.reads (writes.children fetched holds)
          finalizers
      · apply Issues.bind_fallible held
        · unfold SourceDiscovery.ensureFinalizer
          split
          · exact holds
          · apply issues_wrapError
            apply issues_callApi
            apply Issues.request _ (finalizers _)
            intro reply possibleReply
            cases reply with
            | error error => trivial
            | ok discovery =>
                exact writes.stored fetched _ discovery holds ⟨_, _, rfl⟩ possibleReply
        · intro discovery holds
          split
          next => trivial
          next discover chosen =>
            apply Issues.bind_fallible _
              (Issues.lift ((SourceDiscovery.issues_discoverSources writes.reads chosen).weaken
                fun _ _ => trivial))
            intro found _
            cases found with
            | error message => exact Issues.lift (writes.reportFailure holds message)
            | ok sources => exact writes.reconcileSources reconciler holds sources

end Discovery

section Defaults

variable (reads : ∀ op, op.target = none → allowed op)
  (touches : ∀ name pipeline revision, possible (.get .pipeline name) (.ok pipeline) →
    allowed (.update .pipeline (DefaultsReconciler.withRevision revision pipeline)))

include reads touches

theorem issues_touchAll (revision : String) (pipelines : List DataPrepperPipeline) :
    Issues allowed possible (OnSuccess fun _ => True)
      (DefaultsReconciler.touchAll revision pipelines).run := by
  have attempt : ∀ name, Issues allowed possible (OnSuccess fun _ => True)
      (DefaultsReconciler.touch revision name) := by
    intro name
    apply Issues.bind (Issues.request (.get .pipeline name) (reads _ rfl) fun _ => id)
    intro reply possibleReply
    cases reply with
    | error error => trivial
    | ok pipeline =>
        exact Issues.request _ (touches name pipeline revision possibleReply)
          fun reply _ => onSuccess_true reply
  induction pipelines with
  | nil => trivial
  | cons pipeline rest ih =>
      unfold DefaultsReconciler.touchAll
      split
      · exact ih
      · apply Issues.bind_fallible (fun _ => True)
        · apply Issues.bind_fallible (fun _ => True)
          · exact issues_wrapError (issues_callApi (issues_retryOnConflict (attempt _) _))
          · exact fun _ _ => trivial
        · exact fun _ _ => ih

theorem issues_defaults (name : String) :
    Issues allowed possible (OnSuccess fun _ => True)
      (DefaultsReconciler.reconcile name).run := by
  apply Issues.bind_fallible _ (Issues.lift (issues_read reads (.get .defaults name) rfl))
  intro reply _
  cases reply with
  | error error => cases error <;> trivial
  | ok defaults =>
      apply Issues.bind_fallible (fun _ => True)
      · apply issues_wrapError
        apply issues_callApi
        exact (issues_read reads (.listPipelines .everything) rfl).weaken
          fun reply _ => onSuccess_true reply
      · exact fun pipelines _ => issues_touchAll reads touches _ pipelines

end Defaults

/-- The writes of all three reconcilers. -/
structure Writes (allowed : Op → Prop) (possible : (op : Op) → Reply op → Prop)
    (pipelineHeld : DataPrepperPipeline → Prop)
    (discoveryHeld : DataPrepperSourceDiscovery → Prop) : Prop where
  pipeline : ∀ name, PipelineWrites name allowed possible pipelineHeld
  discovery : DiscoveryWrites allowed possible discoveryHeld
  touches : ∀ pipeline revision, pipelineHeld pipeline →
    allowed (.update .pipeline (DefaultsReconciler.withRevision revision pipeline))

section Workers

variable {pipelineHeld : DataPrepperPipeline → Prop}
  {discoveryHeld : DataPrepperSourceDiscovery → Prop} {discoverer : DiscoveryReconciler}
  {deployer : PipelineReconciler}

theorem Writes.works (writes : Writes allowed possible pipelineHeld discoveryHeld)
    {worker : Worker} {program : Program Op Reply (Except String Unit)}
    (works : Works discoverer deployer worker program) :
    Issues allowed possible (fun _ => True) program := by
  obtain ⟨writer, index⟩ := worker
  subst works
  have finishes : ∀ {Result : Type} {action : Reconciler Result},
      Issues allowed possible (OnSuccess fun _ => True) action.run →
      Issues allowed possible (OnSuccess fun _ => True)
        (do let _ ← action : Reconciler Unit).run :=
    fun issued => Issues.bind_fallible _ issued fun _ _ => trivial
  cases writer with
  | discovery name =>
      exact (finishes (writes.discovery.reconcile discoverer name)).weaken fun _ _ => trivial
  | defaults name =>
      exact (issues_defaults (writes.pipeline name).reads (fun name pipeline revision fetched =>
        writes.touches pipeline revision ((writes.pipeline name).fetched pipeline fetched))
        name).weaken fun _ _ => trivial
  | pipeline name =>
      exact (finishes ((writes.pipeline name).reconcile deployer)).weaken fun _ _ => trivial

/-- An invariant that the listed writes keep holds whatever the workers, the server and
the environment do. -/
theorem Writes.invariant (writes : Writes allowed possible pipelineHeld discoveryHeld)
    {server : Server Cluster Op Reply} {environment : Cluster → Cluster → Prop}
    (invariant : Cluster → Prop)
    (replies : ∀ before op reply after, invariant before → server before op reply after →
      possible op reply)
    (kept : ∀ op, allowed op → ∀ before reply after, invariant before →
      server before op reply after → invariant after)
    (environmentKeeps : ∀ before after, invariant before → environment before after →
      invariant after)
    {start pool : Workers} (idle : start.Idle) (initially : invariant start.state)
    (run : Pool.Run server (Works discoverer deployer) environment start pool) :
    invariant pool.state :=
  run.preserves replies kept environmentKeeps (fun _ _ works => writes.works works) idle initially

/-- The workers when one of them has run alone from beginning to end, with these answers. -/
def afterRun (answer : Cluster → (op : Op) → Reply op × Cluster)
    (discoverer : DiscoveryReconciler) (deployer : PipelineReconciler) (worker : Worker)
    (cluster : Cluster) : Workers :=
  ⟨((worker.1.reconcile discoverer deployer).run.execute answer cluster).2, fun _ => none⟩

theorem run_afterRun {answer : Cluster → (op : Op) → Reply op × Cluster}
    {server : Server Cluster Op Reply} {environment : Cluster → Cluster → Prop}
    (served : ∀ state op, server state op (answer state op).1 (answer state op).2)
    (worker : Worker) (cluster : Cluster) :
    Pool.Run server (Works discoverer deployer) environment ⟨cluster, fun _ => none⟩
      (afterRun answer discoverer deployer worker cluster) := by
  obtain ⟨_, runs⟩ := (worker.1.reconcile discoverer deployer).run.execute_runs served cluster
  let resting : Workers := ⟨cluster, fun _ => none⟩
  exact Pool.Run.complete runs (show resting.running worker = none from rfl) rfl

end Workers

end DataPrepperOperator.Controller.Operator
