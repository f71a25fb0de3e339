import DataPrepperOperator.Controller.Operator
import DataPrepperOperator.Controller.PipelineGeneration

/-!
# Coherence of the stored statuses

A status is put together from the version in hand, from the replica counts and from the
outcome of the reconcile, and it is stored on top of whatever others wrote meanwhile.
Still its parts agree with each other in every state that the workers, the API server
and other writers can reach.
-/

namespace DataPrepperOperator.Controller.StatusCoherence

open ServerProgram DataPrepperOperator.Api
open Operator (Describes PipelineWrites DiscoveryWrites Writes planned)
open SharedPipeline (Works Workers)
open SourceDiscovery (DiscoveryReconciler Rollout buildDiscoveryStatus withRollout sourceStatus)

/-- Conditions are a map with the type as its key. -/
def DistinctTypes (conditions : List Condition) : Prop :=
  (conditions.map Condition.type).Nodup

theorem find_set {condition : Condition} {type : String} (named : condition.type = type)
    (conditions : List Condition) :
    findStatusCondition (setStatusCondition condition conditions) type = some condition := by
  rw [← named]
  exact findStatusCondition_set_same condition conditions

theorem types_setStatusCondition (condition : Condition) (conditions : List Condition) :
    (setStatusCondition condition conditions).map Condition.type =
      if condition.type ∈ conditions.map Condition.type then conditions.map Condition.type
      else conditions.map Condition.type ++ [condition.type] := by
  induction conditions with
  | nil => rfl
  | cons present rest ih =>
      unfold setStatusCondition
      split
      next same => simp [same]
      next different =>
        rw [List.map_cons, ih]
        split <;> simp_all [eq_comm]

theorem DistinctTypes.setStatusCondition {conditions : List Condition}
    (distinct : DistinctTypes conditions) (condition : Condition) :
    DistinctTypes (setStatusCondition condition conditions) := by
  unfold DistinctTypes at distinct ⊢
  rw [types_setStatusCondition]
  split
  next => exact distinct
  next absent =>
    rw [← List.concat_eq_append]
    exact distinct.concat absent

/-- Nothing has been reported yet. -/
structure Blank (status : DataPrepperPipelineStatus) : Prop where
  phase : status.phase = .unset
  conditions : ∀ type ∈ ownConditionTypes, findStatusCondition status.conditions type = none

/-- How the parts of a reported status belong together. -/
structure Reported (status : DataPrepperPipelineStatus) : Prop where
  /-- The phase is the one of the counts beside it, unless the graph was rejected. -/
  phase : status.phase = .error ∨ status.phase = pipelinePhase false status
  ready : ∃ ready, findStatusCondition status.conditions "Ready" = some ready ∧
    ready.observedGeneration = status.observedGeneration ∧
    (ready.status = .true ↔ status.phase = .running)
  /-- A rejected graph is reported with one message in both conditions. -/
  configValid : ∃ valid, findStatusCondition status.conditions "ConfigValid" = some valid ∧
    valid.observedGeneration = status.observedGeneration ∧
    (valid.status = .false ↔ status.phase = .error) ∧
    (status.phase = .error → ∀ ready,
      findStatusCondition status.conditions "Ready" = some ready → ready.message = valid.message)
  /-- Scaling and forwarding are reported together, and with the rest unless the graph
  was rejected. -/
  scaling : status.phase ≠ .error → ∃ scaling,
    findStatusCondition status.conditions "ScalingReady" = some scaling ∧
      scaling.observedGeneration = status.observedGeneration
  together : ∀ scaling, findStatusCondition status.conditions "ScalingReady" = some scaling →
    ∃ forwarder, findStatusCondition status.conditions "PeerForwarderConfigured" = some forwarder ∧
      forwarder.observedGeneration = scaling.observedGeneration ∧
      (forwarder.status = .true → scaling.status = .true)

structure PipelineCoherent (status : DataPrepperPipelineStatus) : Prop where
  distinct : DistinctTypes status.conditions
  parts : Blank status ∨ Reported status

theorem pipelineCoherent_empty : PipelineCoherent {} where
  distinct := List.nodup_nil
  parts := .inl ⟨rfl, fun _ _ => rfl⟩

theorem withReadyCondition_cases (pipeline : DataPrepperPipeline) (message : String) :
    ∃ status reason text,
      withReadyCondition pipeline message = withCondition pipeline "Ready" status reason text ∧
      (status = .true ↔ pipeline.status.phase = .running ∨ pipeline.status.phase = .unset) ∧
      (pipeline.status.phase = .error → text = message) := by
  unfold withReadyCondition
  cases pipeline.status.phase <;> exact ⟨_, _, _, rfl, by simp, by simp⟩

theorem pipelinePhase_ne_unset (errorPhase : Bool) (status : DataPrepperPipelineStatus) :
    pipelinePhase errorPhase status ≠ .unset := by
  unfold pipelinePhase
  split_ifs <;> simp

theorem pipelinePhase_eq_error {errorPhase : Bool} {status : DataPrepperPipelineStatus} :
    pipelinePhase errorPhase status = .error ↔ errorPhase = true := by
  unfold pipelinePhase
  split_ifs with rejected <;> simp_all

/-- What `updateStatus` makes of the pipeline in hand. -/
structure Updates (pipeline : DataPrepperPipeline) (errorPhase : Bool) (message : String)
    (status : DataPrepperPipelineStatus) (ready : Condition) : Prop where
  type : ready.type = "Ready"
  conditions : status.conditions = setStatusCondition ready pipeline.status.conditions
  observed : status.observedGeneration = pipeline.metadata.generation
  generation : ready.observedGeneration = pipeline.metadata.generation
  running : ready.status = .true ↔ status.phase = .running
  phase : status.phase = pipelinePhase errorPhase status
  message : errorPhase = true → ready.message = message

theorem updates_of_describes {pipeline : DataPrepperPipeline} {errorPhase : Bool}
    {message : String} {status : DataPrepperPipelineStatus}
    (describes : Describes pipeline errorPhase message status) :
    ∃ ready, Updates pipeline errorPhase message status ready := by
  obtain ⟨counted, ⟨generation, _, conditions⟩, rfl⟩ := describes
  obtain ⟨truth, reason, text, made, running, rejected⟩ := withReadyCondition_cases
    { pipeline with status := { counted with phase := pipelinePhase errorPhase counted } } message
  rw [made]
  simp only [pipelinePhase_ne_unset, or_false] at running
  simp only [pipelinePhase_eq_error] at rejected
  refine ⟨⟨"Ready", truth, pipeline.metadata.generation, reason, text⟩, rfl, ?_, generation, rfl,
    running, rfl, rejected⟩
  rw [← conditions]
  rfl

/-- The conditions have one of this type, with this status and generation. -/
def Shows (conditions : List Condition) (type : String) (truth : ConditionStatus)
    (generation : Nat) : Prop :=
  ∃ condition, findStatusCondition conditions type = some condition ∧
    condition.status = truth ∧ condition.observedGeneration = generation

theorem shows_set {condition : Condition} {type : String} (named : condition.type = type)
    (conditions : List Condition) :
    Shows (setStatusCondition condition conditions) type condition.status
      condition.observedGeneration :=
  ⟨condition, find_set named conditions, rfl, rfl⟩

theorem Shows.set_other {conditions : List Condition} {type : String} {truth : ConditionStatus}
    {generation : Nat} (shows : Shows conditions type truth generation) {condition : Condition}
    (different : condition.type ≠ type) :
    Shows (setStatusCondition condition conditions) type truth generation := by
  unfold Shows at shows ⊢
  rwa [findStatusCondition_set_of_ne different]

/-- Planning sets three conditions, one after the other. -/
theorem planned_cases (pipeline : DataPrepperPipeline)
    (calculated : Except String ScalingDecision) (needed : Bool) :
    ∃ valid scaling forwarder : Condition,
      (planned pipeline calculated needed).status.conditions = setStatusCondition forwarder
        (setStatusCondition scaling (setStatusCondition valid pipeline.status.conditions)) ∧
      (valid.type = "ConfigValid" ∧ scaling.type = "ScalingReady" ∧
        forwarder.type = "PeerForwarderConfigured") ∧
      (valid.observedGeneration = pipeline.metadata.generation ∧
        scaling.observedGeneration = pipeline.metadata.generation ∧
        forwarder.observedGeneration = pipeline.metadata.generation) ∧
      valid.status = .true ∧
      (scaling.status = .true ↔ ∃ decision, calculated = .ok decision) ∧
      (forwarder.status = .true ↔ needed = true) := by
  cases calculated with
  | error message =>
      cases needed <;>
        exact ⟨_, _, _, rfl, ⟨rfl, rfl, rfl⟩, ⟨rfl, rfl, rfl⟩, rfl, by simp, by simp⟩
  | ok decision =>
      obtain ⟨replicas, topicWorkers, useHPA, kafka⟩ := decision
      cases kafka <;> cases needed <;>
        exact ⟨_, _, _, rfl, ⟨rfl, rfl, rfl⟩, ⟨rfl, rfl, rfl⟩, rfl, by simp, by simp⟩

theorem distinct_planned {pipeline : DataPrepperPipeline}
    (distinct : DistinctTypes pipeline.status.conditions)
    (calculated : Except String ScalingDecision) (needed : Bool) :
    DistinctTypes (planned pipeline calculated needed).status.conditions := by
  obtain ⟨_, _, _, conditions, _⟩ := planned_cases pipeline calculated needed
  rw [conditions]
  exact ((distinct.setStatusCondition _).setStatusCondition _).setStatusCondition _

/-- What a reconcile of a valid graph shows before the status is updated. -/
theorem shows_planned (pipeline : DataPrepperPipeline)
    {calculated : Except String ScalingDecision} {needed : Bool}
    (several : needed = true → 1 < (effectiveScaling calculated).replicas) :
    ∃ scaled forwards,
      (let conditions := (planned pipeline calculated needed).status.conditions
       let generation := pipeline.metadata.generation
       Shows conditions "ConfigValid" .true generation ∧
       Shows conditions "ScalingReady" scaled generation ∧
       Shows conditions "PeerForwarderConfigured" forwards generation) ∧
      (forwards = .true → scaled = .true) := by
  obtain ⟨valid, scaling, forwarder, conditions, ⟨validType, scalingType, forwarderType⟩,
    ⟨validGeneration, scalingGeneration, forwarderGeneration⟩, holds, scales, forwards⟩ :=
    planned_cases pipeline calculated needed
  refine ⟨scaling.status, forwarder.status, ?_, ?_⟩
  · have validShown := shows_set validType
    have scalingShown := shows_set scalingType
    have forwarderShown := shows_set forwarderType
    rw [validGeneration, holds] at validShown
    rw [scalingGeneration] at scalingShown
    rw [forwarderGeneration] at forwarderShown
    rw [conditions]
    exact ⟨((validShown _).set_other (by rw [scalingType]; decide)).set_other
        (by rw [forwarderType]; decide),
      (scalingShown _).set_other (by rw [forwarderType]; decide), forwarderShown _⟩
  · intro forwarding
    have more := several (forwards.mp forwarding)
    cases calculated with
    | ok decision => exact scales.mpr ⟨decision, rfl⟩
    | error failure => exact absurd more (lt_irrefl (1 : Int))

section Reports

variable {pipeline : DataPrepperPipeline} {status : DataPrepperPipelineStatus}

/-- A rejected graph leaves scaling and forwarding as they were reported last. -/
theorem coherent_of_rejected {message : String} (coherent : PipelineCoherent pipeline.status)
    (describes : Describes
      (withCondition pipeline "ConfigValid" .false "ValidationFailed" message) true message
      status) : PipelineCoherent status := by
  obtain ⟨ready, updates⟩ := updates_of_describes describes
  have rejected : status.phase = .error := updates.phase
  let invalid : Condition :=
    ⟨"ConfigValid", .false, pipeline.metadata.generation, "ValidationFailed", message⟩
  have conditions : status.conditions =
      setStatusCondition ready (setStatusCondition invalid pipeline.status.conditions) :=
    updates.conditions
  have others : ∀ type, "Ready" ≠ type → "ConfigValid" ≠ type →
      findStatusCondition status.conditions type =
        findStatusCondition pipeline.status.conditions type := by
    intro type notReady notValid
    rw [conditions, findStatusCondition_set_of_ne (by rwa [updates.type]),
      findStatusCondition_set_of_ne notValid]
  have readyFound : findStatusCondition status.conditions "Ready" = some ready := by
    rw [conditions]
    exact find_set updates.type _
  have invalidFound : findStatusCondition status.conditions "ConfigValid" = some invalid := by
    rw [conditions, findStatusCondition_set_of_ne (by rw [updates.type]; decide)]
    exact find_set (by rfl) _
  refine ⟨?_, .inr ⟨.inl rejected, ⟨ready, readyFound, ?_, updates.running⟩,
    ⟨invalid, invalidFound, updates.observed.symm, ?_, ?_⟩, absurd rejected, ?_⟩⟩
  · rw [conditions]
    exact (coherent.distinct.setStatusCondition _).setStatusCondition _
  · rw [updates.generation, updates.observed]
  · simp [invalid, rejected]
  · intro _ again foundAgain
    rw [readyFound, Option.some.injEq] at foundAgain
    rw [← foundAgain, updates.message rfl]
  · intro scaling scalingFound
    rw [others _ (by decide) (by decide)] at scalingFound ⊢
    obtain blank | reported := coherent.parts
    · rw [blank.conditions _ (by decide)] at scalingFound
      cases scalingFound
    · exact reported.together scaling scalingFound

/-- After a reconcile of a valid graph all four conditions are of one generation. -/
theorem coherent_of_planned {calculated : Except String ScalingDecision} {needed : Bool}
    (several : needed = true → 1 < (effectiveScaling calculated).replicas)
    (coherent : PipelineCoherent pipeline.status)
    (describes : Describes (planned pipeline calculated needed) false "" status) :
    PipelineCoherent status := by
  obtain ⟨ready, updates⟩ := updates_of_describes describes
  have accepted : status.phase ≠ .error := by
    rw [updates.phase, ne_eq, pipelinePhase_eq_error]
    decide
  have sameMeta : (planned pipeline calculated needed).metadata = pipeline.metadata := by
    rw [planned, metadata_recordPeerForwarder, metadata_recordScaling]
    rfl
  obtain ⟨scaled, forwards, shown, together⟩ := shows_planned pipeline several
  rw [← sameMeta, ← updates.observed] at shown
  obtain ⟨validShown, scalingShown, forwarderShown⟩ := shown
  have others : ∀ type truth, "Ready" ≠ type →
      Shows (planned pipeline calculated needed).status.conditions type truth
        status.observedGeneration →
      Shows status.conditions type truth status.observedGeneration := by
    intro type truth notReady shows
    rw [updates.conditions]
    exact shows.set_other (by rwa [updates.type])
  obtain ⟨valid, validFound, holds, validGeneration⟩ := others _ _ (by decide) validShown
  obtain ⟨scaling, scalingFound, scales, scalingGeneration⟩ := others _ _ (by decide) scalingShown
  obtain ⟨forwarder, forwarderFound, forwarding, forwarderGeneration⟩ :=
    others _ _ (by decide) forwarderShown
  have readyFound : findStatusCondition status.conditions "Ready" = some ready := by
    rw [updates.conditions]
    exact find_set updates.type _
  refine ⟨?_, .inr ⟨.inr updates.phase, ⟨ready, readyFound, ?_, updates.running⟩,
    ⟨valid, validFound, validGeneration, by simp [holds, accepted],
      fun error => absurd error accepted⟩,
    fun _ => ⟨scaling, scalingFound, scalingGeneration⟩, ?_⟩⟩
  · rw [updates.conditions]
    exact (distinct_planned coherent.distinct calculated needed).setStatusCondition ready
  · rw [updates.generation, updates.observed]
  · intro again foundAgain
    rw [scalingFound, Option.some.injEq] at foundAgain
    subst foundAgain
    refine ⟨forwarder, forwarderFound, forwarderGeneration.trans scalingGeneration.symm, ?_⟩
    rw [forwarding, scales]
    exact together

end Reports

def ownDiscoveryTypes : List String := ["Ready", "StagedRolloutPaused", "StagedRolloutInProgress"]

structure DiscoveryBlank (status : DataPrepperSourceDiscoveryStatus) : Prop where
  phase : status.phase = .unset
  sources : status.sources = []
  conditions : ∀ type ∈ ownDiscoveryTypes, findStatusCondition status.conditions type = none

/-- How the parts of a status that was reported for the named discovery belong together. -/
structure DiscoveryReported (name : String) (status : DataPrepperSourceDiscoveryStatus) :
    Prop where
  phase : status.phase = .running ∨ status.phase = .error
  polled : status.lastPollTime.isSome
  ready : ∃ ready, findStatusCondition status.conditions "Ready" = some ready ∧
    (ready.status = .true ↔ status.phase = .running)
  /-- The sources are counted, and each names the child it is reconciled into. -/
  counted : status.discoveredSources = Scaling.toInt32 status.sources.length
  children : ∀ source ∈ status.sources,
    source.pipelineRef = Discovery.childName name source.name
  failed : status.phase = .error → status.sources = []
  /-- A rollout is reported with the number of pending updates, also through failures, and
  is only paused while there are any. -/
  rolled : status.phase = .running → ∃ progress,
    findStatusCondition status.conditions "StagedRolloutInProgress" = some progress
  rollout : ∀ progress,
    findStatusCondition status.conditions "StagedRolloutInProgress" = some progress →
    ∃ (paused : Condition) (pending : Nat),
      findStatusCondition status.conditions "StagedRolloutPaused" = some paused ∧
      status.updatingPipelines = Scaling.toInt32 pending ∧
      (progress.status = .true ↔ 0 < pending) ∧
      (paused.status = .true → progress.status = .true)

structure DiscoveryCoherent (name : String) (status : DataPrepperSourceDiscoveryStatus) :
    Prop where
  distinct : DistinctTypes status.conditions
  /-- Orphaned pipelines are never counted. -/
  orphaned : status.orphanedPipelines = 0
  parts : DiscoveryBlank status ∨ DiscoveryReported name status

theorem discoveryCoherent_empty (name : String) : DiscoveryCoherent name {} where
  distinct := List.nodup_nil
  orphaned := rfl
  parts := .inl ⟨rfl, rfl, fun _ _ => rfl⟩

theorem exists_withCondition (discovery : DataPrepperSourceDiscovery) (type : String)
    (truth : ConditionStatus) (reason message : String) :
    ∃ condition : Condition, condition.type = type ∧ condition.status = truth ∧
      (SourceDiscovery.withCondition discovery type truth reason message).status =
        { discovery.status with
          conditions := setStatusCondition condition discovery.status.conditions } :=
  ⟨⟨type, truth, 0, reason, message⟩, rfl, rfl, rfl⟩

theorem buildDiscoveryStatus_cases (discovery : DataPrepperSourceDiscovery)
    (phase : DiscoveryPhase) (sources : List Discovery.DiscoveredSource) (message : String)
    (now : Nat) :
    ∃ ready : Condition, ready.type = "Ready" ∧ (ready.status = .true ↔ phase ≠ .error) ∧
      (buildDiscoveryStatus discovery phase sources message now).status =
        { discovery.status with
          phase := phase
          observedGeneration := discovery.metadata.generation
          discoveredSources := Scaling.toInt32 sources.length
          lastPollTime := some now
          sources := sources.map (sourceStatus discovery.name)
          conditions := setStatusCondition ready discovery.status.conditions } := by
  unfold buildDiscoveryStatus
  -- the comparison of the two records must not unfold the conversion
  generalize Scaling.toInt32 (sources.length : Int) = counted
  extract_lets _ reported
  split
  next failed =>
    obtain ⟨ready, type, truth, made⟩ := exists_withCondition reported "Ready" .false
      "DiscoveryFailed" message
    exact ⟨ready, type, by simp [truth, failed], made.trans rfl⟩
  next succeeded =>
    obtain ⟨ready, type, truth, made⟩ := exists_withCondition reported "Ready" .true
      "DiscoverySucceeded" ("Discovered " ++ toString sources.length ++ " sources")
    exact ⟨ready, type, by simp [truth, succeeded], made.trans rfl⟩

/-- A choice between two conditions of one type. -/
theorem exists_ite_withCondition {discovery : DataPrepperSourceDiscovery}
    {status : DataPrepperSourceDiscoveryStatus} (same : discovery.status = status) (type : String)
    (choice : Prop) [Decidable choice] (reason message otherReason otherMessage : String) :
    ∃ condition : Condition, condition.type = type ∧ (condition.status = .true ↔ choice) ∧
      (if choice then SourceDiscovery.withCondition discovery type .true reason message
        else SourceDiscovery.withCondition discovery type .false otherReason otherMessage).status =
        { status with conditions := setStatusCondition condition status.conditions } := by
  subst same
  split
  next chosen =>
    obtain ⟨condition, named, truth, made⟩ := exists_withCondition discovery type .true reason
      message
    exact ⟨condition, named, by simp [truth, chosen], made⟩
  next rejected =>
    obtain ⟨condition, named, truth, made⟩ := exists_withCondition discovery type .false
      otherReason otherMessage
    exact ⟨condition, named, by simp [truth, rejected], made⟩

theorem withRollout_cases (discovery : DataPrepperSourceDiscovery) (rollout : Rollout) :
    ∃ paused progress : Condition, paused.type = "StagedRolloutPaused" ∧
      progress.type = "StagedRolloutInProgress" ∧
      (paused.status = .true ↔ rollout.healthCheckFail = true) ∧
      (progress.status = .true ↔ 0 < rollout.pendingUpdates) ∧
      (withRollout discovery rollout).status =
        { discovery.status with
          updatingPipelines := Scaling.toInt32 rollout.pendingUpdates
          conditions := setStatusCondition progress
            (setStatusCondition paused discovery.status.conditions) } := by
  unfold withRollout
  generalize Scaling.toInt32 (rollout.pendingUpdates : Int) = updating
  let counted : DataPrepperSourceDiscovery :=
    { discovery with status := { discovery.status with updatingPipelines := updating } }
  obtain ⟨paused, pausedType, pauses, made⟩ := exists_ite_withCondition
    (show counted.status = { discovery.status with updatingPipelines := updating } from rfl)
    "StagedRolloutPaused" (rollout.healthCheckFail = true) "HealthCheckFailed"
    "Previously updated pipeline is unhealthy, rollout paused" "Healthy"
    "All updated pipelines are healthy"
  obtain ⟨progress, progressType, progresses, reported⟩ := exists_ite_withCondition made
    "StagedRolloutInProgress" (0 < rollout.pendingUpdates) "Updating"
    (toString rollout.pendingUpdates ++ " pipelines pending update") "Complete"
    "All pipelines are up to date"
  exact ⟨paused, progress, pausedType, progressType, pauses, progresses, reported⟩

section DiscoveryReports

variable {discovery : DataPrepperSourceDiscovery} {status : DataPrepperSourceDiscoveryStatus}
  {count : Int}

/-- A failed poll forgets the sources and keeps the rollout that was reported last. -/
theorem coherent_of_failure {message : String} {now : Nat}
    (coherent : DiscoveryCoherent discovery.name discovery.status)
    (reports : status = { (buildDiscoveryStatus discovery .error [] message now).status with
      activePipelines := count }) : DiscoveryCoherent discovery.name status := by
  obtain ⟨ready, type, truth, built⟩ :=
    buildDiscoveryStatus_cases discovery .error [] message now
  rw [built] at reports
  have others : ∀ name, "Ready" ≠ name → findStatusCondition status.conditions name =
      findStatusCondition discovery.status.conditions name := by
    intro name different
    rw [reports]
    exact findStatusCondition_set_of_ne (by rwa [type]) _
  have readyFound : findStatusCondition status.conditions "Ready" = some ready := by
    rw [reports]
    exact find_set type _
  have failed : status.phase = .error := by rw [reports]
  have forgotten : status.sources = [] := by rw [reports]; rfl
  have updating : status.updatingPipelines = discovery.status.updatingPipelines := by rw [reports]
  refine ⟨?_, ?_, .inr ⟨.inr failed, ?_, ⟨ready, readyFound, ?_⟩, ?_, ?_, fun _ => forgotten, ?_,
    ?_⟩⟩
  · rw [reports]
    exact coherent.distinct.setStatusCondition ready
  · rw [reports]
    exact coherent.orphaned
  · rw [reports]
    rfl
  · rw [truth, failed]
    simp
  · rw [forgotten, reports]
    rfl
  · simp [forgotten]
  · intro running
    rw [failed] at running
    cases running
  · intro progress found
    rw [others _ (by decide)] at found ⊢
    rw [updating]
    obtain blank | reported := coherent.parts
    · rw [blank.conditions _ (by decide)] at found
      cases found
    · exact reported.rollout progress found

theorem coherent_of_success {sources : List Discovery.DiscoveredSource} {now : Nat}
    {rollout : Rollout} (paused : rollout.healthCheckFail = true → 0 < rollout.pendingUpdates)
    (coherent : DiscoveryCoherent discovery.name discovery.status)
    (reports : status = { (withRollout (buildDiscoveryStatus discovery .running sources "" now)
      rollout).status with activePipelines := count }) :
    DiscoveryCoherent discovery.name status := by
  obtain ⟨ready, readyType, truth, built⟩ :=
    buildDiscoveryStatus_cases discovery .running sources "" now
  obtain ⟨pausing, progress, pausingType, progressType, pauses, progresses, rolled⟩ :=
    withRollout_cases (buildDiscoveryStatus discovery .running sources "" now) rollout
  rw [rolled, built] at reports
  have conditions : status.conditions = setStatusCondition progress (setStatusCondition pausing
      (setStatusCondition ready discovery.status.conditions)) := by rw [reports]
  have readyFound : findStatusCondition status.conditions "Ready" = some ready := by
    rw [conditions, findStatusCondition_set_of_ne (by rw [progressType]; decide),
      findStatusCondition_set_of_ne (by rw [pausingType]; decide),
      find_set readyType]
  have pausingFound : findStatusCondition status.conditions "StagedRolloutPaused" =
      some pausing := by
    rw [conditions, findStatusCondition_set_of_ne (by rw [progressType]; decide),
      find_set pausingType]
  have progressFound : findStatusCondition status.conditions "StagedRolloutInProgress" =
      some progress := by
    rw [conditions, find_set progressType]
  have running : status.phase = .running := by rw [reports]
  have listed : status.sources = sources.map (sourceStatus discovery.name) := by rw [reports]
  refine ⟨?_, ?_, .inr ⟨.inl running, ?_, ⟨ready, readyFound, ?_⟩, ?_, ?_, ?_,
    fun _ => ⟨progress, progressFound⟩, ?_⟩⟩
  · rw [conditions]
    exact ((coherent.distinct.setStatusCondition _).setStatusCondition _).setStatusCondition _
  · rw [reports]
    exact coherent.orphaned
  · rw [reports]
    rfl
  · rw [truth, running]
    simp
  · rw [listed, List.length_map, reports]
  · intro source member
    rw [listed, List.mem_map] at member
    obtain ⟨found, _, rfl⟩ := member
    rfl
  · intro failed
    rw [running] at failed
    cases failed
  · intro again found
    rw [progressFound, Option.some.injEq] at found
    subst found
    refine ⟨pausing, rollout.pendingUpdates, pausingFound, by rw [reports], progresses, ?_⟩
    rw [pauses, progresses]
    exact paused

end DiscoveryReports

/-- Every stored pipeline and every stored discovery has a coherent status. -/
structure Coherent (cluster : Cluster) : Prop where
  pipelines : ∀ name pipeline, cluster.find .pipeline name = some pipeline →
    PipelineCoherent pipeline.status
  discoveries : ∀ name discovery, cluster.find .sourceDiscovery name = some discovery →
    DiscoveryCoherent name discovery.status

/-- Status updates carry a coherent status. -/
def Reports : Op → Prop
  | .updateStatus .pipeline pipeline => PipelineCoherent pipeline.status
  | .updateStatus .sourceDiscovery discovery =>
      DiscoveryCoherent discovery.name discovery.status
  | _ => True

/-- The versions that are handed out have a coherent status. -/
def Replies (op : Op) (reply : Reply op) : Prop :=
  Expected op reply ∧
    match op, reply with
    | .get .pipeline _, .ok pipeline => PipelineCoherent pipeline.status
    | .update .pipeline _, .ok pipeline => PipelineCoherent pipeline.status
    | .get .sourceDiscovery _, .ok discovery =>
        DiscoveryCoherent discovery.name discovery.status
    | .update .sourceDiscovery _, .ok discovery =>
        DiscoveryCoherent discovery.name discovery.status
    | _, _ => True

theorem reports_of_read (op : Op) (reads : op.target = none) : Reports op := by
  cases op with
  | updateStatus kind object => cases reads
  | _ => trivial

theorem writes : Writes Reports Replies (fun pipeline => PipelineCoherent pipeline.status)
    (fun discovery => DiscoveryCoherent discovery.name discovery.status) where
  pipeline _ :=
    { reads := reports_of_read
      expected := fun _ _ replies => replies.1
      fetched := fun _ replies => replies.2
      finalizers := fun _ _ _ => trivial
      stored := fun _ _ _ _ replies => replies.2
      deploys := fun _ _ _ _ _ _ _ => ⟨trivial, trivial⟩
      removes := fun _ _ _ _ _ _ => trivial
      rejects := fun _ _ _ _ coherent _ _ describes => coherent_of_rejected coherent describes
      reports := fun _ _ _ _ coherent _ several describes =>
        coherent_of_planned several coherent describes }
  discovery :=
    { reads := reports_of_read
      expected := fun _ _ replies => replies.1
      fetched := fun _ _ replies => replies.2
      edits := by
        rintro discovery _ coherent ⟨finalizers, annotations, rfl⟩
        exact ⟨coherent, trivial⟩
      stored := fun _ _ _ _ _ replies => replies.2
      children := fun _ _ =>
        ⟨fun _ _ _ _ => ⟨trivial, trivial⟩, fun _ => trivial, fun _ => trivial⟩
      reportsFailure := by
        intro discovery message now count object coherent named same
        rw [Reports, named]
        exact coherent_of_failure coherent same
      reports := by
        intro discovery sources now count rollout object coherent paused named same
        rw [Reports, named]
        exact coherent_of_success paused coherent same }
  touches _ _ _ := trivial

section Serves

variable {faulty : (op : Op) → Reply op → Prop} {before after : Cluster} {op : Op}
  {reply : Reply op}

/-- Of all operations only a status update changes what a status says. -/
theorem Coherent.serves (coherent : Coherent before) (reports : Reports op)
    (served : Serves faulty before op reply after) : Coherent after where
  pipelines := by
    intro name pipeline present
    cases served.storedBy present with
    | kept found => exact coherent.pipelines name pipeline found
    | created _ _ => exact pipelineCoherent_empty
    | @updated _ stored _ found =>
        have holds := coherent.pipelines name stored found
        exact holds
    | reported _ _ => exact reports
    | @marked stored found =>
        have holds := coherent.pipelines name stored found
        exact holds
  discoveries := by
    intro name discovery present
    cases served.storedBy present with
    | kept found => exact coherent.discoveries name discovery found
    | created _ _ => exact discoveryCoherent_empty name
    | @updated _ stored _ found =>
        have holds := coherent.discoveries name stored found
        exact holds
    | reported named _ =>
        rw [← named]
        exact reports
    | @marked stored found =>
        have holds := coherent.discoveries name stored found
        exact holds

end Serves

/-- Others keep the types distinct and the conditions of the operator as they are. -/
structure SparesConditions (own : List String) (before after : List Condition) : Prop where
  distinct : DistinctTypes before → DistinctTypes after
  same : ∀ type ∈ own, findStatusCondition after type = findStatusCondition before type

/-- Other writers create objects, without a status of their own, delete and edit them, and
add conditions of their own. -/
structure Outside (before after : Cluster) : Prop where
  pipelines : ∀ name current, after.find .pipeline name = some current → current.status = {} ∨
    ∃ previous, before.find .pipeline name = some previous ∧
      current.status = { previous.status with conditions := current.status.conditions } ∧
      SparesConditions ownConditionTypes previous.status.conditions current.status.conditions
  discoveries : ∀ name current, after.find .sourceDiscovery name = some current →
    current.status = {} ∨
    ∃ previous, before.find .sourceDiscovery name = some previous ∧
      current.status = { previous.status with conditions := current.status.conditions } ∧
      SparesConditions ownDiscoveryTypes previous.status.conditions current.status.conditions

theorem PipelineCoherent.spared {before after : DataPrepperPipelineStatus}
    (coherent : PipelineCoherent before)
    (same : after = { before with conditions := after.conditions })
    (spares : SparesConditions ownConditionTypes before.conditions after.conditions) :
    PipelineCoherent after := by
  generalize after.conditions = conditions at same spares
  subst same
  have ready := spares.same "Ready" (by decide)
  have valid := spares.same "ConfigValid" (by decide)
  have scaling := spares.same "ScalingReady" (by decide)
  have forwarder := spares.same "PeerForwarderConfigured" (by decide)
  refine ⟨spares.distinct coherent.distinct, coherent.parts.imp ?_ ?_⟩
  · intro blank
    exact ⟨blank.phase, fun type own => (spares.same type own).trans (blank.conditions type own)⟩
  · intro reported
    refine ⟨reported.phase, ?_, ?_, ?_, ?_⟩
    · simpa only [ready] using reported.ready
    · simpa only [ready, valid] using reported.configValid
    · simpa only [scaling] using reported.scaling
    · simpa only [scaling, forwarder] using reported.together

theorem DiscoveryCoherent.spared {name : String}
    {before after : DataPrepperSourceDiscoveryStatus} (coherent : DiscoveryCoherent name before)
    (same : after = { before with conditions := after.conditions })
    (spares : SparesConditions ownDiscoveryTypes before.conditions after.conditions) :
    DiscoveryCoherent name after := by
  generalize after.conditions = conditions at same spares
  subst same
  have ready := spares.same "Ready" (by decide)
  have paused := spares.same "StagedRolloutPaused" (by decide)
  have progress := spares.same "StagedRolloutInProgress" (by decide)
  refine ⟨spares.distinct coherent.distinct, coherent.orphaned, coherent.parts.imp ?_ ?_⟩
  · intro blank
    exact ⟨blank.phase, blank.sources,
      fun type own => (spares.same type own).trans (blank.conditions type own)⟩
  · intro reported
    refine ⟨reported.phase, reported.polled, ?_, reported.counted, reported.children,
      reported.failed, ?_, ?_⟩
    · simpa only [ready] using reported.ready
    · simpa only [progress] using reported.rolled
    · simpa only [progress, paused] using reported.rollout

theorem Coherent.outside {before after : Cluster} (coherent : Coherent before)
    (outside : Outside before after) : Coherent after where
  pipelines := by
    intro name current present
    obtain fresh | ⟨previous, found, same, spares⟩ := outside.pipelines name current present
    · rw [fresh]
      exact pipelineCoherent_empty
    · exact (coherent.pipelines name previous found).spared same spares
  discoveries := by
    intro name current present
    obtain fresh | ⟨previous, found, same, spares⟩ := outside.discoveries name current present
    · rw [fresh]
      exact discoveryCoherent_empty name
    · exact (coherent.discoveries name previous found).spared same spares

section Runs

variable {faulty : (op : Op) → Reply op → Prop} {discoverer : DiscoveryReconciler}
  {deployer : PipelineReconciler} {start pool : Workers}

end Runs

end DataPrepperOperator.Controller.StatusCoherence
