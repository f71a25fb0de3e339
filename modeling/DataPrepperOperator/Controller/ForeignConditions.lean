import DataPrepperOperator.Controller.ReconcileSteps

/-!
# Conditions of other controllers

A reconcile sets four types of conditions.  Its status update writes the list of the
version it works with, so the conditions of other types in that version survive, and
those that others add later do not.
-/

namespace DataPrepperOperator.Controller

open ServerProgram DataPrepperOperator.Api

def ownConditionTypes : List String :=
  ["ConfigValid", "ScalingReady", "PeerForwarderConfigured", "Ready"]

/-- The conditions of types that a pipeline reconcile never sets. -/
def foreignConditions (conditions : List Condition) : List Condition :=
  conditions.filter fun condition => condition.type ∉ ownConditionTypes

theorem mem_foreignConditions {condition : Condition} {conditions : List Condition} :
    condition ∈ foreignConditions conditions ↔
      condition ∈ conditions ∧ condition.type ∉ ownConditionTypes := by
  simp [foreignConditions]

theorem foreignConditions_setStatusCondition {condition : Condition}
    (own : condition.type ∈ ownConditionTypes) (conditions : List Condition) :
    foreignConditions (setStatusCondition condition conditions) = foreignConditions conditions := by
  unfold foreignConditions
  induction conditions with
  | nil => simp [setStatusCondition, own]
  | cons present rest ih =>
      unfold setStatusCondition
      split
      next same => simp [same, own]
      next => rw [List.filter_cons, List.filter_cons, ih]

section Kept

variable {pipeline : DataPrepperPipeline}

theorem foreignConditions_withCondition {type : String} (own : type ∈ ownConditionTypes)
    (pipeline : DataPrepperPipeline) (status : ConditionStatus) (reason message : String) :
    foreignConditions (withCondition pipeline type status reason message).status.conditions =
      foreignConditions pipeline.status.conditions :=
  foreignConditions_setStatusCondition own _

theorem foreignConditions_recordScaling (pipeline : DataPrepperPipeline)
    (calculated : Except String ScalingDecision) :
    foreignConditions (recordScaling pipeline calculated).status.conditions =
      foreignConditions pipeline.status.conditions := by
  unfold recordScaling
  cases calculated with
  | error message => exact foreignConditions_withCondition (by decide) _ _ _ _
  | ok decision =>
      dsimp only
      rw [foreignConditions_withCondition (by decide)]
      split <;> rfl

theorem foreignConditions_recordPeerForwarder (pipeline : DataPrepperPipeline) (needed : Bool) :
    foreignConditions (recordPeerForwarder pipeline needed).status.conditions =
      foreignConditions pipeline.status.conditions := by
  unfold recordPeerForwarder
  split <;> exact foreignConditions_withCondition (by decide) _ _ _ _

theorem foreignConditions_of_reports {status : DataPrepperPipelineStatus}
    (reports : Reports pipeline status) :
    foreignConditions status.conditions = foreignConditions pipeline.status.conditions := by
  obtain ⟨ready, type, conditions⟩ := reports.conditions
  rw [conditions]
  exact foreignConditions_setStatusCondition (by rw [type]; decide) _

theorem foreignConditions_of_planned {toolkit : Toolkit} {mergedSpec : DataPrepperPipelineSpec}
    {calculated : Except String ScalingDecision} {plan : Plan × DataPrepperPipeline}
    (planned : Planned toolkit pipeline mergedSpec calculated plan) :
    foreignConditions plan.2.status.conditions = foreignConditions pipeline.status.conditions := by
  rw [planned.recorded, foreignConditions_recordPeerForwarder, foreignConditions_recordScaling]

/-- Every status update carries the foreign conditions of the version in hand. -/
theorem foreignConditions_of_mergedSteps {server : Server Cluster Op Reply}
    {reconciler : PipelineReconciler} {mergedSpec : DataPrepperPipelineSpec} {state : Cluster}
    {trace : List (Event Cluster Op Reply)} {event : Event Cluster Op Reply}
    {asked : DataPrepperPipeline}
    (steps : MergedSteps server reconciler pipeline mergedSpec state trace)
    (member : event ∈ trace) (updates : event.op = .updateStatus .pipeline asked) :
    asked.name = pipeline.name ∧
      foreignConditions asked.status.conditions =
        foreignConditions pipeline.status.conditions := by
  cases steps with
  | invalid _ reports =>
      have reported := reports event member
      rw [updates] at reported
      refine ⟨reported.1, (foreignConditions_of_reports reported.2).trans ?_⟩
      exact foreignConditions_withCondition (by decide) _ _ _ _
  | unplanned _ reads =>
      have read := reads event member
      rw [updates] at read
      cases read
  | planned _ planning reads executes =>
      obtain early | late := List.mem_append.mp member
      · have read := reads event early
        rw [updates] at read
        cases read
      · obtain ⟨calculated, planned⟩ := planned_of_runs planning
        obtain generated | reported := executes event late
        · rw [updates] at generated
          exact generated.elim
        · rw [updates] at reported
          refine ⟨reported.1.trans (congrArg ObjectMeta.name planned.plannedFor.metadata), ?_⟩
          rw [foreignConditions_of_reports reported.2, foreignConditions_of_planned planned]
          exact foreignConditions_withCondition (by decide) _ _ _ _

end Kept

/-- The version that a reconcile works with from the merge on: the last one it received
before. -/
def WorksWith (server : Server Cluster Op Reply) (reconciler : PipelineReconciler)
    (trace : List (Event Cluster Op Reply)) (base : DataPrepperPipeline) : Prop :=
  ∃ earlier later middle outcome final defaults, trace = earlier ++ later ∧
    LastReceived earlier base ∧
    Runs server (reconcileMerged reconciler base (Defaults.mergeSpec defaults base.spec)).run
      middle later outcome final

/-- Whatever others do during a reconcile, an accepted status update keeps the foreign
conditions that are stored at its time exactly if the version in hand has them too. -/
theorem foreign_conditions_kept_iff {faulty : (op : Op) → Reply op → Prop}
    {others : Cluster → Cluster → Prop} {reconciler : PipelineReconciler} {name : String}
    {state final : Cluster} {trace : List (Event Cluster Op Reply)}
    {outcome : Except String ReconcileResult}
    (run : Runs (Interfered others (Serves faulty)) (reconcile reconciler name).run state trace
      outcome final)
    {before after : Cluster} {asked object : DataPrepperPipeline}
    (accepted : statusAccepted before asked object after ∈ trace) :
    ∃ base stored, WorksWith (Interfered others (Serves faulty)) reconciler trace base ∧
      before.find .pipeline name = some stored ∧
      ((∀ condition ∈ foreignConditions stored.status.conditions,
          condition ∈ object.status.conditions) ↔
        ∀ condition ∈ foreignConditions stored.status.conditions,
          condition ∈ base.status.conditions) := by
  obtain ⟨between, served, _⟩ : Interfered others (Serves faulty) before
    (.updateStatus .pipeline asked) (.ok object) after := served_of_runs run _ accepted
  obtain ⟨_, stored, found, _⟩ := find_of_updateStatus served
  cases steps_of_reconcile expected_of_interfered run with
  | stopped prepares => exact (prepares _ accepted).elim
  | @merged earlier later middle base defaults _ _ named prepares received _ ran =>
      obtain early | late := List.mem_append.mp accepted
      · exact (prepares _ early).elim
      · obtain ⟨askedName, foreign⟩ := foreignConditions_of_mergedSteps
          (steps_of_reconcileMerged expected_of_interfered ran) late rfl
        have works : WorksWith (Interfered others (Serves faulty)) reconciler (earlier ++ later)
            base := ⟨earlier, later, middle, outcome, final, defaults, rfl, received, ran⟩
        have same : foreignConditions object.status.conditions =
            foreignConditions base.status.conditions := by
          rw [status_of_updateStatus served, foreign]
        refine ⟨base, stored, works, by rw [← named, ← askedName, found], ?_⟩
        apply forall₂_congr
        intro condition listed
        have type := (mem_foreignConditions.mp listed).2
        constructor
        · intro kept
          have again := mem_foreignConditions.mpr ⟨kept, type⟩
          rw [same] at again
          exact (mem_foreignConditions.mp again).1
        · intro inHand
          have again := mem_foreignConditions.mpr ⟨inHand, type⟩
          rw [← same] at again
          exact (mem_foreignConditions.mp again).1

/-- Another controller stores the status of the pipeline. -/
def StatusWrites (name : String) (before after : Cluster) : Prop :=
  ∃ object reply, object.name = name ∧ Honest before (.updateStatus .pipeline object) reply after

def audited : Condition where
  type := "Audited"
  status := .true
  reason := "Approved"
  message := ""

def withAudit (pipeline : DataPrepperPipeline) : DataPrepperPipeline :=
  { pipeline with status := { pipeline.status with
    conditions := setStatusCondition audited pipeline.status.conditions } }

/-- An auditor stores its condition after a read of the Deployment. -/
def audit : Op → Cluster → Cluster
  | .get .deployment _, cluster =>
      match cluster.find .pipeline "ingest" with
      | none => cluster
      | some stored => (cluster.updateStatus (withAudit stored)).2
  | _, cluster => cluster

theorem interference_of_audit (op : Op) (cluster : Cluster) :
    Relation.ReflTransGen (StatusWrites "ingest") cluster (audit op cluster) := by
  unfold audit
  split
  · split
    next => exact .refl
    next stored found =>
      have named : stored.name = "ingest" := Cluster.name_of_find found
      exact .single ⟨withAudit stored, _, named, rfl⟩
  · exact .refl

/-- The stored condition of the auditor is missing in the next version. -/
def dropsAudited (before : Cluster) (object : DataPrepperPipeline) : Bool :=
  (before.find .pipeline "ingest").any fun stored =>
    decide (audited ∈ foreignConditions stored.status.conditions) &&
      decide (audited ∉ object.status.conditions)

def freshPipeline : Cluster := (Cluster.empty.create (httpPipeline "ingest")).2

theorem foreign_condition_dropped :
    ∃ trace outcome final before asked object after stored,
      Runs (Interfered (StatusWrites "ingest") Reliable) (reconcile sampleReconciler "ingest").run
        freshPipeline trace outcome final ∧
      statusAccepted before asked object after ∈ trace ∧
      before.find .pipeline "ingest" = some stored ∧
      audited ∈ foreignConditions stored.status.conditions ∧
      audited ∉ object.status.conditions := by
  have dropped : ((reconcile sampleReconciler "ingest").run.trace (Cluster.answerAmid audit)
      freshPipeline).any (acceptsWith dropsAudited) = true := by decide +kernel
  obtain ⟨before, asked, object, after, member, drops⟩ := exists_of_acceptsWith dropped
  unfold dropsAudited at drops
  cases found : before.find .pipeline "ingest" with
  | none => simp [found] at drops
  | some stored =>
      rw [found, Option.any_some, Bool.and_eq_true, decide_eq_true_eq, decide_eq_true_eq] at drops
      exact ⟨_, _, _, before, asked, object, after, stored, runs_amid interference_of_audit _ _,
        member, found, drops⟩

theorem foreign_conditions_kept_audited :
    ∃ trace outcome final before asked object after base stored,
      Runs (Interfered (StatusWrites "ingest") Reliable) (reconcile sampleReconciler "ingest").run
        freshPipeline trace outcome final ∧
      statusAccepted before asked object after ∈ trace ∧
      WorksWith (Interfered (StatusWrites "ingest") Reliable) sampleReconciler trace base ∧
      before.find .pipeline "ingest" = some stored ∧
      ((∀ condition ∈ foreignConditions stored.status.conditions,
          condition ∈ object.status.conditions) ↔
        ∀ condition ∈ foreignConditions stored.status.conditions,
          condition ∈ base.status.conditions) := by
  have updated : ((reconcile sampleReconciler "ingest").run.trace (Cluster.answerAmid audit)
      freshPipeline).any (acceptsWith fun _ _ => true) = true := by decide +kernel
  obtain ⟨before, asked, object, after, member, _⟩ := exists_of_acceptsWith updated
  have run : Runs (Interfered (StatusWrites "ingest") Reliable) _ _ _ _ _ :=
    runs_amid interference_of_audit (reconcile sampleReconciler "ingest").run freshPipeline
  obtain ⟨base, stored, works, found, kept⟩ := foreign_conditions_kept_iff run member
  exact ⟨_, _, _, before, asked, object, after, base, stored, run, member, works, found, kept⟩

end DataPrepperOperator.Controller
