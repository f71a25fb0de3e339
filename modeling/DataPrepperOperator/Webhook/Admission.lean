import DataPrepperOperator.Controller.StatusCoherence
import DataPrepperOperator.Webhook.Agreement

/-!
# The webhook in front of the API server

With the webhook enabled, the API server asks it about every creation and every update
of a pipeline, also about those of the operator itself.  Status updates and deletions
are not reviewed.  The image check reads the defaults of the moment; everything else
that is checked depends on the pipeline alone and so holds as long as it is stored.
-/

namespace DataPrepperOperator.Webhook

open ServerProgram DataPrepperOperator.Api DataPrepperOperator.Controller
open Controller.Operator (Describes Writes planned)
open Controller.SharedPipeline (Works Workers)
open Controller.SourceDiscovery (DiscoveryReconciler)
open Controller.StatusCoherence

/-- The requests that the rules of the webhook select. -/
def reviewed : Op → Option DataPrepperPipeline
  | .create .pipeline object => some object
  | .update .pipeline object => some object
  | _ => none

/-- The webhook reads through the manager's client. -/
def readerOf (cluster : Cluster) : Reader := some fun _ name => cluster.read .defaults name

/-- How the API server words a refusal. -/
def denial (message : String) : ApiError :=
  .refused ("admission webhook \"vdataprepperpipeline.kb.io\" denied the request: " ++ message)

/-- A server that asks the webhook first. -/
inductive Admitting (faulty : (op : Op) → Reply op → Prop) : Server Cluster Op Reply where
  | unreviewed {before op reply after} : reviewed op = none →
      Serves faulty before op reply after → Admitting faulty before op reply after
  | admitted {before op reply after pipeline} : reviewed op = some pipeline →
      validatePipeline (readerOf before) pipeline = .ok () →
      Serves faulty before op reply after → Admitting faulty before op reply after
  | creationDenied {before pipeline message} :
      validatePipeline (readerOf before) pipeline = .error message →
      Admitting faulty before (.create .pipeline pipeline) (.error (denial message)) before
  | updateDenied {before pipeline message} :
      validatePipeline (readerOf before) pipeline = .error message →
      Admitting faulty before (.update .pipeline pipeline) (.error (denial message)) before

section Admitting

variable {faulty : (op : Op) → Reply op → Prop} {before after : Cluster} {op : Op}
  {reply : Reply op}

/-- To its clients a refusal is one more failure. -/
theorem Admitting.serves (admitting : Admitting faulty before op reply after) :
    Unreliable before op reply after := by
  have weaken : ∀ {op reply after}, Serves faulty before op reply after →
      Unreliable before op reply after := by
    intro op reply after served
    cases served with
    | honest honest => exact .honest honest
    | failed _ fails => exact .failed trivial fails
    | lost _ fails honest => exact .lost trivial fails honest
  cases admitting with
  | unreviewed _ served => exact weaken served
  | admitted _ _ served => exact weaken served
  | creationDenied | updateDenied => exact .failed trivial ⟨_, rfl⟩

/-- A request that is not accepted fails without an effect. -/
theorem Admitting.accepted {pipeline : DataPrepperPipeline}
    (admitting : Admitting faulty before op reply after) (review : reviewed op = some pipeline) :
    Accepted (readerOf before) pipeline ∨ after = before ∧ Fails op reply := by
  cases admitting with
  | unreviewed unreviewed _ =>
      rw [unreviewed] at review
      cases review
  | admitted again valid _ =>
      obtain rfl := Option.some.inj (review.symm.trans again)
      exact .inl (validatePipeline_ok_iff.mp valid)
  | creationDenied | updateDenied => exact .inr ⟨rfl, _, rfl⟩

end Admitting

/-- Everything that the webhook demands, except for the image. -/
structure Structured (name : String) (spec : DataPrepperPipelineSpec) : Prop where
  name : name.utf8ByteSize ≤ 244
  nonempty : spec.pipelines ≠ []
  formed : ∀ definition ∈ spec.pipelines, WellFormed definition
  distinct : (spec.pipelines.map PipelineDefinition.name).Nodup
  graph : Validation.validateGraph (graphDefs spec.pipelines) = .ok ()
  scaling : validateScaling spec.scaling = .ok ()

theorem Accepted.structured {webhookReader : Reader} {pipeline : DataPrepperPipeline}
    (accepted : Accepted webhookReader pipeline) : Structured pipeline.name pipeline.spec :=
  ⟨accepted.name, accepted.nonempty, accepted.formed, accepted.distinct, accepted.graph,
    accepted.scaling⟩

/-- Merging defaults does not touch the graph. -/
theorem Structured.mergedGraph {name : String} {spec : DataPrepperPipelineSpec}
    (structured : Structured name spec) (defaults : Option DataPrepperDefaultsSpec) :
    Validation.validateGraph (graphDefs (Defaults.mergeSpec defaults spec).pipelines) = .ok () := by
  rw [graphDefs_mergeSpec]
  exact structured.graph

/-- The status does not report an invalid configuration. -/
structure Unrejected (status : DataPrepperPipelineStatus) : Prop where
  phase : status.phase ≠ .error
  condition : ∀ valid, findStatusCondition status.conditions "ConfigValid" = some valid →
    valid.status = .true

theorem unrejected_empty : Unrejected {} :=
  ⟨by decide, fun _ found => by cases found⟩

theorem unrejected_of_planned {pipeline : DataPrepperPipeline}
    {calculated : Except String ScalingDecision} {needed : Bool}
    {status : DataPrepperPipelineStatus}
    (several : needed = true → 1 < (effectiveScaling calculated).replicas)
    (describes : Describes (planned pipeline calculated needed) false "" status) :
    Unrejected status := by
  obtain ⟨ready, updates⟩ := updates_of_describes describes
  refine ⟨?_, ?_⟩
  · rw [updates.phase, ne_eq, pipelinePhase_eq_error]
    decide
  · obtain ⟨_, _, ⟨⟨shown, found, holds, _⟩, _⟩, _⟩ := shows_planned pipeline several
    rw [updates.conditions, findStatusCondition_set_of_ne (by rw [updates.type]; decide), found]
    rintro valid ⟨⟩
    exact holds

/-- Every stored pipeline is one that the webhook could have accepted, and none is
reported as invalid. -/
def Admitted (cluster : Cluster) : Prop :=
  ∀ name pipeline, cluster.find .pipeline name = some pipeline →
    Structured name pipeline.spec ∧ Unrejected pipeline.status

/-- Status updates report no invalid configuration. -/
def ReportsValid : Op → Prop
  | .updateStatus .pipeline pipeline => Unrejected pipeline.status
  | _ => True

/-- The versions that are handed out are structured and unrejected. -/
def HandsOut (op : Op) (reply : Reply op) : Prop :=
  Expected op reply ∧
    match op, reply with
    | .get .pipeline _, .ok pipeline =>
        Structured pipeline.name pipeline.spec ∧ Unrejected pipeline.status
    | .update .pipeline _, .ok pipeline =>
        Structured pipeline.name pipeline.spec ∧ Unrejected pipeline.status
    | _, _ => True

theorem reportsValid_of_read (op : Op) (reads : op.target = none) : ReportsValid op := by
  cases op with
  | updateStatus kind object => cases reads
  | _ => trivial

theorem writesValid : Writes ReportsValid HandsOut
    (fun pipeline => Structured pipeline.name pipeline.spec ∧ Unrejected pipeline.status)
    (fun _ => True) where
  pipeline _ :=
    { reads := reportsValid_of_read
      expected := fun _ _ replies => replies.1
      fetched := fun _ replies => replies.2
      finalizers := fun _ _ _ => trivial
      stored := fun _ _ _ _ replies => replies.2
      deploys := fun _ _ _ _ _ _ _ => ⟨trivial, trivial⟩
      removes := fun _ _ _ _ _ _ => trivial
      rejects := by
        intro pipeline defaults error object held _ invalid _
        rw [held.1.mergedGraph defaults] at invalid
        cases invalid
      reports := fun _ _ _ _ _ _ several describes => unrejected_of_planned several describes }
  discovery :=
    { reads := reportsValid_of_read
      expected := fun _ _ replies => replies.1
      fetched := fun _ _ _ => trivial
      edits := fun _ _ _ _ => ⟨trivial, trivial⟩
      stored := fun _ _ _ _ _ _ => trivial
      children := fun _ _ =>
        ⟨fun _ _ _ _ => ⟨trivial, trivial⟩, fun _ => trivial, fun _ => trivial⟩
      reportsFailure := fun _ _ _ _ _ _ _ _ => trivial
      reports := fun _ _ _ _ _ _ _ _ _ _ => trivial }
  touches _ _ _ := trivial

section Serves

variable {faulty : (op : Op) → Reply op → Prop} {before after : Cluster} {op : Op}
  {reply : Reply op}

theorem handsOut_of_admitting (admitted : Admitted before)
    (admitting : Admitting faulty before op reply after) : HandsOut op reply := by
  refine ⟨admitting.serves.expected, ?_⟩
  split
  next name pipeline =>
    have found := admitting.serves.find_of_get.1
    rw [Cluster.name_of_find found]
    exact admitted _ _ found
  next asked pipeline =>
    obtain accepted | ⟨_, _, failed⟩ := admitting.accepted rfl
    · obtain ⟨sameName, sameSpec, _, stored, found, _, same⟩ :=
        admitting.serves.reply_of_update
      rw [sameName, sameSpec, same]
      exact ⟨accepted.structured, (admitted _ _ found).2⟩
    · cases failed
  next => trivial

theorem Admitted.admitting (admitted : Admitted before) (reports : ReportsValid op)
    (admitting : Admitting faulty before op reply after) : Admitted after := by
  intro name pipeline present
  cases admitting.serves.storedBy present with
  | kept found => exact admitted name pipeline found
  | @created object named absent =>
      obtain accepted | ⟨rfl, _⟩ := admitting.accepted rfl
      · rw [← named]
        exact ⟨accepted.structured, unrejected_empty⟩
      · exact admitted name _ present
  | @updated object stored named found =>
      obtain accepted | ⟨rfl, _⟩ := admitting.accepted rfl
      · have holds := (admitted name stored found).2
        rw [← named]
        exact ⟨accepted.structured, holds⟩
      · exact admitted name _ present
  | @reported object stored _ found =>
      have holds := (admitted name stored found).1
      exact ⟨holds, reports⟩
  | @marked stored found =>
      have holds := admitted name stored found
      exact holds

end Serves

/-- Other writers pass the webhook too: what they create or change was accepted at some
moment, and the conditions of the operator are not theirs. -/
def Passes (before after : Cluster) : Prop :=
  ∀ name current, after.find .pipeline name = some current →
    ((∃ reader, validatePipeline reader current = .ok ()) ∨
      ∃ previous, before.find .pipeline name = some previous ∧ current.spec = previous.spec) ∧
    (current.status = {} ∨
      ∃ previous, before.find .pipeline name = some previous ∧
        current.status.phase = previous.status.phase ∧
        findStatusCondition current.status.conditions "ConfigValid" =
          findStatusCondition previous.status.conditions "ConfigValid")

theorem Admitted.passes {before after : Cluster} (admitted : Admitted before)
    (passes : Passes before after) : Admitted after := by
  intro name current present
  obtain ⟨valid, spared⟩ := passes name current present
  refine ⟨?_, ?_⟩
  · obtain ⟨reader, accepted⟩ | ⟨previous, found, same⟩ := valid
    · rw [← Cluster.name_of_find present]
      exact (validatePipeline_ok_iff.mp accepted).structured
    · rw [same]
      exact (admitted name previous found).1
  · obtain fresh | ⟨previous, found, phase, condition⟩ := spared
    · rw [fresh]
      exact unrejected_empty
    · have holds := (admitted name previous found).2
      exact ⟨phase ▸ holds.phase, condition ▸ holds.condition⟩

section Runs

variable {faulty : (op : Op) → Reply op → Prop} {discoverer : DiscoveryReconciler}
  {deployer : PipelineReconciler} {start pool : Workers}

/-- Behind the webhook every stored pipeline can be merged with any defaults and still has
a valid graph, so the reconciler never reports one as invalid, in any interleaving. -/
theorem admitted_pipelines_never_rejected (idle : start.Idle) (initially : Admitted start.state)
    (run : Pool.Run (Admitting faulty) (Works discoverer deployer) Passes start pool)
    {name : String} {pipeline : DataPrepperPipeline}
    (stored : pool.state.find .pipeline name = some pipeline) :
    Structured name pipeline.spec ∧ Unrejected pipeline.status ∧
      ∀ defaults, Validation.validateGraph
        (graphDefs (Defaults.mergeSpec defaults pipeline.spec).pipelines) = .ok () := by
  have admitted : Admitted pool.state :=
    writesValid.invariant Admitted
      (fun _ _ _ _ admitted admitting => handsOut_of_admitting admitted admitting)
      (fun _ reports _ _ _ admitted admitting => admitted.admitting reports admitting)
      (fun _ _ admitted passes => admitted.passes passes) idle initially run
  obtain ⟨structured, unrejected⟩ := admitted name pipeline stored
  exact ⟨structured, unrejected, structured.mergedGraph⟩

end Runs

/-- The honest answers behind the webhook. -/
def answerReviewed (cluster : Cluster) : (op : Op) → Reply op × Cluster
  | .create .pipeline object =>
      match validatePipeline (readerOf cluster) object with
      | .ok () => cluster.create object
      | .error message => (.error (denial message), cluster)
  | .update .pipeline object =>
      match validatePipeline (readerOf cluster) object with
      | .ok () => cluster.update object
      | .error message => (.error (denial message), cluster)
  | op => cluster.answer op

theorem admitting_answerReviewed {faulty : (op : Op) → Reply op → Prop} (cluster : Cluster)
    (op : Op) :
    Admitting faulty cluster op (answerReviewed cluster op).1 (answerReviewed cluster op).2 := by
  unfold answerReviewed
  split
  next object =>
    split
    next valid => exact .admitted rfl valid (.honest rfl)
    next invalid => exact .creationDenied invalid
  next object =>
    split
    next valid => exact .admitted rfl valid (.honest rfl)
    next invalid => exact .updateDenied invalid
  next noCreation noUpdate =>
    refine .unreviewed ?_ (.honest (cluster.answer_honest op))
    unfold reviewed
    split
    next object => exact (noCreation object rfl).elim
    next object => exact (noUpdate object rfl).elim
    next => rfl

theorem admitted_team : Admitted SharedPipeline.teamCluster := by
  have none : Admitted Cluster.empty := by
    intro name pipeline found
    cases found
  have created : Admitting (fun _ _ => False) Cluster.empty
      (.create .pipeline SharedPipeline.teamPipeline)
      (Cluster.empty.create SharedPipeline.teamPipeline).1 SharedPipeline.teamCluster :=
    .admitted rfl (by decide +kernel) (.honest rfl)
  exact none.admitting (by trivial) created

theorem ingest_never_rejected :
    ∃ (pool : Workers) (pipeline : DataPrepperPipeline),
      Pool.Run (Admitting fun _ _ => False)
        (Works SourceDiscovery.sampleDiscoveryReconciler sampleReconciler) Passes
        ⟨SharedPipeline.teamCluster, fun _ => none⟩ pool ∧
      pool.state.find .pipeline "ingest" = some pipeline ∧ pipeline.status.phase = .pending ∧
      Unrejected pipeline.status := by
  let pool := Operator.afterRun answerReviewed SourceDiscovery.sampleDiscoveryReconciler
    sampleReconciler (.pipeline "ingest", 0) SharedPipeline.teamCluster
  have run : Pool.Run (Admitting fun _ _ => False)
      (Works SourceDiscovery.sampleDiscoveryReconciler sampleReconciler) Passes
      ⟨SharedPipeline.teamCluster, fun _ => none⟩ pool :=
    Operator.run_afterRun admitting_answerReviewed _ _
  have reported : (pool.state.find .pipeline "ingest").map (·.status.phase) = some .pending := by
    decide +kernel
  obtain ⟨pipeline, stored, phase⟩ := Option.map_eq_some_iff.mp reported
  exact ⟨pool, pipeline, run, stored, phase,
    (admitted_pipelines_never_rejected (fun _ => rfl) admitted_team run stored).2.1⟩

end DataPrepperOperator.Webhook
