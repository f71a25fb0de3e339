import DataPrepperOperator.Api.Versions
import DataPrepperOperator.Controller.Generated

/-!
# The steps of a pipeline reconcile

A reconcile first takes a version of the pipeline in hand, then reads the defaults, and
works from there on with that version and the merged spec.  This holds against any
server, in particular one whose state others change between the calls.
-/

namespace DataPrepperOperator.Controller

open ServerProgram DataPrepperOperator.Api

/-- The server accepts a status update and answers with what it stored. -/
abbrev statusAccepted (before : Cluster) (asked object : DataPrepperPipeline) (after : Cluster) :
    Event Cluster Op Reply :=
  ⟨before, .updateStatus .pipeline asked, .ok object, after⟩

/-- An accepted status update with a property of the state before it and of what it stored. -/
def acceptsWith (check : Cluster → DataPrepperPipeline → Bool) : Event Cluster Op Reply → Bool
  | ⟨before, .updateStatus .pipeline _, .ok object, _⟩ => check before object
  | _ => false

theorem exists_of_acceptsWith {check : Cluster → DataPrepperPipeline → Bool}
    {trace : List (Event Cluster Op Reply)} (some : trace.any (acceptsWith check) = true) :
    ∃ before asked object after, statusAccepted before asked object after ∈ trace ∧
      check before object = true := by
  obtain ⟨event, member, accepts⟩ := List.any_eq_true.mp some
  unfold acceptsWith at accepts
  split at accepts
  next before asked object after => exact ⟨before, asked, object, after, member, accepts⟩
  next => cases accepts

/-- A status update that reports on the pipeline in hand, or a read. -/
def ReportsStatus (pipeline : DataPrepperPipeline) : Op → Prop
  | .updateStatus .pipeline object =>
      object.name = pipeline.name ∧ Reports pipeline object.status
  | op => op.target = none

theorem reportsStatus_of_read {pipeline : DataPrepperPipeline} (op : Op)
    (reads : op.target = none) : ReportsStatus pipeline op := by
  unfold ReportsStatus
  split
  · cases reads
  · exact reads

/-- What a reconcile does with a merged spec: report an invalid graph, stop without a plan,
or execute one plan and report. -/
inductive MergedSteps (server : Server Cluster Op Reply) (reconciler : PipelineReconciler)
    (pipeline : DataPrepperPipeline) (mergedSpec : DataPrepperPipelineSpec) (state : Cluster) :
    List (Event Cluster Op Reply) → Prop where
  | invalid {trace error} :
      Validation.validateGraph (graphDefs mergedSpec.pipelines) = .error error →
      (∀ event ∈ trace, ReportsStatus (withCondition pipeline "ConfigValid" .false
        "ValidationFailed" error.message) event.op) →
      MergedSteps server reconciler pipeline mergedSpec state trace
  | unplanned {trace} :
      Validation.validateGraph (graphDefs mergedSpec.pipelines) = .ok () →
      (∀ event ∈ trace, event.op.target = none) →
      MergedSteps server reconciler pipeline mergedSpec state trace
  | planned {planning executing middle plan} :
      Validation.validateGraph (graphDefs mergedSpec.pipelines) = .ok () →
      Runs server (makePlan reconciler (withCondition pipeline "ConfigValid" .true "Valid"
        "Pipeline configuration is valid") mergedSpec).run state planning (.ok plan) middle →
      (∀ event ∈ planning, event.op.target = none) →
      (∀ event ∈ executing, WritesGenerated plan.2 mergedSpec plan.1 event.op ∨
        ReportsStatus plan.2 event.op) →
      MergedSteps server reconciler pipeline mergedSpec state (planning ++ executing)

section Merged

variable {server : Server Cluster Op Reply}
  (expected : ∀ before op reply after, server before op reply after → Expected op reply)
  {reconciler : PipelineReconciler} {pipeline : DataPrepperPipeline}
  {mergedSpec : DataPrepperPipelineSpec} {state final : Cluster}
  {trace : List (Event Cluster Op Reply)} {outcome : Except String ReconcileResult}

include expected

theorem reports_of_updateStatus {errorPhase : Bool} {message : String}
    (run : Runs server (updateStatus pipeline errorPhase message).run state trace outcome final) :
    ∀ event ∈ trace, ReportsStatus pipeline event.op :=
  ((issues_updateStatus (fun _ _ => id) (reportsStatus_of_read _ rfl)
    (reportsStatus_of_read _ rfl) (fun _ named reports => ⟨named, reports⟩) errorPhase
    message).runs expected run).2

theorem executes_of_finish {plan : Plan}
    (run : Runs server (finish reconciler pipeline mergedSpec).run state trace outcome final) :
    ∀ event ∈ trace, WritesGenerated pipeline mergedSpec plan event.op ∨
      ReportsStatus pipeline event.op := by
  have monitored := writesGenerated_deployServiceMonitor pipeline mergedSpec plan reconciler
  rcases runs_fallible_bind_iff.mp run with
    ⟨failure, rfl, failed⟩ | ⟨deploying, _, _, rest, rfl, deployed, continued⟩
  · exact fun event member => .inl ((monitored.runs expected failed).2 event member)
  · obtain ⟨listing, _, _, reporting, rfl, listed, reported⟩ := runs_lift_bind continued
    obtain ⟨_, rfl⟩ := runs_request_iff.mp listed
    intro event member
    obtain early | late := List.mem_append.mp member
    · exact .inl ((monitored.runs expected deployed).2 event early)
    · obtain read | later := List.mem_append.mp late
      · rw [List.mem_singleton.mp read]
        exact .inl trivial
      · exact .inr (reports_of_updateStatus expected reported event later)

theorem steps_of_reconcileMerged
    (run : Runs server (reconcileMerged reconciler pipeline mergedSpec).run state trace outcome
      final) : MergedSteps server reconciler pipeline mergedSpec state trace := by
  unfold reconcileMerged at run
  cases verdict : Validation.validateGraph (graphDefs mergedSpec.pipelines) with
  | error error =>
      rw [verdict] at run
      exact .invalid verdict (reports_of_updateStatus expected run)
  | ok _ =>
      rw [verdict] at run
      have reads : Issues (fun op : Op => op.target = none) (fun _ _ => True)
          (OnSuccess fun _ => True) (makePlan reconciler (withCondition pipeline "ConfigValid" .true
            "Valid" "Pipeline configuration is valid") mergedSpec).run :=
        (issues_makePlan (fun _ reads => reads) reconciler _ mergedSpec).weaken
          fun result _ => by cases result <;> trivial
      rcases runs_fallible_bind_iff.mp run with
        ⟨failure, rfl, failed⟩ | ⟨planning, middle, plan, rest, rfl, planned, continued⟩
      · exact .unplanned verdict (reads.runs (fun _ _ _ _ _ => trivial) failed).2
      · refine .planned verdict planned (reads.runs (fun _ _ _ _ _ => trivial) planned).2 ?_
        have deploys := writesGenerated_deployChildren plan.2 mergedSpec plan.1
        rcases runs_fallible_bind_iff.mp continued with
          ⟨failure, rfl, failed⟩ | ⟨deploying, _, _, finishing, rfl, deployed, finished⟩
        · exact fun event member => .inl ((deploys.runs expected failed).2 event member)
        · intro event member
          obtain early | late := List.mem_append.mp member
          · exact .inl ((deploys.runs expected deployed).2 event early)
          · exact executes_of_finish expected finished event late

end Merged

/-- What is called before the merge: the pipeline is read and its finalizer set, and the
defaults are read. -/
def Prepares (name : String) : Op → Prop
  | .get .pipeline target => target = name
  | .update .pipeline object => object.name = name
  | .get .defaults _ => True
  | _ => False

/-- The event answers with these defaults; any error counts as none. -/
inductive AnswersDefaults : Event Cluster Op Reply → Option DataPrepperDefaultsSpec → Prop where
  | found {before after : Cluster} {defaults : DataPrepperDefaults} :
      AnswersDefaults ⟨before, .get .defaults "default", .ok defaults, after⟩ (some defaults.spec)
  | missing {before after : Cluster} {error : ApiError} :
      AnswersDefaults ⟨before, .get .defaults "default", .error error, after⟩ none

/-- A reconcile stops early, or works with the last version it received. -/
inductive ReconcileSteps (server : Server Cluster Op Reply) (reconciler : PipelineReconciler)
    (name : String) : List (Event Cluster Op Reply) → Except String ReconcileResult → Cluster →
    Prop where
  | stopped {trace outcome final} :
      (∀ event ∈ trace, Prepares name event.op) →
      ReconcileSteps server reconciler name trace outcome final
  | merged {earlier later middle base defaults outcome final} :
      base.name = name →
      (∀ event ∈ earlier, Prepares name event.op) →
      LastReceived earlier (base : DataPrepperPipeline) →
      (∃ event ∈ earlier, AnswersDefaults event defaults) →
      Runs server (reconcileMerged reconciler base (Defaults.mergeSpec defaults base.spec)).run
        middle later outcome final →
      ReconcileSteps server reconciler name (earlier ++ later) outcome final

section Steps

variable {server : Server Cluster Op Reply}
  (expected : ∀ before op reply after, server before op reply after → Expected op reply)
  {reconciler : PipelineReconciler} {name : String} {state final : Cluster}
  {trace earlier later : List (Event Cluster Op Reply)} {outcome : Except String ReconcileResult}

theorem prepares_of_finalize {pipeline : DataPrepperPipeline} (named : pipeline.name = name)
    (run : Runs server (finalize pipeline).run state trace outcome final) :
    ∀ event ∈ trace, Prepares name event.op := by
  have issued : Issues (Prepares name) (fun _ _ => True) (OnSuccess fun _ => True)
      (finalize pipeline).run :=
    issues_finalize fun _ sameName _ => sameName.trans named
  exact (issued.runs (fun _ _ _ _ _ => trivial) run).2

theorem prepares_of_ensureFinalizer {fetched : DataPrepperPipeline}
    {ensured : Except String DataPrepperPipeline} (named : fetched.name = name)
    (run : Runs server (ensureFinalizer fetched).run state trace ensured final) :
    ∀ event ∈ trace, Prepares name event.op := by
  unfold ensureFinalizer at run
  split at run
  · obtain ⟨rfl, _, _⟩ := runs_pure_iff.mp run
    simp
  · obtain ⟨_, ran, _⟩ := runs_of_wrapError run
    obtain ⟨_, called, _⟩ := runs_of_callApi ran
    obtain ⟨_, rfl⟩ := runs_request_iff.mp called
    exact List.forall_mem_singleton.mpr named

include expected in
/-- The finalizer is there already, or the stored version replaces the one in hand. -/
theorem lastReceived_of_ensureFinalizer {fetched base : DataPrepperPipeline}
    (named : fetched.name = name) (received : LastReceived earlier fetched)
    (run : Runs server (ensureFinalizer fetched).run state trace (.ok base) final) :
    base.name = name ∧ LastReceived (earlier ++ trace) base := by
  unfold ensureFinalizer at run
  split at run
  · obtain ⟨rfl, same, rfl⟩ := runs_pure_iff.mp run
    cases same
    exact ⟨named, by rwa [List.append_nil]⟩
  · obtain ⟨served, rfl⟩ := runs_request_iff.mp (runs_callApi_ok (runs_wrapError_ok run))
    exact ⟨(expected _ _ _ _ served base rfl).1.trans named, .of_receives .stored⟩

theorem answersDefaults_of_fetchDefaults {defaults : Except String (Option DataPrepperDefaultsSpec)}
    (run : Runs server fetchDefaults.run state trace defaults final) :
    ∃ event found, trace = [event] ∧ defaults = .ok found ∧ AnswersDefaults event found := by
  obtain ⟨_, _, reply, _, rfl, reading, finished⟩ := runs_lift_bind run
  obtain ⟨_, rfl⟩ := runs_request_iff.mp reading
  cases reply with
  | error error =>
      obtain ⟨rfl, rfl, _⟩ := runs_pure_iff.mp finished
      exact ⟨_, _, rfl, rfl, .missing⟩
  | ok found =>
      obtain ⟨rfl, rfl, _⟩ := runs_pure_iff.mp finished
      exact ⟨_, _, rfl, rfl, .found⟩

theorem prepares_of_answersDefaults (name : String) {event : Event Cluster Op Reply}
    {defaults : Option DataPrepperDefaultsSpec} (answers : AnswersDefaults event defaults) :
    Prepares name event.op ∧ ∀ version : DataPrepperPipeline, ¬Receives event version := by
  cases answers with
  | found | missing => exact ⟨trivial, by rintro _ ⟨⟩⟩

include expected in
theorem steps_of_reconcile
    (run : Runs server (reconcile reconciler name).run state trace outcome final) :
    ReconcileSteps server reconciler name trace outcome final := by
  obtain ⟨reply, middle, rest, served, rfl, continued⟩ := runs_ask_bind run
  have first : Prepares name (Op.get .pipeline name) := rfl
  cases reply with
  | error error =>
      have ended : rest = [] := by
        cases error <;> exact (runs_done_iff.mp continued).1
      subst ended
      exact .stopped (List.forall_mem_singleton.mpr first)
  | ok fetched =>
      have named : fetched.name = name := expected _ _ _ _ served fetched rfl
      have received : LastReceived [⟨state, .get .pipeline name, .ok fetched, middle⟩] fetched :=
        ⟨[], _, [], rfl, .read, by simp⟩
      dsimp only at continued
      split at continued
      · exact .stopped (List.forall_mem_cons.mpr ⟨first, prepares_of_finalize named continued⟩)
      · rcases runs_fallible_bind_iff.mp continued with
          ⟨failure, rfl, failed⟩ | ⟨ensuring, _, base, later, rfl, ensured, merging⟩
        · exact .stopped (List.forall_mem_cons.mpr
            ⟨first, prepares_of_ensureFinalizer named failed⟩)
        · have prepared := prepares_of_ensureFinalizer named ensured
          obtain ⟨baseNamed, last⟩ :=
            lastReceived_of_ensureFinalizer expected named received ensured
          rcases runs_fallible_bind_iff.mp merging with
            ⟨failure, rfl, failed⟩ | ⟨reading, _, defaults, merged, rfl, read, ran⟩
          · obtain ⟨_, _, _, impossible, _⟩ := answersDefaults_of_fetchDefaults failed
            cases impossible
          · obtain ⟨event, found, rfl, same, answers⟩ := answersDefaults_of_fetchDefaults read
            cases same
            obtain ⟨preparesDefaults, silent⟩ := prepares_of_answersDefaults name answers
            rw [← List.cons_append, ← List.append_assoc]
            refine .merged baseNamed ?_ (last.append (List.forall_mem_singleton.mpr silent))
              ⟨event, by simp, answers⟩ ran
            rw [List.forall_mem_append, List.forall_mem_cons, List.forall_mem_singleton]
            exact ⟨⟨first, prepared⟩, preparesDefaults⟩

end Steps

end DataPrepperOperator.Controller
