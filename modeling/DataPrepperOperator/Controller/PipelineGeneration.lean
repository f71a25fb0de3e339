import DataPrepperOperator.Controller.ForeignConditions

/-!
# The observed generation of a pipeline

A reconcile reports the generation of the version it works with.  That version also
gives the spec that is merged, so the verdict on the graph and everything that is
deployed come from the spec of the reported generation, wherever a concurrent edit
lands and however often the status update is retried.
-/

namespace DataPrepperOperator.Controller

open ServerProgram DataPrepperOperator.Api

/-- The first condition of a type. -/
def findStatusCondition (conditions : List Condition) (type : String) : Option Condition :=
  conditions.find? fun condition => condition.type = type

theorem findStatusCondition_set_same (condition : Condition) (conditions : List Condition) :
    findStatusCondition (setStatusCondition condition conditions) condition.type =
      some condition := by
  unfold findStatusCondition
  induction conditions with
  | nil => simp [setStatusCondition]
  | cons present rest ih =>
      unfold setStatusCondition
      split
      next => simp
      next different => simp [different, ih]

theorem findStatusCondition_set_of_ne {condition : Condition} {type : String}
    (different : condition.type ≠ type) (conditions : List Condition) :
    findStatusCondition (setStatusCondition condition conditions) type =
      findStatusCondition conditions type := by
  unfold findStatusCondition
  induction conditions with
  | nil => simp [setStatusCondition, different]
  | cons present rest ih =>
      unfold setStatusCondition
      split
      next same => simp [same, different]
      next => rw [List.find?_cons, List.find?_cons, ih]

/-- The condition that states the verdict on a graph. -/
def verdictCondition (mergedSpec : DataPrepperPipelineSpec) (generation : Nat) : Condition :=
  match Validation.validateGraph (graphDefs mergedSpec.pipelines) with
  | .ok () =>
      { type := "ConfigValid", status := .true, observedGeneration := generation,
        reason := "Valid", message := "Pipeline configuration is valid" }
  | .error error =>
      { type := "ConfigValid", status := .false, observedGeneration := generation,
        reason := "ValidationFailed", message := error.message }

section Verdict

variable {pipeline : DataPrepperPipeline}

theorem configValid_recordScaling (pipeline : DataPrepperPipeline)
    (calculated : Except String ScalingDecision) :
    findStatusCondition (recordScaling pipeline calculated).status.conditions "ConfigValid" =
      findStatusCondition pipeline.status.conditions "ConfigValid" := by
  unfold recordScaling withCondition
  cases calculated with
  | error message => exact findStatusCondition_set_of_ne (by simp) _
  | ok decision =>
      dsimp only
      rw [findStatusCondition_set_of_ne (by simp)]
      split <;> rfl

theorem configValid_recordPeerForwarder (pipeline : DataPrepperPipeline) (needed : Bool) :
    findStatusCondition (recordPeerForwarder pipeline needed).status.conditions "ConfigValid" =
      findStatusCondition pipeline.status.conditions "ConfigValid" := by
  unfold recordPeerForwarder withCondition
  split <;> exact findStatusCondition_set_of_ne (by simp) _

theorem configValid_of_reports {status : DataPrepperPipelineStatus}
    (reports : Reports pipeline status) :
    findStatusCondition status.conditions "ConfigValid" =
      findStatusCondition pipeline.status.conditions "ConfigValid" := by
  obtain ⟨ready, type, conditions⟩ := reports.conditions
  rw [conditions]
  exact findStatusCondition_set_of_ne (by simp [type]) _

end Verdict

/-- The plan was made in the run for the merged spec. -/
def Plans (server : Server Cluster Op Reply) (reconciler : PipelineReconciler)
    (mergedSpec : DataPrepperPipelineSpec) (trace : List (Event Cluster Op Reply))
    (plan : Plan × DataPrepperPipeline) : Prop :=
  ∃ earlier planning later pipeline before after, trace = earlier ++ (planning ++ later) ∧
    Runs server (makePlan reconciler pipeline mergedSpec).run before planning (.ok plan) after

/-- The operation writes an object other than the pipeline itself. -/
def WritesChild (kind : Kind) (claimed : Object kind) (op : Op) : Prop :=
  kind ≠ .pipeline ∧ (op = .create kind claimed ∨ op = .update kind claimed)

/-- The verdict in the status and all that the run deploys come from the merged spec. -/
structure ComputedFrom (server : Server Cluster Op Reply) (reconciler : PipelineReconciler)
    (mergedSpec : DataPrepperPipelineSpec) (trace : List (Event Cluster Op Reply))
    (status : DataPrepperPipelineStatus) : Prop where
  verdict : findStatusCondition status.conditions "ConfigValid" =
    some (verdictCondition mergedSpec status.observedGeneration)
  invalid : ∀ error, Validation.validateGraph (graphDefs mergedSpec.pipelines) = .error error →
    ∀ event ∈ trace, ∀ kind claimed, ¬WritesChild kind claimed event.op
  valid : Validation.validateGraph (graphDefs mergedSpec.pipelines) = .ok () →
    ∃ plan, Plans server reconciler mergedSpec trace plan ∧
      ∀ event ∈ trace, ∀ kind claimed, WritesChild kind claimed event.op →
        ∃ object, Generates plan.2 mergedSpec plan.1 kind object ∧ Carries claimed object

section Computed

variable {server : Server Cluster Op Reply} {reconciler : PipelineReconciler}
  {base : DataPrepperPipeline} {mergedSpec : DataPrepperPipelineSpec} {middle : Cluster}
  {earlier later : List (Event Cluster Op Reply)}

theorem not_writesChild_of_prepares {name : String} {op : Op} {kind : Kind}
    {claimed : Object kind} (prepares : Prepares name op) : ¬WritesChild kind claimed op := by
  rintro ⟨notPipeline, rfl | rfl⟩
  · exact prepares
  · cases kind with
    | pipeline => exact notPipeline rfl
    | _ => exact prepares

theorem not_writesChild_of_reportsStatus {op : Op} {kind : Kind} {claimed : Object kind}
    (reports : ReportsStatus base op) : ¬WritesChild kind claimed op := by
  rintro ⟨_, rfl | rfl⟩ <;> cases reports

theorem not_writesChild_of_read {op : Op} {kind : Kind} {claimed : Object kind}
    (reads : op.target = none) : ¬WritesChild kind claimed op := by
  rintro ⟨_, rfl | rfl⟩ <;> cases reads

theorem generates_of_writesGenerated {pipeline : DataPrepperPipeline} {plan : Plan} {op : Op}
    {kind : Kind} {claimed : Object kind}
    (generated : WritesGenerated pipeline mergedSpec plan op)
    (writes : WritesChild kind claimed op) :
    ∃ object, Generates pipeline mergedSpec plan kind object ∧ Carries claimed object := by
  obtain ⟨_, rfl | rfl⟩ := writes <;> exact generated

/-- An accepted status update reports the generation of the version in hand, and what
the run computed from it. -/
theorem computedFrom_of_mergedSteps {name : String} {event : Event Cluster Op Reply}
    {asked : DataPrepperPipeline} (prepares : ∀ event ∈ earlier, Prepares name event.op)
    (steps : MergedSteps server reconciler base mergedSpec middle later)
    (member : event ∈ later) (updates : event.op = .updateStatus .pipeline asked) :
    asked.status.observedGeneration = base.metadata.generation ∧
      ComputedFrom server reconciler mergedSpec (earlier ++ later) asked.status := by
  cases steps with
  | @invalid _ error verdict reports =>
      have reported := reports event member
      rw [updates] at reported
      have generation := reported.2.generation
      refine ⟨generation, ?_, ?_, by simp [verdict]⟩
      · rw [configValid_of_reports reported.2, generation, verdictCondition, verdict]
        exact findStatusCondition_set_same _ _
      · intro _ _ other inTrace kind claimed
        obtain early | late := List.mem_append.mp inTrace
        · exact not_writesChild_of_prepares (prepares other early)
        · exact not_writesChild_of_reportsStatus (reports other late)
  | unplanned _ reads =>
      have read := reads event member
      rw [updates] at read
      cases read
  | @planned planning executing _ plan verdict planning_run reads executes =>
      obtain early | late := List.mem_append.mp member
      · have read := reads event early
        rw [updates] at read
        cases read
      obtain ⟨calculated, planned⟩ := planned_of_runs planning_run
      have reported : ReportsStatus plan.2 (.updateStatus .pipeline asked) := by
        obtain generated | reported := executes event late
        · rw [updates] at generated
          exact generated.elim
        · rwa [updates] at reported
      have generation : asked.status.observedGeneration = base.metadata.generation := by
        rw [reported.2.generation, planned.plannedFor.metadata]
        rfl
      refine ⟨generation, ?_, by simp [verdict], fun _ => ⟨plan, ?_, ?_⟩⟩
      · rw [configValid_of_reports reported.2, planned.recorded, configValid_recordPeerForwarder,
          configValid_recordScaling, generation, verdictCondition, verdict]
        exact findStatusCondition_set_same _ _
      · exact ⟨earlier, planning, executing, _, _, _, rfl, planning_run⟩
      · intro other inTrace kind claimed writes
        obtain inEarlier | inLater := List.mem_append.mp inTrace
        · exact absurd writes (not_writesChild_of_prepares (prepares other inEarlier))
        · obtain inPlanning | inExecuting := List.mem_append.mp inLater
          · exact absurd writes (not_writesChild_of_read (reads other inPlanning))
          · obtain generated | reports := executes other inExecuting
            · exact generates_of_writesGenerated generated writes
            · exact absurd writes (not_writesChild_of_reportsStatus reports)

theorem no_creation_of_mergedSteps
    (steps : MergedSteps server reconciler base mergedSpec middle later) :
    ∀ event ∈ later, ∀ object : DataPrepperPipeline, event.op ≠ .create .pipeline object := by
  have notReported : ∀ {pipeline object : DataPrepperPipeline},
      ¬ReportsStatus pipeline (.create .pipeline object) := by
    rintro _ _ ⟨⟩
  intro event member object creates
  cases steps with
  | invalid _ reports => exact notReported (creates ▸ reports event member)
  | unplanned _ reads =>
      have read := reads event member
      rw [creates] at read
      cases read
  | planned _ _ reads executes =>
      obtain early | late := List.mem_append.mp member
      · have read := reads event early
        rw [creates] at read
        cases read
      · obtain generated | reports := executes event late
        · rw [creates] at generated
          obtain ⟨_, generates, _⟩ := generated
          cases generates
        · exact notReported (creates ▸ reports)

end Computed

/-- Whatever other clients do to the cluster during a reconcile, short of creating the
pipeline anew: the generation in an accepted status was stored during the run, with one
spec, and that spec, merged with the defaults that were read, gives the verdict and
everything that is deployed. -/
theorem observed_generation_truthful {faulty : (op : Op) → Reply op → Prop}
    {reconciler : PipelineReconciler} {name : String} {state final : Cluster}
    {trace : List (Event Cluster Op Reply)} {outcome : Except String ReconcileResult}
    (run : Runs (Interfered (Calls .pipeline) (Serves faulty)) (reconcile reconciler name).run
      state trace outcome final)
    {before after : Cluster} {asked object : DataPrepperPipeline}
    (accepted : statusAccepted before asked object after ∈ trace) :
    ∃ spec defaults,
      (∃ version : DataPrepperPipeline, Shown name trace version ∧
        version.metadata.generation = object.status.observedGeneration) ∧
      (∀ version : DataPrepperPipeline, Shown name trace version →
        version.metadata.generation = object.status.observedGeneration → version.spec = spec) ∧
      (∃ event ∈ trace, AnswersDefaults event defaults) ∧
      ComputedFrom (Interfered (Calls .pipeline) (Serves faulty)) reconciler
        (Defaults.mergeSpec defaults spec) trace object.status := by
  obtain ⟨between, served, _⟩ : Interfered (Calls .pipeline) (Serves faulty) before
    (.updateStatus .pipeline asked) (.ok object) after := served_of_runs run _ accepted
  cases steps_of_reconcile expected_of_interfered run with
  | stopped prepares => exact (prepares _ accepted).elim
  | @merged earlier later middle base defaults _ _ named prepares received answered ran =>
      obtain early | late := List.mem_append.mp accepted
      · exact (prepares _ early).elim
      have steps := steps_of_reconcileMerged expected_of_interfered ran
      obtain ⟨generation, computed⟩ := computedFrom_of_mergedSteps prepares steps late rfl
      rw [← status_of_updateStatus served] at generation computed
      have shown : Shown name (earlier ++ later) base :=
        (named ▸ received.shown).append_right later
      have orderly : Orderly .pipeline name (Calls .pipeline) (earlier ++ later) := by
        refine ⟨fun _ _ => Calls.succeeds, List.forall_mem_append.mpr
          ⟨?_, no_creation_of_mergedSteps steps⟩⟩
        intro event member object creates
        have prepared := prepares event member
        rw [creates] at prepared
        exact prepared
      refine ⟨base.spec, defaults, ⟨base, shown, generation.symm⟩, ?_, ?_, computed⟩
      · intro version shownToo same
        exact spec_of_generation orderly run shownToo shown (same.trans generation)
      · obtain ⟨event, member, answers⟩ := answered
        exact ⟨event, List.mem_append_left _ member, answers⟩

/-- A user changes the image after the defaults are read. -/
def editImage : Op → Cluster → Cluster
  | .get .defaults _, cluster =>
      match cluster.find .pipeline "ingest" with
      | none => cluster
      | some stored =>
          (cluster.answer (.update .pipeline
            { stored with spec := { stored.spec with image := "edited" } })).2
  | _, cluster => cluster

theorem interference_of_editImage (op : Op) (cluster : Cluster) :
    Relation.ReflTransGen (Calls .pipeline) cluster (editImage op cluster) := by
  unfold editImage
  split
  · split
    next => exact .refl
    next => exact .single ⟨_, _, by simp, cluster.answer_honest _⟩
  · exact .refl

theorem observed_generation_truthful_edited :
    ∃ trace outcome final before asked object after,
      Runs (Interfered (Calls .pipeline) Reliable) (reconcile sampleReconciler "ingest").run
        freshPipeline trace outcome final ∧
      statusAccepted before asked object after ∈ trace ∧
      (∃ stored, before.find .pipeline "ingest" = some stored ∧
        stored.metadata.generation ≠ object.status.observedGeneration) ∧
      ∃ spec defaults, (∃ version : DataPrepperPipeline, Shown "ingest" trace version ∧
          version.metadata.generation = object.status.observedGeneration ∧ version.spec = spec) ∧
        ComputedFrom (Interfered (Calls .pipeline) Reliable) sampleReconciler
          (Defaults.mergeSpec defaults spec) trace object.status := by
  have updated : ((reconcile sampleReconciler "ingest").run.trace (Cluster.answerAmid editImage)
      freshPipeline).any (acceptsWith fun before object =>
        (before.find .pipeline "ingest").any fun stored =>
          decide (stored.metadata.generation ≠ object.status.observedGeneration)) = true := by
    decide +kernel
  obtain ⟨before, asked, object, after, member, newer⟩ := exists_of_acceptsWith updated
  have run : Runs (Interfered (Calls .pipeline) Reliable) _ _ _ _ _ :=
    runs_amid interference_of_editImage (reconcile sampleReconciler "ingest").run freshPipeline
  obtain ⟨spec, defaults, ⟨version, shown, generation⟩, unique, _, computed⟩ :=
    observed_generation_truthful run member
  refine ⟨_, _, _, before, asked, object, after, run, member, ?_, spec, defaults,
    ⟨version, shown, generation, unique version shown generation⟩, computed⟩
  cases found : before.find .pipeline "ingest" with
  | none => simp [found] at newer
  | some stored => exact ⟨stored, rfl, by simpa [found] using newer⟩

end DataPrepperOperator.Controller
