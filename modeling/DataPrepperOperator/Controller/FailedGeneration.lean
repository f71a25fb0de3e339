import DataPrepperOperator.Controller.Convergence
import DataPrepperOperator.Controller.Ownership
import DataPrepperOperator.Controller.PipelineGeneration
import DataPrepperOperator.Generator.Credentials

/-!
# A configuration that cannot be generated

Everything is generated before the first child is written.  A spec whose graph is
invalid, or whose processors, sources, sinks or raw section cannot be rendered or
marshalled, leaves the children alone; of the pipeline itself only the finalizer and the
status change.
-/

namespace DataPrepperOperator.Controller

open ServerProgram DataPrepperOperator.Api DataPrepperOperator.Generator

/-- What stops a reconcile before it deploys anything. -/
inductive GenerationFails (toolkit : Toolkit) (mergedSpec : DataPrepperPipelineSpec) : Prop where
  | graph {error} : Validation.validateGraph (graphDefs mergedSpec.pipelines) = .error error →
      GenerationFails toolkit mergedSpec
  | processors {message} : extractProcessorMaps mergedSpec.pipelines = .error message →
      GenerationFails toolkit mergedSpec
  | config {topicWorkers message} :
      generatePipelineConfig mergedSpec.pipelines topicWorkers = .error message →
      GenerationFails toolkit mergedSpec
  | rawConfig {config raw message} : mergedSpec.dataPrepperConfig = some config →
      config.raw = some raw → raw.unmarshalMap = .error message →
      GenerationFails toolkit mergedSpec
  -- either document, whatever the workers and the peer forwarding
  | marshal : (∀ owner topicWorkers forwards, ∃ message,
        generateConfigs toolkit owner mergedSpec topicWorkers forwards = .error message) →
      GenerationFails toolkit mergedSpec

theorem buildSource_ok_of_ok {source : SourceSpec} {first : Int} {fields : Value.Fields}
    (built : buildSource source first = .ok fields) (second : Int) :
    ∃ others, buildSource source second = .ok others := by
  unfold buildSource at *
  split <;> simp_all

/-- Whether a configuration can be generated does not depend on the workers. -/
theorem generatePipelineConfig_ok_of_ok {pipelines : List PipelineDefinition}
    {first : Int} {config : Value.Fields}
    (generated : generatePipelineConfig pipelines first = .ok config) (second : Int) :
    ∃ other, generatePipelineConfig pipelines second = .ok other := by
  rw [generatePipelineConfig_ok_iff]
  intro definition member
  obtain ⟨fields, built⟩ := generatePipelineConfig_ok_iff.mp ⟨config, generated⟩ definition member
  obtain ⟨source, values, sinks, builtSource, builtProcessors, builtSinks, _⟩ :=
    buildPipeline_ok_iff.mp built
  obtain ⟨others, builtOthers⟩ := buildSource_ok_of_ok builtSource second
  exact ⟨_, buildPipeline_ok_iff.mpr
    ⟨others, values, sinks, builtOthers, builtProcessors, builtSinks, rfl⟩⟩

theorem generateDPConfig_of_rawConfig {spec : DataPrepperPipelineSpec}
    {config : DataPrepperConfigSpec} {raw : RawJSON} {message : String}
    (configured : spec.dataPrepperConfig = some config) (given : config.raw = some raw)
    (unreadable : raw.unmarshalMap = .error message) (needsPeerForwarder : Bool)
    (name nameSpace : String) :
    ∃ failure, generateDPConfig spec needsPeerForwarder name nameSpace = .error failure := by
  refine ⟨"unmarshal raw data-prepper config: " ++ message, ?_⟩
  unfold generateDPConfig userConfig
  simp only [configured, given, unreadable, Except.mapError, Except.map]

theorem not_planned {server : Server Cluster Op Reply} {reconciler : PipelineReconciler}
    {pipeline : DataPrepperPipeline} {mergedSpec : DataPrepperPipelineSpec}
    {state final : Cluster} {trace : List (Event Cluster Op Reply)}
    {plan : Plan × DataPrepperPipeline} (fails : GenerationFails reconciler.toolkit mergedSpec)
    (valid : Validation.validateGraph (graphDefs mergedSpec.pipelines) = .ok ()) :
    ¬Runs server (makePlan reconciler pipeline mergedSpec).run state trace (.ok plan) final := by
  intro run
  obtain ⟨_, planned⟩ := planned_of_runs run
  obtain ⟨_, _, _, _, generated, _, rendered, _⟩ := generateConfigs_ok planned.configs
  cases fails with
  | graph invalid =>
      rw [valid] at invalid
      cases invalid
  | processors unreadable =>
      obtain ⟨_, _, impossible, _⟩ | ⟨_, extracted, _⟩ := runs_ofExcept_bind run
      · cases impossible
      · rw [unreadable] at extracted
        cases extracted
  | @config topicWorkers _ failed =>
      obtain ⟨_, succeeds⟩ := generatePipelineConfig_ok_of_ok generated topicWorkers
      rw [failed] at succeeds
      cases succeeds
  | rawConfig configured given unreadable =>
      obtain ⟨_, failed⟩ := generateDPConfig_of_rawConfig configured given unreadable
        plan.1.needsPeerForwarder pipeline.name pipeline.metadata.nameSpace
      rw [failed] at rendered
      cases rendered
  | marshal unmarshallable =>
      obtain ⟨_, failed⟩ := unmarshallable pipeline plan.1.scaling.topicWorkers
        plan.1.needsPeerForwarder
      cases failed.symm.trans planned.configs

/-- The same pipeline up to its finalizers and its status. -/
structure OnlyMarked (before after : DataPrepperPipeline) : Prop where
  spec : after.spec = before.spec
  metadata : after.metadata =
    { before.metadata with
      finalizers := after.metadata.finalizers
      resourceVersion := after.metadata.resourceVersion }

theorem OnlyMarked.refl (pipeline : DataPrepperPipeline) : OnlyMarked pipeline pipeline :=
  ⟨rfl, rfl⟩

theorem OnlyMarked.trans {first second third : DataPrepperPipeline}
    (earlier : OnlyMarked first second) (later : OnlyMarked second third) :
    OnlyMarked first third := by
  refine ⟨later.spec.trans earlier.spec, ?_⟩
  rw [later.metadata, earlier.metadata]

/-- All other objects are as before, and so is the pipeline up to its marks; it can only go
if it is being deleted. -/
structure Remains (name : String) (before after : Cluster) : Prop where
  elsewhere : ∀ (kind : Kind) other, (kind, other) ≠ (.pipeline, name) →
    after.find kind other = before.find kind other
  marked : ∀ current, after.find .pipeline name = some current →
    ∃ stored, before.find .pipeline name = some stored ∧ OnlyMarked stored current
  present : ∀ stored, before.find .pipeline name = some stored →
    stored.metadata.deleting = false → ∃ current, after.find .pipeline name = some current

theorem Remains.refl (name : String) (cluster : Cluster) : Remains name cluster cluster :=
  ⟨fun _ _ _ => rfl, fun current found => ⟨current, found, .refl current⟩,
    fun stored found _ => ⟨stored, found⟩⟩

theorem Remains.trans {name : String} {first second third : Cluster}
    (earlier : Remains name first second) (later : Remains name second third) :
    Remains name first third := by
  refine ⟨fun kind other different => ?_, fun current found => ?_, fun stored found live => ?_⟩
  · rw [later.elsewhere kind other different, earlier.elsewhere kind other different]
  · obtain ⟨between, foundBetween, marked⟩ := later.marked current found
    obtain ⟨stored, foundStored, markedBefore⟩ := earlier.marked between foundBetween
    exact ⟨stored, foundStored, markedBefore.trans marked⟩
  · obtain ⟨between, foundBetween⟩ := earlier.present stored found live
    obtain ⟨original, foundOriginal, marked⟩ := earlier.marked between foundBetween
    obtain rfl : original = stored := Option.some.inj (foundOriginal.symm.trans found)
    have stillLive : between.metadata.deleting = false := by rw [marked.metadata, live]
    exact later.present between foundBetween stillLive

section Steps

variable {faulty : (op : Op) → Reply op → Prop} {name : String} {before after : Cluster}

theorem remains_of_unchanged (same : after = before) : Remains name before after :=
  same ▸ .refl name before

theorem remains_of_updateStatus {asked : DataPrepperPipeline} (named : asked.name = name)
    {reply : Reply (.updateStatus .pipeline asked)}
    (served : Serves faulty before (.updateStatus .pipeline asked) reply after) :
    Remains name before after := by
  subst named
  refine ⟨fun kind other different => ?_, fun current found => ?_, fun stored found live => ?_⟩
  · exact served.frame fun target => different (Option.some.inj target).symm
  · obtain kept | ⟨stored, foundStored, rfl⟩ := served.after_updateStatus found
    · exact ⟨current, kept, .refl current⟩
    · exact ⟨stored, foundStored, rfl, rfl⟩
  · obtain rfl | ⟨original, foundOriginal, rfl⟩ := served.updateStatus_cases
    · exact ⟨stored, found⟩
    · have named : original.name = asked.name := Cluster.name_of_find foundOriginal
      exact ⟨_, Cluster.find_commit_of_name named⟩

/-- The pipeline with other finalizers. -/
def withFinalizers (pipeline : DataPrepperPipeline) (finalizers : List String) :
    DataPrepperPipeline :=
  { pipeline with metadata := { pipeline.metadata with finalizers := finalizers } }

theorem remains_of_marking {pipeline : DataPrepperPipeline} {finalizers : List String}
    (found : before.find .pipeline name = some pipeline)
    (held : pipeline.metadata.deleting = true ∨ finalizers ≠ [])
    {reply : Reply (.update .pipeline (withFinalizers pipeline finalizers))}
    (served : Serves faulty before (.update .pipeline (withFinalizers pipeline finalizers)) reply
      after) : Remains name before after := by
  obtain rfl : pipeline.name = name := Cluster.name_of_find found
  have marks : OnlyMarked pipeline
      (before.stamped (Cluster.updated pipeline (withFinalizers pipeline finalizers))) := by
    refine ⟨rfl, ?_⟩
    simp [Cluster.stamped, Cluster.updated, withFinalizers, Object.name]
  refine ⟨fun kind other different => ?_, fun current present => ?_, fun stored present live => ?_⟩
  · exact served.frame fun target => different (Option.some.inj target).symm
  · obtain kept | ⟨stored, foundStored, rfl⟩ := served.after_update present
    · exact ⟨current, kept, .refl current⟩
    · obtain rfl : stored = pipeline := Option.some.inj (foundStored.symm.trans found)
      exact ⟨stored, found, marks⟩
  · obtain rfl : stored = pipeline := Option.some.inj (present.symm.trans found)
    obtain rfl | ⟨original, foundOriginal, _, rfl | ⟨_, emptied, _⟩⟩ := served.update_cases
    · exact ⟨stored, found⟩
    · have named : original.name = stored.name := Cluster.name_of_find foundOriginal
      exact ⟨_, Cluster.find_commit_of_name named⟩
    · obtain deleting | kept := held
      · rw [live] at deleting
        cases deleting
      · exact absurd emptied kept

end Steps

section Run

variable {faulty : (op : Op) → Reply op → Prop} {reconciler : PipelineReconciler}
  {name : String} {pipeline : DataPrepperPipeline} {state final : Cluster}
  {trace : List (Event Cluster Op Reply)} {outcome : Except String ReconcileResult}

theorem remains_of_marking_call {context : String} {finalizers : List String}
    {answer : Except String DataPrepperPipeline}
    (found : state.find .pipeline name = some pipeline)
    (held : pipeline.metadata.deleting = true ∨ finalizers ≠ [])
    (run : Runs (Serves faulty) (wrapError context (callApi (Client.update
      (withFinalizers pipeline finalizers)))).run state trace answer final) :
    Remains name state final := by
  obtain ⟨_, called, _⟩ := runs_of_wrapError run
  obtain ⟨_, asked, _⟩ := runs_of_callApi called
  exact remains_of_marking found held (runs_request_iff.mp asked).1

theorem remains_of_finalize (found : state.find .pipeline name = some pipeline)
    (deleting : pipeline.metadata.deleting = true)
    (run : Runs (Serves faulty) (finalize pipeline).run state trace outcome final) :
    Remains name state final := by
  unfold finalize at run
  split at run
  · obtain ⟨_, _, failed⟩ | ⟨_, _, _, _, _, updated, finished⟩ := runs_fallible_bind_iff.mp run
    · exact remains_of_marking_call found (.inl deleting) failed
    · obtain ⟨_, _, rfl⟩ := runs_pure_iff.mp finished
      exact remains_of_marking_call found (.inl deleting) updated
  · obtain ⟨_, _, rfl⟩ := runs_pure_iff.mp run
    exact .refl name final

theorem remains_of_ensureFinalizer {ensured : Except String DataPrepperPipeline}
    (found : state.find .pipeline name = some pipeline)
    (run : Runs (Serves faulty) (ensureFinalizer pipeline).run state trace ensured final) :
    Remains name state final := by
  unfold ensureFinalizer at run
  split at run
  · obtain ⟨_, _, rfl⟩ := runs_pure_iff.mp run
    exact .refl name final
  · exact remains_of_marking_call found (.inr (List.append_ne_nil_of_right_ne_nil _ (by simp)))
      run

/-- A reconcile ends with its preparations, or it goes on with the spec of the pipeline and
the defaults that it read. -/
theorem prepared_of_reconcile (found : state.find .pipeline name = some pipeline)
    (run : Runs (Serves faulty) (reconcile reconciler name).run state trace outcome final) :
    Remains name state final ∧ (∀ event ∈ trace, Prepares name event.op) ∨
      ∃ earlier later ready base defaults, trace = earlier ++ later ∧
        Remains name state ready ∧ (∀ event ∈ earlier, Prepares name event.op) ∧
        base.name = name ∧ base.spec = pipeline.spec ∧
        (∃ event ∈ earlier, AnswersDefaults event defaults) ∧
        Runs (Serves faulty)
          (reconcileMerged reconciler base (Defaults.mergeSpec defaults pipeline.spec)).run ready
          later outcome final := by
  have first : Prepares name (Op.get .pipeline name) := rfl
  obtain ⟨reply, middle, rest, served, rfl, continued⟩ := runs_ask_bind run
  obtain rfl : middle = state := served.unchanged rfl
  cases reply with
  | error error =>
      have ended : rest = [] ∧ final = middle := by
        cases error <;> exact ⟨(runs_done_iff.mp continued).1, (runs_done_iff.mp continued).2.2⟩
      obtain ⟨rfl, rfl⟩ := ended
      exact .inl ⟨.refl name final, List.forall_mem_singleton.mpr first⟩
  | ok fetched =>
      obtain rfl : fetched = pipeline :=
        Option.some.inj (served.find_of_get.1.symm.trans found)
      have named : fetched.name = name := Cluster.name_of_find found
      dsimp only at continued
      split at continued
      · rename_i deleting
        exact .inl ⟨remains_of_finalize found deleting continued,
          List.forall_mem_cons.mpr ⟨first, prepares_of_finalize named continued⟩⟩
      · rcases runs_fallible_bind_iff.mp continued with
          ⟨failure, rfl, failed⟩ | ⟨ensuring, ready, base, later, rfl, ensured, merging⟩
        · exact .inl ⟨remains_of_ensureFinalizer found failed,
            List.forall_mem_cons.mpr ⟨first, prepares_of_ensureFinalizer named failed⟩⟩
        · have prepared := prepares_of_ensureFinalizer named ensured
          obtain ⟨baseNamed, sameSpec, _⟩ := runs_ensureFinalizer_ok found ensured
          rcases runs_fallible_bind_iff.mp merging with
            ⟨failure, rfl, failed⟩ | ⟨reading, afterwards, defaults, merged, rfl, read, ran⟩
          · obtain ⟨_, _, _, impossible, _⟩ := answersDefaults_of_fetchDefaults failed
            cases impossible
          · obtain ⟨event, known, rfl, same, answers⟩ := answersDefaults_of_fetchDefaults read
            cases same
            obtain rfl : afterwards = ready := state_of_reads
              ((issues_fetchDefaults fun _ reads => reads).weaken fun _ _ => trivial) read
            obtain ⟨preparesDefaults, _⟩ := prepares_of_answersDefaults name answers
            rw [sameSpec] at ran
            refine .inr ⟨⟨middle, .get .pipeline name, .ok fetched, middle⟩ ::
              (ensuring ++ [event]), merged, afterwards, base, defaults, by simp,
              remains_of_ensureFinalizer found ensured, ?_, baseNamed, sameSpec,
              ⟨event, by simp, answers⟩, ran⟩
            rw [List.forall_mem_cons, List.forall_mem_append, List.forall_mem_singleton]
            exact ⟨first, prepared, preparesDefaults⟩

/-- What an invalid graph leads to. -/
structure ReportsError (status : DataPrepperPipelineStatus) : Prop where
  phase : status.phase = .error
  configValid : (findStatusCondition status.conditions "ConfigValid").map (·.status) =
    some .false
  ready : (findStatusCondition status.conditions "Ready").map (·.status) = some .false

/-- A read, or a status update of the pipeline that reports the error. -/
def ReportsOnly (name : String) : Op → Prop
  | .updateStatus .pipeline object => object.name = name ∧ ReportsError object.status
  | op => op.target = none

theorem reportsOnly_of_read (op : Op) (reads : op.target = none) : ReportsOnly name op := by
  cases op with
  | updateStatus kind object => cases reads
  | _ => exact reads

theorem reportsOnly_of_updateStatus {base : DataPrepperPipeline} {message : String}
    (named : base.name = name)
    (invalid : (findStatusCondition base.status.conditions "ConfigValid").map (·.status) =
      some .false)
    (run : Runs (Serves faulty) (updateStatus base true message).run state trace outcome final) :
    ∀ event ∈ trace, ReportsOnly name event.op := by
  subst named
  refine (Issues.runs (fun _ _ _ _ served => served.expected)
    (issues_updateStatus_desired (fun _ _ => id) ?_ ?_ ?_) run).2
  · exact reportsOnly_of_read _ rfl
  · exact reportsOnly_of_read _ rfl
  · intro object counted named same stored
    refine ⟨named, ?_⟩
    rw [stored]
    have phased : pipelinePhase true counted = .error := rfl
    simp only [withReadyCondition, phased, withCondition]
    refine ⟨rfl, ?_, ?_⟩
    · rw [findStatusCondition_set_of_ne (by simp), same.2.2]
      exact invalid
    · rw [findStatusCondition_set_same]
      rfl

theorem remains_of_reportsOnly {before after : Cluster} {op : Op} {reply : Reply op}
    (served : Serves faulty before op reply after) (reports : ReportsOnly name op) :
    Remains name before after := by
  cases op with
  | updateStatus kind object =>
      cases kind with
      | pipeline => exact remains_of_updateStatus reports.1 served
      | _ => cases reports
  | create _ _ | update _ _ | delete _ _ => cases reports
  | _ => exact remains_of_unchanged (served.unchanged rfl)

theorem reportsError_kept {before after : Cluster} {op : Op} {reply : Reply op}
    (served : Serves faulty before op reply after) (reports : ReportsOnly name op)
    (reported : ∃ stored, before.find .pipeline name = some stored ∧
      ReportsError stored.status) :
    ∃ stored, after.find .pipeline name = some stored ∧ ReportsError stored.status := by
  cases op with
  | updateStatus kind object =>
      cases kind with
      | pipeline =>
          obtain ⟨rfl, error⟩ := reports
          obtain rfl | ⟨stored, found, rfl⟩ := served.updateStatus_cases
          · exact reported
          · have named : stored.name = object.name := Cluster.name_of_find found
            exact ⟨_, Cluster.find_commit_of_name named, error⟩
      | _ => cases reports
  | create _ _ | update _ _ | delete _ _ => cases reports
  | _ =>
      obtain rfl := served.unchanged rfl
      exact reported

end Run

theorem harmless_of_prepares {name : String} {op : Op} (prepares : Prepares name op) :
    Harmless op := by
  cases op with
  | update kind object =>
      cases kind with
      | pipeline =>
          rintro _ _ ⟨⟩
          exact id
      | _ => cases prepares
  | get kind target => exact harmless_of_read _ rfl
  | _ => cases prepares

theorem harmless_of_reportsOnly {name : String} {op : Op} (reports : ReportsOnly name op) :
    Harmless op := by
  cases op with
  | updateStatus kind object =>
      cases kind with
      | pipeline =>
          rintro _ _ ⟨⟩
          exact id
      | _ => cases reports
  | create _ _ | update _ _ | delete _ _ => cases reports
  | _ => exact harmless_of_read _ rfl

/-- Whatever fails meanwhile, a spec that cannot be generated touches no child, and changes
the pipeline in its finalizers and its status only; a status that is stored, which happens
for an invalid graph only, reports the error. -/
theorem failed_generation_writes_nothing {faulty : (op : Op) → Reply op → Prop}
    {reconciler : PipelineReconciler} {name : String} {pipeline : DataPrepperPipeline}
    {state final : Cluster} {trace : List (Event Cluster Op Reply)}
    {outcome : Except String ReconcileResult}
    (run : Runs (Serves faulty) (reconcile reconciler name).run state trace outcome final)
    (found : state.find .pipeline name = some pipeline)
    (fails : ∀ event ∈ trace, ∀ defaults, AnswersDefaults event defaults →
      GenerationFails reconciler.toolkit (Defaults.mergeSpec defaults pipeline.spec)) :
    (∀ event ∈ trace, ∀ kind other, event.op.target = some (kind, other) → ¬IsChild kind) ∧
      Remains name state final ∧
      ∀ before asked object after, statusAccepted before asked object after ∈ trace →
        ∃ stored, final.find .pipeline name = some stored ∧ ReportsError stored.status := by
  have silent : ∀ {event before asked object after}, Prepares name event.op →
      event ≠ statusAccepted before asked object after := by
    rintro _ _ _ _ _ prepares rfl
    exact prepares
  obtain ⟨remains, prepares⟩ | ⟨earlier, later, ready, base, defaults, rfl, remains, prepares,
    named, sameSpec, ⟨event, member, answers⟩, ran⟩ := prepared_of_reconcile found run
  · refine ⟨fun event member => harmless_of_prepares (prepares event member), remains, ?_⟩
    intro before asked object after accepted
    exact absurd rfl (silent (prepares _ accepted))
  have failing := fails event (List.mem_append_left _ member) defaults answers
  unfold reconcileMerged at ran
  split at ran
  · rename_i error invalid
    have reports : ∀ event ∈ later, ReportsOnly name event.op := by
      refine reportsOnly_of_updateStatus ?_ ?_ ran
      · exact named
      · exact congrArg (Option.map (·.status)) (findStatusCondition_set_same _ _)
    have served := served_of_runs ran
    refine ⟨?_, ?_, ?_⟩
    · rw [List.forall_mem_append]
      exact ⟨fun event member => harmless_of_prepares (prepares event member),
        fun event member => harmless_of_reportsOnly (reports event member)⟩
    · exact remains.trans (runs_chain (Remains name) (.refl name) .trans ran fun event member =>
        remains_of_reportsOnly (served event member) (reports event member))
    · intro before asked object after accepted
      obtain early | late := List.mem_append.mp accepted
      · exact absurd rfl (silent (prepares _ early))
      · obtain ⟨sameName, reported⟩ := reports _ late
        have stored := find_of_updateStatus (served _ late)
        refine holds_of_reached (fun cluster => ∃ stored,
          cluster.find .pipeline name = some stored ∧ ReportsError stored.status) ran
          (fun event member => reportsError_kept (served event member) (reports event member))
          late ⟨object, sameName ▸ stored.1, ?_⟩
        rw [status_of_updateStatus (served _ late)]
        exact reported
  · rename_i valid
    obtain ⟨failure, rfl, failed⟩ | ⟨_, _, plan, _, _, planned, _⟩ :=
      runs_fallible_bind_iff.mp ran
    · have reads : ∀ event ∈ later, event.op.target = none :=
        (Issues.runs (fun _ _ _ _ served => served.expected)
          (issues_makePlan (fun _ reads => reads) reconciler _ _) failed).2
      refine ⟨?_, ?_, ?_⟩
      · rw [List.forall_mem_append]
        exact ⟨fun event member => harmless_of_prepares (prepares event member),
          fun event member => harmless_of_read _ (reads event member)⟩
      · exact remains.trans (runs_chain (Remains name) (.refl name) .trans failed
          fun event member => remains_of_unchanged
            ((served_of_runs failed event member).unchanged (reads event member)))
      · intro before asked object after accepted
        obtain early | late := List.mem_append.mp accepted
        · exact absurd rfl (silent (prepares _ early))
        · cases reads _ late
    · exact absurd planned (not_planned failing valid)

/-- The only sink is a pipeline that does not exist. -/
def connectorToNowhere : DataPrepperPipeline where
  metadata := (httpPipeline "ingest").metadata
  spec :=
    { image := "data-prepper"
      pipelines :=
        [{ name := "ingest"
           source := { http := some { port := 2021 } }
           sink := [{ pipeline := some { name := "missing" } }] }] }
  status := {}

/-- The dangling reference is reported, and nothing else happens. -/
theorem dangling_pipeline_only_reported :
    ∃ trace outcome final, Runs Reliable (reconcile sampleReconciler "ingest").run
        (Cluster.empty.create connectorToNowhere).2 trace outcome final ∧
      Remains "ingest" (Cluster.empty.create connectorToNowhere).2 final ∧
      ∃ stored, final.find .pipeline "ingest" = some stored ∧ ReportsError stored.status := by
  have served : ∀ (cluster : Cluster) op,
      Reliable cluster op (cluster.answer op).1 (cluster.answer op).2 :=
    fun cluster op => .honest (cluster.answer_honest op)
  have run := Program.runs_trace served (reconcile sampleReconciler "ingest").run
    (Cluster.empty.create connectorToNowhere).2
  have found : (Cluster.empty.create connectorToNowhere).2.find .pipeline "ingest" =
      some (Cluster.empty.stamped (Cluster.empty.newborn connectorToNowhere)) := rfl
  have updates : ((reconcile sampleReconciler "ingest").run.trace Cluster.answer
      (Cluster.empty.create connectorToNowhere).2).any (acceptsWith fun _ _ => true) = true := by
    decide +kernel
  obtain ⟨before, asked, object, after, accepted, _⟩ := exists_of_acceptsWith updates
  have fails : ∀ defaults, GenerationFails sampleReconciler.toolkit
      (Defaults.mergeSpec defaults connectorToNowhere.spec) := by
    intro defaults
    apply GenerationFails.graph
    rw [graphDefs_mergeSpec]
    rfl
  obtain ⟨_, remains, reported⟩ := failed_generation_writes_nothing run found
    fun _ _ defaults _ => fails defaults
  exact ⟨_, _, _, run, remains, reported before asked object after accepted⟩

end DataPrepperOperator.Controller
