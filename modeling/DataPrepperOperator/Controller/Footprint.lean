import DataPrepperOperator.Controller.Pipeline

/-!
# The footprint of the pipeline reconciler

Which operations the parts of `reconcile` issue, whatever the server answers.
Planning only reads.  Apart from the child objects, the reconciler writes the
finalizers and the status of its own pipeline.
-/

namespace DataPrepperOperator.Controller

open ServerProgram DataPrepperOperator.Api DataPrepperOperator.Generator

variable {allowed : Op → Prop} {possible : (op : Op) → Reply op → Prop}

/-- The kinds of the objects that are derived from a pipeline. -/
def IsChild : Kind → Prop
  | .configMap | .deployment | .service | .horizontalPodAutoscaler | .podDisruptionBudget
  | .serviceMonitor => True
  | .secret | .pipeline | .defaults | .sourceDiscovery => False

/-- The operation writes none but the given objects. -/
def WritesTo (targets : List (Kind × String)) (op : Op) : Prop :=
  ∀ target, op.target = some target → target ∈ targets

theorem writesTo_of_read (targets : List (Kind × String)) (op : Op) (reads : op.target = none) :
    WritesTo targets op := by
  intro target targeted
  rw [reads] at targeted
  cases targeted

theorem writesTo_of_mem {targets : List (Kind × String)} {op : Op} {target : Kind × String}
    (targeted : op.target = some target) (member : target ∈ targets) : WritesTo targets op := by
  intro other same
  rw [targeted, Option.some.injEq] at same
  exact same ▸ member

/-- The program writes none but the given objects. -/
def Touches {Result : Type} (targets : List (Kind × String))
    (program : Program Op Reply Result) : Prop :=
  Issues (WritesTo targets) Expected (fun _ => True) program

theorem touches_of_issues {Result Failure : Type} {targets : List (Kind × String)}
    {program : Program Op Reply (Except Failure Result)}
    (issued : Issues (WritesTo targets) Expected (OnSuccess fun _ => True) program) :
    Touches targets program :=
  issued.weaken fun _ _ => trivial

theorem Touches.issues {Result Failure : Type} {targets : List (Kind × String)}
    {program : Program Op Reply (Except Failure Result)} (touches : Touches targets program) :
    Issues (WritesTo targets) Expected (OnSuccess fun _ => True) program :=
  Issues.weaken (fun outcome _ => by cases outcome <;> trivial) touches

section Targets

variable {Result : Type} {faulty : (op : Op) → Reply op → Prop} {program : Program Op Reply Result}
  {state final : Cluster} {trace : List (Event Cluster Op Reply)} {result : Result}

theorem find_of_untouched {kind : Kind} {name : String}
    (run : Runs (Serves faulty) program state trace result final)
    (untouched : ∀ event ∈ trace, event.op.target ≠ some (kind, name)) :
    final.find kind name = state.find kind name := by
  refine runs_chain (fun before after => after.find kind name = before.find kind name)
    (fun _ => rfl) ?_ run fun event member =>
      (served_of_runs run event member).frame (untouched event member)
  intro _ _ _ now later
  exact later.trans now

theorem Touches.frame {targets : List (Kind × String)} (touches : Touches targets program)
    (run : Runs (Serves faulty) program state trace result final) {kind : Kind} {name : String}
    (outside : (kind, name) ∉ targets) : final.find kind name = state.find kind name := by
  apply find_of_untouched run
  intro event membership target
  have allowed := (touches.runs (fun _ _ _ _ served => served.expected) run).2 event membership
  exact outside (allowed _ target)

theorem runs_externals (run : Runs (Serves faulty) program state trace result final) :
    final.kafka = state.kafka ∧ final.s3 = state.s3 ∧ final.fieldIndex = state.fieldIndex := by
  refine runs_chain (fun before after => after.kafka = before.kafka ∧ after.s3 = before.s3 ∧
    after.fieldIndex = before.fieldIndex) (fun _ => ⟨rfl, rfl, rfl⟩) ?_ run
    fun event member => (served_of_runs run event member).externals
  rintro _ _ _ ⟨kafka, s3, fieldIndex⟩ ⟨laterKafka, laterS3, laterIndex⟩
  exact ⟨laterKafka.trans kafka, laterS3.trans s3, laterIndex.trans fieldIndex⟩

/-- A program that only reads ends where it started. -/
theorem state_of_reads (issued : Issues (fun op => op.target = none) (fun _ _ => True)
      (fun _ => True) program)
    (run : Runs (Serves faulty) program state trace result final) : final = state := by
  induction run with
  | done => rfl
  | call served _ ih =>
      have same := served.unchanged issued.1
      subst same
      exact ih (issued.2 _ trivial)

end Targets

section Reads

variable (reads : ∀ op, op.target = none → allowed op)

include reads

theorem issues_read (op : Op) (target : op.target = none) :
    Issues allowed possible (fun _ => True) (Program.request op) :=
  .request op (reads op target) fun _ _ => trivial

omit reads in
theorem issues_kafkaConfigFromSecret (bootstrapServers : List String)
    {secretRef : Option SecretReference}
    (permitted : ∀ reference, secretRef = some reference → allowed (.get .secret reference.name)) :
    Issues allowed possible (OnSuccess fun _ => True)
      (kafkaConfigFromSecret bootstrapServers secretRef).run := by
  cases secretRef with
  | none => trivial
  | some reference =>
      apply Issues.bind_fallible (fun _ => True)
      · apply issues_wrapError
        apply issues_callApi
        exact .request _ (permitted reference rfl) fun outcome _ => onSuccess_true outcome
      · intro secret _
        trivial

omit reads in
theorem issues_remote {Result : Type} {context : String} {call : Client.RemoteCall Result}
    (issued : Issues allowed possible (fun _ => True) call) :
    Issues allowed possible (OnSuccess fun _ => True)
      (wrapError context (ExceptT.mk call)).run := by
  apply issues_wrapError
  exact issued.weaken fun outcome _ => by cases outcome <;> trivial

omit reads in
theorem issues_askPartitions {config : KafkaConfig} {topic : String}
    (connect : allowed (.kafkaConnect config))
    (count : allowed (.kafkaPartitionCount config topic)) :
    Issues allowed possible (OnSuccess fun _ => True) (askPartitions config topic).run := by
  apply Issues.bind_fallible (fun _ => True)
  · exact issues_remote (.request _ connect fun _ _ => trivial)
  · intro _ _
    exact issues_remote (.request _ count fun _ _ => trivial)

/-- The reads of the planning phase are allowed; of the Secrets only those in use. -/
structure PlanningReads (allowed : Op → Prop) (spec : DataPrepperPipelineSpec) : Prop where
  secrets : ∀ secret ∈ referencedSecrets spec, allowed (.get .secret secret)
  credentials : ∀ {source minReplicas maxReplicas} reference,
    scalingBranch spec = .kafka source minReplicas maxReplicas →
    source.credentialsSecretRef = some reference → allowed (.get .secret reference.name)
  ranges : ∀ keys, allowed (.rangeOver keys)
  connects : ∀ config, allowed (.kafkaConnect config)
  counts : ∀ config topic, allowed (.kafkaPartitionCount config topic)

theorem PlanningReads.of_reads {spec : DataPrepperPipelineSpec} : PlanningReads allowed spec :=
  ⟨fun _ _ => reads _ rfl, fun _ _ _ => reads _ rfl, fun _ => reads _ rfl, fun _ => reads _ rfl,
    fun _ _ => reads _ rfl⟩

theorem issues_fetchDefaults :
    Issues allowed possible (OnSuccess fun _ => True) fetchDefaults.run := by
  apply Issues.bind_fallible _
    (Issues.lift (issues_read reads (.get .defaults "default") rfl))
  intro outcome _
  cases outcome <;> trivial

end Reads

section Planning

variable {spec : DataPrepperPipelineSpec} (reads : PlanningReads allowed spec)

include reads

theorem issues_calculateScaling (reconciler : PipelineReconciler) :
    Issues allowed possible
      (fun outcome => ∀ decision, scalingBranch spec = .decided decision →
        outcome = .ok decision) (calculateScaling reconciler spec).run := by
  unfold calculateScaling
  cases branch : scalingBranch spec with
  | decided decision =>
      intro again same
      cases same
      rfl
  | kafka source minReplicas maxReplicas =>
      have asks : Issues allowed possible (OnSuccess fun _ => True)
          (calculateKafkaScaling reconciler source minReplicas maxReplicas).run := by
        unfold calculateKafkaScaling
        split
        · trivial
        · apply Issues.bind_fallible _
            (issues_kafkaConfigFromSecret _ fun reference => reads.credentials reference branch)
          intro config _
          apply Issues.bind_fallible _
            (issues_askPartitions (reads.connects _) (reads.counts _ _))
          intro partitions _
          exact Issues.ofExcept fun _ _ => trivial
      apply asks.weaken
      intro outcome _ decision impossible
      cases impossible

theorem issues_allSecretFields {names : List String}
    (used : ∀ secret ∈ names, secret ∈ referencedSecrets spec) :
    Issues allowed possible (fun _ => True) (allSecretFields names) := by
  induction names with
  | nil => trivial
  | cons secret rest ih =>
      have first : Issues allowed possible (fun _ => True) (secretFields secret) := by
        apply Issues.bind (.request _ (reads.secrets secret (used secret List.mem_cons_self))
          fun _ _ => trivial)
        intro outcome _
        cases outcome with
        | error error => trivial
        | ok stored =>
            exact Issues.bind (.request _ (reads.ranges _) fun _ _ => trivial) fun _ _ => trivial
      apply Issues.bind first
      intro fields _
      apply Issues.bind (ih fun other member =>
        used other (List.mem_cons_of_mem _ member))
      intro others _
      trivial

theorem issues_secretHash (toolkit : Toolkit) :
    Issues allowed possible (fun _ => True) (secretHash toolkit spec) := by
  unfold secretHash
  split
  · trivial
  · apply Issues.bind (issues_allSecretFields reads fun _ member => member)
    intro fields _
    trivial

theorem issues_dataHash (toolkit : Toolkit) (data : GoMap String) :
    Issues allowed possible (fun _ => True) (dataHash toolkit data) := by
  apply Issues.bind (.request _ (reads.ranges _) fun _ _ => trivial)
  intro order _
  trivial

omit reads in
theorem metadata_recordScaling (pipeline : DataPrepperPipeline)
    (calculated : Except String ScalingDecision) :
    (recordScaling pipeline calculated).metadata = pipeline.metadata := by
  cases calculated with
  | error message => rfl
  | ok decision =>
      obtain ⟨replicas, workers, useHPA, kafka⟩ := decision
      cases kafka <;> rfl

omit reads in
theorem metadata_recordPeerForwarder (pipeline : DataPrepperPipeline) (needed : Bool) :
    (recordPeerForwarder pipeline needed).metadata = pipeline.metadata := by
  unfold recordPeerForwarder
  split <;> rfl

/-- How a plan comes from the outcome of the scaling calculation. -/
structure Planned (toolkit : Toolkit) (pipeline : DataPrepperPipeline)
    (mergedSpec : DataPrepperPipelineSpec) (calculated : Except String ScalingDecision)
    (planned : Plan × DataPrepperPipeline) : Prop where
  decided : ∀ decision, scalingBranch mergedSpec = .decided decision → calculated = .ok decision
  scaling : planned.1.scaling = effectiveScaling calculated
  configs : generateConfigs toolkit pipeline mergedSpec planned.1.scaling.topicWorkers
    planned.1.needsPeerForwarder = .ok (planned.1.pipelinesData, planned.1.configData)
  recorded : planned.2 =
    recordPeerForwarder (recordScaling pipeline calculated) planned.1.needsPeerForwarder

theorem issues_makePlan_planned (reconciler : PipelineReconciler)
    (pipeline : DataPrepperPipeline) :
    Issues allowed possible
      (OnSuccess fun planned => ∃ calculated,
        Planned reconciler.toolkit pipeline spec calculated planned)
      (makePlan reconciler pipeline spec).run := by
  apply Issues.bind_fallible (fun _ => True) (Issues.ofExcept fun _ _ => trivial)
  intro processorMaps _
  apply Issues.bind_fallible _ (Issues.lift (issues_calculateScaling reads reconciler))
  intro calculated decided
  apply Issues.bind_fallible _ (Issues.ofExcept fun _ computed => computed)
  intro configs generatedConfigs
  apply Issues.bind_fallible _ (Issues.lift (issues_dataHash reads _ _))
  intro pipelinesHash _
  apply Issues.bind_fallible _ (Issues.lift (issues_dataHash reads _ _))
  intro configHash _
  apply Issues.bind_fallible _ (Issues.lift (issues_secretHash reads _))
  intro secrets _
  exact ⟨calculated, decided, rfl, generatedConfigs, rfl⟩

/-- Planning touches only the status of the pipeline in hand, and follows a
scaling decision that does not depend on the cluster. -/
structure PlannedFor (pipeline : DataPrepperPipeline) (mergedSpec : DataPrepperPipelineSpec)
    (planned : Plan × DataPrepperPipeline) : Prop where
  metadata : planned.2.metadata = pipeline.metadata
  scaling : ∀ decision, scalingBranch mergedSpec = .decided decision →
    planned.1.scaling = decision

omit reads in
theorem Planned.plannedFor {toolkit : Toolkit} {pipeline : DataPrepperPipeline}
    {mergedSpec : DataPrepperPipelineSpec} {calculated : Except String ScalingDecision}
    {plan : Plan × DataPrepperPipeline}
    (planned : Planned toolkit pipeline mergedSpec calculated plan) :
    PlannedFor pipeline mergedSpec plan := by
  refine ⟨?_, ?_⟩
  · rw [planned.recorded, metadata_recordPeerForwarder, metadata_recordScaling]
  · intro decision branch
    rw [planned.scaling, planned.decided decision branch]
    rfl

omit reads in
theorem issues_makePlan (reads : ∀ op, op.target = none → allowed op)
    (reconciler : PipelineReconciler) (pipeline : DataPrepperPipeline)
    (mergedSpec : DataPrepperPipelineSpec) :
    Issues allowed possible (OnSuccess (PlannedFor pipeline mergedSpec))
      (makePlan reconciler pipeline mergedSpec).run := by
  apply (issues_makePlan_planned (.of_reads reads) reconciler pipeline).weaken
  intro outcome planned
  cases outcome with
  | error failure => trivial
  | ok plan =>
      obtain ⟨_, planned⟩ := planned
      exact planned.plannedFor

omit reads in
theorem planned_of_runs {State : Type} {server : Server State Op Reply} {state final : State}
    {trace : List (Event State Op Reply)} {reconciler : PipelineReconciler}
    {pipeline : DataPrepperPipeline} {mergedSpec : DataPrepperPipelineSpec}
    {plan : Plan × DataPrepperPipeline}
    (run : Runs server (makePlan reconciler pipeline mergedSpec).run state trace (.ok plan)
      final) :
    ∃ calculated, Planned reconciler.toolkit pipeline mergedSpec calculated plan := by
  have issued : Issues (fun _ => True) (fun _ _ => True)
      (OnSuccess fun planned => ∃ calculated,
        Planned reconciler.toolkit pipeline mergedSpec calculated planned)
      (makePlan reconciler pipeline mergedSpec).run :=
    issues_makePlan_planned (.of_reads fun _ _ => trivial) reconciler pipeline
  exact (issued.runs (fun _ _ _ _ _ => trivial) run).1

omit reads in
theorem plannedFor_of_runs {State : Type} {server : Server State Op Reply} {state final : State}
    {trace : List (Event State Op Reply)} {reconciler : PipelineReconciler}
    {pipeline : DataPrepperPipeline} {mergedSpec : DataPrepperPipelineSpec}
    {planned : Plan × DataPrepperPipeline}
    (run : Runs server (makePlan reconciler pipeline mergedSpec).run state trace (.ok planned)
      final) : PlannedFor pipeline mergedSpec planned :=
  (planned_of_runs run).choose_spec.plannedFor

end Planning

section Writes

variable (expected : ∀ op reply, possible op reply → Expected op reply)

include expected in
/-- The status update goes to the pipeline in hand and leaves its spec alone. -/
theorem issues_storeStatus {name : String} {desired : DataPrepperPipelineStatus}
    (fetch : allowed (.get .pipeline name))
    (status : ∀ object : DataPrepperPipeline, object.name = name → object.status = desired →
      allowed (.updateStatus .pipeline object)) :
    Issues allowed possible (OnSuccess fun _ => True) (storeStatus name desired) := by
  apply Issues.bind (Issues.request (.get .pipeline name) fetch
    fun reply possibleReply => expected _ reply possibleReply)
  intro outcome named
  cases outcome with
  | error error => trivial
  | ok current =>
      apply Issues.request _
      · exact status _ (named current rfl) rfl
      · intro reply _
        cases reply <;> trivial

/-- What a status says of the pipeline in hand. -/
structure Reports (pipeline : DataPrepperPipeline) (status : DataPrepperPipelineStatus) :
    Prop where
  generation : status.observedGeneration = pipeline.metadata.generation
  kafka : status.kafka = pipeline.status.kafka
  conditions : ∃ ready : Condition, ready.type = "Ready" ∧
    status.conditions = setStatusCondition ready pipeline.status.conditions

theorem reports_withReadyCondition {pipeline phased : DataPrepperPipeline} (message : String)
    (generation : phased.status.observedGeneration = pipeline.metadata.generation)
    (kafka : phased.status.kafka = pipeline.status.kafka)
    (conditions : phased.status.conditions = pipeline.status.conditions) :
    Reports pipeline (withReadyCondition phased message).status := by
  unfold withReadyCondition
  split <;> exact ⟨generation, kafka, _, rfl, by rw [← conditions]; rfl⟩

include expected in
/-- Every attempt asks for the same status, made from the replica counts. -/
theorem issues_updateStatus_desired {pipeline : DataPrepperPipeline} {errorPhase : Bool}
    {message : String} (count : allowed (.get .deployment pipeline.name))
    (fetch : allowed (.get .pipeline pipeline.name))
    (status : ∀ (object : DataPrepperPipeline) (counted : DataPrepperPipelineStatus),
      object.name = pipeline.name →
      counted.observedGeneration = pipeline.metadata.generation ∧
        counted.kafka = pipeline.status.kafka ∧
        counted.conditions = pipeline.status.conditions →
      object.status = (withReadyCondition
        { pipeline with status := { counted with phase := pipelinePhase errorPhase counted } }
        message).status → allowed (.updateStatus .pipeline object)) :
    Issues allowed possible (OnSuccess fun _ => True)
      (updateStatus pipeline errorPhase message).run := by
  have counts : ∀ observed : DataPrepperPipelineStatus,
      Issues allowed possible
        (fun counted => counted.observedGeneration = observed.observedGeneration ∧
          counted.kafka = observed.kafka ∧ counted.conditions = observed.conditions)
        (countReplicas pipeline.name observed) := by
    intro observed
    have asked : Issues allowed possible (fun _ => True)
        (Program.request (Op.get .deployment pipeline.name)) :=
      Issues.request _ count fun _ _ => trivial
    apply asked.bind
    intro outcome _
    cases outcome <;> exact ⟨rfl, rfl, rfl⟩
  apply Issues.bind_fallible _ (Issues.lift (counts _))
  intro counted same
  apply Issues.bind_fallible (fun _ => True)
  · apply issues_wrapError
    apply Issues.bind_fallible (fun _ => True)
    · apply issues_callApi
      apply issues_retryOnConflict
      apply issues_storeStatus expected fetch
      intro object named stored
      exact status object counted named same stored
    · intro stored _
      trivial
  · intro _ _
    split <;> trivial

include expected in
theorem issues_updateStatus {pipeline : DataPrepperPipeline}
    (count : allowed (.get .deployment pipeline.name))
    (fetch : allowed (.get .pipeline pipeline.name))
    (status : ∀ object : DataPrepperPipeline, object.name = pipeline.name →
      Reports pipeline object.status → allowed (.updateStatus .pipeline object))
    (errorPhase : Bool) (message : String) :
    Issues allowed possible (OnSuccess fun _ => True)
      (updateStatus pipeline errorPhase message).run := by
  apply issues_updateStatus_desired expected count fetch
  intro object counted named same stored
  apply status object named
  rw [stored]
  exact reports_withReadyCondition message same.1 same.2.1 same.2.2

theorem issues_finalize {pipeline : DataPrepperPipeline}
    (write : ∀ object : DataPrepperPipeline, object.name = pipeline.name →
      object.spec = pipeline.spec → allowed (.update .pipeline object)) :
    Issues allowed possible (OnSuccess fun _ => True) (finalize pipeline).run := by
  unfold finalize
  split
  · apply Issues.bind_fallible (fun _ => True)
    · apply issues_wrapError
      apply issues_callApi
      apply Issues.request _
      · exact write _ rfl rfl
      · intro reply _
        cases reply <;> trivial
    · intro _ _
      trivial
  · trivial

include expected in
theorem issues_ensureFinalizer {pipeline : DataPrepperPipeline}
    (write : ∀ object : DataPrepperPipeline, object.name = pipeline.name →
      object.spec = pipeline.spec → allowed (.update .pipeline object)) :
    Issues allowed possible
      (OnSuccess fun current => current.name = pipeline.name ∧ current.spec = pipeline.spec)
      (ensureFinalizer pipeline).run := by
  unfold ensureFinalizer
  split
  · exact ⟨rfl, rfl⟩
  · apply issues_wrapError
    apply issues_callApi
    apply Issues.request _
    · exact write _ rfl rfl
    · intro reply possibleReply
      cases reply with
      | error error => trivial
      | ok current => exact expected _ _ possibleReply current rfl

end Writes

section Children

variable {kind : Kind} {mutate : Object kind → Except String (Object kind)}
  {name nameSpace : String} (fetch : allowed (.get kind name))
  (expected : ∀ op reply, possible op reply → Expected op reply)
  (write : ∀ object claimed, object.name = name → mutate object = .ok claimed →
    allowed (.create kind claimed) ∧ allowed (.update kind claimed))

include fetch expected write

theorem issues_createOrUpdate :
    Issues allowed possible (OnSuccess fun _ => True)
      (createOrUpdate (Object.named kind name nameSpace) mutate).run := by
  have stored : ∀ call : Client.Call (Object kind), Issues allowed possible (fun _ => True) call →
      Issues allowed possible (OnSuccess fun _ => True)
        (do let _ ← callApi call : Reconciler Unit).run := by
    intro call issued
    apply Issues.bind_fallible (fun _ => True)
    · apply issues_callApi
      exact issued.weaken fun outcome _ => by cases outcome <;> trivial
    · intro _ _
      trivial
  apply Issues.bind_fallible _ (Issues.lift (Issues.request (.get kind name) fetch
    (expected _)))
  intro outcome named
  cases outcome with
  | ok existing =>
      apply Issues.bind_fallible _ (Issues.ofExcept fun _ success => success)
      intro claimed success
      split
      · trivial
      · exact stored _ (.request _ (write _ _ (named existing rfl) success).2 fun _ _ => trivial)
  | error error =>
      cases error with
      | notFound missingKind missing =>
          apply Issues.bind_fallible _ (Issues.ofExcept fun _ success => success)
          intro claimed success
          exact stored _ (.request _ (write _ _ rfl success).1 fun _ _ => trivial)
      | alreadyExists | conflict | refused => trivial

theorem issues_reconcileOrDelete {needed : Bool}
    (remove : needed = false → allowed (.delete kind name)) :
    Issues allowed possible (OnSuccess fun _ => True)
      (reconcileOrDelete (Object.named kind name nameSpace) needed mutate).run := by
  cases needed with
  | true => exact issues_createOrUpdate fetch expected write
  | false =>
      apply Issues.bind_fallible _ (Issues.lift (Issues.request (.get kind name) fetch
        (expected _)))
      intro outcome named
      cases outcome with
      | ok found =>
          apply issues_callApi
          apply Issues.request _
          · rw [named found rfl]
            exact remove rfl
          · intro reply _
            cases reply <;> trivial
      | error error => cases error <;> trivial

end Children

end DataPrepperOperator.Controller
