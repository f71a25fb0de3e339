import DataPrepperOperator.Controller.Convergence

/-!
# Reconciling under an autoscaler

Without Kafka and S3 sources the replica count belongs to an autoscaler, but
`reconcileDeployment` assigns the whole spec.  Whatever it is interleaved with, a
reconcile leaves the count as it is or writes the lower bound; a reconcile that
succeeds always ends with the lower bound.
-/

namespace DataPrepperOperator.Controller

open ServerProgram DataPrepperOperator.Api DataPrepperOperator.Generator

/-- Auto mode with neither a Kafka nor an S3 source. -/
structure Autoscales (spec : DataPrepperPipelineSpec) (minReplicas maxReplicas : Int) : Prop where
  auto : ∃ scaling, spec.scaling = some scaling ∧ scaling.mode = .auto
  bounds : Scaling.scalingBounds spec.scaling = (minReplicas, maxReplicas)
  sources : ∀ pipeline ∈ spec.pipelines,
    pipeline.source.kafka = none ∧ pipeline.source.s3 = none

section Specs

variable {spec : DataPrepperPipelineSpec} {minReplicas maxReplicas : Int}

theorem Autoscales.scalingBranch (autoscales : Autoscales spec minReplicas maxReplicas) :
    scalingBranch spec =
      .decided { replicas := minReplicas, topicWorkers := 0, useHPA := true } := by
  obtain ⟨⟨scaling, present, auto⟩, bounds, sources⟩ := autoscales
  have noKafka : spec.pipelines.findSome? (·.source.kafka) = none := by
    rw [List.findSome?_eq_none_iff]
    exact fun pipeline member => (sources pipeline member).1
  have noS3 : spec.pipelines.any (·.source.s3.isSome) = false := by
    rw [List.any_eq_false]
    intro pipeline member
    simp [(sources pipeline member).2]
  unfold Controller.scalingBranch
  rw [bounds]
  simp [present, auto, noKafka, noS3]

/-- Defaults neither set the scaling nor add a source. -/
theorem Autoscales.mergeSpec (autoscales : Autoscales spec minReplicas maxReplicas)
    (defaults : Option DataPrepperDefaultsSpec) :
    Autoscales (Defaults.mergeSpec defaults spec) minReplicas maxReplicas := by
  obtain ⟨auto, bounds, sources⟩ := autoscales
  refine ⟨by rwa [Defaults.mergeSpec_scaling], by rwa [Defaults.mergeSpec_scaling], ?_⟩
  apply Defaults.forall_mem_mergeSpec defaults spec _ sources
  rintro fallback pipeline ⟨noKafka, noS3⟩
  refine ⟨?_, ?_⟩
  · rw [Defaults.mergeDefinition_kafka, noKafka]
    cases fallback.kafka <;> rfl
  · rw [Defaults.mergeDefinition_s3, noS3]

end Specs

/-- The stored spec of the pipeline, if there is one. -/
def SpecIs (name : String) (spec : DataPrepperPipelineSpec) (cluster : Cluster) : Prop :=
  ∀ pipeline, cluster.find .pipeline name = some pipeline → pipeline.spec = spec

def ReplicasAre (name : String) (replicas : Int) (cluster : Cluster) : Prop :=
  ∀ deployment, cluster.find .deployment name = some deployment →
    deployment.spec.replicas = replicas

/-- The count is as before, or the lower bound. -/
def KeptOrReset (name : String) (minReplicas : Int) (before after : Cluster) : Prop :=
  ∀ deployment current, before.find .deployment name = some deployment →
    after.find .deployment name = some current →
    current.spec.replicas = deployment.spec.replicas ∨ current.spec.replicas = minReplicas

/-- The operations that a reconcile of an autoscaled pipeline issues. -/
def Rescales (name : String) (spec : DataPrepperPipelineSpec) (minReplicas : Int) : Op → Prop
  | .create .deployment object | .update .deployment object =>
      object.spec.replicas = minReplicas
  | .updateStatus .deployment _ | .delete .deployment _ => False
  | .update .pipeline object => object.name = name → object.spec = spec
  | .create .pipeline _ => False
  | _ => True

/-- Replies while the spec stays as it is. -/
def SpecReply (name : String) (spec : DataPrepperPipelineSpec) : (op : Op) → Reply op → Prop
  | .get .pipeline asked, reply => ∀ object, reply = .ok object →
      object.name = asked ∧ (asked = name → object.spec = spec)
  | op, reply => Expected op reply

section Calls

variable {name : String} {spec : DataPrepperPipelineSpec} {minReplicas : Int}
  {before after : Cluster} {op : Op} {reply : Reply op} {faulty : (op : Op) → Reply op → Prop}

theorem SpecReply.expected (op : Op) (reply : Reply op) (known : SpecReply name spec op reply) :
    Expected op reply := by
  cases op with
  | get kind asked =>
      cases kind with
      | pipeline => exact fun object answered => (known object answered).1
      | configMap | deployment | service | horizontalPodAutoscaler | podDisruptionBudget
      | serviceMonitor | secret | defaults | sourceDiscovery => exact known
  | create | update | updateStatus | delete | listPipelines | kafkaConnect
  | kafkaPartitionCount | kafkaListTopics | s3Connect | s3ListPrefixes | now
  | rangeOver => exact known

theorem specReply_of_serves (specIs : SpecIs name spec before)
    (served : Serves faulty before op reply after) : SpecReply name spec op reply := by
  have expected := served.expected
  cases op with
  | get kind asked =>
      cases kind with
      | pipeline =>
          intro object answered
          refine ⟨expected object answered, ?_⟩
          rintro rfl
          subst answered
          exact specIs object served.find_of_get.1
      | configMap | deployment | service | horizontalPodAutoscaler | podDisruptionBudget
      | serviceMonitor | secret | defaults | sourceDiscovery => exact expected
  | create | update | updateStatus | delete | listPipelines | kafkaConnect
  | kafkaPartitionCount | kafkaListTopics | s3Connect | s3ListPrefixes | now
  | rangeOver => exact expected

theorem Rescales.of_read (op : Op) (reads : op.target = none) :
    Rescales name spec minReplicas op := by
  cases op with
  | create | update | updateStatus | delete => cases reads
  | get | listPipelines | kafkaConnect | kafkaPartitionCount | kafkaListTopics | s3Connect
  | s3ListPrefixes | now | rangeOver => trivial

theorem Rescales.keptOrReset (rescales : Rescales name spec minReplicas op)
    (served : Serves faulty before op reply after) : KeptOrReset name minReplicas before after := by
  intro deployment current found present
  cases served.storedBy present with
  | kept same =>
      rw [found, Option.some.injEq] at same
      exact .inl (by rw [same])
  | created _ absent =>
      rw [found] at absent
      cases absent
  | updated _ _ => exact .inr rescales
  | reported | marked => exact rescales.elim

theorem Rescales.specIs (rescales : Rescales name spec minReplicas op)
    (specIs : SpecIs name spec before) (served : Serves faulty before op reply after) :
    SpecIs name spec after := by
  intro pipeline present
  cases served.storedBy present with
  | kept same => exact specIs pipeline same
  | created _ _ => exact rescales.elim
  | updated named _ => exact rescales named
  | @reported _ stored _ found => exact specIs stored found
  | @marked stored found => exact specIs stored found

end Calls

section Programs

variable {name : String} {spec : DataPrepperPipelineSpec} {minReplicas maxReplicas : Int}

theorem issues_deployChildren (owner : DataPrepperPipeline) (mergedSpec : DataPrepperPipelineSpec)
    {plan : Plan} (replicas : plan.scaling.replicas = minReplicas) :
    Issues (Rescales name spec minReplicas) (SpecReply name spec) (OnSuccess fun _ => True)
      (deployChildren owner mergedSpec plan).run := by
  rw [deployChildren_eq]
  apply issues_deployAll
  intro step member
  simp only [children, List.mem_cons, List.not_mem_nil, or_false] at member
  -- the Deployment carries the planned count and is never deleted
  obtain rfl | rfl | rfl | rfl | rfl | rfl | rfl := member
  case inr.inr.inl =>
    apply issues_reconcileOrDelete (Rescales.of_read _ rfl) SpecReply.expected
    · intro object claimed _ success
      have assigned := (claimWith_content success).2.1
      have planned : claimed.spec.replicas = minReplicas := by
        rw [assigned]
        exact replicas
      exact ⟨planned, planned⟩
    · intro impossible
      cases impossible
  all_goals
    apply issues_reconcileOrDelete (Rescales.of_read _ rfl) SpecReply.expected
    · exact fun _ _ _ _ => ⟨trivial, trivial⟩
    · exact fun _ => trivial

theorem issues_reconcileValid (reconciler : PipelineReconciler) (pipeline : DataPrepperPipeline)
    {mergedSpec : DataPrepperPipelineSpec}
    (autoscales : Autoscales mergedSpec minReplicas maxReplicas) :
    Issues (Rescales name spec minReplicas) (SpecReply name spec) (OnSuccess fun _ => True)
      (reconcileValid reconciler pipeline mergedSpec).run := by
  apply Issues.bind_fallible _ (issues_makePlan Rescales.of_read reconciler _ mergedSpec)
  intro planned plannedFor
  have decided := plannedFor.scaling _ autoscales.scalingBranch
  apply Issues.bind_fallible _
    (issues_deployChildren planned.2 mergedSpec (by rw [decided]))
  intro _ _
  apply issues_finish Rescales.of_read SpecReply.expected
  · apply issues_reconcileOrDelete (Rescales.of_read _ rfl) SpecReply.expected
    · exact fun _ _ _ _ => ⟨trivial, trivial⟩
    · exact fun _ => trivial
  · exact fun _ _ => trivial

theorem issues_reconcile (reconciler : PipelineReconciler)
    (autoscales : Autoscales spec minReplicas maxReplicas) :
    Issues (Rescales name spec minReplicas) (SpecReply name spec) (OnSuccess fun _ => True)
      (reconcile reconciler name).run := by
  apply Issues.bind_fallible (SpecReply name spec (Op.get .pipeline name))
  · exact Issues.lift (Issues.request (Op.get .pipeline name) trivial fun _ known => known)
  intro reply known
  cases reply with
  | error error => cases error <;> trivial
  | ok fetched =>
      obtain ⟨_, specified⟩ := known fetched rfl
      have fetchedSpec := specified rfl
      change Issues _ _ _ (if fetched.metadata.deleting = true then _ else _ : Reconciler _).run
      split
      · exact issues_finalize fun object _ sameSpec _ => sameSpec.trans fetchedSpec
      · apply Issues.bind_fallible _ (issues_ensureFinalizer SpecReply.expected
          fun object _ sameSpec _ => sameSpec.trans fetchedSpec)
        intro current kept
        apply Issues.bind_fallible _ (issues_fetchDefaults Rescales.of_read)
        intro defaults _
        have currentSpec : current.spec = spec := kept.2.trans fetchedSpec
        rw [currentSpec]
        unfold reconcileMerged
        split
        · exact issues_updateStatus SpecReply.expected trivial trivial (fun _ _ _ => trivial) _ _
        · exact issues_reconcileValid reconciler current (autoscales.mergeSpec defaults)

end Programs

def rescaled (deployment : Object .deployment) (replicas : Int) : Object .deployment where
  metadata := deployment.metadata
  spec := { deployment.spec with replicas := replicas }
  status := deployment.status

/-- The autoscaler sets the count to some value within the bounds. -/
def AutoscalerStep (name : String) (minReplicas maxReplicas : Int) (before after : Cluster) :
    Prop :=
  ∃ deployment replicas, before.find .deployment name = some deployment ∧
    minReplicas ≤ replicas ∧ replicas ≤ maxReplicas ∧
    after = before.commit (rescaled deployment replicas)

/-- Anything that leaves the spec of the pipeline alone may happen outside. -/
def Outside (name : String) (spec : DataPrepperPipelineSpec) (_before after : Cluster) : Prop :=
  SpecIs name spec after

theorem AutoscalerStep.outside {name : String} {spec : DataPrepperPipelineSpec}
    {minReplicas maxReplicas : Int} {before after : Cluster} (specIs : SpecIs name spec before)
    (step : AutoscalerStep name minReplicas maxReplicas before after) :
    Outside name spec before after := by
  obtain ⟨deployment, replicas, _, _, _, rfl⟩ := step
  intro pipeline present
  rw [Cluster.find_commit_of_kind_ne _ _ (by decide)] at present
  exact specIs pipeline present

section Protocol

variable {Client : Type} {name : String} {spec : DataPrepperPipelineSpec}
  {minReplicas maxReplicas : Int}

theorem autoscaling_protocol (reconciler : PipelineReconciler)
    (autoscales : Autoscales spec minReplicas maxReplicas) :
    Pool.Protocol Unreliable (fun (_ : Client) program => program = (reconcile reconciler name).run)
      (Outside name spec) (SpecIs name spec) (fun _ => Outside name spec)
      (fun _ before after => KeptOrReset name minReplicas before after ∧
        (SpecIs name spec before → SpecIs name spec after)) where
  idle _ state := by
    refine ⟨?_, id⟩
    intro deployment current found present
    rw [found, Option.some.injEq] at present
    exact .inl (by rw [present])
  keeps _ _ _ specIs guarantee := guarantee.2 specIs
  environmentKeeps _ _ _ moved := moved
  others _ _ _ _ _ specIs guarantee := guarantee.2 specIs
  environmentRelies _ _ _ _ moved := moved
  starts := by
    rintro _ program rfl state specIs
    apply Ensures.weaken (fun _ _ _ => trivial)
    apply Issues.ensures ?_ ?_ ?_ (issues_reconcile reconciler autoscales) specIs
    · exact fun _ _ _ _ holds served => specReply_of_serves holds served
    · exact fun _ rescales _ _ _ holds served =>
        ⟨⟨rescales.keptOrReset served, fun known => rescales.specIs known served⟩,
          rescales.specIs holds served⟩
    · exact fun _ _ moved _ => moved

end Protocol

/-- The replica count of the Deployment, where there is one before and after. -/
def KeepsReplicas (name : String) (before after : Cluster) : Prop :=
  ∀ deployment current, before.find .deployment name = some deployment →
    after.find .deployment name = some current →
    current.spec.replicas = deployment.spec.replicas

theorem replicas_of_reconcile {reconciler : PipelineReconciler} {name : String} {inputs : Inputs}
    {minReplicas maxReplicas : Int} {state final : Cluster} {result : ReconcileResult}
    {trace : List (Event Cluster Op Reply)}
    (autoscales : Autoscales inputs.spec minReplicas maxReplicas)
    (known : inputsOf state name = some inputs)
    (valid : Validation.validateGraph (graphDefs inputs.mergedSpec.pipelines) = .ok ())
    (run : Runs Disturbed (reconcile reconciler name).run state trace (.ok result) final) :
    ∃ deployment, final.find .deployment name = some deployment ∧
      deployment.spec.replicas = minReplicas := by
  obtain ⟨plan, planned, realized⟩ := realized_of_reconcile known valid run
  have scaling := Inputs.scaling_of_plan planned
    (autoscales.mergeSpec inputs.defaults).scalingBranch
  obtain ⟨deployment, found, _, _, content⟩ := (realizes_of_children realized).deployment
  refine ⟨deployment, found, ?_⟩
  have replicas : deployment.spec.replicas = plan.scaling.replicas :=
    congrArg DeploymentSpec.replicas content
  rw [replicas, scaling]

/-- In every interleaving with outside changes and API failures, no call of a
reconcile changes the count as long as it is the lower bound; and a reconcile
that runs through keeps it only if it is the lower bound or nothing is deployed
at all. -/
theorem reconcile_keeps_replicas_iff (reconciler : PipelineReconciler) {name : String}
    {spec : DataPrepperPipelineSpec} {minReplicas maxReplicas : Int}
    (autoscales : Autoscales spec minReplicas maxReplicas) :
    (∀ (Client : Type) [DecidableEq Client]
      (start pool next : Pool Client Cluster Op Reply (Except String ReconcileResult))
      (client : Client), start.Idle → SpecIs name spec start.state →
      Pool.Run Unreliable (fun _ program => program = (reconcile reconciler name).run)
        (Outside name spec) start pool →
      Pool.Step Unreliable (fun _ program => program = (reconcile reconciler name).run)
        (Outside name spec) (.client client) pool next →
      ReplicasAre name minReplicas pool.state → KeepsReplicas name pool.state next.state) ∧
    ∀ state final trace result inputs, inputsOf state name = some inputs →
      inputs.spec = spec →
      Runs Disturbed (reconcile reconciler name).run state trace (.ok result) final →
      (KeepsReplicas name state final ↔
        Validation.validateGraph (graphDefs inputs.mergedSpec.pipelines) ≠ .ok () ∨
          ReplicasAre name minReplicas state) := by
  constructor
  · intro Client _ start pool next client idle specIs run step replicas deployment current found
      present
    have kept := (Pool.guaranteed (autoscaling_protocol reconciler autoscales) idle specIs run
      step).1 deployment current found present
    obtain same | reset := kept
    · exact same
    · rw [reset, replicas deployment found]
  · rintro state final trace result inputs known rfl run
    by_cases valid : Validation.validateGraph (graphDefs inputs.mergedSpec.pipelines) = .ok ()
    · have reset := replicas_of_reconcile autoscales known valid run
      constructor
      · intro kept
        refine .inr fun present presentFound => ?_
        obtain ⟨current, currentFound, replicas⟩ := reset
        rw [← kept present current presentFound currentFound, replicas]
      · rintro (invalid | replicas) present current presentFound currentFound
        · exact absurd valid invalid
        · obtain ⟨stored, storedFound, storedReplicas⟩ := reset
          rw [currentFound, Option.some.injEq] at storedFound
          rw [storedFound, storedReplicas, replicas present presentFound]
    · refine ⟨fun _ => .inl valid, fun _ present current presentFound currentFound => ?_⟩
      have same := sameDerived_of_invalid known valid run .deployment name
        (by simp [derivedObjects])
      rw [same, presentFound, Option.some.injEq] at currentFound
      rw [currentFound]

theorem autoscales_autoscaledPipeline (minReplicas maxReplicas : Int) :
    Autoscales (autoscaledPipeline "ingest" minReplicas maxReplicas).spec minReplicas
      maxReplicas where
  auto := ⟨_, rfl, rfl⟩
  bounds := rfl
  sources := by simp [autoscaledPipeline, httpPipeline]

/-- The result of the first reconcile of an autoscaled pipeline. -/
def deployed : Cluster :=
  ((reconcile sampleReconciler "ingest").run.execute Cluster.answer autoscaled).2

theorem replicas_deployed :
    (deployed.find .deployment "ingest").map (·.spec.replicas) = some 2 := by
  decide +kernel

/-- A second reconcile keeps the count that the first one wrote. -/
theorem reconcile_keeps_replicas_at_minimum :
    ReplicasAre "ingest" 2 deployed ∧
      KeepsReplicas "ingest" deployed
        ((reconcile sampleReconciler "ingest").run.execute Cluster.answer deployed).2 := by
  have replicas : ReplicasAre "ingest" 2 deployed := by
    intro deployment found
    have two := replicas_deployed
    rw [found] at two
    exact Option.some.inj two
  have specified : (inputsOf deployed "ingest").map (·.spec) =
      some (autoscaledPipeline "ingest" 2 4).spec := by decide +kernel
  obtain ⟨inputs, known, sameSpec⟩ := Option.map_eq_some_iff.mp specified
  obtain ⟨_, run⟩ := runs_of_completes ChildFault
    (show Completes sampleReconciler "ingest" deployed by decide +kernel)
  exact ⟨replicas, ((reconcile_keeps_replicas_iff sampleReconciler
    (autoscales_autoscaledPipeline 2 4)).2 _ _ _ _ _ known sameSpec run).mpr (.inr replicas)⟩

def scaledUp : Cluster :=
  match deployed.find .deployment "ingest" with
  | none => deployed
  | some deployment => deployed.commit (rescaled deployment 3)

/-- The autoscaler goes to three replicas, and the next reconcile back to two. -/
theorem reconcile_resets_autoscaler :
    ∃ final firstTrace secondTrace result,
      Autoscales (autoscaledPipeline "ingest" 2 4).spec 2 4 ∧
      Runs Reliable (reconcile sampleReconciler "ingest").run autoscaled firstTrace (.ok result)
        deployed ∧
      AutoscalerStep "ingest" 2 4 deployed scaledUp ∧ ReplicasAre "ingest" 3 scaledUp ∧
      Runs Reliable (reconcile sampleReconciler "ingest").run scaledUp secondTrace (.ok result)
        final ∧
      ¬KeepsReplicas "ingest" scaledUp final := by
  obtain ⟨firstTrace, firstRun⟩ := runs_of_completes (fun _ _ => False)
    (show Completes sampleReconciler "ingest" autoscaled by decide +kernel)
  obtain ⟨secondTrace, secondRun⟩ := runs_of_completes (fun _ _ => False)
    (show Completes sampleReconciler "ingest" scaledUp by decide +kernel)
  obtain ⟨deployment, found, _⟩ := Option.map_eq_some_iff.mp replicas_deployed
  have up : scaledUp = deployed.commit (rescaled deployment 3) := by
    unfold scaledUp
    rw [found]
  have named : deployment.name = "ingest" := Cluster.name_of_find found
  have target : (rescaled deployment 3).name = "ingest" := named
  have stored : scaledUp.find .deployment "ingest" =
      some (deployed.stamped (rescaled deployment 3)) := by
    rw [up, ← target, Cluster.find_commit_same]
  refine ⟨_, firstTrace, secondTrace, _, autoscales_autoscaledPipeline 2 4, firstRun,
    ⟨deployment, 3, found, by decide, by decide, up⟩, ?_, secondRun, ?_⟩
  · intro present presentFound
    rw [stored, Option.some.injEq] at presentFound
    rw [← presentFound]
    rfl
  · intro kept
    have back : ((reconciled "ingest" scaledUp).find .deployment "ingest").map
        (·.spec.replicas) = some 2 := by decide +kernel
    obtain ⟨current, currentFound, two⟩ := Option.map_eq_some_iff.mp back
    have three : current.spec.replicas = 3 := kept _ current stored currentFound
    rw [two] at three
    cases three

end DataPrepperOperator.Controller
