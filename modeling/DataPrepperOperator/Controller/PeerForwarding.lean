import DataPrepperOperator.Controller.Autoscaling

/-!
# When stateful processors get a peer forwarder

The forwarder is configured for more than one replica, where the lower bound of
an autoscaler stands for the count.  It is missing exactly when the autoscaler may
leave a single replica behind.
-/

namespace DataPrepperOperator.Controller

open ServerProgram DataPrepperOperator.Api DataPrepperOperator.Generator

/-- More than one replica is asked for, or an autoscaler may ask for it. -/
def MayRunSeveral (content : DerivedContent) : Prop :=
  1 < content.deployment.content.replicas ∨
    ∃ autoscaler, content.horizontalPodAutoscaler = some autoscaler ∧
      1 < autoscaler.content.maxReplicas

/-- The configuration section, the container port and the headless Service. -/
structure ForwardsPeers (toolkit : Toolkit) (name nameSpace : String) (cluster : Cluster) :
    Prop where
  config : ∃ configMap yaml fields, cluster.find .configMap (name ++ "-config") = some configMap ∧
    configMap.spec.lookup "data-prepper-config.yaml" = some yaml ∧
    toolkit.marshalYAML (.object fields) = .ok yaml ∧
    fields.lookup "peer_forwarder" = some (PeerForwarder.peerForwarderSection name nameSpace)
  port : ∃ deployment, cluster.find .deployment name = some deployment ∧
    ∃ container ∈ deployment.spec.template.containers,
      { name := "peer-fwd", containerPort := 4994 } ∈ container.ports
  headlessService : ∃ service, cluster.find .service (name ++ "-headless") = some service ∧
    service.spec.clusterIP = "None" ∧ service.spec.selector = selectorLabels name ∧
    service.spec.ports = [servicePort "peer-fwd" 4994]

/-- An autoscaler between a single replica and several. -/
def AutoscalesFromOne (spec : DataPrepperPipelineSpec) : Prop :=
  ∃ minReplicas maxReplicas, Autoscales spec minReplicas maxReplicas ∧
    minReplicas ≤ 1 ∧ 1 < maxReplicas

section Plans

variable {inputs : Inputs} {reconciler : PipelineReconciler} {name : String} {plan : Plan}

theorem autoscales_of_scalingBranch {spec : DataPrepperPipelineSpec} {decision : ScalingDecision}
    (branch : scalingBranch spec = .decided decision) (useHPA : decision.useHPA = true) :
    Autoscales spec decision.replicas (Scaling.scalingBounds spec.scaling).2 := by
  unfold scalingBranch at branch
  cases present : spec.scaling with
  | none =>
      simp only [present, ScalingBranch.decided.injEq] at branch
      subst branch
      cases useHPA
  | some scaling =>
      simp only [present] at branch
      split at branch
      · cases branch
        cases useHPA
      · cases branch
        cases useHPA
      · rename_i auto
        split at branch
        · cases branch
        · rename_i noKafka
          split at branch
          · cases branch
            cases useHPA
          · rename_i noS3
            cases branch
            refine ⟨⟨scaling, present, auto⟩, by rw [present], ?_⟩
            intro pipeline member
            rw [List.findSome?_eq_none_iff] at noKafka
            rw [Bool.not_eq_true, List.any_eq_false] at noS3
            exact ⟨noKafka pipeline member, by simpa using noS3 pipeline member⟩

theorem useHPA_of_kafkaDecision {minReplicas maxReplicas partitions : Int}
    {decision : ScalingDecision}
    (decided : kafkaDecision minReplicas maxReplicas partitions = .ok decision) :
    decision.useHPA = false := by
  unfold kafkaDecision at decided
  cases calculated : Scaling.calculateKafka partitions maxReplicas minReplicas with
  | error message => simp [calculated, bind, Except.bind] at decided
  | ok result =>
      simp only [calculated, bind, Except.bind, pure, Except.pure, Except.ok.injEq] at decided
      rw [← decided]

/-- Brokers never ask for an autoscaler. -/
theorem useHPA_of_kafka {source : KafkaSourceSpec} {minReplicas maxReplicas : Int}
    (branch : scalingBranch inputs.mergedSpec = .kafka source minReplicas maxReplicas) :
    (effectiveScaling (inputs.scaling reconciler)).useHPA = false := by
  cases scaling : inputs.scaling reconciler with
  | error message => rfl
  | ok decision =>
      unfold Inputs.scaling decideScaling at scaling
      simp only [branch] at scaling
      split at scaling
      · cases scaling
        rfl
      · cases counted : inputs.partitionsOf source with
        | error message => simp [counted, Except.bind] at scaling
        | ok partitions =>
            simp only [counted, Except.bind] at scaling
            exact useHPA_of_kafkaDecision scaling

/-- Only an autoscaled spec asks for an autoscaler. -/
theorem autoscales_of_useHPA (planned : inputs.plan reconciler name = .ok plan)
    (useHPA : plan.scaling.useHPA = true) :
    Autoscales inputs.mergedSpec plan.scaling.replicas
      (Scaling.scalingBounds inputs.mergedSpec.scaling).2 := by
  cases branch : scalingBranch inputs.mergedSpec with
  | decided decision =>
      have decided := Inputs.scaling_of_plan planned branch
      rw [decided] at useHPA ⊢
      exact autoscales_of_scalingBranch branch useHPA
  | kafka source minReplicas maxReplicas =>
      obtain ⟨_, _, scaling, _⟩ := Inputs.plan_ok planned
      rw [scaling, useHPA_of_kafka branch] at useHPA
      cases useHPA

theorem needsPeerForwarder_of_plan (planned : inputs.plan reconciler name = .ok plan)
    (stateful : HasStatefulProcessor inputs.mergedSpec.pipelines) :
    plan.needsPeerForwarder = decide (1 < plan.scaling.replicas) := by
  obtain ⟨_, extracted, _, needed, _⟩ := Inputs.plan_ok planned
  rw [needed, needsForwarding_of_stateful extracted stateful, Bool.true_and]

/-- The autoscaler is asked for by the plan of an autoscaled spec. -/
theorem scaling_of_autoscales {minReplicas maxReplicas : Int}
    (planned : inputs.plan reconciler name = .ok plan)
    (autoscales : Autoscales inputs.mergedSpec minReplicas maxReplicas) :
    plan.scaling.replicas = minReplicas ∧ plan.scaling.useHPA = true := by
  have decided := Inputs.scaling_of_plan planned autoscales.scalingBranch
  rw [decided]
  exact ⟨rfl, rfl⟩

theorem mayRunSeveral_iff (planned : inputs.plan reconciler name = .ok plan) :
    MayRunSeveral (inputs.content name plan) ↔
      1 < plan.scaling.replicas ∨ AutoscalesFromOne inputs.mergedSpec := by
  constructor
  · rintro (several | ⟨autoscaler, present, several⟩)
    · exact .inl several
    · by_cases static : 1 < plan.scaling.replicas
      · exact .inl static
      · right
        simp only [Inputs.content] at present
        split at present
        · rename_i useHPA
          cases present
          exact ⟨_, _, autoscales_of_useHPA planned useHPA, by omega, several⟩
        · cases present
  · rintro (several | ⟨minReplicas, maxReplicas, autoscales, _, several⟩)
    · exact .inl several
    · right
      obtain ⟨_, useHPA⟩ := scaling_of_autoscales planned autoscales
      refine ⟨_, if_pos useHPA, ?_⟩
      change 1 < (Scaling.scalingBounds inputs.mergedSpec.scaling).2
      rw [autoscales.bounds]
      exact several

end Plans

section Deployed

variable {inputs : Inputs} {reconciler : PipelineReconciler} {name : String} {plan : Plan}
  {final : Cluster}

theorem port_iff (realizes : Realizes final name (inputs.content name plan)) :
    (∃ deployment, final.find .deployment name = some deployment ∧
      ∃ container ∈ deployment.spec.template.containers,
        { name := "peer-fwd", containerPort := 4994 } ∈ container.ports) ↔
      plan.needsPeerForwarder = true := by
  obtain ⟨stored, storedFound, _, _, content⟩ := realizes.deployment
  have spec : stored.spec = (generateDeployment (inputs.owner name) inputs.mergedSpec
    plan.scaling.replicas plan.needsPeerForwarder plan.configHash).spec := content
  obtain ⟨only, containers, ports⟩ : ∃ only, stored.spec.template.containers = [only] ∧
      only.ports = containerPorts inputs.mergedSpec.pipelines plan.needsPeerForwarder := by
    rw [spec]
    exact ⟨_, rfl, rfl⟩
  constructor
  · rintro ⟨deployment, found, container, member, port⟩
    rw [storedFound, Option.some.injEq] at found
    subst found
    rw [containers, List.mem_singleton] at member
    rw [member, ports] at port
    exact peerForwarderPort_mem_containerPorts.mp port
  · intro needed
    refine ⟨stored, storedFound, only, by simp [containers], ?_⟩
    rw [ports]
    exact peerForwarderPort_mem_containerPorts.mpr needed

theorem forwardsPeers_iff (planned : inputs.plan reconciler name = .ok plan)
    (realizes : Realizes final name (inputs.content name plan)) :
    ForwardsPeers reconciler.toolkit name inputs.nameSpace final ↔
      plan.needsPeerForwarder = true := by
  constructor
  · exact fun forwards => (port_iff realizes).mp forwards.port
  · intro needed
    obtain ⟨_, _, _, _, generated, _⟩ := Inputs.plan_ok planned
    refine ⟨?_, (port_iff realizes).mpr needed, ?_⟩
    · obtain ⟨_, _, dpConfig, yaml, _, _, configured, marshalled, _, configData⟩ :=
        generateConfigs_ok generated
      obtain ⟨configMap, found, _, _, content⟩ := realizes.config
      rw [needed] at configured
      refine ⟨configMap, yaml, dpConfig, found, ?_, marshalled,
        generateDPConfig_peerForwarder configured⟩
      have data : configMap.spec = GoMap.ofList [("data-prepper-config.yaml", yaml)] :=
        content.trans configData
      rw [data]
      simp [GoMap.ofList]
    · have stored := realizes.headlessService
      simp only [Inputs.content, needed, if_true] at stored
      obtain ⟨service, found, _, _, content⟩ := stored
      have fields := congrArg Prod.fst content
      exact ⟨service, found, congrArg Prod.snd content, congrArg ServiceFields.selector fields,
        congrArg ServiceFields.ports fields⟩

end Deployed

/-- With a stateful processor, a successful reconcile that may run several
replicas configures the peer forwarder, unless an autoscaler starts from a single
replica. -/
theorem reconcile_forwards_peers_iff {reconciler : PipelineReconciler} {name : String}
    {inputs : Inputs} {state final : Cluster} {trace : List (Event Cluster Op Reply)}
    {result : ReconcileResult} (known : inputsOf state name = some inputs)
    (valid : Validation.validateGraph (graphDefs inputs.mergedSpec.pipelines) = .ok ())
    (stateful : HasStatefulProcessor inputs.spec.pipelines)
    (run : Runs Disturbed (reconcile reconciler name).run state trace (.ok result) final) :
    ∃ plan, inputs.plan reconciler name = .ok plan ∧
      Realizes final name (inputs.content name plan) ∧
      ((MayRunSeveral (inputs.content name plan) →
          ForwardsPeers reconciler.toolkit name inputs.nameSpace final) ↔
        ¬AutoscalesFromOne inputs.mergedSpec) := by
  obtain ⟨plan, planned, realized⟩ := realized_of_reconcile known valid run
  have realizes := realizes_of_children realized
  refine ⟨plan, planned, realizes, ?_⟩
  have mergedStateful : HasStatefulProcessor inputs.mergedSpec.pipelines := by
    apply Defaults.exists_mem_mergeSpec inputs.defaults inputs.spec _ stateful
    intro defaults pipeline
    rw [Defaults.mergeDefinition_processors]
    exact id
  rw [mayRunSeveral_iff planned, forwardsPeers_iff planned realizes,
    needsPeerForwarder_of_plan planned mergedStateful, decide_eq_true_eq]
  constructor
  · rintro forwards ⟨minReplicas, maxReplicas, autoscales, single, several⟩
    have configured := forwards (.inr ⟨minReplicas, maxReplicas, autoscales, single, several⟩)
    rw [(scaling_of_autoscales planned autoscales).1] at configured
    omega
  · rintro notFromOne (several | fromOne)
    · exact several
    · exact absurd fromOne notFromOne

/-- An autoscaled pipeline with an aggregation. -/
def statefulPipeline (minReplicas maxReplicas : Int) : DataPrepperPipeline where
  metadata := (httpPipeline "ingest").metadata
  spec :=
    { (autoscaledPipeline "ingest" minReplicas maxReplicas).spec with
      pipelines :=
        [{ name := "ingest"
           source := { http := some { port := 2021 } }
           processors := [.document (.object [("aggregate", .object [])])]
           sink := [{ stdout := some {} }] }] }
  status := {}

def aggregating (minReplicas maxReplicas : Int) : Cluster :=
  (Cluster.empty.create (statefulPipeline minReplicas maxReplicas)).2

theorem hasStatefulProcessor_statefulPipeline (minReplicas maxReplicas : Int) :
    HasStatefulProcessor (statefulPipeline minReplicas maxReplicas).spec.pipelines :=
  ⟨_, List.mem_singleton_self _, _, List.mem_singleton_self _, [("aggregate", .object [])], rfl,
    _, List.mem_singleton_self _, by decide⟩

theorem autoscales_statefulPipeline (minReplicas maxReplicas : Int) :
    Autoscales (statefulPipeline minReplicas maxReplicas).spec minReplicas maxReplicas where
  auto := ⟨_, rfl, rfl⟩
  bounds := rfl
  sources := by simp [statefulPipeline]

/-- From two replicas on, the forwarder is configured. -/
theorem reconcile_forwards_peers_from_two :
    ForwardsPeers sampleToolkit "ingest" "logs"
      ((reconcile sampleReconciler "ingest").run.execute Cluster.answer (aggregating 2 4)).2 := by
  have stored : (inputsOf (aggregating 2 4) "ingest").map (fun inputs =>
      (inputs.spec, inputs.mergedSpec, inputs.nameSpace)) =
        some ((statefulPipeline 2 4).spec, (statefulPipeline 2 4).spec, "logs") := by
    decide +kernel
  obtain ⟨inputs, known, same⟩ := Option.map_eq_some_iff.mp stored
  simp only [Prod.mk.injEq] at same
  obtain ⟨spec, mergedSpec, nameSpace⟩ := same
  have valid : Validation.validateGraph (graphDefs inputs.mergedSpec.pipelines) = .ok () := by
    rw [mergedSpec]
    decide +kernel
  have stateful : HasStatefulProcessor inputs.spec.pipelines := by
    rw [spec]
    exact hasStatefulProcessor_statefulPipeline 2 4
  have autoscales : Autoscales inputs.mergedSpec 2 4 := by
    rw [mergedSpec]
    exact autoscales_statefulPipeline 2 4
  obtain ⟨_, run⟩ := runs_of_completes ChildFault
    (show Completes sampleReconciler "ingest" (aggregating 2 4) by decide +kernel)
  obtain ⟨plan, planned, _, forwards⟩ := reconcile_forwards_peers_iff known valid stateful run
  rw [nameSpace] at forwards
  apply forwards.mpr
  · rintro ⟨minReplicas, maxReplicas, other, single, _⟩
    have bounds := other.bounds.symm.trans autoscales.bounds
    have two : minReplicas = 2 := congrArg Prod.fst bounds
    omega
  · apply (mayRunSeveral_iff planned).mpr
    rw [(scaling_of_autoscales planned autoscales).1]
    exact .inl (by decide)

/-- Between one and four replicas, an aggregation runs without a forwarder. -/
theorem reconcile_omits_forwarder_from_one :
    ∃ final trace result,
      HasStatefulProcessor (statefulPipeline 1 4).spec.pipelines ∧
      Runs Reliable (reconcile sampleReconciler "ingest").run (aggregating 1 4) trace (.ok result)
        final ∧
      (∃ autoscaler, final.find .horizontalPodAutoscaler "ingest" = some autoscaler ∧
        autoscaler.spec.maxReplicas = 4) ∧
      final.find .service "ingest-headless" = none ∧
      (∀ deployment, final.find .deployment "ingest" = some deployment →
        ∀ container ∈ deployment.spec.template.containers, ∀ port ∈ container.ports,
          port.containerPort ≠ 4994) ∧
      ¬ForwardsPeers sampleToolkit "ingest" "logs" final := by
  obtain ⟨trace, run⟩ := runs_of_completes (fun _ _ => False)
    (show Completes sampleReconciler "ingest" (aggregating 1 4) by decide +kernel)
  have autoscaler : ((reconciled "ingest" (aggregating 1 4)).find .horizontalPodAutoscaler
      "ingest").map (·.spec.maxReplicas) = some 4 := by decide +kernel
  have noHeadless : (reconciled "ingest" (aggregating 1 4)).find .service "ingest-headless" =
      none := by decide +kernel
  have ports : ((reconciled "ingest" (aggregating 1 4)).find .deployment
      "ingest").all (fun deployment =>
        deployment.spec.template.containers.all fun container =>
          container.ports.all fun port => port.containerPort != 4994) = true := by
    decide +kernel
  refine ⟨_, trace, _, hasStatefulProcessor_statefulPipeline 1 4, run,
    Option.map_eq_some_iff.mp autoscaler, noHeadless, ?_, ?_⟩
  · intro deployment found container member port portMember
    rw [found, Option.all_some, List.all_eq_true] at ports
    have each := ports container member
    rw [List.all_eq_true] at each
    simpa using each port portMember
  · rintro ⟨_, _, service, found, _⟩
    rw [show "ingest" ++ "-headless" = "ingest-headless" by decide, noHeadless] at found
    cases found

end DataPrepperOperator.Controller
