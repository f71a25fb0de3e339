import DataPrepperOperator.Controller.ReadErrors

/-!
# Harmless read errors

A reconcile that cannot read one of its inputs compares its plan with the one that was
deployed before.  The ConfigMaps and the Deployment stay as they are exactly if what
could not be read makes no difference to them.
-/

namespace DataPrepperOperator.Controller

open ServerProgram DataPrepperOperator.Api DataPrepperOperator.Generator

/-- The resources of one replica, as the Deployment has them. -/
def replicaResources (spec : DataPrepperPipelineSpec) : ResourceRequirements :=
  match spec.resources with
  | none => {}
  | some resources => resources.perReplica

/-- Whether the replicas forward to their peers. -/
def Inputs.forwards (inputs : Inputs) (reconciler : PipelineReconciler) : Bool :=
  match extractProcessorMaps inputs.mergedSpec.pipelines with
  | .error _ => false
  | .ok processorMaps =>
      PeerForwarder.needsForwarding processorMaps &&
        decide (1 < (effectiveScaling (inputs.scaling reconciler)).replicas)

/-- The fields as a document, in which their order does not matter. -/
def document (fields : Value.Fields) : Value := (Value.object fields).canonical

/-- The ConfigMaps and the Deployment are the same for this spec as for the one that is
merged with the defaults. -/
structure Interchangeable (reconciler : PipelineReconciler) (name : String) (inputs : Inputs)
    (spec : DataPrepperPipelineSpec) : Prop where
  image : spec.image = inputs.mergedSpec.image
  resources : replicaResources spec = replicaResources inputs.mergedSpec
  config :
    (generateDPConfig spec (inputs.forwards reconciler) name inputs.nameSpace).map document =
      (generateDPConfig inputs.mergedSpec (inputs.forwards reconciler) name
        inputs.nameSpace).map document
  pipelines : spec.pipelines = inputs.mergedSpec.pipelines

/-- Unread defaults must add nothing, unread Kafka credentials must lead to no count of
partitions, and an unread Secret must be empty unless the user overrides the hash. -/
structure HarmlessErrors (reconciler : PipelineReconciler) (name : String) (inputs : Inputs)
    (trace : List (Event Cluster Op Reply)) : Prop where
  defaults : (Kind.defaults, "default") ∈ unreadInputs trace →
    Interchangeable reconciler name inputs inputs.spec
  credentials : ∀ secret, (Kind.secret, secret) ∈ unreadInputs (scalingPhase trace) →
    inputs.decidingPartitions reconciler = none
  secrets : configHashAnnotation ∈ inputs.spec.podAnnotations ∨
    ∀ secret, (Kind.secret, secret) ∈ unreadInputs (hashingPhase trace) →
      inputs.hashedBytes secret = []

/-- Both plans ask for the same ConfigMaps and the same Deployment. -/
structure SameContent (owner : DataPrepperPipeline) (spec other : DataPrepperPipelineSpec)
    (plan otherPlan : Plan) : Prop where
  pipelines : plan.pipelinesData = otherPlan.pipelinesData
  config : plan.configData = otherPlan.configData
  deployment :
    (generateDeployment owner spec plan.scaling.replicas plan.needsPeerForwarder
      plan.configHash).spec =
    (generateDeployment owner other otherPlan.scaling.replicas otherPlan.needsPeerForwarder
      otherPlan.configHash).spec

/-- The specs differ at most in what the defaults can supply besides the pipelines. -/
def SameApart (spec other : DataPrepperPipelineSpec) : Prop :=
  ∃ image resources dataPrepperConfig serviceMonitor,
    spec = { other with image, resources, dataPrepperConfig, serviceMonitor }

theorem sameApart_of_pipelines {inputs : Inputs}
    (samePipelines : inputs.spec.pipelines = inputs.mergedSpec.pipelines) :
    SameApart inputs.spec inputs.mergedSpec := by
  refine ⟨inputs.spec.image, inputs.spec.resources, inputs.spec.dataPrepperConfig,
    inputs.spec.serviceMonitor, ?_⟩
  unfold Inputs.mergedSpec Defaults.mergeSpec at samePipelines ⊢
  cases given : inputs.defaults with
  | none => rfl
  | some defaults =>
      simp only [given] at samePipelines
      simp only [← samePipelines]

theorem podAnnotations_mergedSpec (inputs : Inputs) :
    inputs.mergedSpec.podAnnotations = inputs.spec.podAnnotations := by
  unfold Inputs.mergedSpec Defaults.mergeSpec
  cases inputs.defaults <;> rfl

theorem calculateScaling_congr {reconciler : PipelineReconciler}
    {spec other : DataPrepperPipelineSpec} (apart : SameApart spec other) :
    calculateScaling reconciler spec = calculateScaling reconciler other := by
  obtain ⟨_, _, _, _, rfl⟩ := apart
  rfl

theorem generateDeployment_eq_iff {owner : DataPrepperPipeline}
    {spec other : DataPrepperPipelineSpec} (apart : SameApart spec other)
    {replicas otherReplicas : Int} {forwards : Bool} {hash otherHash : String} :
    (generateDeployment owner spec replicas forwards hash).spec =
        (generateDeployment owner other otherReplicas forwards otherHash).spec ↔
      replicas = otherReplicas ∧ spec.image = other.image ∧
        replicaResources spec = replicaResources other ∧
        ( configHashAnnotation ∈ other.podAnnotations ∨ hash = otherHash) := by
  obtain ⟨image, resources, dataPrepperConfig, serviceMonitor, rfl⟩ := apart
  rw [← GoMap.copy_singleton_eq_iff]
  simp only [generateDeployment, generated, replicaResources, DeploymentSpec.mk.injEq,
    PodTemplateSpec.mk.injEq, List.cons.injEq, Container.mk.injEq, true_and, and_true]
  tauto

theorem generateConfigs_eq_of_parts {toolkit : Toolkit} {owner : DataPrepperPipeline}
    {spec other : DataPrepperPipelineSpec} {topicWorkers : Int} {forwards : Bool}
    (ignoresOrder : toolkit.IgnoresOrder) (samePipelines : spec.pipelines = other.pipelines)
    (sameConfig :
      (generateDPConfig spec forwards owner.name owner.metadata.nameSpace).map document =
      (generateDPConfig other forwards owner.name owner.metadata.nameSpace).map document) :
    generateConfigs toolkit owner spec topicWorkers forwards =
      generateConfigs toolkit owner other topicWorkers forwards := by
  unfold generateConfigs
  rw [samePipelines]
  cases own : generateDPConfig spec forwards owner.name owner.metadata.nameSpace with
  | error message =>
      cases given : generateDPConfig other forwards owner.name owner.metadata.nameSpace with
      | error complaint =>
          simp only [own, given, Except.map, Except.error.injEq] at sameConfig
          rw [sameConfig]
      | ok fields => simp [own, given, Except.map] at sameConfig
  | ok fields =>
      cases given : generateDPConfig other forwards owner.name owner.metadata.nameSpace with
      | error complaint => simp [own, given, Except.map] at sameConfig
      | ok others =>
          simp only [own, given, Except.map, Except.ok.injEq] at sameConfig
          simp only [Except.mapError, bind, Except.bind, ignoresOrder _ _ sameConfig]

theorem PlannedFrom.sameForwarding {toolkit : Toolkit} {owner : DataPrepperPipeline}
    {spec other : DataPrepperPipelineSpec}
    {calculated otherCalculated : Except String ScalingDecision}
    {secrets otherSecrets : String} {plan otherPlan : Plan}
    (planned : PlannedFrom toolkit owner spec calculated secrets plan)
    (otherPlanned : PlannedFrom toolkit owner other otherCalculated otherSecrets otherPlan)
    (samePipelines : spec.pipelines = other.pipelines)
    (sameReplicas : plan.scaling.replicas = otherPlan.scaling.replicas) :
    plan.needsPeerForwarder = otherPlan.needsPeerForwarder := by
  obtain ⟨maps, extracted, needed⟩ := planned.forwarding
  obtain ⟨otherMaps, otherExtracted, otherNeeded⟩ := otherPlanned.forwarding
  rw [samePipelines, otherExtracted] at extracted
  cases extracted
  rw [needed, otherNeeded, sameReplicas]

theorem Inputs.forwards_of_plan {inputs : Inputs} {reconciler : PipelineReconciler}
    {name : String} {plan : Plan} (planned : inputs.plan reconciler name = .ok plan) :
    plan.needsPeerForwarder = inputs.forwards reconciler := by
  obtain ⟨scaling, ⟨maps, extracted, needed⟩, _, _⟩ := inputs.plannedFrom planned
  unfold Inputs.forwards
  rw [extracted, needed, scaling]

theorem document_eq_of_written {toolkit : Toolkit} {read : String → Option Value}
    {fields others : Value.Fields} {text : String} (readable : toolkit.ReadBy read)
    (written : toolkit.marshalYAML (.object fields) = .ok text)
    (otherWritten : toolkit.marshalYAML (.object others) = .ok text) :
    document fields = document others :=
  Option.some.inj ((readable _ _ written).symm.trans (readable _ _ otherWritten))

section Attempts

variable {reconciler : PipelineReconciler} {name : String} {inputs : Inputs}
  {state final : Cluster} {trace : List (Event Cluster Op Reply)}
  {outcome : Except String ReconcileResult} {spec : DataPrepperPipelineSpec}
  {calculated : Except String ScalingDecision} {secrets : String} {plan attempted : Plan}

/-- The credentials are read only to count partitions. -/
theorem scaling_of_unread {secret : String} {outcome : Except String ScalingDecision}
    (unknown : inputs.decidingPartitions reconciler = none)
    (run : Runs (Serves InputFault) (calculateScaling reconciler inputs.mergedSpec).run state
      trace outcome final) (missed : unreadInputs trace = [(.secret, secret)]) :
    ∃ message, inputs.scaling reconciler = .error message := by
  unfold calculateScaling at run
  obtain ⟨decision, branch, _⟩ | ⟨_, missing, _⟩ | failed :=
    decideScaling_cases unknown
  · simp only [branch] at run
    obtain ⟨rfl, _⟩ := runs_pure_iff.mp run
    cases missed
  · split at run
    · obtain ⟨rfl, _⟩ := runs_pure_iff.mp run
      cases missed
    · unfold calculateKafkaScaling at run
      rw [if_pos missing] at run
      obtain ⟨rfl, _⟩ := runs_pure_iff.mp run
      cases missed
  · exact failed

/-- Without a count the fallback to one replica is what happens anyway. -/
theorem Attempt.sameScaling (attempt : Attempt reconciler name inputs state trace outcome final
      spec calculated secrets attempted) (apart : SameApart spec inputs.mergedSpec)
    (credentials : ∀ secret, (Kind.secret, secret) ∈ unreadInputs (scalingPhase trace) →
      inputs.decidingPartitions reconciler = none) :
    effectiveScaling calculated = effectiveScaling (inputs.scaling reconciler) := by
  obtain ⟨ready, reads, after, agree, ran, sameReads⟩ := attempt.scaled
  rw [calculateScaling_congr apart] at ran
  obtain ⟨_, rfl⟩ | ⟨secret, message, missed, rfl⟩ := runs_calculateScaling_unread agree ran
  · rfl
  · have unknown := credentials secret ((sameReads secret).mpr (by simp [missed]))
    obtain ⟨_, failed⟩ := scaling_of_unread unknown ran missed
    rw [failed]
    rfl

theorem Attempt.interchangeable (attempt : Attempt reconciler name inputs state trace outcome
      final spec calculated secrets attempted)
    (defaults : (Kind.defaults, "default") ∈ unreadInputs trace →
      Interchangeable reconciler name inputs inputs.spec) :
    Interchangeable reconciler name inputs spec ∧ SameApart spec inputs.mergedSpec := by
  obtain ⟨rfl, _⟩ | ⟨rfl, missed⟩ := attempt.merged
  · exact ⟨⟨rfl, rfl, rfl, rfl⟩, _, _, _, _, rfl⟩
  · exact ⟨defaults missed, sameApart_of_pipelines (defaults missed).pipelines⟩

theorem sameContent_of_harmless (ignoresOrder : reconciler.toolkit.IgnoresOrder)
    (planned : inputs.plan reconciler name = .ok plan)
    (attempt : Attempt reconciler name inputs state trace outcome final spec calculated secrets
      attempted) (harmless : HarmlessErrors reconciler name inputs trace) :
    SameContent (inputs.owner name) spec inputs.mergedSpec attempted plan := by
  obtain ⟨interchangeable, apart⟩ := attempt.interchangeable harmless.defaults
  have reference := inputs.plannedFrom planned
  have sameScaling : attempted.scaling = plan.scaling := by
    rw [attempt.planned.scaling, reference.scaling, attempt.sameScaling apart harmless.credentials]
  have sameForwarding := attempt.planned.sameForwarding reference interchangeable.pipelines
    (congrArg ScalingDecision.replicas sameScaling)
  have sameConfig := interchangeable.config
  rw [← inputs.forwards_of_plan planned] at sameConfig
  have sameConfigs : generateConfigs reconciler.toolkit (inputs.owner name) spec
      plan.scaling.topicWorkers plan.needsPeerForwarder =
        generateConfigs reconciler.toolkit (inputs.owner name) inputs.mergedSpec
          plan.scaling.topicWorkers plan.needsPeerForwarder :=
    generateConfigs_eq_of_parts ignoresOrder interchangeable.pipelines sameConfig
  have sameData : (attempted.pipelinesData, attempted.configData) =
      (plan.pipelinesData, plan.configData) := by
    have generated := attempt.planned.configs
    rw [sameScaling, sameForwarding, sameConfigs, reference.configs] at generated
    exact (Except.ok.inj generated).symm
  obtain ⟨samePipelines, sameConfigData⟩ := Prod.mk.inj sameData
  refine ⟨samePipelines, sameConfigData, ?_⟩
  rw [sameForwarding, sameScaling, generateDeployment_eq_iff apart]
  refine ⟨rfl, interchangeable.image, interchangeable.resources, ?_⟩
  rw [podAnnotations_mergedSpec]
  obtain overridden | empty := harmless.secrets
  · exact .inl overridden
  · right
    obtain ⟨ready, reads, after, agree, ran, sameReads⟩ := attempt.hashed
    have sameSecrets : referencedSecrets spec = referencedSecrets inputs.mergedSpec := by
      unfold referencedSecrets
      rw [interchangeable.pipelines]
    have sameHash := (runs_secretHash_unread agree sameSecrets ran).2 fun secret missed =>
      empty secret ((sameReads secret).mpr missed)
    rw [attempt.planned.hash, reference.hash, samePipelines, sameConfigData, sameHash]

section Readable

variable {read : String → Option Value} (readable : reconciler.toolkit.ReadBy read)
  (valid : Validation.validateGraph (graphDefs inputs.mergedSpec.pipelines) = .ok ())
  (planned : inputs.plan reconciler name = .ok plan)
  (attempt : Attempt reconciler name inputs state trace outcome final spec calculated secrets
    attempted)

include readable valid planned attempt

/-- The same documents come from the same pipelines. -/
theorem samePipelines_of_sameData (sameData : attempted.pipelinesData = plan.pipelinesData) :
    spec.pipelines = inputs.mergedSpec.pipelines := by
  obtain ⟨rfl, _⟩ | ⟨rfl, _⟩ := attempt.merged
  · rfl
  obtain ⟨config, text, _, _, own, written, _, _, data, _⟩ :=
    generateConfigs_ok attempt.planned.configs
  obtain ⟨other, otherText, _, _, merged, otherWritten, _, _, otherData, _⟩ :=
    generateConfigs_ok (inputs.plannedFrom planned).configs
  obtain rfl := GoMap.ofList_singleton_injective (data.symm.trans (sameData.trans otherData))
  have sameDocument := document_eq_of_written readable written otherWritten
  rw [Inputs.mergedSpec, graphDefs_mergeSpec] at valid
  unfold Inputs.mergedSpec Defaults.mergeSpec at merged ⊢
  cases given : inputs.defaults with
  | none => rfl
  | some defaults =>
      simp only [given] at merged
      exact (mergePipelines_eq_of_rendered (distinct_of_valid valid) own merged sameDocument).symm

/-- The fallback to one replica shows in the document if partitions were counted. -/
theorem unknown_of_sameData (sameData : attempted.pipelinesData = plan.pipelinesData)
    (fallback : attempted.scaling.topicWorkers = 0) :
    inputs.decidingPartitions reconciler = none := by
  have reference := inputs.plannedFrom planned
  obtain ⟨config, rendered, shown⟩ :=
    renderedWorkers_of_generateConfigs readable attempt.planned.configs
  obtain ⟨other, otherRendered, otherShown⟩ :=
    renderedWorkers_of_generateConfigs readable reference.configs
  apply Option.eq_none_iff_forall_ne_some.mpr
  intro partitions known
  obtain ⟨⟨source, decides, _⟩, _, _, decided⟩ := decideScaling_of_count known
  obtain ⟨definition, kept, isKafka⟩ := exists_kept_kafka valid decides
  have positive : 0 < plan.scaling.topicWorkers := by
    rw [reference.scaling, Inputs.scaling, decided]
    exact lt_of_lt_of_le Int.one_pos (le_max_right _ _)
  have workers := topicWorkersIn_of_kept kept isKafka otherRendered
  rw [if_pos positive, ← otherShown] at workers
  have sameWorkers := shown definition.name
  simp only [sameData] at sameWorkers
  rw [workers] at sameWorkers
  have impossible := (topicWorkersIn_eq_some rendered sameWorkers.symm).1
  omega

theorem harmless_of_sameContent (secretsApart : inputs.SecretsApart reconciler.toolkit)
    (same : SameContent (inputs.owner name) spec inputs.mergedSpec attempted plan) :
    HarmlessErrors reconciler name inputs trace := by
  have reference := inputs.plannedFrom planned
  have samePipelines := samePipelines_of_sameData readable valid planned attempt same.pipelines
  have apart : SameApart spec inputs.mergedSpec := by
    obtain ⟨rfl, _⟩ | ⟨rfl, _⟩ := attempt.merged
    · exact ⟨_, _, _, _, rfl⟩
    · exact sameApart_of_pipelines samePipelines
  have sameReplicas : attempted.scaling.replicas = plan.scaling.replicas :=
    congrArg DeploymentSpec.replicas same.deployment
  have sameForwarding := attempt.planned.sameForwarding reference samePipelines sameReplicas
  have sameDeployment := same.deployment
  rw [sameForwarding, generateDeployment_eq_iff apart] at sameDeployment
  obtain ⟨_, image, resources, hash⟩ := sameDeployment
  refine ⟨?_, ?_, ?_⟩
  · intro missed
    obtain ⟨_, allRead⟩ | ⟨rfl, _⟩ := attempt.merged
    · exact absurd missed allRead
    refine ⟨image, resources, ?_, samePipelines⟩
    obtain ⟨_, _, config, text, _, _, own, written, _, data⟩ :=
      generateConfigs_ok attempt.planned.configs
    obtain ⟨_, _, other, otherText, _, _, merged, otherWritten, _, otherData⟩ :=
      generateConfigs_ok reference.configs
    obtain rfl := GoMap.ofList_singleton_injective (data.symm.trans (same.config.trans otherData))
    have sameDocument := document_eq_of_written readable written otherWritten
    rw [sameForwarding] at own
    have ownConfig : generateDPConfig inputs.spec plan.needsPeerForwarder name inputs.nameSpace =
        .ok config := own
    have mergedConfig : generateDPConfig inputs.mergedSpec plan.needsPeerForwarder name
        inputs.nameSpace = .ok other := merged
    rw [← inputs.forwards_of_plan planned, ownConfig, mergedConfig]
    exact congrArg Except.ok sameDocument
  · intro secret missed
    obtain ⟨ready, reads, after, agree, ran, sameReads⟩ := attempt.scaled
    rw [calculateScaling_congr apart] at ran
    obtain ⟨allRead, _⟩ | ⟨_, message, _, rfl⟩ := runs_calculateScaling_unread agree ran
    · rw [sameReads, allRead] at missed
      cases missed
    · refine unknown_of_sameData readable valid planned attempt same.pipelines ?_
      rw [attempt.planned.scaling]
      rfl
  · rw [podAnnotations_mergedSpec] at hash
    refine hash.imp_right fun sameHash secret missed => ?_
    obtain ⟨ready, reads, after, agree, ran, sameReads⟩ := attempt.hashed
    have sameSecrets : referencedSecrets spec = referencedSecrets inputs.mergedSpec := by
      unfold referencedSecrets
      rw [samePipelines]
    rw [attempt.planned.hash, reference.hash, same.pipelines, same.config,
      String.append_right_inj] at sameHash
    exact (runs_secretHash_unread agree sameSecrets ran).1 sameHash secretsApart secret
      ((sameReads secret).mp missed)

end Readable

end Attempts

/-- The ConfigMaps and the Deployment of a pipeline are the same in both states. -/
structure Undisturbed (name : String) (before after : Cluster) : Prop where
  pipelines : after.find .configMap (name ++ "-pipelines") =
    before.find .configMap (name ++ "-pipelines")
  config : after.find .configMap (name ++ "-config") = before.find .configMap (name ++ "-config")
  deployment : after.find .deployment name = before.find .deployment name

theorem SameDerived.undisturbed {name : String} {before after : Cluster}
    (same : SameDerived name before after) : Undisturbed name before after :=
  ⟨same _ _ (by simp [derivedObjects]), same _ _ (by simp [derivedObjects]),
    same _ _ (by simp [derivedObjects])⟩

theorem Undisturbed.congr {name : String} {before ready after final : Cluster}
    (prepared : SameDerived name before ready) (finished : SameDerived name after final) :
    Undisturbed name ready after ↔ Undisturbed name before final := by
  have first := prepared.undisturbed
  have last := finished.undisturbed
  constructor
  · rintro ⟨pipelines, config, deployment⟩
    exact ⟨last.pipelines.trans (pipelines.trans first.pipelines),
      last.config.trans (config.trans first.config),
      last.deployment.trans (deployment.trans first.deployment)⟩
  · rintro ⟨pipelines, config, deployment⟩
    exact ⟨last.pipelines.symm.trans (pipelines.trans first.pipelines.symm),
      last.config.symm.trans (config.trans first.config.symm),
      last.deployment.symm.trans (deployment.trans first.deployment.symm)⟩

section Deploying

variable {owner : DataPrepperPipeline} {spec other : DataPrepperPipelineSpec}
  {plan attempted : Plan} {state after : Cluster} {trace : List (Event Cluster Op Reply)}

theorem undisturbed_of_sameContent {deployed : Except String Unit}
    (same : SameContent owner spec other attempted plan)
    (realized : ∀ step ∈ children owner other plan, step.2.Realized owner state)
    (run : Runs Disturbed (deployChildren owner spec attempted).run state trace deployed after) :
    Undisturbed owner.name state after := by
  rw [deployChildren_eq] at run
  have sameSteps : (children owner spec attempted).take 3 = (children owner other plan).take 3 := by
    simp only [children, List.take_succ_cons, List.take_zero, same.pipelines, same.config,
      same.deployment]
  have distinct : ((children owner spec attempted).map (·.2.target)).Nodup := by
    rw [targets_children]
    exact nodup_derivedObjects owner.name
  have kept : ∀ step ∈ (children owner spec attempted).take 3,
      after.find step.2.kind step.2.name = state.find step.2.kind step.2.name := by
    intro step member
    have realizedFirst := realized step (List.mem_of_mem_take (sameSteps ▸ member))
    exact kept_of_deployAll distinct (List.mem_of_mem_take member) realizedFirst run
  exact ⟨kept _ (.head _), kept _ (.tail _ (.head _)), kept _ (.tail _ (.tail _ (.head _)))⟩

/-- A child with fixed content says what is stored. -/
theorem content_of_realized {kind : Kind} {name nameSpace : String} {labels : GoMap String}
    {content otherContent : kind.Spec} {before : Cluster}
    (realized : Child.Realized owner
      { kind, name, nameSpace, needed := true, labels, assign := fun _ => content } before)
    (again : Child.Realized owner
      { kind, name, nameSpace, needed := true, labels, assign := fun _ => otherContent } after)
    (kept : after.find kind name = before.find kind name) : otherContent = content := by
  obtain ⟨object, found, settled⟩ := realized
  obtain ⟨stored, foundAgain, settledAgain⟩ := again
  rw [kept, found, Option.some.injEq] at foundAgain
  subst foundAgain
  obtain ⟨_, spec, _⟩ := claimWith_content settled
  obtain ⟨_, specAgain, _⟩ := claimWith_content settledAgain
  exact specAgain.symm.trans spec

theorem sameContent_of_undisturbed (undisturbed : Undisturbed owner.name state after)
    (realized : ∀ step ∈ children owner other plan, step.2.Realized owner state)
    (run : Runs Disturbed (deployChildren owner spec attempted).run state trace (.ok ()) after) :
    SameContent owner spec other attempted plan := by
  rw [deployChildren_eq] at run
  have distinct : ((children owner spec attempted).map (·.2.target)).Nodup := by
    rw [targets_children]
    exact nodup_derivedObjects owner.name
  have again := realized_of_deployAll distinct (fun step member => assign_idempotent member) run
  exact
    { pipelines := content_of_realized (realized _ (.head _)) (again _ (.head _))
        undisturbed.pipelines
      config := content_of_realized (realized _ (.tail _ (.head _))) (again _ (.tail _ (.head _)))
        undisturbed.config
      deployment := content_of_realized (realized _ (.tail _ (.tail _ (.head _))))
        (again _ (.tail _ (.tail _ (.head _)))) undisturbed.deployment }

end Deploying

/-- In a valid graph the errors of the run are harmless; an invalid one is only reported. -/
def ReadErrorsHarmless (reconciler : PipelineReconciler) (name : String) (inputs : Inputs)
    (trace : List (Event Cluster Op Reply)) : Prop :=
  Validation.validateGraph (graphDefs inputs.mergedSpec.pipelines) = .ok () →
    HarmlessErrors reconciler name inputs trace

/-- After a successful reconcile, another one with the same inputs leaves the ConfigMaps and
the Deployment alone if the errors that it gets are harmless, and only then if it succeeds. -/
theorem read_errors_harmless_iff {reconciler : PipelineReconciler} {read : String → Option Value}
    {name : String} {inputs : Inputs} {first left state final : Cluster}
    {earlier trace : List (Event Cluster Op Reply)} {result : ReconcileResult}
    {outcome : Except String ReconcileResult} (readable : reconciler.toolkit.ReadBy read)
    (ignoresOrder : reconciler.toolkit.IgnoresOrder)
    (secretsApart : inputs.SecretsApart reconciler.toolkit)
    (knownFirst : inputsOf first name = some inputs)
    (succeeded : Runs Disturbed (reconcile reconciler name).run first earlier (.ok result) left)
    (unchanged : SameDerived name left state) (known : inputsOf state name = some inputs)
    (run : Runs (Serves InputFault) (reconcile reconciler name).run state trace outcome final) :
    (ReadErrorsHarmless reconciler name inputs trace → Undisturbed name state final) ∧
      ∀ result, outcome = .ok result → Undisturbed name state final →
        ReadErrorsHarmless reconciler name inputs trace := by
  obtain ⟨same, invalid⟩ | ⟨valid, spec, calculated, secrets, attempted, attempt⟩ :=
    attempt_of_reconcile known run
  · refine ⟨fun _ => same.undisturbed, fun result success _ valid => ?_⟩
    exact absurd valid (invalid ⟨result, success⟩)
  obtain ⟨ready, after, steps, deployed, prepared, deploying, finished, success⟩ := attempt.deployed
  obtain ⟨plan, planned, realized⟩ := realized_of_reconcile knownFirst valid succeeded
  have realizedReady : ∀ step ∈ children (inputs.owner name) inputs.mergedSpec plan,
      step.2.Realized (inputs.owner name) ready := by
    intro step member
    exact (realized step member).congr
      ((unchanged.trans prepared) _ _ (target_mem_derivedObjects member))
  rw [← Undisturbed.congr prepared finished]
  constructor
  · intro harmless
    exact undisturbed_of_sameContent (sameContent_of_harmless ignoresOrder planned attempt
      (harmless valid)) realizedReady deploying
  · rintro result rfl undisturbed _
    rw [success result rfl] at deploying
    exact harmless_of_sameContent readable valid planned attempt secretsApart
      (sameContent_of_undisturbed undisturbed realizedReady deploying)

def defaultedPipeline (image : String) : DataPrepperPipeline where
  metadata := (httpPipeline "ingest").metadata
  spec := { (httpPipeline "ingest").spec with image }
  status := {}

/-- A pipeline in a namespace with defaults. -/
def defaulted (image : String) (defaults : DataPrepperDefaultsSpec) : Cluster :=
  let stored : DataPrepperDefaults :=
    { metadata := { name := "default", nameSpace := "logs" }
      spec := defaults
      status := Kind.defaults.emptyStatus }
  ((Cluster.empty.create (defaultedPipeline image)).2.create stored).2

def defaultedInputs (image : String) (defaults : DataPrepperDefaultsSpec) : Inputs where
  spec := (defaultedPipeline image).spec
  uid := "uid-1"
  nameSpace := "logs"
  defaults := some defaults
  secrets := fun _ => none
  partitions := partitionAnswer Cluster.empty

theorem inputsOf_defaulted {image : String} {defaults : DataPrepperDefaultsSpec}
    {cluster : Cluster}
    (viewed : (cluster.find .pipeline "ingest").map (fun pipeline =>
        (pipeline.metadata.deleting, pipeline.spec, pipeline.metadata.uid,
          pipeline.metadata.nameSpace)) =
      some (false, (defaultedPipeline image).spec, "uid-1", "logs"))
    (given : (cluster.find .defaults "default").map (·.spec) = some defaults)
    (unreferenced : referencedSecrets (defaultedInputs image defaults).mergedSpec = [])
    (kafka : cluster.kafka = Cluster.empty.kafka) :
    inputsOf cluster "ingest" = some (defaultedInputs image defaults) := by
  obtain ⟨pipeline, found, same⟩ := Option.map_eq_some_iff.mp viewed
  simp only [Prod.mk.injEq] at same
  obtain ⟨live, spec, uid, nameSpace⟩ := same
  have answers : partitionAnswer cluster = partitionAnswer Cluster.empty := by
    unfold partitionAnswer
    rw [kafka]
  have merged : referencedSecrets (Defaults.mergeSpec (some defaults)
      (defaultedPipeline image).spec) = [] := unreferenced
  simp only [inputsOf, found, live, Bool.false_eq_true, if_false, spec, uid, nameSpace, given,
    merged, List.not_mem_nil, answers]
  rfl

/-- A server that cannot read the defaults at the moment. -/
def answerWithoutDefaults (cluster : Cluster) : (op : Op) → Reply op × Cluster
  | .get .defaults _ => (.error (.refused "etcdserver: request timed out"), cluster)
  | op => cluster.answer op

theorem serves_withoutDefaults (cluster : Cluster) (op : Op) :
    Serves InputFault cluster op (answerWithoutDefaults cluster op).1
      (answerWithoutDefaults cluster op).2 := by
  unfold answerWithoutDefaults
  split
  · exact .failed trivial ⟨_, rfl⟩
  · exact .honest (cluster.answer_honest _)

def deployedWith (image : String) (defaults : DataPrepperDefaultsSpec) : Cluster :=
  afterIngest (defaulted image defaults)

/-- A reconcile that cannot read the defaults. -/
def withoutDefaults (cluster : Cluster) : Except String ReconcileResult × Cluster :=
  (reconcile kafkaReconciler "ingest").run.execute answerWithoutDefaults cluster

def traceWithoutDefaults (cluster : Cluster) : List (Event Cluster Op Reply) :=
  (reconcile kafkaReconciler "ingest").run.trace answerWithoutDefaults cluster

theorem runs_withoutDefaults (cluster : Cluster) :
    Runs (Serves InputFault) (reconcile kafkaReconciler "ingest").run cluster
      (traceWithoutDefaults cluster) (withoutDefaults cluster).1 (withoutDefaults cluster).2 :=
  Program.runs_trace serves_withoutDefaults _ cluster

def monitored : DataPrepperDefaultsSpec := { serviceMonitor := some { enabled := true } }

/-- Defaults that only ask for a ServiceMonitor may be unreadable. -/
theorem read_errors_harmless_monitored :
    unreadInputs (traceWithoutDefaults (deployedWith "data-prepper" monitored)) =
        [(.defaults, "default")] ∧
      Undisturbed "ingest" (deployedWith "data-prepper" monitored)
        (withoutDefaults (deployedWith "data-prepper" monitored)).2 := by
  obtain ⟨unread, onlyDefaults, allRead⟩ :
      unreadInputs (traceWithoutDefaults (deployedWith "data-prepper" monitored)) =
        [(.defaults, "default")] ∧
      unreadInputs (scalingPhase (traceWithoutDefaults
        (deployedWith "data-prepper" monitored))) = [(.defaults, "default")] ∧
      unreadInputs (hashingPhase (traceWithoutDefaults
        (deployedWith "data-prepper" monitored))) = [] := by
    decide +kernel
  refine ⟨unread, ?_⟩
  obtain ⟨_, succeeded⟩ := runs_of_completes ChildFault
    (show Completes kafkaReconciler "ingest" (defaulted "data-prepper" monitored)
      by decide +kernel)
  have unreferenced : referencedSecrets (defaultedInputs "data-prepper" monitored).mergedSpec =
      [] := by decide +kernel
  have knownFirst : inputsOf (defaulted "data-prepper" monitored) "ingest" =
      some (defaultedInputs "data-prepper" monitored) :=
    inputsOf_defaulted (by decide +kernel) (by decide +kernel) unreferenced rfl
  have known : inputsOf (deployedWith "data-prepper" monitored) "ingest" =
      some (defaultedInputs "data-prepper" monitored) :=
    inputsOf_defaulted (by decide +kernel) (by decide +kernel) unreferenced
      (runs_externals succeeded).1
  have secretsApart : (defaultedInputs "data-prepper" monitored).SecretsApart
      kafkaReconciler.toolkit := by
    intro kept sublist _
    rw [unreferenced, List.sublist_nil] at sublist
    unfold Inputs.secretStream
    rw [sublist, unreferenced]
    rfl
  have unchanged : SameDerived "ingest" (deployedWith "data-prepper" monitored)
      (deployedWith "data-prepper" monitored) := fun _ _ _ => rfl
  refine (read_errors_harmless_iff jsonToolkit_readBy jsonToolkit_ignoresOrder secretsApart
    knownFirst succeeded unchanged known (runs_withoutDefaults _)).1 fun _ => ?_
  refine ⟨fun _ => ⟨rfl, rfl, by decide +kernel, rfl⟩, ?_, .inr ?_⟩
  · simp [onlyDefaults]
  · simp [allRead]

def defaultImage : DataPrepperDefaultsSpec := { image := "data-prepper" }

/-- The image comes from the defaults, and a reconcile that cannot read them removes it. -/
theorem unread_defaults_remove_image :
    ∃ inputs earlier result trace outcome final,
      inputsOf (defaulted "" defaultImage) "ingest" = some inputs ∧
      Runs Disturbed (reconcile kafkaReconciler "ingest").run
        (defaulted "" defaultImage) earlier (.ok result)
        (deployedWith "" defaultImage) ∧
      inputsOf (deployedWith "" defaultImage) "ingest" = some inputs ∧
      Runs (Serves InputFault) (reconcile kafkaReconciler "ingest").run
        (deployedWith "" defaultImage) trace outcome final ∧
      unreadInputs trace = [(.defaults, "default")] ∧
      ¬Undisturbed "ingest" (deployedWith "" defaultImage) final := by
  obtain ⟨unread, images⟩ :
      unreadInputs (traceWithoutDefaults (deployedWith "" defaultImage)) =
        [(.defaults, "default")] ∧
      ((withoutDefaults (deployedWith "" defaultImage)).2.find
        .deployment "ingest").map (fun object => object.spec.template.containers.map (·.image)) ≠
          ((deployedWith "" defaultImage).find .deployment "ingest").map
            (fun object => object.spec.template.containers.map (·.image)) := by
    decide +kernel
  obtain ⟨earlier, succeeded⟩ := runs_of_completes ChildFault
    (show Completes kafkaReconciler "ingest" (defaulted "" defaultImage)
      by decide +kernel)
  have unreferenced : referencedSecrets
      (defaultedInputs "" defaultImage).mergedSpec = [] := by decide +kernel
  have known : inputsOf (deployedWith "" defaultImage) "ingest" =
      some (defaultedInputs "" defaultImage) :=
    inputsOf_defaulted (by decide +kernel) (by decide +kernel) unreferenced
      (runs_externals succeeded).1
  refine ⟨_, earlier, _, traceWithoutDefaults _, _, _,
    inputsOf_defaulted (by decide +kernel) (by decide +kernel) unreferenced rfl, succeeded, known,
    runs_withoutDefaults _, unread, fun undisturbed => ?_⟩
  rw [undisturbed.deployment] at images
  exact images rfl

end DataPrepperOperator.Controller
