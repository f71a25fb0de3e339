import DataPrepperOperator.Controller.Desired

/-!
# What a reconcile deploys

The child objects that belong to a merged spec and a plan, and that a reconcile
creates and updates no others.
-/

namespace DataPrepperOperator.Controller

open ServerProgram DataPrepperOperator.Api DataPrepperOperator.Generator

/-- The objects that a reconcile generates from a merged spec and a plan. -/
inductive Generates (pipeline : DataPrepperPipeline) (mergedSpec : DataPrepperPipelineSpec)
    (plan : Plan) : (kind : Kind) → Object kind → Prop where
  | pipelinesConfigMap :
      Generates pipeline mergedSpec plan .configMap
        (generated .configMap (pipeline.name ++ "-pipelines") pipeline.metadata.nameSpace
          (commonLabels pipeline.name) plan.pipelinesData)
  | configConfigMap :
      Generates pipeline mergedSpec plan .configMap
        (generated .configMap (pipeline.name ++ "-config") pipeline.metadata.nameSpace
          (commonLabels pipeline.name) plan.configData)
  | deployment :
      Generates pipeline mergedSpec plan .deployment
        (generateDeployment pipeline mergedSpec plan.scaling.replicas plan.needsPeerForwarder
          plan.configHash)
  | service : needsService mergedSpec.pipelines mergedSpec.serviceMonitor = true →
      Generates pipeline mergedSpec plan .service (generateService pipeline mergedSpec)
  | headlessService : plan.needsPeerForwarder = true →
      Generates pipeline mergedSpec plan .service (generateHeadlessService pipeline)
  | horizontalPodAutoscaler : plan.scaling.useHPA = true →
      Generates pipeline mergedSpec plan .horizontalPodAutoscaler
        (generateHPA pipeline (Scaling.scalingBounds mergedSpec.scaling).1
          (Scaling.scalingBounds mergedSpec.scaling).2 defaultTargetCPU)
  | podDisruptionBudget : 1 < plan.scaling.replicas →
      Generates pipeline mergedSpec plan .podDisruptionBudget
        (generatePDB pipeline plan.scaling.replicas)
  | serviceMonitor : mergedSpec.serviceMonitor.any (·.enabled) = true →
      Generates pipeline mergedSpec plan .serviceMonitor
        (generateServiceMonitor pipeline mergedSpec)

/-- The part of a spec that a reconcile assigns; a Service keeps its other fields. -/
def sameContent : (kind : Kind) → (claimed desired : kind.Spec) → Prop
  | .service, claimed, desired =>
      serviceFields claimed = serviceFields desired ∧
        (desired.clusterIP = "" ∨ claimed.clusterIP = desired.clusterIP)
  | .configMap, claimed, desired | .deployment, claimed, desired
  | .horizontalPodAutoscaler, claimed, desired | .podDisruptionBudget, claimed, desired
  | .serviceMonitor, claimed, desired | .secret, claimed, desired | .pipeline, claimed, desired
  | .defaults, claimed, desired | .sourceDiscovery, claimed, desired => claimed = desired

/-- The object is stored under the name, with the labels and with the content of the
generated one. -/
structure Carries {kind : Kind} (claimed desired : Object kind) : Prop where
  name : claimed.name = desired.name
  labels : claimed.metadata.labels = desired.metadata.labels
  content : sameContent kind claimed.spec desired.spec

/-- What is created or updated was generated. -/
def WritesGenerated (pipeline : DataPrepperPipeline) (mergedSpec : DataPrepperPipelineSpec)
    (plan : Plan) : Op → Prop
  | .create kind claimed | .update kind claimed =>
      ∃ object, Generates pipeline mergedSpec plan kind object ∧ Carries claimed object
  | .updateStatus _ _ => False
  | .get _ _ | .listPipelines _ | .delete _ _ | .kafkaConnect _ | .kafkaPartitionCount _ _
  | .kafkaListTopics _ | .s3Connect _ | .s3ListPrefixes _ _ _ | .now | .rangeOver _ => True

section WritesGenerated

variable {pipeline : DataPrepperPipeline} {mergedSpec : DataPrepperPipelineSpec} {plan : Plan}

theorem writesGenerated_of_read (op : Op) (reads : op.target = none) :
    WritesGenerated pipeline mergedSpec plan op := by
  cases op <;> trivial

theorem writesGenerated_of_claim {kind : Kind} {labels : GoMap String}
    {assign : kind.Spec → kind.Spec} {desired : Object kind}
    (generates : Generates pipeline mergedSpec plan kind desired)
    (sameLabels : labels = desired.metadata.labels)
    (assigns : ∀ spec, sameContent kind (assign spec) desired.spec)
    (object claimed : Object kind) (named : object.name = desired.name)
    (success : claimWith pipeline labels assign object = .ok claimed) :
    WritesGenerated pipeline mergedSpec plan (.create kind claimed) ∧
      WritesGenerated pipeline mergedSpec plan (.update kind claimed) := by
  obtain ⟨claimedLabels, spec, _, _, claimedName, _⟩ := claimWith_content success
  have carries : Carries claimed desired :=
    ⟨claimedName.trans named, claimedLabels.trans sameLabels, spec ▸ assigns object.spec⟩
  exact ⟨⟨desired, generates, carries⟩, ⟨desired, generates, carries⟩⟩

/-- An object that is deployed or else deleted. -/
theorem issues_optional {kind : Kind} {labels : GoMap String} {assign : kind.Spec → kind.Spec}
    {desired : Object kind} {nameSpace : String} {needed : Bool}
    (generates : needed = true → Generates pipeline mergedSpec plan kind desired)
    (sameLabels : labels = desired.metadata.labels)
    (assigns : ∀ spec, sameContent kind (assign spec) desired.spec) :
    Issues (WritesGenerated pipeline mergedSpec plan) Expected (OnSuccess fun _ => True)
      (reconcileOrDelete (Object.named kind desired.name nameSpace) needed
        (claimWith pipeline labels assign)).run := by
  cases needed with
  | true =>
      exact issues_createOrUpdate (writesGenerated_of_read _ rfl) (fun _ _ => id)
        (writesGenerated_of_claim (generates rfl) sameLabels assigns)
  | false =>
      -- nothing is claimed on this branch, so any mutate function will do
      have removed : Issues (WritesGenerated pipeline mergedSpec plan) Expected
          (OnSuccess fun _ => True)
          (reconcileOrDelete (Object.named kind desired.name nameSpace) false
            fun _ => .error "").run :=
        issues_reconcileOrDelete (writesGenerated_of_read _ rfl) (fun _ _ => id) (by simp)
          fun _ => trivial
      exact removed

variable (pipeline mergedSpec plan)

theorem writesGenerated_deployChildren :
    Issues (WritesGenerated pipeline mergedSpec plan) Expected (OnSuccess fun _ => True)
      (deployChildren pipeline mergedSpec plan).run := by
  let Fine (action : Reconciler Unit) : Prop :=
    Issues (WritesGenerated pipeline mergedSpec plan) Expected (OnSuccess fun _ => True) action.run
  have step : ∀ {context : String} {first rest : Reconciler Unit}, Fine first → Fine rest →
      Fine (do wrapError context first; rest) :=
    fun issued later => Issues.bind_fallible _ (issues_wrapError issued) fun _ _ => later
  apply step
  · exact issues_createOrUpdate (writesGenerated_of_read _ rfl) (fun _ _ => id)
      (writesGenerated_of_claim .pipelinesConfigMap rfl fun _ => rfl)
  apply step
  · exact issues_createOrUpdate (writesGenerated_of_read _ rfl) (fun _ _ => id)
      (writesGenerated_of_claim .configConfigMap rfl fun _ => rfl)
  apply step
  · exact issues_createOrUpdate (writesGenerated_of_read _ rfl) (fun _ _ => id)
      (writesGenerated_of_claim .deployment rfl fun _ => rfl)
  apply step
  · exact issues_optional .service rfl fun _ => ⟨rfl, .inl rfl⟩
  apply step
  · exact issues_optional .headlessService rfl fun _ => ⟨rfl, .inr rfl⟩
  apply step
  · exact issues_optional .horizontalPodAutoscaler rfl fun _ => rfl
  apply issues_wrapError
  exact issues_optional (fun several => .podDisruptionBudget (of_decide_eq_true several)) rfl
    fun _ => rfl

theorem writesGenerated_deployServiceMonitor (reconciler : PipelineReconciler) :
    Issues (WritesGenerated pipeline mergedSpec plan) Expected (OnSuccess fun _ => True)
      (deployServiceMonitor reconciler pipeline mergedSpec).run := by
  unfold deployServiceMonitor
  split
  · apply Issues.bind_fallible (fun _ => True)
    · have monitor : Issues (WritesGenerated pipeline mergedSpec plan) Expected
          (OnSuccess fun _ => True) (reconcileServiceMonitor pipeline mergedSpec
            (mergedSpec.serviceMonitor.any (·.enabled))).run :=
        issues_optional .serviceMonitor rfl fun _ => rfl
      exact Issues.lift (monitor.weaken fun _ _ => trivial)
    · exact fun _ _ => trivial
  · trivial

end WritesGenerated

end DataPrepperOperator.Controller
