import DataPrepperOperator.Controller.Generated
import DataPrepperOperator.Webhook.Pipeline

/-!
# Labels and annotations of the pods

The pods of a pipeline are found by the selectors of its Deployment, its Services and
its disruption budget, and restarted when the hash in their annotations changes.  The
user's own labels and annotations are copied over both.
-/

namespace DataPrepperOperator.Webhook

open DataPrepperOperator.Api DataPrepperOperator.Controller DataPrepperOperator.Generator

/-- The selectors for pods inside a spec; a ServiceMonitor selects Services. -/
def podSelectors : (kind : Kind) → kind.Spec → List (GoMap String)
  | .deployment, spec => [spec.selector]
  | .service, spec => [spec.selector]
  | .podDisruptionBudget, spec => [spec.selector]
  | .serviceMonitor, _ | .configMap, _ | .horizontalPodAutoscaler, _ | .secret, _ | .pipeline, _
  | .defaults, _ | .sourceDiscovery, _ => []

/-- The template of the pods that a plan deploys. -/
def podTemplate (pipeline : DataPrepperPipeline) (mergedSpec : DataPrepperPipelineSpec)
    (plan : Plan) : PodTemplateSpec :=
  (generateDeployment pipeline mergedSpec plan.scaling.replicas plan.needsPeerForwarder
    plan.configHash).spec.template

/-- The pods carry what the operator relies on, and otherwise what the user wants. -/
structure OwnMetadataWins (pipeline : DataPrepperPipeline) (mergedSpec : DataPrepperPipelineSpec)
    (plan : Plan) : Prop where
  selected : ∀ kind object, Generates pipeline mergedSpec plan kind object →
    ∀ selector ∈ podSelectors kind object.spec,
      GoMap.Includes (podTemplate pipeline mergedSpec plan).labels selector
  hashed : (podTemplate pipeline mergedSpec plan).annotations.lookup configHashAnnotation =
    some plan.configHash
  userLabels : ∀ key value, key ∉ selectorLabels pipeline.name →
    mergedSpec.podLabels.lookup key = some value →
      (podTemplate pipeline mergedSpec plan).labels.lookup key = some value
  userAnnotations : ∀ key value, key ≠ configHashAnnotation →
    mergedSpec.podAnnotations.lookup key = some value →
      (podTemplate pipeline mergedSpec plan).annotations.lookup key = some value

section PodMetadata

variable {pipeline : DataPrepperPipeline} {mergedSpec : DataPrepperPipelineSpec} {plan : Plan}

theorem lookup_selectorLabels_iff {name key value : String} :
    (selectorLabels name).lookup key = some value ↔
      key = instanceLabel ∧ value = name ∨ key = nameLabel ∧ value = "data-prepper" := by
  have different : instanceLabel ≠ nameLabel := by decide
  change (((∅ : GoMap String).insert nameLabel "data-prepper").insert instanceLabel name).lookup
    key = some value ↔ _
  by_cases isInstance : key = instanceLabel
  · subst isInstance
    simp [different, eq_comm]
  · by_cases isName : key = nameLabel
    · subst isName
      simp [isInstance, eq_comm]
    · simp [isInstance, isName]

/-- All selectors for the pods of a pipeline are the same. -/
theorem eq_selectorLabels_of_podSelectors {kind : Kind} {object : Object kind}
    (generates : Generates pipeline mergedSpec plan kind object) {selector : GoMap String}
    (member : selector ∈ podSelectors kind object.spec) :
    selector = selectorLabels pipeline.name := by
  cases generates with
  | deployment | service | headlessService | podDisruptionBudget =>
      exact List.mem_singleton.mp member
  | pipelinesConfigMap | configConfigMap | horizontalPodAutoscaler | serviceMonitor =>
      cases member

theorem includes_selectorLabels_iff :
    GoMap.Includes (podTemplate pipeline mergedSpec plan).labels (selectorLabels pipeline.name) ↔
      (∀ label ∈ mergedSpec.podLabels.lookup nameLabel, label = "data-prepper") ∧
        ∀ label ∈ mergedSpec.podLabels.lookup instanceLabel, label = pipeline.name := by
  refine GoMap.includes_copy_target_iff.trans ?_
  simp only [lookup_selectorLabels_iff]
  constructor
  · intro agrees
    exact ⟨agrees nameLabel _ (.inr ⟨rfl, rfl⟩), agrees instanceLabel _ (.inl ⟨rfl, rfl⟩)⟩
  · rintro ⟨names, instances⟩ key value (⟨rfl, rfl⟩ | ⟨rfl, rfl⟩)
    · exact instances
    · exact names

theorem hashed_iff :
    (podTemplate pipeline mergedSpec plan).annotations.lookup configHashAnnotation =
        some plan.configHash ↔
      ∀ hash ∈ mergedSpec.podAnnotations.lookup configHashAnnotation, hash = plan.configHash := by
  have operator : (GoMap.ofList [( configHashAnnotation, plan.configHash)]).lookup
      configHashAnnotation = some plan.configHash := Finmap.lookup_insert _
  change (GoMap.copy _ _).lookup _ = _ ↔ _
  rw [GoMap.lookup_copy, operator]
  cases mergedSpec.podAnnotations.lookup configHashAnnotation with
  | none | some => simp

/-- The operator's labels and its annotation survive exactly if the user's say the same
under their keys. -/
theorem own_metadata_wins_iff :
    OwnMetadataWins pipeline mergedSpec plan ↔
      (∀ label ∈ mergedSpec.podLabels.lookup nameLabel, label = "data-prepper") ∧
        (∀ label ∈ mergedSpec.podLabels.lookup instanceLabel, label = pipeline.name) ∧
        ∀ hash ∈ mergedSpec.podAnnotations.lookup configHashAnnotation, hash = plan.configHash := by
  rw [← and_assoc, ← includes_selectorLabels_iff, ← hashed_iff]
  constructor
  · intro wins
    exact ⟨wins.selected _ _ .deployment _ List.mem_cons_self, wins.hashed⟩
  · rintro ⟨included, hashed⟩
    refine ⟨?_, hashed, ?_, ?_⟩
    · intro kind object generates selector member
      rw [eq_selectorLabels_of_podSelectors generates member]
      exact included
    · intro key value _ present
      exact GoMap.includes_copy_source _ _ key value present
    · intro key value _ present
      exact GoMap.includes_copy_source _ _ key value present

end PodMetadata

/-- Its pods are to be called `ingest`. -/
def relabelledPipeline : DataPrepperPipeline :=
  let pipeline := httpPipeline "logs"
  { pipeline with spec :=
      { pipeline.spec with podLabels := GoMap.ofList [(nameLabel, "ingest")] } }

/-- The pods of an accepted pipeline are found by none of its selectors. -/
theorem relabelled_pods_not_selected :
    validatePipeline none relabelledPipeline = .ok () ∧
      ∀ plan, ¬OwnMetadataWins relabelledPipeline relabelledPipeline.spec plan := by
  refine ⟨by decide +kernel, fun plan wins => ?_⟩
  have carried := wins.selected _ _ .deployment _ List.mem_cons_self nameLabel "data-prepper"
    (lookup_selectorLabels_iff.mpr (.inr ⟨rfl, rfl⟩))
  have own : relabelledPipeline.spec.podLabels.lookup nameLabel = some "ingest" := by
    change (Finmap.insert nameLabel "ingest" (∅ : GoMap String)).lookup nameLabel = _
    exact Finmap.lookup_insert _
  have relabelled := GoMap.includes_copy_source (selectorLabels relabelledPipeline.name)
    relabelledPipeline.spec.podLabels nameLabel "ingest" own
  have same := carried.symm.trans relabelled
  exact absurd same (by decide)

end DataPrepperOperator.Webhook
