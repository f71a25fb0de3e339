import DataPrepperOperator.Controller.Generated
import DataPrepperOperator.Library.ValuePaths
import DataPrepperOperator.Webhook.Pipeline

/-!
# Names and labels of the generated objects

The webhook bounds the name of a pipeline so that the headless Service still fits.
The generators append other suffixes as well, and copy the name into labels and
selectors, whose values Kubernetes limits to 63 characters.
-/

namespace DataPrepperOperator.Webhook

open DataPrepperOperator.Api DataPrepperOperator.Controller DataPrepperOperator.Generator

/-- The label and selector maps inside a spec. -/
def selectorMaps : (kind : Kind) → kind.Spec → List (GoMap String)
  | .deployment, spec => [spec.selector, spec.template.labels, spec.template.nodeSelector]
  | .service, spec => [spec.selector]
  | .podDisruptionBudget, spec => [spec.selector]
  | .serviceMonitor, spec => [spec.selector]
  | .configMap, _ | .horizontalPodAutoscaler, _ | .secret, _ | .pipeline, _ | .defaults, _
  | .sourceDiscovery, _ => []

/-- The affinity inside a spec, which the generator copies. -/
def affinityOf : (kind : Kind) → kind.Spec → Option Value
  | .deployment, spec => spec.template.affinity
  | .service, _ | .podDisruptionBudget, _ | .serviceMonitor, _ | .configMap, _
  | .horizontalPodAutoscaler, _ | .secret, _ | .pipeline, _ | .defaults, _
  | .sourceDiscovery, _ => none

/-- A label value among the `matchExpressions` of a selector. -/
def expressionPath (expression value : Nat) : List Value.Step :=
  [.field "matchExpressions", .item expression, .field "values", .item value]

/-- Where a `PodAffinityTerm` holds label values. -/
inductive PodTermPath : List Value.Step → Prop where
  | label {selector key : String} : selector ∈ ["labelSelector", "namespaceSelector"] →
      PodTermPath [.field selector, .field "matchLabels", .field key]
  | expression {selector : String} {expression value : Nat} :
      selector ∈ ["labelSelector", "namespaceSelector"] →
      PodTermPath (.field selector :: expressionPath expression value)

/-- Where an `Affinity` holds label values. -/
inductive AffinityPath : List Value.Step → Prop where
  | nodeRequired {term expression value : Nat} :
      AffinityPath (.field "nodeAffinity" ::
        .field "requiredDuringSchedulingIgnoredDuringExecution" ::
        .field "nodeSelectorTerms" :: .item term :: expressionPath expression value)
  | nodePreferred {term expression value : Nat} :
      AffinityPath (.field "nodeAffinity" ::
        .field "preferredDuringSchedulingIgnoredDuringExecution" ::
        .item term :: .field "preference" :: expressionPath expression value)
  | podRequired {affinity : String} {term : Nat} {path : List Value.Step} :
      affinity ∈ ["podAffinity", "podAntiAffinity"] → PodTermPath path →
      AffinityPath (.field affinity ::
        .field "requiredDuringSchedulingIgnoredDuringExecution" :: .item term :: path)
  | podPreferred {affinity : String} {term : Nat} {path : List Value.Step} :
      affinity ∈ ["podAffinity", "podAntiAffinity"] → PodTermPath path →
      AffinityPath (.field affinity ::
        .field "preferredDuringSchedulingIgnoredDuringExecution" :: .item term ::
        .field "podAffinityTerm" :: path)

/-- Every label value that an affinity selects by is short enough for a label. -/
def AffinitySized (affinity : Option Value) : Prop :=
  ∀ value ∈ affinity, ∀ path text, AffinityPath path → value.textAt path = some text →
    text.utf8ByteSize ≤ 63

/-- Every value is short enough for a label. -/
def LabelSized (labels : GoMap String) : Prop :=
  ∀ key value, labels.lookup key = some value → value.utf8ByteSize ≤ 63

/-- The limits of the API server for names, labels and selectors. -/
structure WithinLimits {kind : Kind} (object : Object kind) : Prop where
  name : object.name.utf8ByteSize ≤ 253
  labels : LabelSized object.metadata.labels
  selectors : ∀ labels ∈ selectorMaps kind object.spec, LabelSized labels
  affinity : AffinitySized (affinityOf kind object.spec)

theorem labelSized_insert {labels : GoMap String} {key value : String} (sized : LabelSized labels)
    (short : value.utf8ByteSize ≤ 63) : LabelSized (labels.insert key value) := by
  intro other found present
  by_cases same : other = key
  · subst same
    rw [Finmap.lookup_insert, Option.some.injEq] at present
    exact present ▸ short
  · rw [Finmap.lookup_insert_of_ne _ same] at present
    exact sized other found present

theorem labelSized_empty : LabelSized ∅ := by
  intro key value present
  simp at present

theorem labelSized_commonLabels {name : String} (short : name.utf8ByteSize ≤ 63) :
    LabelSized (commonLabels name) := by
  apply labelSized_insert _ short
  apply labelSized_insert _ (by decide)
  exact labelSized_insert labelSized_empty (by decide)

theorem labelSized_selectorLabels {name : String} (short : name.utf8ByteSize ≤ 63) :
    LabelSized (selectorLabels name) :=
  labelSized_insert (labelSized_insert labelSized_empty (by decide)) short

theorem labelSized_copy {target source : GoMap String} (sizedTarget : LabelSized target)
    (sizedSource : LabelSized source) : LabelSized (GoMap.copy target source) := by
  intro key value present
  rw [GoMap.lookup_copy] at present
  cases found : source.lookup key with
  | none =>
      rw [found] at present
      exact sizedTarget key value present
  | some own =>
      rw [found] at present
      cases present
      exact sizedSource key _ found

theorem labelSized_of_copy {target source : GoMap String}
    (sized : LabelSized (GoMap.copy target source)) : LabelSized source := by
  intro key value present
  apply sized key
  rw [GoMap.lookup_copy, present]
  rfl

theorem lookup_instance_commonLabels (name : String) :
    (commonLabels name).lookup instanceLabel = some name :=
  Finmap.lookup_insert _

theorem affinitySized_none : AffinitySized none := by
  rintro _ ⟨⟩

/-- A name fits into every generated object exactly when it could be a label value
itself and the user's own pod labels, node selector and affinity fit too. -/
theorem within_limits_iff (pipeline : DataPrepperPipeline) (mergedSpec : DataPrepperPipelineSpec)
    (plan : Plan) :
    (∀ kind object, Generates pipeline mergedSpec plan kind object → WithinLimits object) ↔
      pipeline.name.utf8ByteSize ≤ 63 ∧ LabelSized mergedSpec.podLabels ∧
        LabelSized mergedSpec.nodeSelector ∧ AffinitySized mergedSpec.affinity := by
  constructor
  · intro within
    have deployment := within _ _ .deployment
    have selectors := List.forall_mem_cons.mp deployment.selectors
    have template := List.forall_mem_cons.mp selectors.2
    refine ⟨deployment.labels _ _ (lookup_instance_commonLabels _),
      labelSized_of_copy template.1, ?_, deployment.affinity⟩
    exact template.2 _ List.mem_cons_self
  · rintro ⟨short, podLabels, nodeSelector, affinity⟩ kind object generates
    have labels := labelSized_commonLabels short
    have selector := labelSized_selectorLabels short
    have bare : pipeline.name.utf8ByteSize ≤ 253 := by omega
    have suffixed : ∀ suffix : String, suffix.utf8ByteSize ≤ 190 →
        (pipeline.name ++ suffix).utf8ByteSize ≤ 253 := by
      intro suffix fits
      rw [String.utf8ByteSize_append]
      omega
    have alone : ∀ others ∈ [selectorLabels pipeline.name], LabelSized others := by
      simpa using selector
    cases generates with
    | pipelinesConfigMap | configConfigMap =>
        exact ⟨suffixed _ (by decide), labels, by simp [selectorMaps], affinitySized_none⟩
    | deployment =>
        have template := labelSized_copy selector podLabels
        refine ⟨bare, labels, ?_, affinity⟩
        exact List.forall_mem_cons.mpr ⟨selector,
          List.forall_mem_cons.mpr ⟨template, List.forall_mem_cons.mpr ⟨nodeSelector, by simp⟩⟩⟩
    | service => exact ⟨bare, labels, alone, affinitySized_none⟩
    | headlessService => exact ⟨suffixed _ (by decide), labels, alone, affinitySized_none⟩
    | horizontalPodAutoscaler => exact ⟨bare, labels, by simp [selectorMaps], affinitySized_none⟩
    | podDisruptionBudget | serviceMonitor => exact ⟨bare, labels, alone, affinitySized_none⟩

theorem selectors_of_sameContent {kind : Kind} {claimed desired : kind.Spec}
    (same : sameContent kind claimed desired) :
    selectorMaps kind claimed = selectorMaps kind desired ∧
      affinityOf kind claimed = affinityOf kind desired := by
  cases kind with
  | service => exact ⟨congrArg (fun fields => [ServiceFields.selector fields]) same.1, rfl⟩
  | _ => exact ⟨congrArg _ same, congrArg _ same⟩

/-- What a reconcile deploys keeps the limits if what it generates does. -/
theorem withinLimits_of_writesGenerated {pipeline : DataPrepperPipeline}
    {mergedSpec : DataPrepperPipelineSpec} {plan : Plan}
    (within : ∀ kind object, Generates pipeline mergedSpec plan kind object →
      WithinLimits object) {kind : Kind} {claimed : Object kind}
    (writes : WritesGenerated pipeline mergedSpec plan (.create kind claimed) ∨
      WritesGenerated pipeline mergedSpec plan (.update kind claimed)) : WithinLimits claimed := by
  obtain ⟨object, generates, carries⟩ :
      ∃ object, Generates pipeline mergedSpec plan kind object ∧ Carries claimed object :=
    writes.elim id id
  have limits := within kind object generates
  obtain ⟨sameMaps, sameAffinity⟩ := selectors_of_sameContent carries.content
  exact ⟨carries.name ▸ limits.name, carries.labels ▸ limits.labels, sameMaps ▸ limits.selectors,
    sameAffinity ▸ limits.affinity⟩

/-- A pipeline whose name is as long as the webhook allows. -/
def longNamed : DataPrepperPipeline :=
  httpPipeline (String.ofList (List.replicate 244 'a'))

/-- The longest accepted name breaks both limits. -/
theorem long_name_beyond_limits :
    validatePipeline none longNamed = .ok () ∧
      ∀ plan, ∃ object, Generates longNamed longNamed.spec plan .configMap object ∧
        ¬object.name.utf8ByteSize ≤ 253 ∧ ¬LabelSized object.metadata.labels := by
  have tooLong : ¬(longNamed.name ++ "-pipelines").utf8ByteSize ≤ 253 := by decide +kernel
  refine ⟨by decide +kernel, fun plan => ⟨_, .pipelinesConfigMap, tooLong, ?_⟩⟩
  intro sized
  exact absurd (sized _ _ (lookup_instance_commonLabels _)) (by decide +kernel)

end DataPrepperOperator.Webhook
