import DataPrepperOperator.Api.Types

/-!
# Settings

Go leaves a field unset by its zero value: an empty string or list, a nil pointer, a
missing key.  Here a field is read as a value that may be missing.
-/

namespace DataPrepperOperator.Api

/-- A string field is set if it is not empty. -/
def textSetting (text : String) : Option String :=
  if text = "" then none else some text

/-- A list field is set if it is not empty. -/
def listSetting {Item : Type} (items : List Item) : Option (List Item) :=
  match items with
  | [] => none
  | item :: rest => some (item :: rest)

theorem textSetting_inj {first second : String} (same : textSetting first = textSetting second) :
    first = second := by
  unfold textSetting at same
  split at same <;> split at same <;> simp_all

theorem listSetting_inj {Item : Type} {first second : List Item}
    (same : listSetting first = listSetting second) : first = second := by
  cases first <;> cases second <;> simp_all [listSetting]

theorem listSetting_eq_some {Item : Type} {items others : List Item}
    (set : listSetting items = some others) : items = others := by
  cases items with
  | nil => cases set
  | cons item rest => exact Option.some.inj set

theorem listSetting_map {Item Result : Type} (change : Item → Result) (items : List Item) :
    listSetting (items.map change) = (listSetting items).map (List.map change) := by
  cases items <;> rfl

/-- Filling in an unset string. -/
theorem textSetting_fill (own fallback : String) :
    textSetting (if own = "" then fallback else own) =
      (textSetting own).or (textSetting fallback) := by
  by_cases unset : own = "" <;> simp [textSetting, unset]

theorem listSetting_fill {Item : Type} [DecidableEq Item] (own fallback : List Item) :
    listSetting (if own = [] then fallback else own) =
      (listSetting own).or (listSetting fallback) := by
  cases own <;> simp [listSetting]

/-- The fields of a pipeline spec; the entries of the three merged maps count one by one. -/
inductive SpecField where
  | image
  | imagePullPolicy
  | pipelines
  | scaling
  | resources
  | dataPrepperConfig
  | serviceMonitor
  | podAnnotationEntry (key : String)
  | podLabelEntry (key : String)
  | nodeSelectorEntry (key : String)
  | tolerations
  | affinity
  | podSecurityContext
  | securityContext
  | serviceAccountName

namespace SpecField

def Content : SpecField → Type
  | image | imagePullPolicy | serviceAccountName => String
  | podAnnotationEntry _ | podLabelEntry _ | nodeSelectorEntry _ => String
  | pipelines => List PipelineDefinition
  | scaling => ScalingSpec
  | resources => PerReplicaResources
  | dataPrepperConfig => DataPrepperConfigSpec
  | serviceMonitor => ServiceMonitorSpec
  | tolerations => List Value
  | affinity | podSecurityContext | securityContext => Value

/-- The value of a field, if it is set. -/
def setting : (field : SpecField) → DataPrepperPipelineSpec → Option field.Content
  | image, spec => textSetting spec.image
  | imagePullPolicy, spec => textSetting spec.imagePullPolicy
  | pipelines, spec => listSetting spec.pipelines
  | scaling, spec => spec.scaling
  | resources, spec => spec.resources
  | dataPrepperConfig, spec => spec.dataPrepperConfig
  | serviceMonitor, spec => spec.serviceMonitor
  | podAnnotationEntry key, spec => spec.podAnnotations.lookup key
  | podLabelEntry key, spec => spec.podLabels.lookup key
  | nodeSelectorEntry key, spec => spec.nodeSelector.lookup key
  | tolerations, spec => listSetting spec.tolerations
  | affinity, spec => spec.affinity
  | podSecurityContext, spec => spec.podSecurityContext
  | securityContext, spec => spec.securityContext
  | serviceAccountName, spec => textSetting spec.serviceAccountName

end SpecField

end DataPrepperOperator.Api
