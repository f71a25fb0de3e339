import DataPrepperOperator.Api.Settings
import DataPrepperOperator.Discovery.Template

/-!
# Overrides of the template

An override replaces the top-level fields that it sets, and merges three maps key by
key.  `applyOverride` lists the fields by hand and leaves five of them out.
-/

namespace DataPrepperOperator.Discovery

open DataPrepperOperator.Api

/-- The specs of the overrides whose pattern matches, in order. -/
def matchingOverrides (toolkit : Toolkit) (source : String)
    (overrides : List DiscoveryOverrideSpec) : List DataPrepperPipelineSpec :=
  (overrides.filter fun override =>
    match toolkit.matchPattern override.pattern source with
    | .ok matched => matched
    | .error _ => false).map (·.spec)

/-- What the last of these specs that sets the field sets it to. -/
def lastSetting (field : SpecField) (overrides : List DataPrepperPipelineSpec) :
    Option field.Content :=
  overrides.reverse.findSome? field.setting

theorem lastSetting_append (field : SpecField) (overrides : List DataPrepperPipelineSpec)
    (override : DataPrepperPipelineSpec) :
    lastSetting field (overrides ++ [override]) =
      (field.setting override).or (lastSetting field overrides) := by
  unfold lastSetting
  rw [List.reverse_append, List.reverse_singleton, List.singleton_append, List.findSome?_cons]
  cases field.setting override <;> rfl

/-- Every field is what the last matching override sets it to, or else the template. -/
def OverridesReplace (template : DataPrepperPipelineSpec)
    (overrides : List DataPrepperPipelineSpec) (result : DataPrepperPipelineSpec) : Prop :=
  ∀ field : SpecField,
    field.setting result = (lastSetting field overrides).or (field.setting template)

/-- The fields that `applyOverride` looks at. -/
def handled : SpecField → Bool
  | .tolerations | .affinity | .podSecurityContext | .securityContext | .serviceAccountName =>
      false
  | _ => true

theorem setting_applyOverride (field : SpecField) (base override : DataPrepperPipelineSpec) :
    field.setting (applyOverride base override) =
      if handled field then (field.setting override).or (field.setting base)
      else field.setting base := by
  cases field with
  | image => exact textSetting_fill override.image base.image
  | imagePullPolicy => exact textSetting_fill override.imagePullPolicy base.imagePullPolicy
  | pipelines => exact listSetting_fill override.pipelines base.pipelines
  | podAnnotationEntry key => exact GoMap.lookup_copy _ _ key
  | podLabelEntry key => exact GoMap.lookup_copy _ _ key
  | nodeSelectorEntry key => exact GoMap.lookup_copy _ _ key
  | _ => rfl

theorem applyOverrides_eq_foldl (toolkit : Toolkit) (source : String)
    (overrides : List DiscoveryOverrideSpec) (template : DataPrepperPipelineSpec) :
    applyOverrides toolkit source overrides template =
      (matchingOverrides toolkit source overrides).foldl applyOverride template := by
  unfold applyOverrides matchingOverrides
  induction overrides generalizing template with
  | nil => rfl
  | cons override rest ih =>
      rw [List.foldl_cons, ih, List.filter_cons]
      cases toolkit.matchPattern override.pattern source with
      | error message => rfl
      | ok matched => cases matched <;> rfl

/-- Several overrides in a row. -/
theorem setting_foldl_applyOverride (field : SpecField)
    (overrides : List DataPrepperPipelineSpec) (template : DataPrepperPipelineSpec) :
    field.setting (overrides.foldl applyOverride template) =
      if handled field then (lastSetting field overrides).or (field.setting template)
      else field.setting template := by
  induction overrides using List.reverseRecOn with
  | nil => cases handled field <;> rfl
  | append_singleton overrides override ih =>
      rw [List.foldl_append, List.foldl_cons, List.foldl_nil, setting_applyOverride,
        ih, lastSetting_append]
      cases handled field with
      | true => simp [Option.or_assoc]
      | false => rfl

/-- The overrides replace what they set exactly if none sets one of the five other fields to
a value that the template does not have. -/
theorem overrides_replace_iff (toolkit : Toolkit) (source : String)
    (overrides : List DiscoveryOverrideSpec) (template : DataPrepperPipelineSpec) :
    OverridesReplace template (matchingOverrides toolkit source overrides)
        (applyOverrides toolkit source overrides template) ↔
      ∀ field : SpecField, handled field = false →
        lastSetting field (matchingOverrides toolkit source overrides) = none ∨
          lastSetting field (matchingOverrides toolkit source overrides) =
            field.setting template := by
  unfold OverridesReplace
  rw [applyOverrides_eq_foldl]
  refine forall_congr' fun field => ?_
  rw [setting_foldl_applyOverride]
  cases handled field with
  | true => simp
  | false =>
      cases lastSetting field (matchingOverrides toolkit source overrides) with
      | none => simp
      | some value => simp [eq_comm]

/-- One source gets a service account of its own. -/
def accountOverride : DiscoveryOverrideSpec where
  pattern := "app"
  spec := { serviceAccountName := "reader", image := "data-prepper:2" }

/-- The image is replaced and the service account is not. -/
theorem override_drops_service_account :
    matchingOverrides sampleToolkit "app" [accountOverride] = [accountOverride.spec] ∧
      (applyOverrides sampleToolkit "app" [accountOverride] { image := "data-prepper" }).image =
        "data-prepper:2" ∧
      ¬OverridesReplace { image := "data-prepper" }
        (matchingOverrides sampleToolkit "app" [accountOverride])
        (applyOverrides sampleToolkit "app" [accountOverride] { image := "data-prepper" }) := by
  refine ⟨rfl, rfl, fun replaces => ?_⟩
  have account : (none : Option String) = some "reader" := replaces .serviceAccountName
  cases account

end DataPrepperOperator.Discovery
