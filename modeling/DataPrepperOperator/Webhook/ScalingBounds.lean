import DataPrepperOperator.Webhook.Pipeline

/-!
# The effective scaling bounds

The webhook compares the two bounds only when both are set; the reconciler fills in a
missing maximum by ten, whatever the minimum is.
-/

namespace DataPrepperOperator.Webhook

open DataPrepperOperator.Api DataPrepperOperator.Controller DataPrepperOperator.Generator

/-- The minimum that the CRD demands of each field that is set. -/
structure FieldsAtLeastOne (scaling : ScalingSpec) : Prop where
  minReplicas : ∀ minimum ∈ scaling.minReplicas, 1 ≤ minimum
  maxReplicas : ∀ maximum ∈ scaling.maxReplicas, 1 ≤ maximum
  fixedReplicas : ∀ fixed ∈ scaling.fixedReplicas, 1 ≤ fixed

/-- The bounds the API server accepts of an autoscaler. -/
def ValidAutoscaler (spec : HorizontalPodAutoscalerSpec) : Prop :=
  1 ≤ spec.minReplicas ∧ spec.minReplicas ≤ spec.maxReplicas

/-- The bounds are ordered, the autoscaler made from them is valid, and every number of
partitions gets a replica count between them. -/
structure Ordered (scaling : ScalingSpec) : Prop where
  positive : 1 ≤ (Scaling.scalingBounds (some scaling)).1
  ordered : (Scaling.scalingBounds (some scaling)).1 ≤ (Scaling.scalingBounds (some scaling)).2
  autoscaler : ∀ pipeline, ValidAutoscaler (generateHPA pipeline
    (Scaling.scalingBounds (some scaling)).1 (Scaling.scalingBounds (some scaling)).2
    defaultTargetCPU).spec
  kafka : ∀ partitions, 1 ≤ partitions → ∃ result,
    Scaling.calculateKafka partitions (Scaling.scalingBounds (some scaling)).2
        (Scaling.scalingBounds (some scaling)).1 = .ok result ∧
      (Scaling.scalingBounds (some scaling)).1 ≤ result.replicas ∧
      result.replicas ≤ (Scaling.scalingBounds (some scaling)).2

theorem ordered_of_bounds {scaling : ScalingSpec}
    (positive : 1 ≤ (Scaling.scalingBounds (some scaling)).1)
    (ordered : (Scaling.scalingBounds (some scaling)).1 ≤
      (Scaling.scalingBounds (some scaling)).2) : Ordered scaling := by
  refine ⟨positive, ordered, fun _ => ⟨positive, ordered⟩, ?_⟩
  intro partitions some
  obtain ⟨atLeast, atMost, _⟩ := Scaling.clampReplicas_bounds partitions ordered
  exact ⟨_, Scaling.calculateKafka_ok some, atLeast, atMost⟩

theorem validateScaling_ok_iff {scaling : ScalingSpec} :
    validateScaling (some scaling) = .ok () ↔
      ¬(scaling.mode = .manual ∧ ∃ fixed ∈ scaling.fixedReplicas, fixed < 1) ∧
        ¬∃ maximum ∈ scaling.maxReplicas, ∃ minimum ∈ scaling.minReplicas,
          maximum < minimum := by
  unfold validateScaling
  rw [bind_ok_iff, require_ok_iff, require_ok_iff]

/-- An accepted spec has ordered bounds unless it sets a minimum above ten and no
maximum. -/
theorem bounds_ordered_iff {scaling : ScalingSpec}
    (accepted : validateScaling (some scaling) = .ok ()) (fields : FieldsAtLeastOne scaling) :
    Ordered scaling ↔
      (scaling.maxReplicas = none → ∀ minimum ∈ scaling.minReplicas, minimum ≤ 10) := by
  obtain ⟨_, compared⟩ := validateScaling_ok_iff.mp accepted
  have lower := fields.minReplicas
  have upper := fields.maxReplicas
  cases minimum : scaling.minReplicas with
  | none =>
      cases maximum : scaling.maxReplicas with
      | none =>
          have holds : Ordered scaling := by
            apply ordered_of_bounds <;> simp [Scaling.scalingBounds, minimum, maximum]
          simp [holds]
      | some most =>
          have atLeastOne : 1 ≤ most := upper most maximum
          have holds : Ordered scaling := by
            apply ordered_of_bounds <;>
              simp [Scaling.scalingBounds, minimum, maximum, atLeastOne]
          simp [holds]
  | some least =>
      have atLeastOne : 1 ≤ least := lower least minimum
      cases maximum : scaling.maxReplicas with
      | none =>
          constructor
          · intro holds _ given same
            cases same
            simpa [Scaling.scalingBounds, minimum, maximum] using holds.ordered
          · intro small
            apply ordered_of_bounds
            · simpa [Scaling.scalingBounds, minimum] using atLeastOne
            · simpa [Scaling.scalingBounds, minimum, maximum] using small
      | some most =>
          have notBelow : least ≤ most := by
            by_contra below
            exact compared ⟨most, maximum, least, minimum, not_le.mp below⟩
          have holds : Ordered scaling := by
            apply ordered_of_bounds <;>
              simp [Scaling.scalingBounds, minimum, maximum, atLeastOne, notBelow]
          simp [holds]

theorem bounds_ordered_unset :
    FieldsAtLeastOne { mode := .auto, minReplicas := some 3 } ∧
      Ordered { mode := .auto, minReplicas := some 3 } := by
  have fields : FieldsAtLeastOne { mode := .auto, minReplicas := some 3 } :=
    ⟨by simp, by simp, by simp⟩
  exact ⟨fields, (bounds_ordered_iff rfl fields).mpr (by simp)⟩

/-- A minimum of fifteen with no maximum is accepted and asks for fifteen to ten
replicas. -/
theorem large_minimum_not_ordered :
    validateScaling (some { mode := .auto, minReplicas := some 15 }) = .ok () ∧
      FieldsAtLeastOne { mode := .auto, minReplicas := some 15 } ∧
      ¬Ordered { mode := .auto, minReplicas := some 15 } := by
  refine ⟨rfl, ⟨by simp, by simp, by simp⟩, ?_⟩
  intro holds
  exact absurd holds.ordered (by decide)

end DataPrepperOperator.Webhook
