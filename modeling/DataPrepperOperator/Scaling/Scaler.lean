import DataPrepperOperator.Api.Types

/-!
# Scaling strategies and peer-forwarder detection

The decisions of `internal/scaler` and `internal/peerforwarder`.  Replica counts
are 32-bit in the source; `toInt32` marks the conversions and products that can
wrap.
-/

namespace DataPrepperOperator.Scaling

open DataPrepperOperator.Api

/-- Conversion to a 32-bit two's complement integer. -/
def toInt32 (value : Int) : Int := value.bmod (2 ^ 32)

structure Result where
  replicas : Int
  topicWorkers : Int
  deriving DecidableEq, Repr

/-- `CalculateStatic`: a fixed count, at least one. -/
def calculateStatic (fixedReplicas : Int) : Result :=
  { replicas := if fixedReplicas < 1 then 1 else fixedReplicas, topicWorkers := 0 }

/-- The least integer not below `dividend / divisor`. -/
def ceilDiv (dividend divisor : Int) : Int := -((-dividend) / divisor)

theorem le_mul_ceilDiv {divisor : Int} (positive : 0 < divisor) (dividend : Int) :
    dividend ≤ divisor * ceilDiv dividend divisor := by
  have balance := Int.mul_ediv_add_emod (-dividend) divisor
  have remainder := Int.emod_nonneg (-dividend) (ne_of_gt positive)
  unfold ceilDiv
  rw [Int.mul_neg]
  omega

theorem mul_pred_ceilDiv_lt {divisor : Int} (positive : 0 < divisor) (dividend : Int) :
    divisor * (ceilDiv dividend divisor - 1) < dividend := by
  have balance := Int.mul_ediv_add_emod (-dividend) divisor
  have remainder := Int.emod_lt_of_pos (-dividend) positive
  unfold ceilDiv
  rw [Int.mul_sub, Int.mul_neg, Int.mul_one]
  omega

/-- The rounded quotient is the only number that covers the dividend while its
predecessor does not. -/
theorem ceilDiv_eq_iff {divisor : Int} (positive : 0 < divisor) (dividend quotient : Int) :
    ceilDiv dividend divisor = quotient ↔
      dividend ≤ divisor * quotient ∧ divisor * (quotient - 1) < dividend := by
  constructor
  · rintro rfl
    exact ⟨le_mul_ceilDiv positive dividend, mul_pred_ceilDiv_lt positive dividend⟩
  · rintro ⟨covers, least⟩
    have above : divisor * (quotient - 1) < divisor * ceilDiv dividend divisor :=
      least.trans_le (le_mul_ceilDiv positive dividend)
    have below : divisor * (ceilDiv dividend divisor - 1) < divisor * quotient :=
      (mul_pred_ceilDiv_lt positive dividend).trans_le covers
    have notMore := Int.lt_of_mul_lt_mul_left above positive.le
    have notLess := Int.lt_of_mul_lt_mul_left below positive.le
    omega

theorem ceilDiv_pos {dividend divisor : Int} (positive : 0 < divisor) (some : 0 < dividend) :
    0 < ceilDiv dividend divisor := by
  have covers := le_mul_ceilDiv positive dividend
  exact Int.pos_of_mul_pos_right (some.trans_le covers) positive

theorem toInt32_bounds (value : Int) : -2 ^ 31 ≤ toInt32 value ∧ toInt32 value < 2 ^ 31 := by
  unfold toInt32
  have lower := Int.le_bmod (x := value) (m := 2 ^ 32) (by decide)
  have upper := Int.bmod_lt (x := value) (m := 2 ^ 32) (by decide)
  omega

/-- Only a number that fits is stored as it is. -/
theorem toInt32_eq_self_iff {value : Int} :
    toInt32 value = value ↔ value < 2 ^ 31 ∧ -2 ^ 31 ≤ value := by
  constructor
  · intro same
    have bounds := toInt32_bounds value
    omega
  · rintro ⟨upper, lower⟩
    apply Int.bmod_eq_of_le <;> omega

/-- `CalculateKafka`, with the floating-point quotient taken as exact. -/
def calculateKafka (partitions maxReplicas minReplicas : Int) : Except String Result :=
  if partitions ≤ 0 then
    .error ("invalid partition count: " ++ toString partitions)
  else
    let replicas := max (min partitions maxReplicas) minReplicas
    let workers := max (ceilDiv partitions replicas) 1
    .ok { replicas := replicas, topicWorkers := workers }

/-- The replica count of `CalculateKafka`: the partitions, between the bounds. -/
def clampReplicas (partitions maxReplicas minReplicas : Int) : Int :=
  max (min partitions maxReplicas) minReplicas

theorem calculateKafka_ok {partitions maxReplicas minReplicas : Int} (some : 0 < partitions) :
    calculateKafka partitions maxReplicas minReplicas =
      .ok
        { replicas := clampReplicas partitions maxReplicas minReplicas
          topicWorkers :=
            max (ceilDiv partitions (clampReplicas partitions maxReplicas minReplicas)) 1 } := by
  unfold calculateKafka clampReplicas
  rw [if_neg (not_le.mpr some)]

theorem clampReplicas_bounds (partitions : Int) {maxReplicas minReplicas : Int}
    (ordered : minReplicas ≤ maxReplicas) :
    minReplicas ≤ clampReplicas partitions maxReplicas minReplicas ∧
      clampReplicas partitions maxReplicas minReplicas ≤ maxReplicas ∧
      (minReplicas ≤ partitions →
        clampReplicas partitions maxReplicas minReplicas ≤ partitions) := by
  unfold clampReplicas
  omega

/-- `scalingBounds`: the bounds default to one and ten. -/
def scalingBounds (scaling : Option ScalingSpec) : Int × Int :=
  match scaling with
  | none => (1, 10)
  | some scaling => (scaling.minReplicas.getD 1, scaling.maxReplicas.getD 10)

end DataPrepperOperator.Scaling

namespace DataPrepperOperator.PeerForwarder

/-- `PeerForwarderPort`. -/
def peerForwarderPort : Int := 4994

/-- `DiscoveryModeDNS`. -/
def discoveryModeDNS : String := "dns"

def statefulProcessors : List String :=
  ["aggregate", "service_map", "service_map_stateful", "otel_traces", "otel_trace_raw",
    "otel_traces_raw"]

/-- `NeedsForwarding`: some processor of some pipeline is stateful. -/
def needsForwarding (processors : List (List Value.Fields)) : Bool :=
  processors.any fun pipelineProcessors =>
    pipelineProcessors.any fun processor =>
      processor.any fun field => statefulProcessors.contains field.1

/-- The `peer_forwarder` section that `GenerateConfig` returns. -/
def peerForwarderSection (name nameSpace : String) : Value :=
  .object
    [("discovery_mode", .string discoveryModeDNS),
      ("domain_name", .string (name ++ "-headless." ++ nameSpace ++ ".svc.cluster.local")),
      ("port", .number peerForwarderPort)]

/-- `GenerateConfig`. -/
def generateConfig (name nameSpace : String) : Value.Fields :=
  [("peer_forwarder", peerForwarderSection name nameSpace)]

end DataPrepperOperator.PeerForwarder
