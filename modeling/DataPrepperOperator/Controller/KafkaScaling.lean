import DataPrepperOperator.Controller.Desired
import DataPrepperOperator.Controller.DiscoveryCycle
import DataPrepperOperator.Generator.Documents

/-!
# Scaling by partitions

For one topic the replicas and topic workers cover the partitions, and no smaller
number of workers does.  The reconciler asks for the partitions of the first Kafka
source only and renders the same workers into all of them.
-/

namespace DataPrepperOperator.Controller

open ServerProgram DataPrepperOperator.Api DataPrepperOperator.Generator
open SourceDiscovery (kafkaConfigIn observes_kafkaConfigFromSecret)

/-- A count of partitions gets replicas between the bounds and workers that cover it;
the product is stored without overflow as long as partitions and replicas together
stay within 32 bits. -/
theorem partitions_covered (partitions minReplicas maxReplicas : Int) :
    (partitions ≤ 0 →
      ∃ message, Scaling.calculateKafka partitions maxReplicas minReplicas = .error message) ∧
    (1 ≤ partitions → 1 ≤ minReplicas → minReplicas ≤ maxReplicas →
      ∃ result, Scaling.calculateKafka partitions maxReplicas minReplicas = .ok result ∧
        minReplicas ≤ result.replicas ∧ result.replicas ≤ maxReplicas ∧
        (result.replicas ≤ partitions ∨ partitions < minReplicas) ∧
        1 ≤ result.topicWorkers ∧
        partitions ≤ result.replicas * result.topicWorkers ∧
        result.replicas * (result.topicWorkers - 1) < partitions ∧
        (partitions + result.replicas ≤ 2 ^ 31 →
          kafkaDecision minReplicas maxReplicas partitions = .ok
            { replicas := result.replicas
              topicWorkers := result.topicWorkers
              useHPA := false
              kafka := some
                { topicPartitions := partitions
                  workersPerPod := result.topicWorkers
                  totalConsumers := result.replicas * result.topicWorkers } })) := by
  constructor
  · intro none
    exact ⟨_, by unfold Scaling.calculateKafka; rw [if_pos none]⟩
  · intro some lower ordered
    obtain ⟨atLeast, atMost, byPartitions⟩ := Scaling.clampReplicas_bounds partitions ordered
    have replicated : 0 < Scaling.clampReplicas partitions maxReplicas minReplicas := by omega
    have covers := Scaling.le_mul_ceilDiv replicated partitions
    have least := Scaling.mul_pred_ceilDiv_lt replicated partitions
    have staffed := Scaling.ceilDiv_pos replicated some
    have fits : Scaling.clampReplicas partitions maxReplicas minReplicas ≤ partitions ∨
        partitions < minReplicas := by omega
    refine ⟨_, Scaling.calculateKafka_ok some, atLeast, atMost, fits, ?_⟩
    dsimp only
    rw [max_eq_left (show 1 ≤ Scaling.ceilDiv partitions _ from staffed)]
    refine ⟨staffed, covers, least, ?_⟩
    intro small
    have bounded : Scaling.clampReplicas partitions maxReplicas minReplicas *
        Scaling.ceilDiv partitions (Scaling.clampReplicas partitions maxReplicas minReplicas) <
          2 ^ 31 := by
      rw [Int.mul_sub, Int.mul_one] at least
      omega
    unfold kafkaDecision
    rw [Scaling.calculateKafka_ok some, max_eq_left (show 1 ≤ Scaling.ceilDiv partitions _ from
      staffed)]
    change Except.ok _ = Except.ok _
    dsimp only
    rw [Scaling.toInt32_eq_self_iff.mpr ⟨bounded, by omega⟩]

theorem partitions_covered_twelve :
    Scaling.calculateKafka 12 5 2 = .ok { replicas := 5, topicWorkers := 3 } ∧
      ∃ result, Scaling.calculateKafka 12 5 2 = .ok result ∧
        12 ≤ result.replicas * result.topicWorkers := by
  refine ⟨rfl, ?_⟩
  obtain ⟨result, calculated, _, _, _, _, covers, _⟩ :=
    (partitions_covered 12 2 5).2 (by decide) (by decide) (by decide)
  exact ⟨result, calculated, covers⟩

/-- The partitions of the topic of a source, as its brokers report them. -/
def partitionsIn (kafka : KafkaSourceSpec) (cluster : Cluster) : Except String Int :=
  (kafkaConfigIn kafka.bootstrapServers kafka.credentialsSecretRef cluster).bind fun config =>
    partitionAnswer cluster config kafka.topic

/-- What `calculateScaling` decides in a cluster. -/
def scalingIn (reconciler : PipelineReconciler) (spec : DataPrepperPipelineSpec)
    (cluster : Cluster) : Except String ScalingDecision :=
  decideScaling reconciler spec fun source => partitionsIn source cluster

/-- The count of partitions that decides, if the scaling asks for one and gets a
positive answer. -/
def decidingCount (reconciler : PipelineReconciler) (spec : DataPrepperPipelineSpec)
    (counted : KafkaSourceSpec → Except String Int) : Option Int :=
  match scalingBranch spec with
  | .decided _ => none
  | .kafka source _ _ =>
      if reconciler.adminClientFactory = false then none
      else
        match counted source with
        | .error _ => none
        | .ok partitions => if 0 < partitions then some partitions else none

/-- The replicas that a count of partitions leads to. -/
def replicasFor (spec : DataPrepperPipelineSpec) (partitions : Int) : Int :=
  let bounds := Scaling.scalingBounds spec.scaling
  Scaling.clampReplicas partitions bounds.2 bounds.1

def workersFor (spec : DataPrepperPipelineSpec) (partitions : Int) : Int :=
  max (Scaling.ceilDiv partitions (replicasFor spec partitions)) 1

theorem scalingBranch_decided {spec : DataPrepperPipelineSpec} {decision : ScalingDecision}
    (branch : scalingBranch spec = .decided decision) :
    decision.topicWorkers = 0 ∧ decision.kafka = none := by
  unfold scalingBranch at branch
  split at branch
  · cases branch
    exact ⟨rfl, rfl⟩
  · dsimp only at branch
    split at branch
    · cases branch
      exact ⟨rfl, rfl⟩
    · cases branch
      exact ⟨rfl, rfl⟩
    · split at branch
      · cases branch
      · split at branch
        · cases branch
          exact ⟨rfl, rfl⟩
        · cases branch
          exact ⟨rfl, rfl⟩

section Counts

variable {reconciler : PipelineReconciler} {spec : DataPrepperPipelineSpec}
  {counted : KafkaSourceSpec → Except String Int}

/-- Without a count the spec alone decides, or the calculation fails. -/
theorem decideScaling_cases (unknown : decidingCount reconciler spec counted = none) :
    (∃ decision, scalingBranch spec = .decided decision ∧
        decideScaling reconciler spec counted = .ok decision) ∨
      (∃ minReplicas, reconciler.adminClientFactory = false ∧
        decideScaling reconciler spec counted =
          .ok { replicas := minReplicas, topicWorkers := 0, useHPA := false }) ∨
      ∃ message, decideScaling reconciler spec counted = .error message := by
  unfold decidingCount at unknown
  unfold decideScaling
  cases branch : scalingBranch spec with
  | decided decision => exact .inl ⟨decision, rfl, rfl⟩
  | kafka source minReplicas maxReplicas =>
      right
      simp only [branch] at unknown
      split at unknown
      · rename_i missing
        simp only [if_pos missing]
        exact .inl ⟨minReplicas, missing, rfl⟩
      · rename_i present
        right
        simp only [if_neg present]
        cases answer : counted source with
        | error message => exact ⟨message, rfl⟩
        | ok partitions =>
            simp only [answer, ite_eq_right_iff, reduceCtorEq, imp_false] at unknown
            simp only [Except.bind, kafkaDecision, Scaling.calculateKafka,
              if_pos (not_lt.mp unknown)]
            exact ⟨_, rfl⟩

/-- Without a count no topic workers are rendered and nothing is recorded. -/
theorem decideScaling_of_no_count (unknown : decidingCount reconciler spec counted = none) :
    (effectiveScaling (decideScaling reconciler spec counted)).topicWorkers = 0 ∧
      (effectiveScaling (decideScaling reconciler spec counted)).kafka = none := by
  obtain ⟨decision, branch, decided⟩ | ⟨_, _, decided⟩ | ⟨_, failed⟩ :=
    decideScaling_cases unknown
  · rw [decided]
    exact scalingBranch_decided branch
  · rw [decided]
    exact ⟨rfl, rfl⟩
  · rw [failed]
    exact ⟨rfl, rfl⟩

theorem decideScaling_of_count {partitions : Int}
    (known : decidingCount reconciler spec counted = some partitions) :
    (∃ source, spec.pipelines.findSome? (·.source.kafka) = some source ∧
        counted source = .ok partitions) ∧
      0 < partitions ∧ reconciler.adminClientFactory = true ∧
      decideScaling reconciler spec counted = .ok
        { replicas := replicasFor spec partitions
          topicWorkers := workersFor spec partitions
          useHPA := false
          kafka := some
            { topicPartitions := partitions
              workersPerPod := workersFor spec partitions
              totalConsumers := Scaling.toInt32
                (replicasFor spec partitions * workersFor spec partitions) } } := by
  unfold decidingCount at known
  unfold decideScaling
  cases branch : scalingBranch spec with
  | decided decision => simp [branch] at known
  | kafka source minReplicas maxReplicas =>
      simp only [branch] at known
      obtain ⟨first, bounds⟩ := scalingBranch_kafka branch
      split at known
      · cases known
      · rename_i present
        simp only [if_neg present]
        cases answer : counted source with
        | error message => simp [answer] at known
        | ok count =>
            simp only [answer, Option.ite_none_right_eq_some, Option.some.injEq] at known
            obtain ⟨positive, rfl⟩ := known
            refine ⟨⟨source, first, answer⟩, positive, by simpa using present, ?_⟩
            simp only [bind, Except.bind, kafkaDecision, Scaling.calculateKafka_ok positive,
              workersFor, replicasFor, bounds]
            rfl

end Counts

section Scaling

variable {faulty : (op : Op) → Reply op → Prop}

theorem observes_askPartitions (config : KafkaConfig) (topic : String) :
    Observes faulty (askPartitions config topic)
      fun cluster => partitionAnswer cluster config topic := by
  have connects : Observes faulty (ExceptT.mk (Client.kafkaConnect config))
      fun cluster => (cluster.kafka config).map fun _ => () :=
    observes_remote rfl fun _ _ _ _ run => ⟨_, runs_request_iff.mp run, id, And.left⟩
  have asks : Observes faulty (ExceptT.mk (Client.kafkaPartitionCount config topic))
      fun cluster => (cluster.kafka config).bind fun brokers => brokers.partitionCount topic :=
    observes_remote rfl fun _ _ _ _ run => ⟨_, runs_request_iff.mp run, id, And.left⟩
  apply ((observes_wrapError connects).bind fun _ => observes_wrapError asks).congr
  intro cluster
  unfold partitionAnswer
  cases cluster.kafka config <;> rfl

theorem observes_calculateScaling (reconciler : PipelineReconciler)
    (spec : DataPrepperPipelineSpec) :
    Observes faulty (calculateScaling reconciler spec) (scalingIn reconciler spec) := by
  unfold calculateScaling scalingIn decideScaling
  cases scalingBranch spec with
  | decided decision => exact .pure _
  | kafka source minReplicas maxReplicas =>
      dsimp only [calculateKafkaScaling]
      split
      · exact .pure _
      · apply Computes.congr ((observes_kafkaConfigFromSecret _ _).bind fun config =>
          (observes_askPartitions config source.topic).bind fun partitions =>
            .ofExcept (kafkaDecision minReplicas maxReplicas partitions))
        intro cluster
        unfold partitionsIn
        cases kafkaConfigIn source.bootstrapServers source.credentialsSecretRef cluster <;> rfl

/-- What a successful calculation decides where some source is a Kafka source. -/
theorem scalingIn_kafka {reconciler : PipelineReconciler} {spec : DataPrepperPipelineSpec}
    {cluster : Cluster} {decision : ScalingDecision} {first : KafkaSourceSpec}
    (auto : ∃ scaling ∈ spec.scaling, scaling.mode = .auto)
    (decides : spec.pipelines.findSome? (·.source.kafka) = some first)
    (decided : scalingIn reconciler spec cluster = .ok decision) :
    (reconciler.adminClientFactory = false ∧ decision.topicWorkers = 0) ∨
      reconciler.adminClientFactory = true ∧ ∃ total, 0 < total ∧
        partitionsIn first cluster = .ok total ∧
        decision.replicas = Scaling.clampReplicas total (Scaling.scalingBounds spec.scaling).2
          (Scaling.scalingBounds spec.scaling).1 ∧
        decision.topicWorkers = max (Scaling.ceilDiv total decision.replicas) 1 := by
  obtain ⟨scaling, given, mode⟩ := auto
  have branch : scalingBranch spec = .kafka first (Scaling.scalingBounds spec.scaling).1
      (Scaling.scalingBounds spec.scaling).2 := by
    unfold scalingBranch
    rw [Option.mem_def.mp given]
    simp only [mode, decides]
  cases count : decidingCount reconciler spec fun source => partitionsIn source cluster with
  | none =>
      obtain ⟨_, decidedBranch, _⟩ | ⟨_, unavailable, computed⟩ | ⟨_, failed⟩ :=
        decideScaling_cases count
      · rw [branch] at decidedBranch
        cases decidedBranch
      · cases computed.symm.trans decided
        exact .inl ⟨unavailable, rfl⟩
      · cases failed.symm.trans decided
  | some total =>
      obtain ⟨⟨source, found, answer⟩, positive, available, computed⟩ :=
        decideScaling_of_count count
      cases decides.symm.trans found
      cases computed.symm.trans decided
      exact .inr ⟨available, total, positive, answer, rfl, rfl⟩

end Scaling

/-- Every Kafka source in the document has workers that cover the partitions of its
own topic, and no more than it needs. -/
def CoversTopics (spec : DataPrepperPipelineSpec) (cluster : Cluster) (replicas : Int)
    (config : Value.Fields) : Prop :=
  ∀ definition kafka partitions, Kept spec.pipelines definition →
    definition.source.kafka = some kafka → partitionsIn kafka cluster = .ok partitions →
    ∃ workers : Int, topicWorkersIn config definition.name = some (.number workers) ∧
      partitions ≤ replicas * workers ∧ replicas * (workers - 1) < partitions

/-- With the replicas of the first Kafka source, the partitions need as many workers as
those of that source. -/
def SameShare (spec : DataPrepperPipelineSpec) (cluster : Cluster) (partitions : Int) : Prop :=
  ∃ first total, spec.pipelines.findSome? (·.source.kafka) = some first ∧
    partitionsIn first cluster = .ok total ∧
    let replicas := Scaling.clampReplicas total (Scaling.scalingBounds spec.scaling).2
      (Scaling.scalingBounds spec.scaling).1
    0 < replicas ∧ Scaling.ceilDiv partitions replicas = Scaling.ceilDiv total replicas

/-- No number of workers fits where there is no replica. -/
theorem not_covered_of_nonpos {replicas workers partitions : Int} (none : replicas ≤ 0) :
    ¬(partitions ≤ replicas * workers ∧ replicas * (workers - 1) < partitions) := by
  rintro ⟨covers, least⟩
  rw [Int.mul_sub, Int.mul_one] at least
  omega

theorem exists_first_kafka {pipelines : List PipelineDefinition} {definition : PipelineDefinition}
    {kafka : KafkaSourceSpec} (kept : Kept pipelines definition)
    (source : definition.source.kafka = some kafka) :
    ∃ first, pipelines.findSome? (·.source.kafka) = some first := by
  rw [← Option.isSome_iff_exists, List.findSome?_isSome_iff]
  exact ⟨definition, kept.mem, by simp [source]⟩

/-- After a successful calculation the workers fit every topic exactly when the brokers
are asked at all and every topic has the same share as the first. -/
theorem topics_covered_iff {faulty : (op : Op) → Reply op → Prop}
    {reconciler : PipelineReconciler} {spec : DataPrepperPipelineSpec} {state final : Cluster}
    {trace : List (Event Cluster Op Reply)} {decision : ScalingDecision} {config : Value.Fields}
    (auto : ∃ scaling ∈ spec.scaling, scaling.mode = .auto)
    (run : Runs (Serves faulty) (calculateScaling reconciler spec).run state trace (.ok decision)
      final)
    (generated : generatePipelineConfig spec.pipelines decision.topicWorkers = .ok config) :
    CoversTopics spec state decision.replicas config ↔
      ∀ definition kafka partitions, Kept spec.pipelines definition →
        definition.source.kafka = some kafka → partitionsIn kafka state = .ok partitions →
        reconciler.adminClientFactory = true ∧ SameShare spec state partitions := by
  obtain ⟨rfl, _, decided | ⟨_, _, impossible⟩⟩ := observes_calculateScaling _ _ _ _ _ _ run
  swap
  · cases impossible
  unfold CoversTopics
  refine forall₃_congr fun definition kafka partitions => ?_
  refine imp_congr_right fun kept => imp_congr_right fun source => imp_congr_right fun _ => ?_
  rw [topicWorkersIn_of_kept kept source generated]
  obtain ⟨first, decides⟩ := exists_first_kafka kept source
  obtain ⟨unavailable, idle⟩ | ⟨available, total, positive, counted, replicas, workers⟩ :=
    scalingIn_kafka auto decides decided.symm
  · simp [unavailable, idle]
  · have staffed : 0 < decision.topicWorkers := by omega
    rw [if_pos staffed]
    have share : SameShare spec final partitions ↔ 0 < decision.replicas ∧
        Scaling.ceilDiv partitions decision.replicas =
          Scaling.ceilDiv total decision.replicas := by
      unfold SameShare
      rw [replicas]
      constructor
      · rintro ⟨other, sum, sameFirst, sameCount, shares⟩
        cases decides.symm.trans sameFirst
        cases counted.symm.trans sameCount
        exact shares
      · exact fun shares => ⟨first, total, decides, counted, shares⟩
    rw [share]
    constructor
    · rintro ⟨found, same, covers⟩
      have sameWorkers : decision.topicWorkers = found := by simpa using same
      rw [← sameWorkers] at covers
      by_cases some : 0 < decision.replicas
      · have least := Scaling.ceilDiv_pos some positive
        rw [max_eq_left least] at workers
        refine ⟨available, some, ?_⟩
        rw [← workers]
        exact (Scaling.ceilDiv_eq_iff some _ _).mpr covers
      · exact absurd covers (not_covered_of_nonpos (not_lt.mp some))
    · rintro ⟨_, some, same⟩
      have least := Scaling.ceilDiv_pos some positive
      rw [max_eq_left least, ← same] at workers
      exact ⟨_, rfl, (Scaling.ceilDiv_eq_iff some _ _).mp workers.symm⟩

def brokerReconciler : PipelineReconciler := { sampleReconciler with adminClientFactory := true }

/-- Two Kafka sources with a topic each, and two replicas at most. -/
def twoTopics : DataPrepperPipelineSpec :=
  let reading (topic : String) : PipelineDefinition :=
    { name := topic
      source := { kafka := some { kafkaSource none with topic := topic } }
      sink := [{ stdout := some {} }] }
  { image := "data-prepper"
    scaling := some { mode := .auto, maxReplicas := some 2 }
    pipelines := [reading "metrics", reading "logs"] }

/-- Brokers with four partitions for one topic and the given number for the others. -/
def withPartitions (others : Int) : Cluster :=
  { Cluster.empty with
    kafka := fun _ => .ok
      { partitionCount := fun topic => .ok (if topic = "metrics" then 4 else others)
        topics := .ok [] } }

theorem runs_twoTopics (others : Int) :
    ∃ trace, Runs Reliable (calculateScaling brokerReconciler twoTopics).run
      (withPartitions others) trace
      (.ok
        { replicas := 2, topicWorkers := 2, useHPA := false,
          kafka := some { topicPartitions := 4, workersPerPod := 2, totalConsumers := 4 } })
      (withPartitions others) :=
  runs_execute (calculateScaling brokerReconciler twoTopics).run (withPartitions others)

theorem topics_covered_equal_shares :
    ∃ trace decision config,
      Runs Reliable (calculateScaling brokerReconciler twoTopics).run (withPartitions 3) trace
        (.ok decision) (withPartitions 3) ∧
      generatePipelineConfig twoTopics.pipelines decision.topicWorkers = .ok config ∧
      CoversTopics twoTopics (withPartitions 3) decision.replicas config := by
  obtain ⟨trace, run⟩ := runs_twoTopics 3
  refine ⟨trace, _, _, run, rfl, ?_⟩
  apply (topics_covered_iff ⟨_, rfl, rfl⟩ run rfl).mpr
  intro definition kafka partitions kept source counted
  refine ⟨rfl, _, _, rfl, rfl, ?_⟩
  rcases List.mem_pair.mp kept.mem with rfl | rfl
  · cases source
    cases counted
    decide
  · cases source
    cases counted
    decide

theorem larger_topic_not_covered :
    ∃ trace decision config,
      Runs Reliable (calculateScaling brokerReconciler twoTopics).run (withPartitions 12) trace
        (.ok decision) (withPartitions 12) ∧
      generatePipelineConfig twoTopics.pipelines decision.topicWorkers = .ok config ∧
      ¬CoversTopics twoTopics (withPartitions 12) decision.replicas config := by
  obtain ⟨trace, run⟩ := runs_twoTopics 12
  refine ⟨trace, _, _, run, rfl, ?_⟩
  intro covers
  have last : Kept twoTopics.pipelines
      { name := "logs"
        source := { kafka := some { kafkaSource none with topic := "logs" } }
        sink := [{ stdout := some {} }] } := ⟨[_], [], rfl, by simp⟩
  obtain ⟨workers, rendered, covered, _⟩ := covers _ _ 12 last rfl rfl
  have two : (2 : Int) = workers := by
    rw [topicWorkersIn_of_kept last rfl rfl] at rendered
    exact Rat.intCast_inj.mp (by simpa using rendered)
  dsimp only at covered
  omega

end DataPrepperOperator.Controller
