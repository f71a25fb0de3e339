import Mathlib.Data.List.Sort
import DataPrepperOperator.Api.Toolkit
import DataPrepperOperator.Controller.Helpers

/-!
# Source discovery

The discoverers of `internal/discovery`: Kafka topics with a common beginning, and
S3 prefixes at a given depth.  Both drop the names that match an exclude pattern
and sort the others.  `KafkaDiscoverer.found` and `S3Discoverer.found` say what a
discoverer returns as a function of what the brokers or the bucket hold.
-/

namespace DataPrepperOperator.Discovery

open ServerProgram DataPrepperOperator.Api DataPrepperOperator.Controller

structure DiscoveredSource where
  name : String
  metadata : Value.Fields := []
  deriving DecidableEq

/-- An invalid pattern excludes nothing. -/
def isExcluded (toolkit : Toolkit) (patterns : List String) (name : String) : Bool :=
  patterns.any fun pattern =>
    match toolkit.matchPattern pattern name with
    | .ok matched => matched
    | .error _ => false

/-- `slices.SortFunc` by name; sources of the same name are left in their order. -/
def sortSources (sources : List DiscoveredSource) : List DiscoveredSource :=
  sources.insertionSort fun first second => first.name ≤ second.name

/-- With distinct names the order of collection does not matter. -/
theorem sortSources_eq_of_perm {first second : List DiscoveredSource}
    (permuted : first.Perm second) (distinct : (second.map (·.name)).Nodup) :
    sortSources first = sortSources second := by
  have toSecond : (sortSources first).Perm second :=
    (List.perm_insertionSort _ first).trans permuted
  have own : (sortSources second).Perm second := List.perm_insertionSort _ second
  refine List.Perm.eq_of_pairwise ?_ (List.pairwise_insertionSort _ first)
    (List.pairwise_insertionSort _ second) (toSecond.trans own.symm)
  intro source other member otherMember below above
  exact List.inj_on_of_nodup_map distinct (toSecond.mem_iff.mp member)
    (own.mem_iff.mp otherMember) (le_antisymm below above)

structure KafkaDiscoverer where
  client : KafkaConfig
  topicPrefix : String
  excludePatterns : List String

namespace KafkaDiscoverer

variable (discoverer : KafkaDiscoverer) (toolkit : Toolkit)

def sourceOf (topics : GoMap Int) (name : String) : Option DiscoveredSource :=
  if GoText.startsWith name discoverer.topicPrefix &&
      !isExcluded toolkit discoverer.excludePatterns name then
    some
      { name := name
        metadata := [("partitions", .number ((topics.lookup name).getD 0))] }
  else none

def discover : Reconciler (List DiscoveredSource) := do
  let listed ← wrapError "list kafka topics: "
    (ExceptT.mk (Client.kafkaListTopics discoverer.client))
  let topics := GoMap.ofList listed
  let order ← Fallible.lift (Client.rangeOver (GoMap.sortedKeys topics))
  pure (sortSources (order.1.filterMap (discoverer.sourceOf toolkit topics)))

def found (topics : GoMap Int) : List DiscoveredSource :=
  sortSources ((GoMap.sortedKeys topics).filterMap (discoverer.sourceOf toolkit topics))

variable {discoverer toolkit}

theorem name_of_sourceOf {topics : GoMap Int} {name : String} {source : DiscoveredSource}
    (selected : discoverer.sourceOf toolkit topics name = some source) : source.name = name := by
  unfold sourceOf at selected
  split at selected
  · cases selected
    rfl
  · cases selected

theorem nodup_names (topics : GoMap Int) {names : List String} (nodup : names.Nodup) :
    ((names.filterMap (discoverer.sourceOf toolkit topics)).map (·.name)).Nodup := by
  induction names with
  | nil => exact List.nodup_nil
  | cons name rest ih =>
      obtain ⟨fresh, restNodup⟩ := List.nodup_cons.mp nodup
      cases selected : discoverer.sourceOf toolkit topics name with
      | none =>
          rw [List.filterMap_cons_none selected]
          exact ih restNodup
      | some source =>
          rw [List.filterMap_cons_some selected, List.map_cons, List.nodup_cons]
          refine ⟨?_, ih restNodup⟩
          intro repeated
          obtain ⟨other, member, sameName⟩ := List.mem_map.mp repeated
          obtain ⟨origin, listed, selectedOther⟩ := List.mem_filterMap.mp member
          rw [name_of_sourceOf selectedOther, name_of_sourceOf selected] at sameName
          exact fresh (sameName ▸ listed)

/-- The topics may be visited in any order. -/
theorem found_eq_of_perm {topics : GoMap Int} {order : List String}
    (permuted : order.Perm (GoMap.sortedKeys topics)) :
    sortSources (order.filterMap (discoverer.sourceOf toolkit topics)) =
      discoverer.found toolkit topics :=
  sortSources_eq_of_perm (permuted.filterMap _)
    (nodup_names topics (GoMap.nodup_sortedKeys topics))

theorem observes_discover {faulty : (op : Op) → Reply op → Prop} :
    Observes faulty (discoverer.discover toolkit) fun cluster =>
      (((cluster.kafka discoverer.client).bind (·.topics)).mapError
        ("list kafka topics: " ++ ·)).bind fun listed =>
          .ok (discoverer.found toolkit (GoMap.ofList listed)) := by
  apply Computes.bind
  · apply observes_wrapError
    exact observes_remote rfl fun _ _ _ _ run =>
      ⟨_, runs_request_iff.mp run, id, And.left⟩
  · intro listed
    apply Computes.bind_lift
    · intro state trace order final run
      exact runs_read rfl run
    · intro order
      rw [found_eq_of_perm order.2]
      exact .pure _

end KafkaDiscoverer

structure S3Discoverer where
  client : S3Config
  bucket : String
  region : String
  pathPrefix : String
  depth : Int
  excludePatterns : List String
  sqsMapping : Option SQSQueueMappingSpec

/-- `prefixToName`: `logs/service-a/` becomes `logs-service-a`. -/
def prefixToName (pathPrefix : String) : String :=
  let characters := pathPrefix.toList
  let trimmed := if characters.getLast? = some '/' then characters.dropLast else characters
  String.ofList (trimmed.map fun character => if character = '/' then '-' else character)

/-- Run an action for each item and join the results, up to the first failure. -/
def concatMapM (action : String → Reconciler (List String)) :
    List String → Reconciler (List String)
  | [] => pure []
  | item :: rest => do
      let own ← action item
      let others ← concatMapM action rest
      pure (own ++ others)

namespace S3Discoverer

variable (discoverer : S3Discoverer) (toolkit : Toolkit)

def resolveSQSQueue (mapping : SQSQueueMappingSpec) (pathPrefix : String) : String :=
  match mapping.overrides.lookup pathPrefix with
  | some url => url
  | none =>
      if mapping.queueUrlTemplate = "" then ""
      else
        GoText.replaceAll mapping.queueUrlTemplate "\x7b\x7bprefix\x7d\x7d"
          (prefixToName pathPrefix)

/-- `listAtDepth`, counting the levels below the first. -/
def listAtDepth : Nat → String → Reconciler (List String)
  | 0, pathPrefix =>
      ExceptT.mk (Client.s3ListPrefixes discoverer.client discoverer.bucket pathPrefix)
  | further + 1, pathPrefix => do
      let prefixes ← ExceptT.mk
        (Client.s3ListPrefixes discoverer.client discoverer.bucket pathPrefix)
      concatMapM (listAtDepth further) prefixes

def sourceOf (pathPrefix : String) : Option DiscoveredSource :=
  let name := prefixToName pathPrefix
  if isExcluded toolkit discoverer.excludePatterns name then none
  else
    some
      { name := name
        metadata :=
          [("bucket", .string discoverer.bucket), ("prefix", .string pathPrefix),
            ("region", .string discoverer.region)] ++
          (discoverer.sqsMapping.map fun mapping =>
            ("sqsQueueUrl", Value.string (resolveSQSQueue mapping pathPrefix))).toList }

/-- Levels below the first; a depth below one counts as one. -/
def furtherLevels : Nat := (max discoverer.depth 1).toNat - 1

def discover : Reconciler (List DiscoveredSource) := do
  let prefixes ← wrapError "list s3 prefixes: "
    (discoverer.listAtDepth discoverer.furtherLevels discoverer.pathPrefix)
  pure (sortSources (prefixes.filterMap (discoverer.sourceOf toolkit)))

/-- The prefixes below a prefix, by what the buckets answer. -/
def prefixesAt (buckets : String → String → Except String (List String)) :
    Nat → String → Except String (List String)
  | 0, pathPrefix => buckets discoverer.bucket pathPrefix
  | further + 1, pathPrefix => do
      let prefixes ← buckets discoverer.bucket pathPrefix
      let nested ← prefixes.mapM (prefixesAt buckets further)
      pure nested.flatten

/-- What the bucket holds, if it can be listed. -/
def prefixesIn (cluster : Cluster) (further : Nat) (pathPrefix : String) :
    Except String (List String) :=
  (cluster.s3 discoverer.client).bind fun buckets =>
    discoverer.prefixesAt buckets further pathPrefix

def found (prefixes : List String) : List DiscoveredSource :=
  sortSources (prefixes.filterMap (discoverer.sourceOf toolkit))

variable {discoverer toolkit} {faulty : (op : Op) → Reply op → Prop}

theorem observes_concatMapM {action : String → Reconciler (List String)}
    {compute : String → Cluster → Except String (List String)}
    (each : ∀ item, Observes faulty (action item) (compute item))
    (items : List String) :
    Observes faulty (concatMapM action items) fun cluster =>
      (items.mapM fun item => compute item cluster).map List.flatten := by
  induction items with
  | nil => exact .pure _
  | cons item rest ih =>
      apply Computes.congr ((each item).bind fun own =>
        ih.bind fun others => .pure (own ++ others))
      intro cluster
      rw [List.mapM_cons]
      cases compute item cluster with
      | error message => rfl
      | ok own => cases rest.mapM fun item => compute item cluster <;> rfl

theorem observes_listAtDepth (further : Nat) (pathPrefix : String) :
    Observes faulty (discoverer.listAtDepth further pathPrefix)
      fun cluster => discoverer.prefixesIn cluster further pathPrefix := by
  have listed : ∀ pathPrefix, Observes faulty
      (ExceptT.mk (Client.s3ListPrefixes discoverer.client discoverer.bucket pathPrefix))
      fun cluster => (cluster.s3 discoverer.client).bind fun buckets =>
        buckets discoverer.bucket pathPrefix := fun _ =>
    observes_remote rfl fun _ _ _ _ run => ⟨_, runs_request_iff.mp run, id, And.left⟩
  induction further generalizing pathPrefix with
  | zero => exact listed pathPrefix
  | succ further ih =>
      apply Computes.congr ((listed pathPrefix).bind fun prefixes =>
        observes_concatMapM ih prefixes)
      intro cluster
      unfold prefixesIn
      cases cluster.s3 discoverer.client with
      | error message => rfl
      | ok buckets =>
          simp only [Except.bind, prefixesAt, bind, pure, Except.pure]
          cases buckets discoverer.bucket pathPrefix with
          | error message => rfl
          | ok prefixes => simp only [Except.map]

theorem observes_discover :
    Observes faulty (discoverer.discover toolkit) fun cluster =>
      ((discoverer.prefixesIn cluster discoverer.furtherLevels discoverer.pathPrefix).mapError
        ("list s3 prefixes: " ++ ·)).bind fun prefixes =>
          .ok (discoverer.found toolkit prefixes) :=
  (observes_wrapError (observes_listAtDepth _ _)).bind fun _ => .pure _

end S3Discoverer

/-- The outcome is an error exactly if some reply was one. -/
def Strict {Result : Type} (program : Reconciler Result) : Prop :=
  ∀ (server : Server Cluster Op Reply) state trace outcome final,
    Runs server program.run state trace outcome final →
    ((∃ event ∈ trace, Fails event.op event.reply) ↔ ∃ message, outcome = .error message)

section Strict

variable {Result Other : Type}

theorem Strict.pure (value : Result) : Strict (pure value) := by
  intro server state trace outcome final run
  obtain ⟨rfl, rfl, _⟩ := runs_pure_iff.mp run
  simp

theorem Strict.bind {program : Reconciler Result} {rest : Result → Reconciler Other}
    (first : Strict program) (second : ∀ value, Strict (rest value)) :
    Strict (program >>= rest) := by
  intro server state trace outcome final run
  obtain ⟨failure, rfl, failed⟩ | ⟨earlier, _, value, later, rfl, succeeded, continued⟩ :=
    runs_fallible_bind_iff.mp run
  · exact iff_of_true ((first _ _ _ _ _ failed).mpr ⟨failure, rfl⟩) ⟨failure, rfl⟩
  · have quiet : ¬∃ event ∈ earlier, Fails event.op event.reply := by
      rw [first _ _ _ _ _ succeeded]
      rintro ⟨_, impossible⟩
      cases impossible
    rw [← second value _ _ _ _ _ continued]
    simp only [List.mem_append, or_and_right, exists_or]
    exact or_iff_right quiet

theorem Strict.wrapError {program : Reconciler Result} {context : String}
    (strict : Strict program) : Strict (wrapError context program) := by
  intro server state trace outcome final run
  obtain ⟨inner, ran, rfl⟩ := runs_of_wrapError run
  rw [strict _ _ _ _ _ ran]
  cases inner <;> simp [Except.mapError]

theorem strict_rangeOver (keys : List String) :
    Strict (Fallible.lift (Client.rangeOver keys)) := by
  intro server state trace outcome final run
  obtain ⟨order, rfl, ran⟩ := runs_lift_iff.mp run
  obtain ⟨_, rfl⟩ := runs_request_iff.mp ran
  simp [Fails]

theorem strict_listTopics (config : KafkaConfig) :
    Strict (ExceptT.mk (Client.kafkaListTopics config)) := by
  intro server state trace outcome final run
  obtain ⟨_, rfl⟩ := runs_request_iff.mp run
  simp [Fails]

theorem KafkaDiscoverer.strict_discover (discoverer : KafkaDiscoverer) (toolkit : Toolkit) :
    Strict (discoverer.discover toolkit) :=
  (strict_listTopics _).wrapError.bind fun _ => (strict_rangeOver _).bind fun _ => .pure _

theorem strict_listPrefixes (config : S3Config) (bucket pathPrefix : String) :
    Strict (ExceptT.mk (Client.s3ListPrefixes config bucket pathPrefix)) := by
  intro server state trace outcome final run
  obtain ⟨_, rfl⟩ := runs_request_iff.mp run
  simp [Fails]

theorem strict_concatMapM {action : String → Reconciler (List String)}
    (each : ∀ item, Strict (action item)) (items : List String) :
    Strict (concatMapM action items) := by
  induction items with
  | nil => exact .pure _
  | cons item rest ih =>
      exact (each item).bind fun _ => ih.bind fun _ => .pure _

theorem strict_listAtDepth (discoverer : S3Discoverer) (further : Nat) (pathPrefix : String) :
    Strict (discoverer.listAtDepth further pathPrefix) := by
  induction further generalizing pathPrefix with
  | zero => exact strict_listPrefixes _ _ _
  | succ further ih =>
      exact (strict_listPrefixes _ _ _).bind fun prefixes =>
        strict_concatMapM ih prefixes

theorem S3Discoverer.strict_discover (discoverer : S3Discoverer) (toolkit : Toolkit) :
    Strict (discoverer.discover toolkit) :=
  (strict_listAtDepth _ _ _).wrapError.bind fun _ => .pure _

end Strict

end DataPrepperOperator.Discovery
