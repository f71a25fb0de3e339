import Mathlib.Algebra.Order.Floor.Div
import DataPrepperOperator.Controller.DiscoveryConvergence

/-!
# The accounts of a staged rollout

One call of `reconcilePipelines` against the figures it reports: how many children it
creates and updates, which ones, and how many are left outdated.
-/

namespace DataPrepperOperator.Controller.SourceDiscovery

open ServerProgram DataPrepperOperator.Api DataPrepperOperator.Discovery

/-- The child has a desired name and not the desired hash. -/
def outdated (desired : GoMap Desired) (child : DataPrepperPipeline) : Bool :=
  match desired.lookup child.name with
  | some wanted =>
      decide ((child.metadata.annotations.lookup templateGenerationKey).getD "" ≠ wanted.hash)
  | none => false

/-- The names of the outdated children of a discovery. -/
def outdatedNames (discovery : DataPrepperSourceDiscovery) (desired : GoMap Desired)
    (cluster : Cluster) : List String :=
  ((cluster.matching (childSelector discovery)).filter (outdated desired)).map Object.name

section Outdated

variable {discovery : DataPrepperSourceDiscovery} {desired : GoMap Desired} {cluster : Cluster}
  {existing : GoMap DataPrepperPipeline} {name : String}

theorem mem_childrenOf {child : DataPrepperPipeline} :
    child ∈ cluster.matching (childSelector discovery) ↔
      cluster.find .pipeline child.name = some child ∧ Labelled discovery.name child :=
  mem_listed (.refl _)

theorem nodup_outdatedNames : (outdatedNames discovery desired cluster).Nodup :=
  (List.filter_sublist.map _).nodup (cluster.nodup_matching _)

theorem mem_outdatedNames :
    name ∈ outdatedNames discovery desired cluster ↔
      ∃ child, cluster.find .pipeline name = some child ∧ Labelled discovery.name child ∧
        outdated desired child = true := by
  unfold outdatedNames
  rw [List.mem_map]
  constructor
  · rintro ⟨child, listed, rfl⟩
    obtain ⟨matched, stale⟩ := List.mem_filter.mp listed
    obtain ⟨found, labelled⟩ := mem_childrenOf.mp matched
    exact ⟨child, found, labelled, stale⟩
  · rintro ⟨child, found, labelled, stale⟩
    have named : child.name = name := Cluster.name_of_find found
    refine ⟨child, List.mem_filter.mpr ⟨mem_childrenOf.mpr ⟨?_, labelled⟩, stale⟩, named⟩
    rwa [named]

theorem isStale_iff_outdated (children : Children cluster discovery.name existing) :
    isStale desired existing name = true ↔ name ∈ outdatedNames discovery desired cluster := by
  rw [mem_outdatedNames]
  unfold isStale
  cases present : existing.lookup name with
  | none =>
      simp only [Bool.false_eq_true, false_iff]
      rintro ⟨child, found, labelled, _⟩
      rw [(children name child).mpr ⟨found, labelled⟩] at present
      cases present
  | some child =>
      obtain ⟨found, labelled⟩ := (children name child).mp present
      have named : child.name = name := Cluster.name_of_find found
      constructor
      · intro stale
        refine ⟨child, found, labelled, ?_⟩
        unfold outdated
        rw [named]
        cases wanted : desired.lookup name <;> simp_all
      · rintro ⟨other, foundOther, _, stale⟩
        obtain rfl : child = other := Option.some.inj (found.symm.trans foundOther)
        unfold outdated at stale
        rw [named] at stale
        cases wanted : desired.lookup name <;> simp_all

theorem maxUpdatesPerCycle_eq (total : Nat) :
    maxUpdatesPerCycle total = max 1 (total ⌈/⌉ 5) := by
  rw [Nat.ceilDiv_eq_add_pred_div]
  rfl

end Outdated

/-- A child carries its desired hash and is degraded or in error. -/
def UnhealthyUpdated (discovery : DataPrepperSourceDiscovery) (desired : GoMap Desired)
    (cluster : Cluster) : Prop :=
  ∃ child ∈ cluster.matching (childSelector discovery), ∃ wanted,
    desired.lookup child.name = some wanted ∧
      child.metadata.annotations.lookup templateGenerationKey = some wanted.hash ∧
      (child.status.phase = .degraded ∨ child.status.phase = .error)

/-- What a call creates and updates, and how its report compares with the children it
leaves. -/
structure Accounted (discovery : DataPrepperSourceDiscovery) (desired : GoMap Desired)
    (state final : Cluster) (outcome : Except String Rollout) (created updated : List String) :
    Prop where
  createdLimit : (created.length : Int) ≤ discoveryMaxCreationsPerCycle discovery
  createdMissing : ∀ name ∈ created, name ∈ desired ∧
    ∀ child, state.find .pipeline name = some child → ¬Labelled discovery.name child
  updatedLimit : updated.length ≤
    max 1 ((state.matching (childSelector discovery)).length ⌈/⌉ 5)
  updatedOutdated : ∀ name ∈ updated, name ∈ outdatedNames discovery desired state
  others : ∀ name, name ∉ created → name ∉ updated →
    final.find .pipeline name = state.find .pipeline name
  paused : UnhealthyUpdated discovery desired state → updated = []
  reported : ∀ rollout, outcome = .ok rollout →
    rollout.created = created.length ∧ rollout.updated = updated.length ∧
      rollout.pendingUpdates = (outdatedNames discovery desired final).length

section Accounts

variable {reconciler : DiscoveryReconciler} {discovery : DataPrepperSourceDiscovery}
  {sources : List DiscoveredSource} {desired : GoMap Desired}
  {existing : GoMap DataPrepperPipeline} {created updated : List (String × Desired)}
  {state final : Cluster} {trace : List (Event Cluster Op Reply)}
  {outcome : Except String Rollout}

theorem unhealthy_of_updated (children : Children state discovery.name existing)
    (unhealthy : UnhealthyUpdated discovery desired state) :
    ∃ name, isUnhealthy desired existing name = true := by
  obtain ⟨child, matched, wanted, found, hash, phase⟩ := unhealthy
  obtain ⟨stored, labelled⟩ := mem_childrenOf.mp matched
  refine ⟨child.name, ?_⟩
  have annotated : child.metadata.annotations ≠ ∅ := by
    intro none
    rw [none, Finmap.lookup_empty] at hash
    cases hash
  unfold isUnhealthy
  rw [(children child.name child).mpr ⟨stored, labelled⟩, found]
  simp only [hash, Option.getD_some, annotated, ne_eq, not_false_eq_true, true_and, phase,
    decide_true]

/-- The stale children are those updated and those still outdated. -/
theorem outdated_left (children : Children state discovery.name existing)
    (rolledOut : RolledOut desired existing true created updated)
    (distinct : ((created ++ updated).map Prod.fst).Nodup)
    (writes : Writes (fun _ _ => False) discovery (created ++ updated) state trace true final)
    {stale : List String} (nodup : stale.Nodup)
    (listed : ∀ name, name ∈ stale ↔ isStale desired existing name = true) :
    (updated.map Prod.fst ++ outdatedNames discovery desired final).Perm stale := by
  have adopted := writes.adopted notFoundHonest_reliable rolledOut.consistent
  -- what was just written carries the desired hash
  have upToDate : ∀ item ∈ created ++ updated,
      item.1 ∉ outdatedNames discovery desired final := by
    intro item member outdatedLater
    obtain ⟨child, found, _, old⟩ := mem_outdatedNames.mp outdatedLater
    obtain ⟨stored, present, held⟩ := adopted item member
    obtain rfl : child = stored := Option.some.inj (found.symm.trans present)
    have named : child.name = item.1 := Cluster.name_of_find found
    unfold outdated at old
    rw [named, rolledOut.consistent item member] at old
    simp [held.hash] at old
  have unwritten : ∀ name, name ∉ (created ++ updated).map Prod.fst →
      final.find .pipeline name = state.find .pipeline name := by
    intro name outside
    apply writes.frame
    rintro item member same
    exact outside (List.mem_map.mpr ⟨item, member, (congrArg Prod.snd same).symm⟩)
  have sameNames : ∀ name, name ∉ (created ++ updated).map Prod.fst →
      (name ∈ outdatedNames discovery desired final ↔
        name ∈ outdatedNames discovery desired state) := by
    intro name outside
    rw [mem_outdatedNames, mem_outdatedNames, unwritten name outside]
  have updatedOnce : (updated.map Prod.fst).Nodup := by
    rw [List.map_append] at distinct
    exact (List.nodup_append.mp distinct).2.1
  have apart : (updated.map Prod.fst).Disjoint (outdatedNames discovery desired final) := by
    intro name inUpdated left
    obtain ⟨item, member, rfl⟩ := List.mem_map.mp inUpdated
    exact upToDate item (List.mem_append_right _ member) left
  apply (List.perm_ext_iff_of_nodup (updatedOnce.append nodup_outdatedNames apart) nodup).mpr
  intro name
  rw [List.mem_append, listed]
  constructor
  · rintro (inUpdated | left)
    · obtain ⟨item, member, rfl⟩ := List.mem_map.mp inUpdated
      exact (rolledOut.stale item member).2
    · rw [isStale_iff_outdated children]
      apply (sameNames name ?_).mp left
      intro written
      obtain ⟨item, member, rfl⟩ := List.mem_map.mp written
      exact upToDate item member left
  · intro stale
    by_cases inUpdated : name ∈ updated.map Prod.fst
    · exact .inl inUpdated
    · right
      apply (sameNames name ?_).mpr ((isStale_iff_outdated children).mp stale)
      rw [List.map_append, List.mem_append]
      rintro (inCreated | again)
      · obtain ⟨item, member, rfl⟩ := List.mem_map.mp inCreated
        exact mem_of_isStale_existing stale (rolledOut.missing item member).2
      · exact inUpdated again

/-- The accounts of a call, unless a source cannot be rendered. -/
theorem accounted_of_runs
    (run : Runs Reliable (reconcilePipelines reconciler discovery sources).run state trace outcome
      final) :
    (∃ message, desiredPipelines reconciler.toolkit discovery sources ∅ = .error message ∧
        final = state) ∨
      ∃ desired created updated,
        desiredPipelines reconciler.toolkit discovery sources ∅ = .ok desired ∧
        Accounted discovery desired state final outcome created updated := by
  obtain ⟨message, failed, _, _, unchanged⟩ | ⟨desired, existing, created, updated, built,
    children, rolledOut, counted, writes⟩ := runs_reconcilePipelines run
  · exact .inl ⟨message, failed, unchanged⟩
  refine .inr ⟨desired, created.map Prod.fst, updated.map Prod.fst, built, ?_⟩
  refine ⟨?_, ?_, ?_, ?_, ?_, ?_, ?_⟩
  · rw [List.length_map]
    exact counted.limited
  · intro name listed
    obtain ⟨item, member, rfl⟩ := List.mem_map.mp listed
    obtain ⟨wanted, absent⟩ := rolledOut.missing item member
    refine ⟨Finmap.mem_iff.mpr ⟨_, wanted⟩, ?_⟩
    intro child found labelled
    rw [(children item.1 child).mpr ⟨found, labelled⟩] at absent
    cases absent
  · rw [List.length_map, childSelector, ← children.length_sortedKeys, ← maxUpdatesPerCycle_eq]
    exact rolledOut.batch
  · intro name listed
    obtain ⟨item, member, rfl⟩ := List.mem_map.mp listed
    exact (isStale_iff_outdated children).mp (rolledOut.stale item member).2
  · intro name notCreated notUpdated
    apply writes.frame
    rintro item member same
    obtain rfl : name = item.1 := congrArg Prod.snd same
    obtain inCreated | inUpdated := List.mem_append.mp member
    · exact notCreated (List.mem_map_of_mem inCreated)
    · exact notUpdated (List.mem_map_of_mem inUpdated)
  · intro unhealthy
    obtain ⟨name, found⟩ := unhealthy_of_updated children unhealthy
    by_contra some
    have healthy := rolledOut.healthy (by simpa using some) name
    rw [found] at healthy
    cases healthy
  · rintro rollout rfl
    obtain ⟨stale, nodup, listed, createdCount, updatedCount, pending, _⟩ :=
      counted.reported rollout rfl
    have left := (outdated_left children rolledOut counted.distinct writes nodup listed).length_eq
    rw [List.length_append, List.length_map] at left
    rw [List.length_map, List.length_map]
    exact ⟨createdCount, updatedCount, by omega⟩

end Accounts

section Requeue

variable {reconciler : DiscoveryReconciler} {base discovery : DataPrepperSourceDiscovery}
  {sources : List DiscoveredSource} {state final : Cluster}
  {trace : List (Event Cluster Op Reply)} {faulty : (op : Op) → Reply op → Prop}

/-- A report that succeeds ends with the requeue of a version of the discovery. -/
theorem requeue_of_report {rollout : Rollout} {result : ReconcileResult}
    (same : SameSource discovery base) (stored : StoredAs base state)
    (run : Runs (Serves faulty) (report reconciler discovery sources rollout).run state trace
      (.ok result) final) :
    ∃ version, SameSource version base ∧
      result = requeue reconciler.toolkit version rollout sources.length := by
  obtain ⟨_, _, now, _, _, asked, reporting⟩ := runs_lift_bind run
  obtain ⟨_, stillStored, _⟩ := tends_now _ _ _ _ stored asked
  obtain ⟨_, _, attempt, _, _, storing, finished⟩ := runs_lift_bind reporting
  obtain ⟨_, _, version⟩ := tends_updateDiscoveryStatus (sameSource_withRollout
    (sameSource_buildDiscoveryStatus same .running sources "" now) rollout) _ _ _ _ stillStored
    storing
  cases ended : attempt.2 with
  | error error =>
      rw [ended] at finished
      obtain ⟨_, impossible, _⟩ := runs_throw_iff.mp finished
      cases impossible
  | ok _ =>
      rw [ended] at finished
      obtain ⟨_, returned, _⟩ := runs_pure_iff.mp finished
      exact ⟨attempt.1, version, Except.ok.inj returned⟩

theorem SameSource.discoveryMaxCreationsPerCycle {first second : DataPrepperSourceDiscovery}
    (same : SameSource first second) :
    discoveryMaxCreationsPerCycle first = discoveryMaxCreationsPerCycle second := by
  unfold SourceDiscovery.discoveryMaxCreationsPerCycle
  rw [same.spec]

/-- Fewer children are created than there are sources while one is missing. -/
theorem created_lt_sources {desired : GoMap Desired} {created : List (String × Desired)}
    (built : desiredPipelines reconciler.toolkit base sources ∅ = .ok desired)
    (wanted : ∀ item ∈ created, item.1 ∈ desired) (distinct : (created.map Prod.fst).Nodup)
    {missing : String} (inDesired : missing ∈ desired) (absent : missing ∉ created.map Prod.fst) :
    created.length < sources.length := by
  have inside : (missing :: created.map Prod.fst).toFinset ⊆ desired.keys := by
    intro name listed
    rw [Finmap.mem_keys]
    obtain rfl | later := List.mem_cons.mp (List.mem_toFinset.mp listed)
    · exact inDesired
    · obtain ⟨item, member, rfl⟩ := List.mem_map.mp later
      exact wanted item member
  have once : (missing :: created.map Prod.fst).Nodup := List.nodup_cons.mpr ⟨absent, distinct⟩
  have bounded := (Finset.card_le_card inside).trans (card_keys_le built)
  rw [List.toFinset_card_of_nodup once, List.length_cons, List.length_map] at bounded
  exact bounded

/-- What was listed or has been created carries the label after the rollout. -/
theorem labelled_of_rollOut {before after : Cluster} {steps : List (Event Cluster Op Reply)}
    {desired : GoMap Desired} {existing : GoMap DataPrepperPipeline}
    {created updated : List (String × Desired)} {child : String}
    (children : Children before discovery.name existing)
    (rolledOut : RolledOut desired existing true created updated)
    (writes : Writes (fun _ _ => False) discovery (created ++ updated) before steps true after)
    (known : child ∈ existing ∨ child ∈ created.map Prod.fst) :
    ∃ pipeline, after.find .pipeline child = some pipeline ∧
      Labelled discovery.name pipeline := by
  obtain listed | inCreated := known
  · let Present (stored : Option DataPrepperPipeline) : Prop :=
      ∃ pipeline, stored = some pipeline ∧ Labelled discovery.name pipeline
    have stillThere : Present (after.find .pipeline child) := writes.keeps
      (fun _ _ _ later _ written => ⟨later, rfl, written.adopted.label⟩)
      (children.mem_iff.mp listed)
    exact stillThere
  · obtain ⟨item, member, rfl⟩ := List.mem_map.mp inCreated
    obtain ⟨pipeline, found, adopted⟩ := writes.adopted notFoundHonest_reliable
      rolledOut.consistent item (List.mem_append_left _ member)
    exact ⟨pipeline, found, adopted.label⟩

/-- A successful cycle that leaves a desired child uncreated comes back after a second. -/
theorem requeued_of_uncreated {name missing : String} {fetched : DataPrepperSourceDiscovery}
    {desired : GoMap Desired} {result : ReconcileResult}
    (stored : state.find .sourceDiscovery name = some fetched)
    (live : fetched.metadata.deleting = false)
    (discovered : sourcesIn reconciler fetched.spec state = .ok sources)
    (built : desiredPipelines reconciler.toolkit fetched sources ∅ = .ok desired)
    (run : Runs Reliable (reconcile reconciler name).run state trace (.ok result) final)
    (inDesired : missing ∈ desired)
    (uncreated : ∀ child, final.find .pipeline missing = some child → ¬Labelled name child) :
    result.requeueAfter = 1 * second := by
  obtain rfl : fetched.name = name := Cluster.name_of_find stored
  cases course_of_runs stored live run with
  | idle _ _ excused _ _ _ =>
      obtain ⟨_, _, impossible⟩ | failed | nothing := excused.reason
      · exact impossible.elim
      · cases failed
      · exact absurd discovered (nothing sources)
  | @found found current start earlier later _ _ seen same _ storedAs elsewhere children =>
      rw [discovered, Except.ok.injEq] at seen
      subst seen
      obtain ⟨rollout, rolled, cleaned, reported, between, afterwards, items, completed, _,
        phases⟩ := (phases_of_runs same storedAs children).2
      obtain ⟨success, _, _⟩ := phases.success rfl
      obtain ⟨written, rfl, reporting⟩ := phases.reporting rfl
      obtain ⟨_, _, impossible, _⟩ | ⟨wanted, existing, created, updated, wantedBuilt, childrenAt,
        rolledOut, counted, writes⟩ := runs_reconcilePipelines phases.rolling
      · cases impossible
      rw [same.desiredPipelines, built, Except.ok.injEq] at wantedBuilt
      subst wantedBuilt
      have unlabelled : ∀ child, between.find .pipeline missing = some child →
          ¬Labelled current.name child := by
        have active := (mem_desired_iff_active built).mp inDesired
        rw [← same.name] at active uncreated
        rwa [phases.untouched active] at uncreated
      have unknown : ¬(missing ∈ existing ∨ missing ∈ created.map Prod.fst) := by
        intro known
        obtain ⟨child, found, labelled⟩ := labelled_of_rollOut childrenAt rolledOut writes known
        exact unlabelled child found labelled
      have full : discoveryMaxCreationsPerCycle current ≤ created.length := by
        by_contra room
        exact unknown (counted.uncreated rfl (not_le.mp room) missing inDesired)
      have onceCreated : (created.map Prod.fst).Nodup := by
        have distinct := counted.distinct
        rw [List.map_append] at distinct
        exact (List.nodup_append.mp distinct).1
      have fewer := created_lt_sources built
        (fun item member => Finmap.mem_iff.mpr ⟨_, (rolledOut.missing item member).1⟩)
        onceCreated inDesired (not_or.mp unknown).2
      obtain ⟨_, _, _, createdCount, _⟩ := counted.reported written rfl
      have storedLater : StoredAs fetched afterwards := by
        intro found present
        rw [phases.find_discovery] at present
        exact storedAs found present
      obtain ⟨version, versionSame, rfl⟩ := requeue_of_report same storedLater reporting
      have limit := (versionSame.trans same.symm).discoveryMaxCreationsPerCycle
      unfold requeue
      rw [if_pos ⟨by rw [limit, createdCount]; exact full, by rw [createdCount]; exact fewer⟩]

end Requeue

/-- Every call of `reconcilePipelines` without API errors keeps its accounts, and a
successful cycle with a desired child still uncreated comes back after a second. -/
theorem rollout_accounted (reconciler : DiscoveryReconciler) :
    (∀ discovery sources state trace outcome final,
      Runs Reliable (reconcilePipelines reconciler discovery sources).run state trace outcome
        final →
      (∃ message, desiredPipelines reconciler.toolkit discovery sources ∅ = .error message ∧
          final = state) ∨
        ∃ desired created updated,
          desiredPipelines reconciler.toolkit discovery sources ∅ = .ok desired ∧
          Accounted discovery desired state final outcome created updated) ∧
    ∀ name fetched sources desired state trace result final,
      state.find .sourceDiscovery name = some fetched → fetched.metadata.deleting = false →
      sourcesIn reconciler fetched.spec state = .ok sources →
      desiredPipelines reconciler.toolkit fetched sources ∅ = .ok desired →
      Runs Reliable (reconcile reconciler name).run state trace (.ok result) final →
      (∃ missing ∈ desired, ∀ child, final.find .pipeline missing = some child →
        ¬Labelled name child) →
      result.requeueAfter = 1 * second := by
  constructor
  · intro discovery sources state trace outcome final run
    exact accounted_of_runs run
  · rintro name fetched sources desired state trace result final stored live discovered built run
      ⟨missing, inDesired, uncreated⟩
    exact requeued_of_uncreated stored live discovered built run inDesired uncreated

/-- Two topics and a discovery that creates one child in a cycle. -/
def oneAtATime : Cluster :=
  let discovery : DataPrepperSourceDiscovery :=
    { topicDiscovery "v1" .delete with
      spec := { (topicDiscovery "v1" .delete).spec with maxCreationsPerCycle := some 1 } }
  withTopics ["a", "b"] (Cluster.empty.create discovery).2

theorem rollout_accounted_oneAtATime :
    ∃ fetched sources trace result, oneAtATime.find .sourceDiscovery "topics" = some fetched ∧
      sourcesIn sampleDiscoveryReconciler fetched.spec oneAtATime = .ok sources ∧
      Runs Reliable (reconcile sampleDiscoveryReconciler "topics").run oneAtATime trace
        (.ok result) (afterCycle oneAtATime) ∧
      result.requeueAfter = 1 * second := by
  obtain ⟨trace, run⟩ : ∃ trace, Runs Reliable
      (reconcile sampleDiscoveryReconciler "topics").run oneAtATime trace _ _ := runs_execute _ _
  cases outcome : ((reconcile sampleDiscoveryReconciler "topics").run.execute Cluster.answer
      oneAtATime).1 with
  | error message =>
      have succeeded : ((reconcile sampleDiscoveryReconciler "topics").run.execute Cluster.answer
        oneAtATime).1.isOk = true := by decide +kernel
      rw [outcome] at succeeded
      cases succeeded
  | ok result =>
      rw [outcome] at run
      have absent : (afterCycle oneAtATime).find .pipeline "topics-b" = none := by decide +kernel
      refine ⟨_, _, trace, result, rfl, rfl, run, ?_⟩
      refine (rollout_accounted sampleDiscoveryReconciler).2 "topics" _ _ _ _ _ _ _ rfl rfl rfl
        rfl run ⟨"topics-b", by decide +kernel, ?_⟩
      intro child found
      exact absurd (absent.symm.trans found) (by simp)

end DataPrepperOperator.Controller.SourceDiscovery
