import DataPrepperOperator.Controller.ChildSteps

/-!
# How far a template change gets

A template change reaches the existing children in batches, and a batch waits while
an updated child is degraded or in error.  A child that is still pending does not
hold the next batch back.
-/

namespace DataPrepperOperator.Controller.SourceDiscovery

open ServerProgram DataPrepperOperator.Api DataPrepperOperator.Discovery

/-- The child wanted under a name, with the sources that are there. -/
def wantedIn (reconciler : DiscoveryReconciler) (discovery : DataPrepperSourceDiscovery)
    (cluster : Cluster) (name : String) : Option Desired :=
  match sourcesIn reconciler discovery.spec cluster with
  | .error _ => none
  | .ok sources => wantedChild reconciler.toolkit discovery sources name

section Rollout

variable (reconciler : DiscoveryReconciler) (discovery : DataPrepperSourceDiscovery)

/-- The child has another spec than the wanted one, and the pipeline has the wanted one. -/
def hasReceived (changed current : Cluster) (child : DataPrepperPipeline) : Bool :=
  match current.find .pipeline child.name, wantedIn reconciler discovery changed child.name with
  | some pipeline, some wanted => decide (child.spec ≠ wanted.spec ∧ pipeline.spec = wanted.spec)
  | _, _ => false

/-- The children at the time of the template change that have received their new spec
since. -/
def receivedSince (changed current : Cluster) : List DataPrepperPipeline :=
  (changed.matching (childSelector discovery)).filter (hasReceived reconciler discovery changed
    current)

/-- A pipeline reports its status.  A child that has received its new spec never reports
that it is running. -/
def Reports (changed before after : Cluster) : Prop :=
  ∃ (child : DataPrepperPipeline) (status : DataPrepperPipelineStatus),
    before.find .pipeline child.name = some child ∧
      (child.name ∈ (receivedSince reconciler discovery changed before).map Object.name →
        status.phase ≠ .running) ∧
      after = before.commit { child with status := status }

/-- Before a cycle: no child has received its new spec and there are no more children
than at the change, or a child with the wanted hash is degraded or in error, or every
child has the wanted hash. -/
inductive Guarded (changed before : Cluster) : Prop where
  | untouched : receivedSince reconciler discovery changed before = [] →
      (before.matching (childSelector discovery)).length ≤
        (changed.matching (childSelector discovery)).length → Guarded changed before
  | paused {name : String} {child : DataPrepperPipeline} {wanted : Desired} :
      before.find .pipeline name = some child → Labelled discovery.name child →
      wantedIn reconciler discovery before name = some wanted →
      child.metadata.annotations.lookup templateGenerationKey = some wanted.hash →
      child.status.phase = .degraded ∨ child.status.phase = .error → Guarded changed before
  | complete : (∀ name child wanted, before.find .pipeline name = some child →
      Labelled discovery.name child → wantedIn reconciler discovery before name = some wanted →
      (child.metadata.annotations.lookup templateGenerationKey).getD "" = wanted.hash) →
      Guarded changed before

end Rollout

section Steps

variable {reconciler : DiscoveryReconciler} {discovery : DataPrepperSourceDiscovery}
  {changed before after : Cluster} {child : DataPrepperPipeline}

theorem mem_receivedSince :
    child ∈ receivedSince reconciler discovery changed before ↔
      (changed.find .pipeline child.name = some child ∧ Labelled discovery.name child) ∧
        ∃ pipeline wanted, before.find .pipeline child.name = some pipeline ∧
          wantedIn reconciler discovery changed child.name = some wanted ∧
          child.spec ≠ wanted.spec ∧ pipeline.spec = wanted.spec := by
  unfold receivedSince childSelector
  rw [List.mem_filter, mem_listed (.refl _)]
  apply and_congr_right
  intro _
  unfold hasReceived
  split
  · rename_i pipeline wanted present found
    simp [present, found]
  · rename_i otherwise
    simp only [Bool.false_eq_true, false_iff, not_exists, not_and]
    intro pipeline wanted present found
    exact absurd found (otherwise pipeline wanted present)

theorem nodup_receivedSince :
    ((receivedSince reconciler discovery changed before).map Object.name).Nodup :=
  (List.filter_sublist.map _).nodup (changed.nodup_matching _)

/-- A wanted child stays labelled through the writes of a cycle. -/
theorem labelled_of_steps {current : DataPrepperSourceDiscovery} {desired : GoMap Desired}
    {name : String} {first last : Option DataPrepperPipeline} (wanted : name ∈ desired)
    (steps : Relation.ReflTransGen (ChildStep current desired name) first last)
    (initially : ∃ pipeline, first = some pipeline ∧ Labelled current.name pipeline) :
    ∃ pipeline, last = some pipeline ∧ Labelled current.name pipeline := by
  induction steps with
  | refl => exact initially
  | tail _ step _ =>
      cases step with
      | written _ written => exact ⟨_, rfl, written.adopted.label⟩
      | cleaned unwanted _ _ => exact absurd wanted unwanted

/-- The wanted children are those of the time of the change. -/
theorem wantedIn_of_reshaped {stored : DataPrepperSourceDiscovery}
    {sources : List DiscoveredSource} {desired : GoMap Desired}
    (same : SameSource stored discovery)
    (discovered : sourcesIn reconciler stored.spec before = .ok sources)
    (built : desiredPipelines reconciler.toolkit stored sources ∅ = .ok desired)
    (inputs : SameInputs changed before) (name : String) :
    wantedIn reconciler discovery changed name = desired.lookup name ∧
      wantedIn reconciler discovery before name = desired.lookup name := by
  rw [same.spec] at discovered
  rw [same.desiredPipelines] at built
  unfold wantedIn
  rw [← inputs.sourcesIn, discovered]
  exact ⟨wantedChild_of_built built name, wantedChild_of_built built name⟩

/-- What holds in every state that is reached. -/
structure Ongoing (reconciler : DiscoveryReconciler) (discovery : DataPrepperSourceDiscovery)
    (changed current : Cluster) : Prop where
  stored : StoredAs discovery current
  inputs : SameInputs changed current
  managed : ∀ name child, changed.find .pipeline name = some child →
    Labelled discovery.name child → wantedIn reconciler discovery changed name ≠ none →
    ∃ pipeline, current.find .pipeline name = some pipeline ∧ Labelled discovery.name pipeline
  bounded : (receivedSince reconciler discovery changed current).length ≤
    maxUpdatesPerCycle (changed.matching (childSelector discovery)).length

theorem maxUpdatesPerCycle_mono {fewer more : Nat} (le : fewer ≤ more) :
    maxUpdatesPerCycle fewer ≤ maxUpdatesPerCycle more := by
  unfold maxUpdatesPerCycle
  omega

/-- The batch is empty while a child with the wanted hash is unhealthy, and when no
child is stale. -/
theorem batch_of_guarded {stored : DataPrepperSourceDiscovery} {sources : List DiscoveredSource}
    {desired : GoMap Desired} {existing : GoMap DataPrepperPipeline} {completed : Bool}
    {created updated : List (String × Desired)} (same : SameSource stored discovery)
    (inputs : SameInputs changed before)
    (guarded : Guarded reconciler discovery changed before)
    (reshaped : Reshaped reconciler stored before after sources desired existing completed
      created updated) :
    updated = [] ∨
      receivedSince reconciler discovery changed before = [] ∧
        updated.length ≤
          maxUpdatesPerCycle (changed.matching (childSelector discovery)).length := by
  have wantedNow := fun name =>
    (wantedIn_of_reshaped same reshaped.discovered reshaped.built inputs name).2
  have children : Children before discovery.name existing := by
    rw [← same.name]
    exact reshaped.children
  cases guarded with
  | untouched untouched fewer =>
      refine .inr ⟨untouched, reshaped.rolled.batch.trans (maxUpdatesPerCycle_mono ?_)⟩
      rw [children.length_sortedKeys]
      exact fewer
  | @paused name child wanted present labelled found hash phase =>
      left
      by_contra someUpdated
      have healthy := reshaped.rolled.healthy someUpdated name
      have listed := (children name child).mpr ⟨present, labelled⟩
      have annotated : child.metadata.annotations ≠ ∅ := by
        intro empty
        rw [empty, Finmap.lookup_empty] at hash
        cases hash
      rw [wantedNow] at found
      simp [isUnhealthy, listed, found, annotated, hash, phase] at healthy
  | complete complete =>
      left
      by_contra someUpdated
      obtain ⟨item, member⟩ := List.exists_mem_of_ne_nil _ someUpdated
      obtain ⟨found, stale⟩ := reshaped.rolled.stale item member
      unfold isStale at stale
      split at stale
      · rename_i child wanted listed wantedFound
        obtain ⟨present, labelled⟩ := (children item.1 child).mp listed
        have fresh := complete item.1 child wanted present labelled
          ((wantedNow item.1).trans wantedFound)
        exact of_decide_eq_true stale fresh
      · cases stale

/-- Only a child of the batch receives its new spec in a cycle. -/
theorem received_of_reshaped {stored : DataPrepperSourceDiscovery}
    {sources : List DiscoveredSource} {desired : GoMap Desired}
    {existing : GoMap DataPrepperPipeline} {completed : Bool}
    {created updated : List (String × Desired)} (same : SameSource stored discovery)
    (ongoing : Ongoing reconciler discovery changed before)
    (reshaped : Reshaped reconciler stored before after sources desired existing completed
      created updated)
    (received : child ∈ receivedSince reconciler discovery changed after) :
    child ∈ receivedSince reconciler discovery changed before ∨
      child.name ∈ updated.map Prod.fst := by
  obtain ⟨⟨wasThere, labelled⟩, pipeline, wanted, present, found, different, arrived⟩ :=
    mem_receivedSince.mp received
  have wantedThen := (wantedIn_of_reshaped same reshaped.discovered reshaped.built ongoing.inputs
    child.name).1
  have inDesired : child.name ∈ desired :=
    Finmap.mem_iff.mpr ⟨wanted, wantedThen.symm.trans found⟩
  by_cases written : ∃ item ∈ created ++ updated, item.1 = child.name
  · obtain ⟨item, member, sameName⟩ := written
    right
    obtain inCreated | inUpdated := List.mem_append.mp member
    · -- a child that was labelled at the change is still listed, so it is not created
      obtain ⟨current, currentPresent, currentLabelled⟩ :=
        ongoing.managed child.name child wasThere labelled (by simp [found])
      have listed := (reshaped.children child.name current).mpr
        ⟨currentPresent, by rwa [same.name]⟩
      rw [← sameName, (reshaped.rolled.missing item inCreated).2] at listed
      cases listed
    · exact List.mem_map.mpr ⟨item, inUpdated, sameName⟩
  · left
    have unchanged := reshaped.frame child.name inDesired fun item member sameName =>
      written ⟨item, member, sameName⟩
    rw [unchanged] at present
    exact mem_receivedSince.mpr ⟨⟨wasThere, labelled⟩, pipeline, wanted, present, found, different,
      arrived⟩

theorem length_receivedSince_le {names : List String}
    (covered : ∀ child ∈ receivedSince reconciler discovery changed before, child.name ∈ names) :
    (receivedSince reconciler discovery changed before).length ≤ names.length := by
  rw [← List.length_map Object.name]
  apply (nodup_receivedSince.subperm _).length_le
  intro name member
  obtain ⟨child, listed, rfl⟩ := List.mem_map.mp member
  exact covered child listed

theorem Ongoing.bounded_reshaped {stored : DataPrepperSourceDiscovery}
    {sources : List DiscoveredSource} {desired : GoMap Desired}
    {existing : GoMap DataPrepperPipeline} {completed : Bool}
    {created updated : List (String × Desired)}
    (ongoing : Ongoing reconciler discovery changed before)
    (guarded : Guarded reconciler discovery changed before) (same : SameSource stored discovery)
    (reshaped : Reshaped reconciler stored before after sources desired existing completed
      created updated) :
    (receivedSince reconciler discovery changed after).length ≤
      maxUpdatesPerCycle (changed.matching (childSelector discovery)).length := by
  have grows := fun child (received : child ∈ receivedSince reconciler discovery changed after) =>
    received_of_reshaped same ongoing reshaped received
  obtain rfl | ⟨untouched, batch⟩ := batch_of_guarded same ongoing.inputs guarded reshaped
  · have covered : ∀ child ∈ receivedSince reconciler discovery changed after,
        child.name ∈ (receivedSince reconciler discovery changed before).map Object.name := by
      intro child received
      obtain earlier | impossible := grows child received
      · exact List.mem_map_of_mem earlier
      · cases impossible
    have fewer := length_receivedSince_le covered
    rw [List.length_map] at fewer
    exact fewer.trans ongoing.bounded
  · have covered : ∀ child ∈ receivedSince reconciler discovery changed after,
        child.name ∈ updated.map Prod.fst := by
      intro child received
      obtain earlier | inBatch := grows child received
      · rw [untouched] at earlier
        cases earlier
      · exact inBatch
    have fewer := length_receivedSince_le covered
    rw [List.length_map] at fewer
    exact fewer.trans batch

theorem Ongoing.managed_reshaped {stored : DataPrepperSourceDiscovery}
    {sources : List DiscoveredSource} {desired : GoMap Desired}
    {existing : GoMap DataPrepperPipeline} {completed : Bool}
    {created updated : List (String × Desired)}
    (ongoing : Ongoing reconciler discovery changed before) (same : SameSource stored discovery)
    (reshaped : Reshaped reconciler stored before after sources desired existing completed
      created updated) {name : String} (found : changed.find .pipeline name = some child)
    (labelled : Labelled discovery.name child)
    (wanted : wantedIn reconciler discovery changed name ≠ none) :
    ∃ pipeline, after.find .pipeline name = some pipeline ∧
      Labelled discovery.name pipeline := by
  obtain ⟨current, sameCurrent, steps⟩ := reshaped.steps
  have named : current.name = discovery.name := sameCurrent.name.trans same.name
  have inDesired : name ∈ desired := by
    rw [(wantedIn_of_reshaped same reshaped.discovered reshaped.built ongoing.inputs name).1]
      at wanted
    exact Finmap.lookup_isSome.mp (Option.isSome_iff_ne_none.mpr wanted)
  rw [← named]
  apply labelled_of_steps inDesired (steps name)
  rw [named]
  exact ongoing.managed name child found labelled wanted

theorem Ongoing.cycle {trace : List (Event Cluster Op Reply)}
    {outcome : Except String ReconcileResult} (live : discovery.metadata.deleting = false)
    (ongoing : Ongoing reconciler discovery changed before)
    (guarded : Guarded reconciler discovery changed before)
    (run : Runs Unreliable (reconcile reconciler discovery.name).run before trace outcome after) :
    Ongoing reconciler discovery changed after := by
  cases present : before.find .sourceDiscovery discovery.name with
  | none =>
      rw [unchanged_of_absent present run]
      exact ongoing
  | some stored =>
      obtain ⟨same, mark⟩ := ongoing.stored stored present
      obtain ⟨storedAfter, inputs⟩ := kept_of_runs present (mark.trans live) run
      refine ⟨storedAfter.congr same mark, ongoing.inputs.trans inputs, ?_, ?_⟩
      all_goals
        obtain unchanged | ⟨sources, desired, existing, completed, created, updated, reshaped⟩ :=
          reshaped_of_runs present (mark.trans live) run
      · intro name child found labelled wanted
        rw [unchanged]
        exact ongoing.managed name child found labelled wanted
      · exact fun name child found labelled wanted =>
          ongoing.managed_reshaped same reshaped found labelled wanted
      · have received : hasReceived reconciler discovery changed after =
            hasReceived reconciler discovery changed before := by
          funext child
          unfold hasReceived
          rw [unchanged]
        unfold receivedSince
        rw [received]
        exact ongoing.bounded
      · exact ongoing.bounded_reshaped guarded same reshaped

theorem Ongoing.report {status : DataPrepperPipelineStatus}
    (ongoing : Ongoing reconciler discovery changed before)
    (found : before.find .pipeline child.name = some child) :
    Ongoing reconciler discovery changed (before.commit { child with status := status }) := by
  have others : ∀ kind name, kind ≠ .pipeline →
      (before.commit { child with status := status }).find kind name = before.find kind name :=
    fun kind name different => before.find_commit_of_kind_ne _ different name
  have kept : ∀ name earlier, before.find .pipeline name = some earlier → ∃ later,
      (before.commit { child with status := status }).find .pipeline name = some later ∧
        HasContentOf later earlier := by
    intro name earlier present
    by_cases same : name = child.name
    · subst same
      rw [found, Option.some.injEq] at present
      subst present
      exact ⟨_, before.find_commit_same { child with status := status }, rfl, rfl, rfl, rfl⟩
    · rw [before.find_commit_of_name_ne { child with status := status } same]
      exact ⟨earlier, present, rfl, rfl, rfl, rfl⟩
  refine ⟨?_, ?_, ?_, ?_⟩
  · intro stored present
    rw [others _ _ (by simp)] at present
    exact ongoing.stored stored present
  · exact ongoing.inputs.trans ⟨fun name => others _ name (by simp), rfl, rfl⟩
  · intro name initial present labelled wanted
    obtain ⟨pipeline, stored, stillLabelled⟩ :=
      ongoing.managed name initial present labelled wanted
    obtain ⟨later, storedLater, content⟩ := kept name pipeline stored
    exact ⟨later, storedLater, (labelled_of_content content).mpr stillLabelled⟩
  · have covered : ∀ initial ∈ receivedSince reconciler discovery changed
        (before.commit { child with status := status }),
        initial.name ∈ (receivedSince reconciler discovery changed before).map Object.name := by
      intro initial received
      obtain ⟨⟨wasThere, labelled⟩, later, wanted, present, wantedFound, different, arrived⟩ :=
        mem_receivedSince.mp received
      obtain ⟨pipeline, stored, _⟩ :=
        ongoing.managed initial.name initial wasThere labelled (by simp [wantedFound])
      obtain ⟨same, storedLater, content⟩ := kept initial.name pipeline stored
      rw [present, Option.some.injEq] at storedLater
      subst storedLater
      exact List.mem_map_of_mem (mem_receivedSince.mpr ⟨⟨wasThere, labelled⟩, pipeline, wanted,
        stored, wantedFound, different, content.spec.symm.trans arrived⟩)
    have fewer := length_receivedSince_le covered
    rw [List.length_map] at fewer
    exact fewer.trans ongoing.bounded

end Steps

/-- If each cycle starts before any child has received its new spec, or while an
updated child is degraded or in error, or with nothing to update, then no more than one
batch of the children receives the new spec. -/
theorem rollout_stays_in_one_batch {reconciler : DiscoveryReconciler} {name : String}
    {discovery : DataPrepperSourceDiscovery} {changed current : Cluster}
    (stored : changed.find .sourceDiscovery name = some discovery)
    (live : discovery.metadata.deleting = false)
    (reached : Cycles reconciler name (Guarded reconciler discovery changed)
      (Reports reconciler discovery changed) changed current) :
    (receivedSince reconciler discovery changed current).length ≤
      maxUpdatesPerCycle (changed.matching (childSelector discovery)).length := by
  have named : discovery.name = name := Cluster.name_of_find stored
  subst named
  suffices ongoing : Ongoing reconciler discovery changed current from ongoing.bounded
  refine reached.preserves ?_ ?_ ?_
  · exact fun _ _ _ _ ongoing guarded run => ongoing.cycle live guarded run
  · rintro _ _ ongoing ⟨child, status, found, _, rfl⟩
    exact ongoing.report found
  · refine ⟨storedAs_of_find stored, .refl _, fun name child found labelled _ =>
      ⟨child, found, labelled⟩, ?_⟩
    have nothing : receivedSince reconciler discovery changed changed = [] := by
      apply List.eq_nil_iff_forall_not_mem.mpr
      intro child received
      obtain ⟨⟨wasThere, _⟩, pipeline, wanted, present, _, different, arrived⟩ :=
        mem_receivedSince.mp received
      rw [wasThere, Option.some.injEq] at present
      subst present
      exact different arrived
    simp [nothing]

/-- The status of a pipeline of the sample discovery. -/
def reportPhase (name : String) (phase : PipelinePhase) (cluster : Cluster) : Cluster :=
  match cluster.find .pipeline name with
  | some child => cluster.commit { child with status := { child.status with phase := phase } }
  | none => cluster

/-- Two children, both pending, of a template that has just been changed. -/
def twoPending : Cluster :=
  withDiscoverySpec (topicDiscovery "v2" .delete).spec
    (reportPhase "topics-logs-b" .pending (reportPhase "topics-logs-a" .pending
      (afterCycle (withTopics ["logs-a", "logs-b"]
        (Cluster.empty.create (topicDiscovery "v1" .delete)).2))))

theorem Cycles.reportPhase {reconciler : DiscoveryReconciler} {name : String}
    {discovery : DataPrepperSourceDiscovery} {changed before : Cluster} {ready : Cluster → Prop}
    (reached : Cycles reconciler name ready (Reports reconciler discovery changed) changed before)
    (child : String) {phase : PipelinePhase} (notRunning : phase ≠ .running) :
    Cycles reconciler name ready (Reports reconciler discovery changed) changed
      (reportPhase child phase before) := by
  unfold SourceDiscovery.reportPhase
  split
  · rename_i pipeline found
    have named : pipeline.name = child := Cluster.name_of_find found
    exact .outside reached ⟨pipeline, _, by rwa [named], fun _ => notRunning, rfl⟩
  · exact reached

/-- Both children receive the new spec though the first one stays pending. -/
theorem rollout_passes_pending_child :
    ∃ discovery, twoPending.find .sourceDiscovery "topics" = some discovery ∧
      discovery.metadata.deleting = false ∧
      Cycles sampleDiscoveryReconciler "topics" (fun _ => True)
        (Reports sampleDiscoveryReconciler discovery twoPending) twoPending
        (afterCycle (reportPhase "topics-logs-a" .pending (afterCycle twoPending))) ∧
      ¬(receivedSince sampleDiscoveryReconciler discovery twoPending
          (afterCycle (reportPhase "topics-logs-a" .pending (afterCycle twoPending)))).length ≤
        maxUpdatesPerCycle (twoPending.matching (childSelector discovery)).length := by
  have known : (twoPending.find .sourceDiscovery "topics").map (fun discovery =>
      decide (discovery.metadata.deleting = false ∧
        maxUpdatesPerCycle (twoPending.matching (childSelector discovery)).length <
          (receivedSince sampleDiscoveryReconciler discovery twoPending (afterCycle
            (reportPhase "topics-logs-a" .pending (afterCycle twoPending)))).length)) =
      some true := by
    decide +kernel
  obtain ⟨discovery, stored, facts⟩ := Option.map_eq_some_iff.mp known
  obtain ⟨live, more⟩ := of_decide_eq_true facts
  have reached : Cycles sampleDiscoveryReconciler "topics" (fun _ => True)
      (Reports sampleDiscoveryReconciler discovery twoPending) twoPending twoPending := .start
  exact ⟨discovery, stored, live, ((reached.afterCycle trivial).reportPhase "topics-logs-a"
    (by decide)).afterCycle trivial, not_le.mpr more⟩

/-- One batch goes out and its child is degraded by the time of the second cycle. -/
theorem rollout_stays_in_one_batch_when_degraded :
    ∃ discovery, twoPending.find .sourceDiscovery "topics" = some discovery ∧
      (receivedSince sampleDiscoveryReconciler discovery twoPending
          (afterCycle (reportPhase "topics-logs-a" .degraded (afterCycle twoPending)))).length ≤
        maxUpdatesPerCycle (twoPending.matching (childSelector discovery)).length := by
  have known : (twoPending.find .sourceDiscovery "topics").map (fun discovery =>
      decide (discovery.metadata.deleting = false ∧
        receivedSince sampleDiscoveryReconciler discovery twoPending twoPending = [])) =
      some true := by
    decide +kernel
  obtain ⟨discovery, stored, facts⟩ := Option.map_eq_some_iff.mp known
  obtain ⟨live, untouched⟩ := of_decide_eq_true facts
  have degraded : ((twoPending.find .sourceDiscovery "topics").bind fun discovery =>
      ((reportPhase "topics-logs-a" .degraded (afterCycle twoPending)).find .pipeline
        "topics-logs-a").bind fun child =>
      (wantedIn sampleDiscoveryReconciler discovery
        (reportPhase "topics-logs-a" .degraded (afterCycle twoPending)) "topics-logs-a").map
      fun wanted => decide (Labelled discovery.name child ∧
        child.metadata.annotations.lookup templateGenerationKey = some wanted.hash ∧
        child.status.phase = .degraded)) = some true := by
    decide +kernel
  rw [stored, Option.bind_some] at degraded
  obtain ⟨child, present, wantedKnown⟩ := Option.bind_eq_some_iff.mp degraded
  obtain ⟨wanted, found, checks⟩ := Option.map_eq_some_iff.mp wantedKnown
  obtain ⟨labelled, hash, phase⟩ := of_decide_eq_true checks
  have reached : Cycles sampleDiscoveryReconciler "topics"
      (Guarded sampleDiscoveryReconciler discovery twoPending)
      (Reports sampleDiscoveryReconciler discovery twoPending) twoPending twoPending := .start
  have firstCycle := reached.afterCycle (.untouched untouched le_rfl)
  have reported := firstCycle.reportPhase "topics-logs-a"
    (show PipelinePhase.degraded ≠ .running by decide)
  exact ⟨discovery, stored, rollout_stays_in_one_batch stored live
    (reported.afterCycle (.paused present labelled found hash (.inl phase)))⟩

end DataPrepperOperator.Controller.SourceDiscovery
