import DataPrepperOperator.Controller.ChildSteps

/-!
# Orphaned and managed pipelines

Cleanup takes the label of the discovery away and marks the pipeline as orphaned.
Creation of a child under the same name puts the label back and leaves the mark.
-/

namespace DataPrepperOperator.Controller.SourceDiscovery

open ServerProgram DataPrepperOperator.Api DataPrepperOperator.Discovery Relation

variable {faulty : (op : Op) → Reply op → Prop}

section Deletion

variable {discovery : DataPrepperSourceDiscovery} {state final : Cluster}
  {trace : List (Event Cluster Op Reply)}

/-- What holds of the pipeline under a name, and stays so when it is orphaned, holds
after all have been orphaned. -/
theorem orphanAll_keeps {items : List DataPrepperPipeline} {outcome : Except String Unit}
    {name : String} {holds : Option DataPrepperPipeline → Prop}
    (stays : ∀ child ∈ items, child.name = name → ∀ before after, holds (some before) →
      CleanedFrom discovery child before after → holds after)
    (initially : holds (state.find .pipeline name))
    (run : Runs (Serves faulty) (orphanAll discovery items).run state trace outcome final) :
    holds (final.find .pipeline name) := by
  induction items generalizing state trace with
  | nil =>
      obtain ⟨_, _, rfl⟩ := runs_pure_iff.mp run
      exact initially
  | cons child rest ih =>
      have one : ∀ {first : List (Event Cluster Op Reply)} {middle : Cluster}
          {orphaning : Except String Unit},
          Runs (Serves faulty) (orphan discovery child).run state first orphaning middle →
          holds (middle.find .pipeline name) := by
        intro first middle orphaning run
        by_cases same : child.name = name
        · obtain unchanged | ⟨before, found, cleaned⟩ := effect_of_orphan run
          · rw [← same, unchanged, same]
            exact initially
          · rw [← same, found] at initially
            rw [← same]
            exact stays child List.mem_cons_self same before _ initially cleaned
        · rw [frame_orphan run (by simpa using Ne.symm same)]
          exact initially
      rcases runs_fallible_bind_iff.mp run with
        ⟨failure, rfl, failed⟩ | ⟨first, middle, _, second, rfl, ran, continued⟩
      · exact one failed
      · exact ih
          (fun other member => stays other (List.mem_cons_of_mem _ member)) (one ran) continued

theorem cleanupOnDeletion_keeps {outcome : Except String Unit} {name : String}
    {holds : Option DataPrepperPipeline → Prop}
    (stays : ∀ child, Labelled discovery.name child → ∀ before after, holds (some before) →
      CleanedFrom discovery child before after → holds after)
    (initially : holds (state.find .pipeline name))
    (run : Runs (Serves faulty) (cleanupOnDeletion discovery).run state trace outcome final) :
    holds (final.find .pipeline name) := by
  rcases runs_fallible_bind_iff.mp run with
    ⟨failure, rfl, failed⟩ | ⟨first, middle, items, second, rfl, ran, continued⟩
  · obtain ⟨_, ran, _⟩ := runs_of_wrapError failed
    obtain ⟨reply, called, _⟩ := runs_of_callApi ran
    rwa [(runs_read rfl called).1]
  · obtain ⟨served, _⟩ := runs_request_iff.mp (runs_callApi_ok (runs_wrapError_ok ran))
    obtain ⟨perm, rfl⟩ := served.perm_of_list
    split at continued
    · exact orphanAll_keeps
        (fun child member _ => stays child ((mem_listed perm).mp member).2) initially continued
    · rwa [(runs_pure_iff.mp continued).2.2]
    · rwa [(runs_pure_iff.mp continued).2.2]

theorem finalize_keeps {outcome : Except String ReconcileResult} {name : String}
    {holds : Option DataPrepperPipeline → Prop}
    (stays : ∀ child, Labelled discovery.name child → ∀ before after, holds (some before) →
      CleanedFrom discovery child before after → holds after)
    (initially : holds (state.find .pipeline name))
    (run : Runs (Serves faulty) (finalize discovery).run state trace outcome final) :
    holds (final.find .pipeline name) := by
  unfold finalize at run
  split at run
  · rcases runs_fallible_bind_iff.mp run with
      ⟨failure, rfl, failed⟩ | ⟨first, middle, _, second, rfl, cleaned, continued⟩
    · obtain ⟨_, ran, _⟩ := runs_of_wrapError failed
      exact cleanupOnDeletion_keeps stays initially ran
    · have kept := cleanupOnDeletion_keeps stays initially (runs_wrapError_ok cleaned)
      have updated : final.find .pipeline name = middle.find .pipeline name := by
        rcases runs_fallible_bind_iff.mp continued with
          ⟨failure, rfl, failed⟩ | ⟨third, last, stored, fourth, rfl, ran, finished⟩
        · obtain ⟨_, ran, _⟩ := runs_of_wrapError failed
          obtain ⟨reply, called, _⟩ := runs_of_callApi ran
          exact (runs_request_iff.mp called).1.frame (by simp [Op.target])
        · obtain ⟨served, _⟩ := runs_request_iff.mp (runs_callApi_ok (runs_wrapError_ok ran))
          rw [(runs_pure_iff.mp finished).2.2]
          exact served.frame (by simp [Op.target])
      rwa [updated]
  · rwa [(runs_pure_iff.mp run).2.2]

end Deletion

/-- The pipeline carries the label of some discovery. -/
def Managed (pipeline : DataPrepperPipeline) : Prop :=
  ∃ discovery, Labelled discovery pipeline

/-- The pipeline is marked as orphaned. -/
def MarkedOrphaned (pipeline : DataPrepperPipeline) : Prop :=
  pipeline.metadata.labels.lookup orphanedLabelKey = some "true"

/-- The name is that of a child of a source that a cycle discovers. -/
def NameOfSource (reconciler : DiscoveryReconciler) (name : String) (cluster : Cluster)
    (child : String) : Prop :=
  ∃ discovery sources source, cluster.find .sourceDiscovery name = some discovery ∧
    sourcesIn reconciler discovery.spec cluster = .ok sources ∧ source ∈ sources ∧
    child = childName name source.name

section Steps

variable {reconciler : DiscoveryReconciler} {name : String} {state final : Cluster}
  {trace : List (Event Cluster Op Reply)} {outcome : Except String ReconcileResult}

/-- Every reconcile of a discovery takes each pipeline through some steps, and writes
only children of the sources that are there. -/
theorem steps_of_runs
    (run : Runs (Serves faulty) (reconcile reconciler name).run state trace outcome final) :
    ∃ current desired, (∀ child ∈ desired, NameOfSource reconciler name state child) ∧
      ∀ child, ReflTransGen (ChildStep current desired child) (state.find .pipeline child)
        (final.find .pipeline child) := by
  have unchanged : ∀ discovery : DataPrepperSourceDiscovery,
      (∀ child, final.find .pipeline child = state.find .pipeline child) →
      ∃ current desired, (∀ child ∈ desired, NameOfSource reconciler name state child) ∧
        ∀ child, ReflTransGen (ChildStep current desired child) (state.find .pipeline child)
          (final.find .pipeline child) := by
    intro discovery same
    refine ⟨discovery, ∅, by simp [Finmap.notMem_empty], ?_⟩
    intro child
    rw [same]
  cases found : state.find .sourceDiscovery name with
  | none =>
      apply unchanged (Object.named .sourceDiscovery name "")
      rw [unchanged_of_absent found run]
      exact fun _ => rfl
  | some fetched =>
      have named : fetched.name = name := Cluster.name_of_find found
      cases live : fetched.metadata.deleting with
      | false =>
          obtain same | ⟨sources, desired, _, _, _, _, reshaped⟩ :=
            reshaped_of_runs found live run
          · exact unchanged fetched same
          · obtain ⟨current, _, steps⟩ := reshaped.steps
            refine ⟨current, desired, ?_, steps⟩
            intro child wanted
            rw [mem_desired_iff_active reshaped.built, named] at wanted
            obtain ⟨source, member, rfl⟩ := List.mem_map.mp wanted
            exact ⟨fetched, sources, source, found, reshaped.discovered, member, rfl⟩
      | true =>
          refine ⟨fetched, ∅, by simp [Finmap.notMem_empty], ?_⟩
          intro child
          obtain ⟨reply, middle, later, served, rfl, rest⟩ := runs_ask_bind run
          obtain rfl := served.unchanged rfl
          cases reply with
          | error error =>
              cases error with
              | notFound | alreadyExists | conflict | refused =>
                  rw [(runs_done_iff.mp rest).2.2]
          | ok discovery =>
              have same := served.find_of_get.1
              rw [found, Option.some.injEq] at same
              subst same
              simp only [live, if_true] at rest
              apply finalize_keeps _ .refl rest
              exact fun item labelled _ _ held cleaned =>
                held.tail (.cleaned (Finmap.notMem_empty) labelled cleaned)

/-- Writing a child neither sets the mark nor takes it away. -/
theorem markedOrphaned_of_writtenFrom {discovery : DataPrepperSourceDiscovery} {child : String}
    {wanted : Desired} {before : Option DataPrepperPipeline} {after : DataPrepperPipeline}
    (written : WrittenFrom discovery child wanted before after) (marked : MarkedOrphaned after) :
    ∃ pipeline, before = some pipeline ∧ MarkedOrphaned pipeline := by
  obtain ⟨claimed, success, content⟩ := written.content
  obtain ⟨rfl, _⟩ := setControllerReference_ok success
  unfold MarkedOrphaned at marked
  rw [content.labels, Finmap.lookup_insert_of_ne _ (by decide),
    Finmap.lookup_insert_of_ne _ (by decide)] at marked
  cases before with
  | none => simp [Object.named, Finmap.lookup_empty] at marked
  | some pipeline => exact ⟨pipeline, rfl, marked⟩

/-- A pipeline is not both managed and marked as orphaned; if `tracked` holds it is one
of the two. -/
def Exclusive (tracked : Prop) (stored : Option DataPrepperPipeline) : Prop :=
  ∀ pipeline, stored = some pipeline → ¬(Managed pipeline ∧ MarkedOrphaned pipeline) ∧
    (tracked → Managed pipeline ∨ MarkedOrphaned pipeline)

theorem managed_of_content {later earlier : DataPrepperPipeline}
    (content : HasContentOf later earlier) : Managed later ↔ Managed earlier :=
  exists_congr fun _ => labelled_of_content content

theorem markedOrphaned_of_content {later earlier : DataPrepperPipeline}
    (content : HasContentOf later earlier) : MarkedOrphaned later ↔ MarkedOrphaned earlier := by
  unfold MarkedOrphaned
  rw [content.labels]

theorem Exclusive.cleaned {tracked : Prop} {discovery : DataPrepperSourceDiscovery}
    {child before : DataPrepperPipeline} {after : Option DataPrepperPipeline}
    (exclusive : Exclusive tracked (some before))
    (cleaned : CleanedFrom discovery child before after) : Exclusive tracked after := by
  intro pipeline present
  cases cleaned with
  | gone => cases present
  | marked content =>
      cases present
      rw [managed_of_content content, markedOrphaned_of_content content]
      exact exclusive before rfl
  | orphaned content =>
      cases present
      rw [managed_of_content content, markedOrphaned_of_content content]
      have unmanaged : ¬Managed (orphaned discovery child) := by
        rintro ⟨other, labelled⟩
        rw [Labelled, lookup_orphaned] at labelled
        cases labelled
      have marked : MarkedOrphaned (orphaned discovery child) := Finmap.lookup_insert _
      exact ⟨fun both => unmanaged both.1, fun _ => .inr marked⟩

theorem Exclusive.steps {tracked : Prop} {discovery : DataPrepperSourceDiscovery}
    {desired : GoMap Desired} {child : String} {first last : Option DataPrepperPipeline}
    (unmarked : child ∈ desired → ∀ pipeline, first = some pipeline → ¬MarkedOrphaned pipeline)
    (steps : ReflTransGen (ChildStep discovery desired child) first last)
    (exclusive : Exclusive tracked first) : Exclusive tracked last := by
  -- a child of a source is only written, and so it stays unmarked
  suffices both : Exclusive tracked last ∧
      (child ∈ desired → ∀ pipeline, last = some pipeline → ¬MarkedOrphaned pipeline) from both.1
  induction steps with
  | refl => exact ⟨exclusive, unmarked⟩
  | tail _ step ih =>
      obtain ⟨held, unmarkedSoFar⟩ := ih
      cases step with
      | written found written =>
          have wanted : child ∈ desired := Finmap.mem_iff.mpr ⟨_, found⟩
          have stillUnmarked : ¬MarkedOrphaned _ := fun marked =>
            have ⟨pipeline, present, wasMarked⟩ := markedOrphaned_of_writtenFrom written marked
            unmarkedSoFar wanted pipeline present wasMarked
          constructor
          · rintro pipeline ⟨⟩
            exact ⟨fun both => stillUnmarked both.2, fun _ => .inl ⟨_, written.adopted.label⟩⟩
          · rintro _ pipeline ⟨⟩
            exact stillUnmarked
      | cleaned unwanted _ cleaned =>
          exact ⟨held.cleaned cleaned, fun wanted => absurd wanted unwanted⟩

end Steps

/-- The sources, the discovery and everything else but the pipelines may change. -/
def SamePipelines (before after : Cluster) : Prop :=
  ∀ child, after.find .pipeline child = before.find .pipeline child

/-- No child name of a discovered source is that of a pipeline marked as orphaned. -/
def NoneToReadopt (reconciler : DiscoveryReconciler) (name : String) (cluster : Cluster) : Prop :=
  ∀ child pipeline, NameOfSource reconciler name cluster child →
    cluster.find .pipeline child = some pipeline → ¬MarkedOrphaned pipeline

/-- As long as no cycle finds a source whose child is marked as orphaned, no pipeline
is managed and marked at once, and the pipelines of the discovery, from before or
created in the run, are marked exactly if they are not managed. -/
theorem orphaned_iff_unmanaged {reconciler : DiscoveryReconciler} {name : String}
    {start current : Cluster}
    (initially : ∀ child pipeline, start.find .pipeline child = some pipeline →
      ¬(Managed pipeline ∧ MarkedOrphaned pipeline))
    (reached : Cycles reconciler name (NoneToReadopt reconciler name) SamePipelines start current) :
    ∀ child pipeline, current.find .pipeline child = some pipeline →
      ¬(Managed pipeline ∧ MarkedOrphaned pipeline) ∧
        ((∀ earlier, start.find .pipeline child = some earlier →
          Managed earlier ∨ MarkedOrphaned earlier) →
          (MarkedOrphaned pipeline ↔ ¬Managed pipeline)) := by
  let holds (cluster : Cluster) : Prop := ∀ child,
    Exclusive (∀ earlier, start.find .pipeline child = some earlier →
      Managed earlier ∨ MarkedOrphaned earlier) (cluster.find .pipeline child)
  suffices exclusive : holds current by
    intro child pipeline present
    obtain ⟨notBoth, oneOf⟩ := exclusive child pipeline present
    refine ⟨notBoth, fun tracked => ⟨fun marked managed => notBoth ⟨managed, marked⟩, ?_⟩⟩
    exact fun unmanaged => (oneOf tracked).resolve_left unmanaged
  refine reached.preserves ?_ ?_ ?_
  · intro before trace outcome after exclusive ready run child
    obtain ⟨discovery, desired, fromSources, steps⟩ := steps_of_runs run
    apply Exclusive.steps _ (steps child) (exclusive child)
    exact fun wanted pipeline present => ready child pipeline (fromSources child wanted) present
  · intro before after exclusive same child
    rw [same]
    exact exclusive child
  · exact fun child pipeline present =>
      ⟨initially child pipeline present, fun tracked => tracked pipeline present⟩

/-- A discovery before its first cycle. -/
def beforeFirstCycle : Cluster := (Cluster.empty.create (topicDiscovery "v1" .orphan)).2

/-- A topic was found and has vanished since. -/
def withoutTopic : Cluster :=
  withTopics [] (afterCycle (withTopics ["logs-a"] beforeFirstCycle))

section Sample

variable {ready : Cluster → Prop} {start before : Cluster}

theorem Cycles.withTopics {reconciler : DiscoveryReconciler} {name : String}
    (reached : Cycles reconciler name ready SamePipelines start before) (topics : List String) :
    Cycles reconciler name ready SamePipelines start (withTopics topics before) :=
  .outside reached fun _ => rfl

theorem noneToReadopt_of_unmarked {reconciler : DiscoveryReconciler} {name : String}
    {cluster : Cluster} (unmarked : ∀ pipeline ∈ cluster.matching .everything,
      pipeline.metadata.labels.lookup orphanedLabelKey ≠ some "true") :
    NoneToReadopt reconciler name cluster := by
  intro child pipeline _ present
  have named : pipeline.name = child := Cluster.name_of_find present
  exact unmarked pipeline (Cluster.mem_matching.mpr ⟨by rwa [named], rfl⟩)

end Sample

/-- The child of a topic that comes back is managed again and still marked. -/
theorem returned_topic_stays_marked :
    (∀ child, beforeFirstCycle.find .pipeline child = none) ∧
      Cycles sampleDiscoveryReconciler "topics" (fun _ => True) SamePipelines beforeFirstCycle
        (afterCycle (withTopics ["logs-a"] (afterCycle withoutTopic))) ∧
      ∃ pipeline, (afterCycle (withTopics ["logs-a"] (afterCycle withoutTopic))).find .pipeline
          "topics-logs-a" = some pipeline ∧
        Managed pipeline ∧ MarkedOrphaned pipeline := by
  have known : ((afterCycle (withTopics ["logs-a"] (afterCycle withoutTopic))).find .pipeline
      "topics-logs-a").map (fun pipeline => decide (Labelled "topics" pipeline ∧
        pipeline.metadata.labels.lookup orphanedLabelKey = some "true")) = some true := by
    decide +kernel
  obtain ⟨pipeline, present, facts⟩ := Option.map_eq_some_iff.mp known
  obtain ⟨labelled, marked⟩ := of_decide_eq_true facts
  refine ⟨fun _ => rfl, ?_, pipeline, present, ⟨_, labelled⟩, marked⟩
  have initial : Cycles sampleDiscoveryReconciler "topics" (fun _ => True) SamePipelines
      beforeFirstCycle beforeFirstCycle := .start
  have created := (initial.withTopics ["logs-a"]).afterCycle trivial
  have vanished := (created.withTopics []).afterCycle trivial
  exact (vanished.withTopics ["logs-a"]).afterCycle trivial

/-- The child of a topic that vanishes is marked and no longer managed. -/
theorem orphaned_iff_unmanaged_of_vanished :
    ∃ pipeline, (afterCycle withoutTopic).find .pipeline "topics-logs-a" = some pipeline ∧
      MarkedOrphaned pipeline ∧ ¬Managed pipeline := by
  have known : ((afterCycle withoutTopic).find .pipeline "topics-logs-a").map (fun pipeline =>
      decide (pipeline.metadata.labels.lookup orphanedLabelKey = some "true")) = some true := by
    decide +kernel
  obtain ⟨pipeline, present, facts⟩ := Option.map_eq_some_iff.mp known
  have marked : pipeline.metadata.labels.lookup orphanedLabelKey = some "true" :=
    of_decide_eq_true facts
  have initial : Cycles sampleDiscoveryReconciler "topics"
      (NoneToReadopt sampleDiscoveryReconciler "topics") SamePipelines beforeFirstCycle
      beforeFirstCycle := .start
  have created := (initial.withTopics ["logs-a"]).afterCycle
    (noneToReadopt_of_unmarked (by decide +kernel))
  have vanished := (created.withTopics []).afterCycle
    (noneToReadopt_of_unmarked (by decide +kernel))
  have noneAtStart : ∀ child pipeline, beforeFirstCycle.find .pipeline child = some pipeline →
      False := by
    intro child pipeline present
    cases present
  obtain ⟨_, exactly⟩ := orphaned_iff_unmanaged
    (fun child pipeline found => (noneAtStart child pipeline found).elim) vanished _ pipeline
    present
  exact ⟨pipeline, present, marked,
    (exactly fun earlier found => (noneAtStart _ earlier found).elim).mp marked⟩

end DataPrepperOperator.Controller.SourceDiscovery
