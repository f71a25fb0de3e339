import DataPrepperOperator.Controller.RolloutAccounting

/-!
# Quiescence of a discovery

Every stored change of a discovery enqueues it again, so a stable discovery should
be left alone by its own cycles.  A cycle writes the discovery only where it adds the
finalizer, clears the failure count and reports.  The report of a settled discovery is
a fixed point in every field but the time of the poll.
-/

namespace DataPrepperOperator.Controller.SourceDiscovery

open ServerProgram DataPrepperOperator.Api DataPrepperOperator.Discovery

theorem setStatusCondition_twice (condition : Condition) (conditions : List Condition) :
    setStatusCondition condition (setStatusCondition condition conditions) =
      setStatusCondition condition conditions := by
  induction conditions with
  | nil => simp [setStatusCondition]
  | cons present rest ih =>
      by_cases same : present.type = condition.type
      · simp [setStatusCondition, same]
      · simp [setStatusCondition, same, ih]

/-- A condition stays set while others are. -/
theorem setStatusCondition_of_set {condition other : Condition} {conditions : List Condition}
    (set : setStatusCondition condition conditions = conditions)
    (different : other.type ≠ condition.type) :
    setStatusCondition condition (setStatusCondition other conditions) =
      setStatusCondition other conditions := by
  induction conditions with
  | nil => simp [setStatusCondition] at set
  | cons present rest ih =>
      by_cases same : present.type = condition.type
      · simp only [setStatusCondition, same, if_true, List.cons.injEq, and_true] at set
        subst set
        simp [setStatusCondition, different.symm]
      · simp only [setStatusCondition, same, if_false, List.cons.injEq, true_and] at set
        by_cases replaced : present.type = other.type
        · simp [setStatusCondition, replaced, different, set]
        · simp [setStatusCondition, replaced, same, ih set]

/-- A status with the number of counted children. -/
def withActive (status : DataPrepperSourceDiscoveryStatus) (active : Nat) :
    DataPrepperSourceDiscoveryStatus :=
  { status with activePipelines := Scaling.toInt32 active }

/-- What a cycle stores as the status. -/
def reportedStatus (discovery : DataPrepperSourceDiscovery) (sources : List DiscoveredSource)
    (rollout : Rollout) (now active : Nat) : DataPrepperSourceDiscoveryStatus :=
  withActive (withRollout (buildDiscoveryStatus discovery .running sources "" now) rollout).status
    active

/-- Nothing is left to update. -/
structure Rollout.Complete (rollout : Rollout) : Prop where
  pending : rollout.pendingUpdates = 0
  healthy : rollout.healthCheckFail = false

/-- The conditions of a complete cycle. -/
def completeConditions (sources : Nat) (conditions : List Condition) : List Condition :=
  setStatusCondition
    { type := "StagedRolloutInProgress", status := .false, reason := "Complete",
      message := "All pipelines are up to date" }
    (setStatusCondition
      { type := "StagedRolloutPaused", status := .false, reason := "Healthy",
        message := "All updated pipelines are healthy" }
      (setStatusCondition
        { type := "Ready", status := .true, reason := "DiscoverySucceeded",
          message := "Discovered " ++ toString sources ++ " sources" } conditions))

theorem completeConditions_twice (sources : Nat) (conditions : List Condition) :
    completeConditions sources (completeConditions sources conditions) =
      completeConditions sources conditions := by
  have ready := setStatusCondition_twice
    { type := "Ready", status := .true, reason := "DiscoverySucceeded",
      message := "Discovered " ++ toString sources ++ " sources" } conditions
  have paused := setStatusCondition_twice
    { type := "StagedRolloutPaused", status := .false, reason := "Healthy",
      message := "All updated pipelines are healthy" }
    (setStatusCondition
      { type := "Ready", status := .true, reason := "DiscoverySucceeded",
        message := "Discovered " ++ toString sources ++ " sources" } conditions)
  unfold completeConditions
  rw [setStatusCondition_of_set (setStatusCondition_of_set ready (by simp)) (by simp),
    setStatusCondition_of_set paused (by simp), setStatusCondition_twice]

theorem reportedStatus_of_complete {rollout : Rollout} (complete : rollout.Complete)
    (discovery : DataPrepperSourceDiscovery) (sources : List DiscoveredSource)
    (now active : Nat) :
    reportedStatus discovery sources rollout now active =
      { discovery.status with
        phase := .running
        observedGeneration := discovery.metadata.generation
        discoveredSources := Scaling.toInt32 sources.length
        activePipelines := Scaling.toInt32 active
        updatingPipelines := Scaling.toInt32 rollout.pendingUpdates
        lastPollTime := some now
        conditions := completeConditions sources.length discovery.status.conditions
        sources := sources.map (sourceStatus discovery.name) } := by
  have none : ¬0 < rollout.pendingUpdates := by simp [complete.pending]
  have notError : DiscoveryPhase.running ≠ .error := by simp
  unfold reportedStatus withActive withRollout buildDiscoveryStatus
  rw [if_neg none, complete.healthy, if_neg Bool.false_ne_true, if_neg notError]
  unfold withCondition completeConditions
  dsimp only

/-- Reporting again changes the time of the poll and nothing else. -/
theorem reportedStatus_again {discovery earlier : DataPrepperSourceDiscovery}
    {sources : List DiscoveredSource} {rollout previous : Rollout} {now before active : Nat}
    (named : discovery.name = earlier.name)
    (generation : discovery.metadata.generation = earlier.metadata.generation)
    (complete : rollout.Complete) (wasComplete : previous.Complete)
    (reported : discovery.status = reportedStatus earlier sources previous before active) :
    reportedStatus discovery sources rollout now active =
      { discovery.status with lastPollTime := some now } := by
  rw [reportedStatus_of_complete wasComplete] at reported
  rw [reportedStatus_of_complete complete, reported, completeConditions_twice, named, generation,
    complete.pending, wasComplete.pending]

section Storing

variable {reconciler : DiscoveryReconciler} {discovery stored : DataPrepperSourceDiscovery}
  {sources : List DiscoveredSource} {state final : Cluster}
  {trace : List (Event Cluster Op Reply)} {attempt : Attempt}

/-- A store that succeeds is not tried again. -/
theorem runs_retryAssigning_once
    {tries : DataPrepperSourceDiscovery → Program Op Reply Attempt} {further : Nat}
    (succeeds : ∀ first tried middle,
      Runs Reliable (tries discovery) state first tried middle → tried.2 = .ok ())
    (run : Runs Reliable (retryAssigning tries further discovery) state trace attempt final) :
    Runs Reliable (tries discovery) state trace attempt final := by
  cases further with
  | zero => exact run
  | succ further =>
      obtain ⟨first, middle, tried, second, rfl, ran, continued⟩ := runs_bind_iff.mp run
      rw [succeeds first tried middle ran] at continued
      obtain ⟨rfl, rfl, rfl⟩ := runs_done_iff.mp continued
      rwa [List.append_nil]

/-- Storing a change of what is stored: the store is asked once. -/
theorem runs_storeFresh
    {store : DataPrepperSourceDiscovery → Client.Call DataPrepperSourceDiscovery}
    {change : DataPrepperSourceDiscovery → DataPrepperSourceDiscovery}
    (found : state.find .sourceDiscovery discovery.name = some stored)
    (accepted : ∀ later reply middle,
      Runs Reliable (store (change stored)) state later reply middle → ∃ object, reply = .ok object)
    (run : Runs Reliable (storeFresh store change discovery) state trace attempt final) :
    attempt.2 = .ok () ∧
      ∃ later, Runs Reliable (store (change stored)) state later (.ok attempt.1) final := by
  obtain ⟨_, middle, reply, rest, rfl, reading, continued⟩ := runs_bind_iff.mp run
  obtain ⟨read, rfl⟩ := honest_of_reliable (runs_request_iff.mp reading).1
  simp only [Cluster.read, found] at read
  subst read
  obtain ⟨first, later, reply, second, rfl, ran, finished⟩ := runs_bind_iff.mp continued
  obtain ⟨object, rfl⟩ := accepted _ _ _ ran
  obtain ⟨rfl, rfl, rfl⟩ := runs_done_iff.mp finished
  exact ⟨rfl, first, ran⟩

/-- A change of what is stored is accepted at once. -/
theorem runs_persist
    {change : DataPrepperSourceDiscovery → DataPrepperSourceDiscovery} {further : Nat}
    (found : state.find .sourceDiscovery discovery.name = some stored)
    (named : (change stored).name = stored.name)
    (fresh : (change stored).metadata.resourceVersion = stored.metadata.resourceVersion)
    (run : Runs Reliable (retryAssigning (storeFresh Client.update change) further discovery) state
      trace attempt final) :
    attempt.2 = .ok () ∧
      ∃ later, Runs Reliable (Client.update (change stored)) state later (.ok attempt.1) final := by
  have accepted : ∀ later reply middle,
      Runs Reliable (Client.update (change stored)) state later reply middle →
        ∃ object, reply = .ok object := by
    intro later reply middle update
    obtain ⟨served, _⟩ := runs_request_iff.mp update
    refine accepted_of_update served ?_ fresh
    rw [named, Cluster.name_of_find found]
    exact found
  have once := runs_retryAssigning_once
    (fun _ _ _ again => (runs_storeFresh found accepted again).1) run
  exact runs_storeFresh found accepted once

/-- The discovery in memory is the stored one, live and with its finalizer. -/
structure Held (discovery : DataPrepperSourceDiscovery) (cluster : Cluster) : Prop where
  stored : cluster.find .sourceDiscovery discovery.name = some discovery
  live : discovery.metadata.deleting = false
  finalizer : discoveryFinalizerName ∈ discovery.metadata.finalizers

/-- No failures are counted. -/
def FailureFree (discovery : DataPrepperSourceDiscovery) : Prop :=
  (discovery.metadata.annotations.lookup discoveryFailureCountKey).getD "" = ""

theorem held_of_ensureFinalizer
    (found : state.find .sourceDiscovery discovery.name = some discovery)
    (live : discovery.metadata.deleting = false)
    (run : Runs Reliable (ensureFinalizer discovery).run state trace (.ok stored) final) :
    Held stored final ∧
      (discoveryFinalizerName ∈ discovery.metadata.finalizers →
        stored = discovery ∧ final = state) := by
  unfold ensureFinalizer at run
  split at run
  next present =>
    obtain ⟨_, same, rfl⟩ := runs_pure_iff.mp run
    cases same
    exact ⟨⟨found, live, present⟩, fun _ => ⟨rfl, rfl⟩⟩
  next absent =>
    obtain ⟨served, _⟩ := runs_request_iff.mp (runs_callApi_ok (runs_wrapError_ok run))
    obtain ⟨present, before, foundBefore, _, _, deleting, finalizers, _⟩ :=
      find_of_update served (by simp)
    obtain rfl := Option.some.inj (found.symm.trans foundBefore)
    refine ⟨⟨?_, deleting.trans live, ?_⟩, fun impossible => absurd impossible absent⟩
    · rw [Cluster.name_of_find present]
      exact present
    · simp [finalizers]

theorem succeeds_of_ensureFinalizer {ensured : Except String DataPrepperSourceDiscovery}
    (found : state.find .sourceDiscovery discovery.name = some discovery)
    (run : Runs Reliable (ensureFinalizer discovery).run state trace ensured final) :
    ∃ object, ensured = .ok object := by
  unfold ensureFinalizer at run
  split at run
  · obtain ⟨_, rfl, _⟩ := runs_pure_iff.mp run
    exact ⟨_, rfl⟩
  · obtain ⟨_, ran, rfl⟩ := runs_of_wrapError run
    obtain ⟨_, called, rfl⟩ := runs_of_callApi ran
    obtain ⟨object, rfl⟩ := accepted_of_update (runs_request_iff.mp called).1 found rfl
    exact ⟨object, rfl⟩

theorem held_of_clearFailures (held : Held discovery state)
    (run : Runs Reliable (clearFailures discovery) state trace stored final) :
    Held stored final ∧ FailureFree stored ∧
      (FailureFree discovery → stored = discovery ∧ final = state) := by
  unfold clearFailures at run
  split at run
  next clear =>
    obtain ⟨rfl, rfl, rfl⟩ := runs_done_iff.mp run
    exact ⟨held, clear, fun _ => ⟨rfl, rfl⟩⟩
  next counted =>
    obtain ⟨first, middle, attempt, second, rfl, ran, finished⟩ := runs_bind_iff.mp run
    obtain ⟨rfl, rfl, rfl⟩ := runs_done_iff.mp finished
    obtain ⟨_, _, update⟩ := runs_persist held.stored rfl rfl ran
    obtain ⟨present, before, foundBefore, _, _, deleting, finalizers, annotations⟩ :=
      find_of_update (runs_request_iff.mp update).1 (List.ne_nil_of_mem held.finalizer)
    obtain rfl := Option.some.inj (held.stored.symm.trans foundBefore)
    refine ⟨⟨?_, deleting.trans held.live, ?_⟩, ?_, fun clear => absurd clear counted⟩
    · rw [Cluster.name_of_find present]
      exact present
    · rw [finalizers]
      exact held.finalizer
    · unfold FailureFree
      rw [annotations]
      simp [resetFailureCount]

/-- The clock shows one time. -/
def ShowsTime (now : Nat) : (op : Op) → Reply op → Prop
  | .now, shown => shown = now
  | _, _ => True

/-- A server on which nothing fails, at one moment. -/
def AtTime (now : Nat) : Server Cluster Op Reply :=
  fun before op reply after => Reliable before op reply after ∧ ShowsTime now op reply

theorem runs_atTime {Result : Type} {program : Program Op Reply Result} {result : Result}
    {now : Nat} (run : Runs (AtTime now) program state trace result final) :
    Runs Reliable program state trace result final ∧
      ∀ event ∈ trace, ShowsTime now event.op event.reply :=
  runs_restricted run

/-- The number of children that are counted. -/
def activeCount (discovery : DataPrepperSourceDiscovery) (cluster : Cluster) : Nat :=
  (cluster.matching (childSelector discovery)).length

theorem runs_countActive {status : DataPrepperSourceDiscoveryStatus}
    (run : Runs Reliable (countActive discovery) state trace status final) :
    final = state ∧ status = withActive discovery.status (activeCount discovery state) := by
  obtain ⟨_, middle, reply, rest, rfl, listing, continued⟩ := runs_bind_iff.mp run
  obtain ⟨⟨items, listed, rfl⟩, rfl⟩ := honest_of_reliable (runs_request_iff.mp listing).1
  obtain ⟨rfl, rfl, rfl⟩ := runs_done_iff.mp continued
  refine ⟨rfl, ?_⟩
  rw [activeCount, ← listed.length_eq]
  rfl

/-- A version of a discovery with another status: only the version number moves. -/
structure Restated (discovery : DataPrepperSourceDiscovery)
    (wanted : DataPrepperSourceDiscoveryStatus) (object : DataPrepperSourceDiscovery) : Prop where
  status : object.status = wanted
  spec : object.spec = discovery.spec
  metadata : object.metadata =
    { discovery.metadata with resourceVersion := object.metadata.resourceVersion }
  unchanged : discovery.status = wanted → object = discovery

section Restated

variable {wanted : DataPrepperSourceDiscoveryStatus} {object : DataPrepperSourceDiscovery}

theorem Restated.sameSource (restated : Restated discovery wanted object) :
    SameSource object discovery :=
  ⟨(congrArg ObjectMeta.name restated.metadata :),
    (congrArg ObjectMeta.nameSpace restated.metadata :), restated.spec⟩

theorem Restated.generation (restated : Restated discovery wanted object) :
    object.metadata.generation = discovery.metadata.generation :=
  (congrArg ObjectMeta.generation restated.metadata :)

theorem Restated.failureFree (restated : Restated discovery wanted object)
    (clear : FailureFree discovery) : FailureFree object := by
  unfold FailureFree
  rw [restated.metadata]
  exact clear

theorem Restated.held (restated : Restated discovery wanted object) (held : Held discovery state)
    (found : final.find .sourceDiscovery discovery.name = some object) : Held object final := by
  refine ⟨?_, ?_, ?_⟩
  · rw [restated.sameSource.name, found]
  · rw [restated.metadata]
    exact held.live
  · rw [restated.metadata]
    exact held.finalizer

end Restated

theorem restated_of_updateDiscoveryStatus {asked : DataPrepperSourceDiscovery}
    (found : state.find .sourceDiscovery asked.name = some discovery)
    (run : Runs Reliable (updateDiscoveryStatus asked) state trace attempt final) :
    attempt.2 = .ok () ∧ final.find .sourceDiscovery asked.name = some attempt.1 ∧
      Restated discovery (withActive asked.status (activeCount asked state)) attempt.1 := by
  obtain ⟨_, counted, status, _, rfl, counting, retrying⟩ := runs_bind_iff.mp run
  obtain ⟨rfl, rfl⟩ := runs_countActive counting
  have named : discovery.name = asked.name := Cluster.name_of_find found
  have accepted : ∀ later reply middle, Runs Reliable (Client.updateStatus
      ({ discovery with status := withActive asked.status (activeCount asked counted) } :
        DataPrepperSourceDiscovery)) counted later reply middle → ∃ object, reply = .ok object := by
    intro later reply middle update
    obtain ⟨served, _⟩ := runs_request_iff.mp update
    rw [← named] at found
    exact accepted_of_updateStatus served found rfl
  have once := runs_retryAssigning_once
    (fun _ _ _ again => (runs_storeFresh found accepted again).1) retrying
  obtain ⟨succeeded, _, update⟩ := runs_storeFresh found accepted once
  obtain ⟨present, before, foundBefore, outcome⟩ :=
    find_of_updateStatus (runs_request_iff.mp update).1
  rw [← named] at found ⊢
  obtain rfl := Option.some.inj (found.symm.trans foundBefore)
  refine ⟨succeeded, present, ?_⟩
  obtain ⟨kept, same⟩ | ⟨changed, stamped⟩ := outcome
  · rw [same]
    exact ⟨kept, rfl, rfl, fun _ => rfl⟩
  · rw [stamped]
    exact ⟨rfl, rfl, rfl, fun kept => absurd kept changed⟩

/-- A report stores its status and nothing else. -/
theorem runs_report {rollout : Rollout} {outcome : Except String ReconcileResult}
    (found : state.find .sourceDiscovery discovery.name = some discovery)
    (run : Runs Reliable (report reconciler discovery sources rollout).run state trace outcome
      final) :
    outcome = .ok (requeue reconciler.toolkit discovery rollout sources.length) ∧
      ∃ now : Nat, ⟨state, .now, now, state⟩ ∈ trace ∧
      ∃ object, final.find .sourceDiscovery discovery.name = some object ∧
        Restated discovery
          (reportedStatus discovery sources rollout now (activeCount discovery state)) object := by
  obtain ⟨first, middle, now, rest, rfl, asked, reporting⟩ := runs_lift_bind run
  obtain ⟨served, rfl⟩ := runs_request_iff.mp asked
  obtain rfl : middle = state := honest_of_reliable served
  obtain ⟨_, stored, attempt, _, _, storing, finished⟩ := runs_lift_bind reporting
  have same : SameSource (withRollout (buildDiscoveryStatus discovery .running sources "" now)
      rollout) discovery :=
    sameSource_withRollout (sameSource_buildDiscoveryStatus ⟨rfl, rfl, rfl⟩ _ _ _ _) rollout
  obtain ⟨succeeded, present, restated⟩ :=
    restated_of_updateDiscoveryStatus (by rwa [same.name]) storing
  rw [same.name] at present
  rw [succeeded] at finished
  obtain ⟨_, rfl, rfl⟩ := runs_pure_iff.mp finished
  refine ⟨congrArg Except.ok (restated.sameSource.requeue _ _ _), now,
    List.mem_append_left _ List.mem_cons_self, attempt.1, present, ?_⟩
  unfold activeCount childSelector at restated
  rw [same.name] at restated
  exact restated

theorem restated_of_report {rollout : Rollout} {outcome : Except String ReconcileResult} {now : Nat}
    (found : state.find .sourceDiscovery discovery.name = some discovery)
    (run : Runs Reliable (report reconciler discovery sources rollout).run state trace outcome
      final)
    (shown : ∀ event ∈ trace, ShowsTime now event.op event.reply) :
    ∃ object, final.find .sourceDiscovery discovery.name = some object ∧
      Restated discovery
        (reportedStatus discovery sources rollout now (activeCount discovery state)) object := by
  obtain ⟨_, time, asked, reported⟩ := runs_report found run
  obtain rfl : time = now := shown _ asked
  exact reported

end Storing

/-- What a cycle reads of a child besides its label and phase. -/
structure Marks where
  annotations : GoMap String
  deleting : Bool
  finalizers : List String

def marksOf (child : DataPrepperPipeline) : Marks where
  annotations := child.metadata.annotations
  deleting := child.metadata.deleting
  finalizers := child.metadata.finalizers

/-- The marks of a child of the discovery. -/
def childMarks (discovery : String) (cluster : Cluster) (name : String) : Option Marks :=
  ((cluster.find .pipeline name).filter fun child => decide (Labelled discovery child)).map marksOf

/-- Every desired child is there and carries its hash. -/
def NothingLeft (discovery : String) (desired : GoMap Desired) (cluster : Cluster) : Prop :=
  ∀ name wanted, desired.lookup name = some wanted → ∃ marks,
    childMarks discovery cluster name = some marks ∧
      (marks.annotations.lookup templateGenerationKey).getD "" = wanted.hash

/-- A child without a source only waits for its finalizers. -/
def LeftoversWait (discovery : DataPrepperSourceDiscovery) (sources : List DiscoveredSource)
    (cluster : Cluster) : Prop :=
  ∀ name marks, childMarks discovery.name cluster name = some marks →
    name ∉ activeNames discovery.name sources →
      discoveryCleanupPolicy discovery = .delete ∧ marks.deleting = true ∧ marks.finalizers ≠ []

section ChildMarks

variable {name : String} {cluster before after : Cluster} {discovery : DataPrepperSourceDiscovery}
  {desired : GoMap Desired}

theorem childMarks_eq_some_iff {discovery : String} {marks : Marks} :
    childMarks discovery cluster name = some marks ↔
      ∃ child, cluster.find .pipeline name = some child ∧ Labelled discovery child ∧
        marksOf child = marks := by
  simp [childMarks, Option.filter_eq_some_iff, and_assoc]

theorem childMarks_congr {discovery : String}
    (same : after.find .pipeline name = before.find .pipeline name) :
    childMarks discovery after name = childMarks discovery before name := by
  rw [childMarks, childMarks, same]

instance (discovery : String) (desired : GoMap Desired) (cluster : Cluster) :
    Decidable (NothingLeft discovery desired cluster) :=
  decidable_of_iff (∀ name ∈ desired.keys,
      (childMarks discovery cluster name).map
        (fun marks => (marks.annotations.lookup templateGenerationKey).getD "") =
        (desired.lookup name).map Desired.hash) <| by
    constructor
    · intro same name wanted found
      have here := same name (Finmap.mem_keys.mpr (Finmap.mem_iff.mpr ⟨_, found⟩))
      rw [found, Option.map_some, Option.map_eq_some_iff] at here
      exact here
    · intro settled name listed
      obtain ⟨wanted, found⟩ := Finmap.mem_iff.mp (Finmap.mem_keys.mp listed)
      obtain ⟨marks, marked, upToDate⟩ := settled name wanted found
      rw [marked, found, Option.map_some, Option.map_some, upToDate]

theorem mem_names_of_children :
    name ∈ (cluster.matching (childSelector discovery)).map Object.name ↔
      (childMarks discovery.name cluster name).isSome := by
  rw [List.mem_map, Option.isSome_iff_exists]
  constructor
  · rintro ⟨child, listed, rfl⟩
    obtain ⟨found, labelled⟩ := mem_childrenOf.mp listed
    exact ⟨marksOf child, childMarks_eq_some_iff.mpr ⟨child, found, labelled, rfl⟩⟩
  · rintro ⟨marks, some⟩
    obtain ⟨child, found, labelled, _⟩ := childMarks_eq_some_iff.mp some
    have named : child.name = name := Cluster.name_of_find found
    exact ⟨child, mem_childrenOf.mpr ⟨by rwa [named], labelled⟩, named⟩

theorem activeCount_congr
    (same : ∀ name, childMarks discovery.name after name = childMarks discovery.name before name) :
    activeCount discovery after = activeCount discovery before := by
  have names : ((after.matching (childSelector discovery)).map Object.name).Perm
      ((before.matching (childSelector discovery)).map Object.name) := by
    apply (List.perm_ext_iff_of_nodup (after.nodup_matching _) (before.nodup_matching _)).mpr
    intro name
    rw [mem_names_of_children, mem_names_of_children, same]
  have lengths := names.length_eq
  rwa [List.length_map, List.length_map] at lengths

theorem outdatedNames_of_nothingLeft (settled : NothingLeft discovery.name desired cluster) :
    outdatedNames discovery desired cluster = [] := by
  apply List.eq_nil_iff_forall_not_mem.mpr
  intro name listed
  obtain ⟨child, found, labelled, stale⟩ := mem_outdatedNames.mp listed
  have named : child.name = name := Cluster.name_of_find found
  unfold outdated at stale
  rw [named] at stale
  cases wanted : desired.lookup name with
  | none => simp [wanted] at stale
  | some desiredChild =>
      obtain ⟨marks, marked, current⟩ := settled name desiredChild wanted
      rw [childMarks_eq_some_iff.mpr ⟨child, found, labelled, rfl⟩, Option.some.injEq] at marked
      subst marked
      simp only [wanted, decide_eq_true_eq] at stale
      exact stale current

end ChildMarks

section Cycle

variable {reconciler : DiscoveryReconciler} {name : String}
  {fetched : DataPrepperSourceDiscovery} {sources : List DiscoveredSource}
  {desired : GoMap Desired} {state final : Cluster} {trace : List (Event Cluster Op Reply)}
  {result : ReconcileResult} {outcome : Except String ReconcileResult}

/-- A successful cycle prepares the stored discovery and then works on its children; a
discovery with its finalizer and no failures needs no preparation. -/
theorem prepared_of_runs (stored : state.find .sourceDiscovery name = some fetched)
    (live : fetched.metadata.deleting = false)
    (discovered : sourcesIn reconciler fetched.spec state = .ok sources)
    (run : Runs Reliable (reconcile reconciler name).run state trace outcome final) :
    ∃ current start later, Held current start ∧ FailureFree current ∧ SameSource current fetched ∧
      SameElsewhere name state start ∧
      (discoveryFinalizerName ∈ fetched.metadata.finalizers → FailureFree fetched →
        current = fetched ∧ start = state) ∧
      (∀ event ∈ later, event ∈ trace) ∧
      Runs Reliable (do
        let rollout ← reconcilePipelines reconciler current sources
        cleanupOrphans current sources
        report reconciler current sources rollout : Reconciler ReconcileResult).run
        start later outcome final := by
  obtain ⟨reply, middle, rest, served, rfl, continued⟩ := runs_ask_bind run
  obtain ⟨read, rfl⟩ := honest_of_reliable served
  simp only [Cluster.read, stored] at read
  subst read
  simp only [live, Bool.false_eq_true, if_false] at continued
  have named : fetched.name = name := Cluster.name_of_find stored
  rw [← named] at stored
  obtain ⟨failure, _, failed⟩ | ⟨finalized, ensured, discovery, cycled, rfl, ensuring, cycling⟩ :=
    runs_fallible_bind_iff.mp continued
  · obtain ⟨_, impossible⟩ := succeeds_of_ensureFinalizer stored failed
    cases impossible
  obtain ⟨held, untouched⟩ := held_of_ensureFinalizer stored live ensuring
  have storedAs : StoredAs fetched middle := storedAs_of_find stored
  obtain ⟨quiet, stillStored, same⟩ :=
    tends_ensureFinalizer ⟨rfl, rfl, rfl⟩ _ _ _ _ storedAs ensuring
  have elsewhere := sameElsewhere_of_quiet ensuring quiet
  rw [same.spec] at cycling
  cases chosen : discoverSources reconciler fetched.spec with
  | none => exact absurd discovered (sourcesIn_of_unconfigured chosen middle sources)
  | some discover =>
      simp only [chosen] at cycling
      obtain ⟨tried, between, found, working, rfl, discovering, remaining⟩ := runs_lift_bind cycling
      obtain ⟨rfl, _, computed | ⟨⟨_, _, impossible⟩, _⟩⟩ :=
        observes_discoverSources chosen _ _ _ _ discovering
      · rw [elsewhere.inputs.sourcesIn, discovered] at computed
        subst computed
        obtain ⟨cleared, start, current, later, rfl, clearing, children⟩ :=
          runs_lift_bind remaining
        obtain ⟨heldStart, clear, uncounted⟩ := held_of_clearFailures held clearing
        obtain ⟨quietClearing, _, currentSame⟩ :=
          tends_clearFailures same _ _ _ _ stillStored clearing
        have elsewhereStart := elsewhere.trans (sameElsewhere_of_quiet clearing quietClearing)
        refine ⟨current, start, later, heldStart, clear, currentSame, named ▸ elsewhereStart, ?_,
          ?_, children⟩
        · intro present failureFree
          obtain ⟨rfl, rfl⟩ := untouched present
          exact uncounted failureFree
        · intro event member
          simp [member]
      · exact impossible.elim

/-- A discovery as a complete cycle leaves it. -/
structure Rests (sources : List DiscoveredSource) (earlier : Nat)
    (discovery : DataPrepperSourceDiscovery) (cluster : Cluster) : Prop where
  held : Held discovery cluster
  clear : FailureFree discovery
  reported : ∃ base previous, base.name = discovery.name ∧
    base.metadata.generation = discovery.metadata.generation ∧ Rollout.Complete previous ∧
    discovery.status =
      reportedStatus base sources previous earlier (activeCount discovery cluster)
  waiting : LeftoversWait discovery sources cluster

section Phases

variable {current : DataPrepperSourceDiscovery} {start between afterwards : Cluster}
  {rollout : Except String Rollout} {rolled cleaned reported : List (Event Cluster Op Reply)}
  {items : List DataPrepperPipeline} {completed : Bool}

/-- After a successful cycle the leftovers wait for their finalizers. -/
theorem Phases.leftoversWait (phases : Phases (fun _ _ => False) reconciler current sources start
      outcome final rollout rolled cleaned reported between afterwards items completed)
    (success : outcome.isOk = true) : LeftoversWait current sources final := by
  intro name marks marked inactive
  obtain ⟨_, rfl, all⟩ := phases.success success
  obtain ⟨child, found, labelled, rfl⟩ := childMarks_eq_some_iff.mp marked
  rw [phases.elsewhere.find .pipeline name (by simp)] at found
  have listed : ∃ item ∈ items, item.name = name := by
    by_contra none
    have outside : ∀ item ∈ items, (Kind.pipeline, name) ≠ (Kind.pipeline, item.name) := by
      rintro item member same
      exact none ⟨item, member, (congrArg Prod.snd same).symm⟩
    have unmoved := found
    rw [phases.cleaning.frame outside] at unmoved
    exact none ⟨child, all name child unmoved labelled inactive, Cluster.name_of_find found⟩
  obtain ⟨item, member, rfl⟩ := listed
  exact phases.cleaning.deleted phases.nodup item member child found labelled

/-- With nothing left in the end, the rollout was complete. -/
theorem Phases.complete {written : Rollout} (phases : Phases (fun _ _ => False) reconciler current
      sources start outcome final (.ok written) rolled cleaned reported between afterwards items
      completed)
    (built : desiredPipelines reconciler.toolkit current sources ∅ = .ok desired)
    (settled : NothingLeft current.name desired final) : written.Complete := by
  have settledBetween : NothingLeft current.name desired between := by
    intro name wanted found
    obtain ⟨marks, marked, upToDate⟩ := settled name wanted found
    have active := (mem_desired_iff_active built).mp (Finmap.mem_iff.mpr ⟨_, found⟩)
    rw [childMarks_congr (phases.untouched active)] at marked
    exact ⟨marks, marked, upToDate⟩
  have pending : written.pendingUpdates = 0 := by
    obtain ⟨_, impossible, _⟩ | ⟨other, _, _, otherBuilt, accounted⟩ :=
      accounted_of_runs phases.rolling
    · simp [built] at impossible
    rw [built, Except.ok.injEq] at otherBuilt
    subst otherBuilt
    rw [(accounted.reported written rfl).2.2, outdatedNames_of_nothingLeft settledBetween]
    rfl
  refine ⟨pending, ?_⟩
  obtain ⟨_, impossible, _⟩ | ⟨_, _, _, _, _, _, _, counted, _⟩ :=
    runs_reconcilePipelines phases.rolling
  · simp [built] at impossible
  obtain ⟨_, _, _, _, _, _, failing⟩ := counted.reported written rfl
  cases failed : written.healthCheckFail with
  | false => rfl
  | true => exact absurd pending (failing failed)

/-- Deleting again what waits for its finalizers changes nothing. -/
theorem unchanged_of_cleanUp {child : DataPrepperPipeline} {cleanedUp : Except String Unit}
    {before after : Cluster} (policy : discoveryCleanupPolicy current = .delete)
    (found : before.find .pipeline child.name = some child)
    (deleting : child.metadata.deleting = true) (finalizers : child.metadata.finalizers ≠ [])
    (run : Runs Reliable (cleanUp current child).run before trace cleanedUp after) :
    after = before := by
  unfold cleanUp at run
  rw [policy] at run
  obtain ⟨_, ran, _⟩ := runs_of_wrapError run
  obtain ⟨reply, called, _⟩ := runs_of_callApi ran
  have effect : (reply, after) = before.delete .pipeline child.name :=
    honest_of_reliable (runs_request_iff.mp called).1
  simp only [Cluster.delete, found, finalizers, deleting, if_false, if_true,
    Prod.mk.injEq] at effect
  exact effect.2

/-- With nothing left at the start, no child changes. -/
theorem Phases.unmoved (phases : Phases (fun _ _ => False) reconciler current sources start
      outcome final rollout rolled cleaned reported between afterwards items completed)
    (built : desiredPipelines reconciler.toolkit current sources ∅ = .ok desired)
    (settled : NothingLeft current.name desired start)
    (waiting : LeftoversWait current sources start) (name : String) :
    afterwards.find .pipeline name = start.find .pipeline name := by
  have rolledNothing : ∀ name, between.find .pipeline name = start.find .pipeline name := by
    obtain ⟨_, impossible, _⟩ | ⟨other, created, updated, otherBuilt, accounted⟩ :=
      accounted_of_runs phases.rolling
    · simp [built] at impossible
    rw [built, Except.ok.injEq] at otherBuilt
    subst otherBuilt
    have stale := outdatedNames_of_nothingLeft settled
    intro name
    apply accounted.others
    · intro inCreated
      obtain ⟨inDesired, missing⟩ := accounted.createdMissing name inCreated
      obtain ⟨wanted, found⟩ := Finmap.mem_iff.mp inDesired
      obtain ⟨marks, marked, _⟩ := settled name wanted found
      obtain ⟨child, present, labelled, _⟩ := childMarks_eq_some_iff.mp marked
      exact missing child present labelled
    · intro inUpdated
      have outdated := accounted.updatedOutdated name inUpdated
      simp [stale] at outdated
  rw [← rolledNothing name]
  refine phases.cleaning.invariant
    (fun cluster => ∀ name, cluster.find .pipeline name = between.find .pipeline name) ?_ ?_
    (fun _ => rfl) name
  · intro before op reply after reads served same
    rw [served.unchanged reads]
    exact same
  · intro child before trace outcome after member _ run same
    obtain ⟨found, labelled, inactive⟩ := phases.inactive child member
    obtain ⟨policy, deleting, finalizers⟩ := waiting child.name (marksOf child)
      (childMarks_eq_some_iff.mpr ⟨child, by rw [← rolledNothing, found], labelled, rfl⟩) inactive
    rw [unchanged_of_cleanUp policy (by rw [same, found]) deleting finalizers run]
    exact same

/-- A complete cycle leaves a discovery that rests. -/
theorem rests_of_runs {earlier : Nat} (stored : state.find .sourceDiscovery name = some fetched)
    (live : fetched.metadata.deleting = false)
    (discovered : sourcesIn reconciler fetched.spec state = .ok sources)
    (built : desiredPipelines reconciler.toolkit fetched sources ∅ = .ok desired)
    (run : Runs (AtTime earlier) (reconcile reconciler name).run state trace (.ok result) final)
    (settled : NothingLeft name desired final) :
    ∃ discovery, final.find .sourceDiscovery name = some discovery ∧
      SameSource discovery fetched ∧ Rests sources earlier discovery final := by
  obtain ⟨ran, shown⟩ := runs_atTime run
  obtain ⟨current, start, later, held, clear, same, _, _, included, working⟩ :=
    prepared_of_runs stored live discovered ran
  obtain rfl : fetched.name = name := Cluster.name_of_find stored
  have storedAs : StoredAs current start := storedAs_of_find held.stored
  obtain ⟨_, rollout, rolled, cleaned, reported, between, afterwards, items, completed, rfl,
    phases⟩ := phases_of_runs ⟨rfl, rfl, rfl⟩ storedAs working
  obtain ⟨written, rfl, reporting⟩ := phases.reporting rfl
  rw [← same.desiredPipelines] at built
  rw [← same.name] at settled ⊢
  obtain ⟨object, found, restated⟩ := restated_of_report
    (by rw [phases.find_discovery, held.stored]) reporting (fun event member => shown event
      (included event (List.mem_append_right _ (List.mem_append_right _ member))))
  have objectName : object.name = current.name := Cluster.name_of_find found
  have counted : activeCount object final = activeCount current afterwards := by
    rw [activeCount, childSelector, objectName, ← childSelector, ← activeCount]
    apply activeCount_congr
    intro name
    exact childMarks_congr (phases.elsewhere.find .pipeline name (by simp))
  refine ⟨object, found, restated.sameSource.trans same, restated.held held found,
    restated.failureFree clear, ⟨current, written, objectName.symm, restated.generation.symm,
      phases.complete built settled, ?_⟩, ?_⟩
  · rw [restated.status, counted]
  · have waiting := phases.leftoversWait rfl
    unfold LeftoversWait discoveryCleanupPolicy at waiting ⊢
    rw [objectName, restated.spec]
    exact waiting

end Phases

/-- A cycle of a resting discovery stores the time of its poll and nothing else. -/
theorem repolled_of_runs {earlier now : Nat} {discovery : DataPrepperSourceDiscovery}
    (rests : Rests sources earlier discovery state)
    (discovered : sourcesIn reconciler discovery.spec state = .ok sources)
    (built : desiredPipelines reconciler.toolkit discovery sources ∅ = .ok desired)
    (settled : NothingLeft discovery.name desired state)
    (run : Runs (AtTime now) (reconcile reconciler discovery.name).run state trace (.ok result)
      final) :
    ∃ object, final.find .sourceDiscovery discovery.name = some object ∧
      Restated discovery { discovery.status with lastPollTime := some now } object := by
  obtain ⟨ran, shown⟩ := runs_atTime run
  obtain ⟨current, start, later, held, _, _, _, unprepared, included, working⟩ :=
    prepared_of_runs rests.held.stored rests.held.live discovered ran
  obtain ⟨rfl, rfl⟩ := unprepared rests.held.finalizer rests.clear
  have storedAs : StoredAs current start := storedAs_of_find held.stored
  obtain ⟨_, rollout, rolled, cleaned, reported, between, afterwards, items, completed, rfl,
    phases⟩ := phases_of_runs ⟨rfl, rfl, rfl⟩ storedAs working
  obtain ⟨written, rfl, reporting⟩ := phases.reporting rfl
  have unmoved := phases.unmoved built settled rests.waiting
  have settledFinally : NothingLeft current.name desired final := by
    intro name wanted found
    obtain ⟨marks, marked, upToDate⟩ := settled name wanted found
    refine ⟨marks, ?_, upToDate⟩
    rw [← marked]
    apply childMarks_congr
    rw [phases.elsewhere.find .pipeline name (by simp), unmoved]
  have counted : activeCount current afterwards = activeCount current start :=
    activeCount_congr fun name => childMarks_congr (unmoved name)
  obtain ⟨base, previous, named, generation, wasComplete, status⟩ := rests.reported
  obtain ⟨object, found, restated⟩ := restated_of_report
    (by rw [phases.find_discovery, held.stored]) reporting (fun event member => shown event
      (included event (List.mem_append_right _ (List.mem_append_right _ member))))
  have complete := phases.complete built settledFinally
  rw [counted, reportedStatus_again named.symm generation.symm complete wasComplete status]
    at restated
  exact ⟨object, found, restated⟩

end Cycle

/-- Between two cycles nobody changes the discovery or the marks of its children. -/
structure Undisturbed (discovery : String) (before after : Cluster) : Prop where
  unchanged : after.find .sourceDiscovery discovery = before.find .sourceDiscovery discovery
  children : ∀ name, childMarks discovery after name = childMarks discovery before name

/-- A cycle that finds the sources of a complete cycle before it leaves the discovery as it
is exactly if it polls at the same time. -/
theorem discovery_unchanged_iff {reconciler : DiscoveryReconciler} {name : String}
    {fetched : DataPrepperSourceDiscovery} {sources : List DiscoveredSource}
    {desired : GoMap Desired} {earlier now : Nat} {before middle start final : Cluster}
    {previous trace : List (Event Cluster Op Reply)} {result again : ReconcileResult}
    (stored : before.find .sourceDiscovery name = some fetched)
    (live : fetched.metadata.deleting = false)
    (discovered : sourcesIn reconciler fetched.spec before = .ok sources)
    (built : desiredPipelines reconciler.toolkit fetched sources ∅ = .ok desired)
    (previousCycle : Runs (AtTime earlier) (reconcile reconciler name).run before previous
      (.ok result) middle)
    (settled : NothingLeft name desired middle)
    (undisturbed : Undisturbed name middle start)
    (rediscovered : sourcesIn reconciler fetched.spec start = .ok sources)
    (cycle : Runs (AtTime now) (reconcile reconciler name).run start trace (.ok again) final) :
    final.find .sourceDiscovery name = start.find .sourceDiscovery name ↔ now = earlier := by
  obtain ⟨discovery, found, same, rests⟩ :=
    rests_of_runs stored live discovered built previousCycle settled
  obtain rfl : discovery.name = name := Cluster.name_of_find found
  have restsStart : Rests sources earlier discovery start := by
    refine ⟨⟨?_, rests.held.live, rests.held.finalizer⟩, rests.clear, ?_, ?_⟩
    · rw [undisturbed.unchanged, found]
    · rw [activeCount_congr undisturbed.children]
      exact rests.reported
    · intro name marks marked
      rw [undisturbed.children] at marked
      exact rests.waiting name marks marked
  have settledStart : NothingLeft discovery.name desired start := by
    intro name wanted wantedHere
    rw [undisturbed.children]
    exact settled name wanted wantedHere
  rw [← same.spec] at rediscovered
  rw [← same.desiredPipelines] at built
  obtain ⟨object, present, restated⟩ :=
    repolled_of_runs restsStart rediscovered built settledStart cycle
  have polled : discovery.status.lastPollTime = some earlier := by
    obtain ⟨_, _, _, _, wasComplete, status⟩ := rests.reported
    rw [status, reportedStatus_of_complete wasComplete]
  rw [present, restsStart.held.stored, Option.some.injEq]
  constructor
  · rintro rfl
    have status := restated.status
    rw [status] at polled
    exact Option.some.inj polled
  · rintro rfl
    apply restated.unchanged
    rw [← polled]

/-- One topic that is not discovered yet. -/
def singleTopic : Cluster :=
  withTopics ["a"] (Cluster.empty.create (topicDiscovery "v1" .delete)).2

def answerAt (now : Nat) (cluster : Cluster) : (op : Op) → Reply op × Cluster
  | .now => (now, cluster)
  | op => cluster.answer op

def cycleAt (now : Nat) (cluster : Cluster) : Except String ReconcileResult × Cluster :=
  (reconcile sampleDiscoveryReconciler "topics").run.execute (answerAt now) cluster

theorem runs_cycleAt (now : Nat) (cluster : Cluster)
    (succeeds : (cycleAt now cluster).1.isOk = true) :
    ∃ trace result, Runs (AtTime now) (reconcile sampleDiscoveryReconciler "topics").run cluster
      trace (.ok result) (cycleAt now cluster).2 := by
  have served : ∀ cluster op,
      AtTime now cluster op (answerAt now cluster op).1 (answerAt now cluster op).2 := by
    intro cluster op
    cases op with
    | now => exact ⟨.honest rfl, rfl⟩
    | get | listPipelines | create | update | updateStatus | delete | kafkaConnect
    | kafkaPartitionCount | kafkaListTopics | s3Connect | s3ListPrefixes | rangeOver =>
        exact ⟨.honest (cluster.answer_honest _), trivial⟩
  obtain ⟨trace, run⟩ :=
    (reconcile sampleDiscoveryReconciler "topics").run.execute_runs served cluster
  unfold cycleAt at succeeds ⊢
  cases outcome : ((reconcile sampleDiscoveryReconciler "topics").run.execute (answerAt now)
      cluster).1 with
  | error message =>
      rw [outcome] at succeeds
      cases succeeds
  | ok result =>
      rw [outcome] at run
      exact ⟨trace, result, run⟩

theorem discovery_unchanged_at_once :
    ∃ previous result trace again,
      Runs (AtTime 0) (reconcile sampleDiscoveryReconciler "topics").run singleTopic previous
        (.ok result) (cycleAt 0 singleTopic).2 ∧
      Runs (AtTime 0) (reconcile sampleDiscoveryReconciler "topics").run (cycleAt 0 singleTopic).2
        trace (.ok again) (cycleAt 0 (cycleAt 0 singleTopic).2).2 ∧
      (cycleAt 0 (cycleAt 0 singleTopic).2).2.find .sourceDiscovery "topics" =
        (cycleAt 0 singleTopic).2.find .sourceDiscovery "topics" := by
  obtain ⟨previous, result, first⟩ := runs_cycleAt 0 singleTopic (by decide +kernel)
  obtain ⟨trace, again, second⟩ := runs_cycleAt 0 (cycleAt 0 singleTopic).2 (by decide +kernel)
  refine ⟨previous, result, trace, again, first, second, ?_⟩
  exact (discovery_unchanged_iff rfl rfl rfl rfl first (by decide +kernel) ⟨rfl, fun _ => rfl⟩ rfl
    second).mpr rfl

theorem discovery_changed_later :
    ∃ fetched sources desired previous result trace again,
      singleTopic.find .sourceDiscovery "topics" = some fetched ∧
      fetched.metadata.deleting = false ∧
      sourcesIn sampleDiscoveryReconciler fetched.spec singleTopic = .ok sources ∧
      desiredPipelines sampleDiscoveryReconciler.toolkit fetched sources ∅ = .ok desired ∧
      Runs (AtTime 0) (reconcile sampleDiscoveryReconciler "topics").run singleTopic previous
        (.ok result) (cycleAt 0 singleTopic).2 ∧
      NothingLeft "topics" desired (cycleAt 0 singleTopic).2 ∧
      sourcesIn sampleDiscoveryReconciler fetched.spec (cycleAt 0 singleTopic).2 = .ok sources ∧
      Runs (AtTime 30) (reconcile sampleDiscoveryReconciler "topics").run (cycleAt 0 singleTopic).2
        trace (.ok again) (cycleAt 30 (cycleAt 0 singleTopic).2).2 ∧
      (cycleAt 30 (cycleAt 0 singleTopic).2).2.find .sourceDiscovery "topics" ≠
        (cycleAt 0 singleTopic).2.find .sourceDiscovery "topics" := by
  obtain ⟨previous, result, first⟩ := runs_cycleAt 0 singleTopic (by decide +kernel)
  obtain ⟨trace, again, second⟩ := runs_cycleAt 30 (cycleAt 0 singleTopic).2 (by decide +kernel)
  exact ⟨_, _, _, previous, result, trace, again, rfl, rfl, rfl, rfl, first, by decide +kernel, rfl,
    second, by decide +kernel⟩

end DataPrepperOperator.Controller.SourceDiscovery
