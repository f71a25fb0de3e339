import DataPrepperOperator.Api.Versions
import DataPrepperOperator.Controller.DiscoveryFootprint

/-!
# The observed generation of a discovery

A cycle discovers with one version of the discovery and reports the generation of
another: persisting or resetting the failure count reads the object again, and the
version that comes back replaces the one in hand.
-/

namespace DataPrepperOperator.Controller.SourceDiscovery

open ServerProgram DataPrepperOperator.Api DataPrepperOperator.Discovery

/-- The version that the attempt uses: the one that was read, or the one that the update of
the finalizer stored. -/
def attemptedVersion : List (Event Cluster Op Reply) → Option DataPrepperSourceDiscovery
  | ⟨_, .get .sourceDiscovery _, .ok fetched, _⟩ :: rest =>
      if discoveryFinalizerName ∈ fetched.metadata.finalizers then some fetched
      else
        match rest with
        | ⟨_, .update .sourceDiscovery _, .ok stored, _⟩ :: _ => some stored
        | _ => none
  | _ => none

/-- After the attempt the failure count is persisted or reset. -/
def refresh (attempted : DataPrepperSourceDiscovery) :
    Except String (List DiscoveredSource) → Program Op Reply DataPrepperSourceDiscovery
  | .error _ => do
      let persisted ← retryAssigning
        (storeFresh Client.update fun fresh => (incrementFailureCount fresh).1) defaultRetries
        (incrementFailureCount attempted).1
      pure persisted.1
  | .ok _ => clearFailures attempted

/-- The attempt with what it found, and the calls after it that refresh the failure count. -/
def Refreshes (server : Server Cluster Op Reply) (reconciler : DiscoveryReconciler)
    (trace : List (Event Cluster Op Reply)) (attempted : DataPrepperSourceDiscovery)
    (found : Except String (List DiscoveredSource))
    (refreshing : List (Event Cluster Op Reply)) : Prop :=
  ∃ earlier tried later discover before between current after,
    trace = earlier ++ (tried ++ (refreshing ++ later)) ∧
    discoverSources reconciler attempted.spec = some discover ∧
    Runs server discover.run before tried found between ∧
    Runs server (refresh attempted found) between refreshing current after

/-- The spec in the last reply that carries the discovery; the given one if none does. -/
def lastSpec (given : DataPrepperSourceDiscoverySpec) (calls : List (Event Cluster Op Reply)) :
    DataPrepperSourceDiscoverySpec :=
  calls.foldl (fun spec call =>
    match call with
    | ⟨_, .get .sourceDiscovery _, .ok version, _⟩
    | ⟨_, .update .sourceDiscovery _, .ok version, _⟩ => version.spec
    | _ => spec) given

/-- The sources that a status records. -/
def recordedSources (name : String) : Except String (List DiscoveredSource) →
    List DiscoveredSourceStatus
  | .ok sources => sources.map (sourceStatus name)
  | .error _ => []

/-- The operation neither creates a discovery nor writes its status. -/
def Spares : Op → Prop
  | .create .sourceDiscovery _ | .updateStatus .sourceDiscovery _ => False
  | _ => True

/-- A status that is written carries this generation and these sources. -/
def Records (generation : Nat) (sources : List DiscoveredSourceStatus) : Op → Prop
  | .create .sourceDiscovery _ => False
  | .updateStatus .sourceDiscovery object =>
      object.status.observedGeneration = generation ∧ object.status.sources = sources
  | _ => True

theorem spares_of_read (op : Op) (reads : op.target = none) : Spares op := by
  unfold Spares
  split
  · cases reads
  · cases reads
  · trivial

theorem spares_of_child (op : Op) (name : String) (child : op.target = some (.pipeline, name)) :
    Spares op := by
  unfold Spares
  split
  · cases child
  · cases child
  · trivial

theorem Spares.records {op : Op} (spares : Spares op) (generation : Nat)
    (sources : List DiscoveredSourceStatus) : Records generation sources op := by
  unfold Spares at spares
  unfold Records
  split at spares
  · exact spares.elim
  · exact spares.elim
  · trivial

section Storing

variable {server : Server Cluster Op Reply}
  (expected : ∀ before op reply after, server before op reply after → Expected op reply)
  {name : String} {state final : Cluster} {trace earlier : List (Event Cluster Op Reply)}
  {discovery : DataPrepperSourceDiscovery}

/-- The version in hand has the generation and the spec of a stored one. -/
def Backed (name : String) (trace : List (Event Cluster Op Reply))
    (discovery : DataPrepperSourceDiscovery) : Prop :=
  discovery.name = name ∧ ∃ version : DataPrepperSourceDiscovery, Shown name trace version ∧
    version.metadata.generation = discovery.metadata.generation ∧ version.spec = discovery.spec

theorem Backed.append (backed : Backed name earlier discovery)
    (later : List (Event Cluster Op Reply)) : Backed name (earlier ++ later) discovery := by
  obtain ⟨named, version, shown, same⟩ := backed
  exact ⟨named, version, shown.append_right later, same⟩

theorem backed_of_receives {event : Event Cluster Op Reply} (member : event ∈ trace)
    (received : Receives event discovery) (named : discovery.name = name) :
    Backed name trace discovery :=
  ⟨named, discovery, ⟨event, member, .inr ⟨named, received⟩⟩, rfl, rfl⟩

/-- The bookkeeping of failures leaves name, generation and spec alone. -/
structure Bookkeeping (change : DataPrepperSourceDiscovery → DataPrepperSourceDiscovery) :
    Prop where
  name : ∀ discovery, (change discovery).name = discovery.name
  generation : ∀ discovery,
    (change discovery).metadata.generation = discovery.metadata.generation
  spec : ∀ discovery, (change discovery).spec = discovery.spec

theorem Bookkeeping.backed {change : DataPrepperSourceDiscovery → DataPrepperSourceDiscovery}
    (keeps : Bookkeeping change) (backed : Backed name trace discovery) :
    Backed name trace (change discovery) := by
  obtain ⟨named, version, shown, generation, spec⟩ := backed
  exact ⟨(keeps.name discovery).trans named, version, shown,
    generation.trans (keeps.generation discovery).symm, spec.trans (keeps.spec discovery).symm⟩

include expected in
theorem backed_of_storeFresh {change : DataPrepperSourceDiscovery → DataPrepperSourceDiscovery}
    {attempt : Attempt} (keeps : Bookkeeping change) (backed : Backed name earlier discovery)
    (run : Runs server (storeFresh Client.update change discovery) state trace attempt final) :
    Backed name (earlier ++ trace) attempt.1 ∧ attempt.1.spec = lastSpec discovery.spec trace ∧
      ∀ event ∈ trace, Spares event.op := by
  obtain ⟨_, middle, reply, rest, rfl, reading, continued⟩ := runs_bind_iff.mp run
  obtain ⟨read, rfl⟩ := runs_request_iff.mp reading
  cases reply with
  | error error =>
      obtain ⟨rfl, rfl, _⟩ := runs_done_iff.mp continued
      exact ⟨backed.append _, rfl, by simp [Spares]⟩
  | ok fresh =>
      have named : fresh.name = name := (expected _ _ _ _ read fresh rfl).trans backed.1
      obtain ⟨_, later, stored, _, rfl, storing, finished⟩ := runs_bind_iff.mp continued
      obtain ⟨updated, rfl⟩ := runs_request_iff.mp storing
      cases stored with
      | error error =>
          obtain ⟨rfl, rfl, _⟩ := runs_done_iff.mp finished
          have received : Receives (⟨state, .get .sourceDiscovery discovery.name, .ok fresh,
            middle⟩ : Event Cluster Op Reply) fresh := .read
          exact ⟨keeps.backed (backed_of_receives (by simp) received named), keeps.spec fresh,
            by simp [Spares]⟩
      | ok object =>
          obtain ⟨rfl, rfl, _⟩ := runs_done_iff.mp finished
          have objectName : object.name = name :=
            (expected _ _ _ _ updated object rfl).1.trans ((keeps.name fresh).trans named)
          have received : Receives (⟨middle, .update .sourceDiscovery (change fresh), .ok object,
            later⟩ : Event Cluster Op Reply) object := .stored
          exact ⟨backed_of_receives (by simp) received objectName, rfl, by simp [Spares]⟩

include expected in
theorem backed_of_retryAssigning
    {change : DataPrepperSourceDiscovery → DataPrepperSourceDiscovery} {attempt : Attempt}
    {further : Nat} (keeps : Bookkeeping change) (backed : Backed name earlier discovery)
    (run : Runs server (retryAssigning (storeFresh Client.update change) further discovery) state
      trace attempt final) :
    Backed name (earlier ++ trace) attempt.1 ∧ attempt.1.spec = lastSpec discovery.spec trace ∧
      ∀ event ∈ trace, Spares event.op := by
  induction further generalizing discovery earlier state trace with
  | zero => exact backed_of_storeFresh expected keeps backed run
  | succ further ih =>
      obtain ⟨first, middle, tried, second, rfl, ran, continued⟩ := runs_bind_iff.mp run
      obtain ⟨triedBacked, triedSpec, spares⟩ := backed_of_storeFresh expected keeps backed ran
      split at continued
      · obtain ⟨again, lastly, sparesAgain⟩ := ih triedBacked continued
        rw [List.append_assoc] at again
        rw [triedSpec, lastSpec, lastSpec, ← List.foldl_append] at lastly
        exact ⟨again, lastly, List.forall_mem_append.mpr ⟨spares, sparesAgain⟩⟩
      · obtain ⟨rfl, rfl, _⟩ := runs_done_iff.mp continued
        rw [List.append_nil]
        exact ⟨triedBacked, triedSpec, spares⟩

theorem bookkeeping_incrementFailureCount :
    Bookkeeping fun discovery => (incrementFailureCount discovery).1 :=
  ⟨fun _ => rfl, fun _ => rfl, fun _ => rfl⟩

theorem bookkeeping_resetFailureCount : Bookkeeping resetFailureCount :=
  ⟨fun _ => rfl, fun _ => rfl, fun _ => rfl⟩

include expected in
theorem backed_of_refresh {found : Except String (List DiscoveredSource)}
    {current : DataPrepperSourceDiscovery} (backed : Backed name earlier discovery)
    (run : Runs server (refresh discovery found) state trace current final) :
    Backed name (earlier ++ trace) current ∧ current.spec = lastSpec discovery.spec trace ∧
      ∀ event ∈ trace, Spares event.op := by
  cases found with
  | error message =>
      obtain ⟨_, _, persisted, _, rfl, persisting, finished⟩ := runs_bind_iff.mp run
      obtain ⟨rfl, rfl, _⟩ := runs_done_iff.mp finished
      rw [List.append_nil]
      have incremented := bookkeeping_incrementFailureCount.backed backed
      exact (backed_of_retryAssigning expected bookkeeping_incrementFailureCount incremented
        persisting :)
  | ok sources =>
      have clearing : Runs server (clearFailures discovery) state trace current final := run
      unfold clearFailures at clearing
      split at clearing
      · obtain ⟨rfl, rfl, _⟩ := runs_done_iff.mp clearing
        rw [List.append_nil]
        exact ⟨backed, rfl, by simp⟩
      · obtain ⟨_, _, persisted, _, rfl, persisting, finished⟩ := runs_bind_iff.mp clearing
        obtain ⟨rfl, rfl, _⟩ := runs_done_iff.mp finished
        rw [List.append_nil]
        exact backed_of_retryAssigning expected bookkeeping_resetFailureCount backed persisting

end Storing

/-- The status in hand carries this generation and these sources. -/
structure Recorded (generation : Nat) (sources : List DiscoveredSourceStatus)
    (discovery : DataPrepperSourceDiscovery) : Prop where
  generation : discovery.status.observedGeneration = generation
  sources : discovery.status.sources = sources

section Recorded

variable {generation : Nat} {recorded : List DiscoveredSourceStatus}
  {discovery : DataPrepperSourceDiscovery}

theorem recorded_withCondition (before : Recorded generation recorded discovery) (type : String)
    (status : ConditionStatus) (reason message : String) :
    Recorded generation recorded (withCondition discovery type status reason message) :=
  ⟨before.generation, before.sources⟩

theorem recorded_withUpdating (before : Recorded generation recorded discovery) (pending : Int) :
    Recorded generation recorded
      { discovery with status := { discovery.status with updatingPipelines := pending } } :=
  ⟨before.generation, before.sources⟩

theorem recorded_ite {condition : Prop} [Decidable condition]
    {first second : DataPrepperSourceDiscovery} (yes : Recorded generation recorded first)
    (no : Recorded generation recorded second) :
    Recorded generation recorded (if condition then first else second) := by
  split <;> assumption

theorem recorded_buildDiscoveryStatus (discovery : DataPrepperSourceDiscovery)
    (phase : DiscoveryPhase) (sources : List DiscoveredSource) (message : String) (now : Nat) :
    Recorded discovery.metadata.generation (sources.map (sourceStatus discovery.name))
      (buildDiscoveryStatus discovery phase sources message now) := by
  unfold buildDiscoveryStatus
  dsimp only
  split
  · apply recorded_withCondition
    exact ⟨rfl, rfl⟩
  · apply recorded_withCondition
    exact ⟨rfl, rfl⟩

theorem recorded_withRollout (before : Recorded generation recorded discovery)
    (rollout : Rollout) : Recorded generation recorded (withRollout discovery rollout) := by
  unfold withRollout
  extract_lets _ counted paused
  have countedToo : Recorded generation recorded counted := recorded_withUpdating before _
  have pausedToo : Recorded generation recorded paused :=
    recorded_ite (recorded_withCondition countedToo _ _ _ _)
      (recorded_withCondition countedToo _ _ _ _)
  exact recorded_ite (recorded_withCondition pausedToo _ _ _ _)
    (recorded_withCondition pausedToo _ _ _ _)

end Recorded

section Report

variable {generation : Nat} {sources : List DiscoveredSourceStatus}

theorem records_of_read (op : Op) (reads : op.target = none) : Records generation sources op :=
  (spares_of_read op reads).records generation sources

theorem records_of_updateDiscoveryStatus {discovery : DataPrepperSourceDiscovery}
    (recorded : Recorded generation sources discovery) :
    Issues (Records generation sources) Expected (fun _ => True)
      (updateDiscoveryStatus discovery) := by
  apply issues_updateDiscoveryStatus records_of_read fun _ _ => id
  intro object _ same
  exact ⟨(congrArg DataPrepperSourceDiscoveryStatus.observedGeneration same).trans
      recorded.generation,
    (congrArg DataPrepperSourceDiscoveryStatus.sources same).trans recorded.sources⟩

end Report

section Cycle

variable {server : Server Cluster Op Reply}
  (expected : ∀ before op reply after, server before op reply after → Expected op reply)
  {reconciler : DiscoveryReconciler} {name : String} {state final : Cluster}
  {trace earlier : List (Event Cluster Op Reply)} {outcome : Except String ReconcileResult}
  {current : DataPrepperSourceDiscovery}

include expected in
theorem records_of_report {sources : List DiscoveredSource} {rollout : Rollout}
    (run : Runs server (report reconciler current sources rollout).run state trace outcome final) :
    ∀ event ∈ trace, Records current.metadata.generation
      (sources.map (sourceStatus current.name)) event.op := by
  have issued : Issues (Records current.metadata.generation
      (sources.map (sourceStatus current.name))) Expected (OnSuccess fun _ => True)
      (report reconciler current sources rollout).run := by
    apply Issues.bind_fallible _ (Issues.lift (issues_read records_of_read .now rfl))
    intro now _
    apply Issues.bind_fallible _ (Issues.lift (records_of_updateDiscoveryStatus
      (recorded_withRollout (recorded_buildDiscoveryStatus current .running sources "" now)
        rollout)))
    intro stored _
    split <;> trivial
  exact (issued.runs expected run).2

include expected in
/-- The children are written and the version in hand is reported. -/
theorem records_of_children {sources : List DiscoveredSource}
    (run : Runs server (do
      let rollout ← reconcilePipelines reconciler current sources
      cleanupOrphans current sources
      report reconciler current sources rollout : Reconciler ReconcileResult).run
      state trace outcome final) :
    ∀ event ∈ trace, Records current.metadata.generation
      (sources.map (sourceStatus current.name)) event.op := by
  have rolls : Issues Spares Expected (OnSuccess fun _ => True)
      (reconcilePipelines reconciler current sources).run :=
    issues_reconcilePipelines spares_of_read (fun _ _ => id)
      (writesChildren_of_target spares_of_child current) reconciler sources
  have cleans : Issues Spares Expected (OnSuccess fun _ => True)
      (cleanupOrphans current sources).run :=
    issues_cleanupOrphans spares_of_read (writesChildren_of_target spares_of_child current)
      sources
  rcases runs_fallible_bind_iff.mp run with
    ⟨_, rfl, failed⟩ | ⟨_, _, rollout, _, rfl, rolled, cleaning⟩
  · exact fun event member => ((rolls.runs expected failed).2 event member).records _ _
  · rcases runs_fallible_bind_iff.mp cleaning with
      ⟨_, rfl, failed⟩ | ⟨_, _, _, _, rfl, cleaned, reporting⟩
    · exact List.forall_mem_append.mpr
        ⟨fun event member => ((rolls.runs expected rolled).2 event member).records _ _,
          fun event member => ((cleans.runs expected failed).2 event member).records _ _⟩
    · exact List.forall_mem_append.mpr
        ⟨fun event member => ((rolls.runs expected rolled).2 event member).records _ _,
          List.forall_mem_append.mpr
            ⟨fun event member => ((cleans.runs expected cleaned).2 event member).records _ _,
              records_of_report expected reporting⟩⟩

include expected in
/-- A cycle tries, refreshes the version in hand and reports that version. -/
theorem records_of_runCycle {attempted : DataPrepperSourceDiscovery}
    {discover : Reconciler (List DiscoveredSource)} (backed : Backed name earlier attempted)
    (chosen : discoverSources reconciler attempted.spec = some discover)
    (run : Runs server (runCycle reconciler attempted discover).run state trace outcome final) :
    ∃ found current refreshing,
      Refreshes server reconciler (earlier ++ trace) attempted found refreshing ∧
      Backed name (earlier ++ trace) current ∧
      current.spec = lastSpec attempted.spec refreshing ∧
      ∀ event ∈ trace, Records current.metadata.generation (recordedSources name found)
        event.op := by
  obtain ⟨tried, between, found, rest, rfl, discovering, continued⟩ := runs_lift_bind run
  have reads : Issues Spares (fun _ _ => True) (OnSuccess fun _ => True) discover.run :=
    issues_discoverSources spares_of_read chosen
  have sparesTried := (reads.runs (fun _ _ _ _ _ => trivial) discovering).2
  have backedTried := backed.append tried
  cases found with
  | error message =>
      obtain ⟨result, _, reported⟩ := runs_lift_iff.mp continued
      obtain ⟨refreshing, after, persisted, later, rfl, persisting, concluding⟩ :=
        runs_bind_iff.mp reported
      have refreshed : Runs server (refresh attempted (.error message)) between refreshing
          persisted.1 after :=
        runs_bind_iff.mpr ⟨refreshing, after, persisted, [], by simp, persisting, .done⟩
      obtain ⟨backedCurrent, lastly, sparesRefreshing⟩ :=
        backed_of_refresh expected backedTried refreshed
      refine ⟨.error message, persisted.1, refreshing, ⟨earlier, tried, later, discover, state,
        between, _, after, rfl, chosen, discovering, refreshed⟩, ?_, lastly, ?_⟩
      · have backedFinally := backedCurrent.append later
        rwa [List.append_assoc, List.append_assoc] at backedFinally
      · rw [List.forall_mem_append, List.forall_mem_append]
        refine ⟨fun event member => (sparesTried event member).records _ _,
          fun event member => (sparesRefreshing event member).records _ _, ?_⟩
        have issued : Issues (Records persisted.1.metadata.generation []) Expected
            (fun _ : ReconcileResult => True) (do
              let now ← Client.now
              let _ ← updateDiscoveryStatus
                (buildDiscoveryStatus persisted.1 .error [] message now)
              pure { requeueAfter := discoveryBackoff (incrementFailureCount attempted).2 }) := by
          apply Issues.bind (issues_read records_of_read .now rfl)
          intro now _
          apply Issues.bind (records_of_updateDiscoveryStatus
            (recorded_buildDiscoveryStatus persisted.1 .error [] message now))
          exact fun _ _ => trivial
        exact (issued.runs expected concluding).2
  | ok sources =>
      obtain ⟨refreshing, after, current, later, rfl, clearing, children⟩ :=
        runs_lift_bind continued
      have refreshed : Runs server (refresh attempted (.ok sources)) between refreshing current
        after := clearing
      obtain ⟨backedCurrent, lastly, sparesRefreshing⟩ :=
        backed_of_refresh expected backedTried refreshed
      refine ⟨.ok sources, current, refreshing, ⟨earlier, tried, later, discover, state, between,
        _, after, rfl, chosen, discovering, refreshed⟩, ?_, lastly, ?_⟩
      · have backedFinally := backedCurrent.append later
        rwa [List.append_assoc, List.append_assoc] at backedFinally
      · rw [List.forall_mem_append, List.forall_mem_append]
        refine ⟨fun event member => (sparesTried event member).records _ _,
          fun event member => (sparesRefreshing event member).records _ _, ?_⟩
        have recorded := records_of_children expected children
        rwa [backedCurrent.1] at recorded

theorem spares_of_finalize {discovery : DataPrepperSourceDiscovery}
    (run : Runs server (finalize discovery).run state trace outcome final) :
    ∀ event ∈ trace, Spares event.op := by
  have issued : Issues Spares (fun _ _ => True) (OnSuccess fun _ => True)
      (finalize discovery).run :=
    issues_finalize spares_of_read (writesChildren_of_target spares_of_child discovery)
      fun _ => trivial
  exact (issued.runs (fun _ _ _ _ _ => trivial) run).2

include expected in
/-- The finalizer is there already, or the stored version replaces the one in hand. -/
theorem backed_of_ensureFinalizer {fetched attempted : DataPrepperSourceDiscovery}
    (backed : Backed name earlier fetched)
    (run : Runs server (ensureFinalizer fetched).run state trace (.ok attempted) final) :
    Backed name (earlier ++ trace) attempted := by
  unfold ensureFinalizer at run
  split at run
  · obtain ⟨rfl, same, _⟩ := runs_pure_iff.mp run
    cases same
    exact backed.append []
  · obtain ⟨served, rfl⟩ := runs_request_iff.mp (runs_callApi_ok (runs_wrapError_ok run))
    have named := (expected _ _ _ _ served attempted rfl).1.trans backed.1
    exact backed_of_receives (List.mem_append_right _ List.mem_cons_self) .stored named

theorem attemptedVersion_of_ensureFinalizer {fetched attempted : DataPrepperSourceDiscovery}
    {before after : Cluster} {target : String} (later : List (Event Cluster Op Reply))
    (run : Runs server (ensureFinalizer fetched).run state trace (.ok attempted) final) :
    attemptedVersion (⟨before, .get .sourceDiscovery target, .ok fetched, after⟩ ::
      (trace ++ later)) = some attempted := by
  unfold ensureFinalizer at run
  unfold attemptedVersion
  split at run
  next present =>
    obtain ⟨_, same, _⟩ := runs_pure_iff.mp run
    cases same
    exact if_pos present
  next absent =>
    obtain ⟨_, rfl⟩ := runs_request_iff.mp (runs_callApi_ok (runs_wrapError_ok run))
    exact if_neg absent

theorem spares_of_ensureFinalizer {fetched : DataPrepperSourceDiscovery}
    {ensured : Except String DataPrepperSourceDiscovery}
    (run : Runs server (ensureFinalizer fetched).run state trace ensured final) :
    ∀ event ∈ trace, Spares event.op := by
  unfold ensureFinalizer at run
  split at run
  · obtain ⟨rfl, _, _⟩ := runs_pure_iff.mp run
    simp
  · obtain ⟨_, ran, _⟩ := runs_of_wrapError run
    obtain ⟨_, called, _⟩ := runs_of_callApi ran
    obtain ⟨_, rfl⟩ := runs_request_iff.mp called
    simp [Spares]

include expected in
/-- A run writes no status, or it writes one for the version after its attempt. -/
theorem records_of_reconcile
    (run : Runs server (reconcile reconciler name).run state trace outcome final) :
    (∀ event ∈ trace, Spares event.op) ∨
      ∃ attempted found current refreshing, attemptedVersion trace = some attempted ∧
        Refreshes server reconciler trace attempted found refreshing ∧
        Backed name trace current ∧ current.spec = lastSpec attempted.spec refreshing ∧
        ∀ event ∈ trace, Records current.metadata.generation (recordedSources name found)
          event.op := by
  obtain ⟨reply, middle, rest, served, rfl, continued⟩ := runs_ask_bind run
  have first : Spares (Op.get .sourceDiscovery name) := trivial
  cases reply with
  | error error =>
      have ended : rest = [] := by
        cases error <;> exact (runs_done_iff.mp continued).1
      subst ended
      exact .inl (List.forall_mem_singleton.mpr first)
  | ok fetched =>
      have named : fetched.name = name := expected _ _ _ _ served fetched rfl
      dsimp only at continued
      split at continued
      · exact .inl (List.forall_mem_cons.mpr ⟨first, spares_of_finalize continued⟩)
      · rcases runs_fallible_bind_iff.mp continued with
          ⟨_, rfl, failed⟩ | ⟨ensuring, _, attempted, later, rfl, ensured, cycling⟩
        · exact .inl (List.forall_mem_cons.mpr ⟨first, spares_of_ensureFinalizer failed⟩)
        · have spares := spares_of_ensureFinalizer ensured
          cases chosen : discoverSources reconciler attempted.spec with
          | none =>
              simp only [chosen] at cycling
              obtain ⟨rfl, _, _⟩ := runs_pure_iff.mp cycling
              rw [List.append_nil]
              exact .inl (List.forall_mem_cons.mpr ⟨first, spares⟩)
          | some discover =>
              simp only [chosen] at cycling
              have fetchedBacked : Backed name
                  [⟨state, .get .sourceDiscovery name, .ok fetched, middle⟩] fetched :=
                backed_of_receives List.mem_cons_self .read named
              have backed := backed_of_ensureFinalizer expected fetchedBacked ensured
              obtain ⟨found, current, refreshing, refreshes, backedCurrent, lastly, recorded⟩ :=
                records_of_runCycle expected backed chosen cycling
              rw [List.append_assoc, List.singleton_append] at refreshes backedCurrent
              refine .inr ⟨attempted, found, current, refreshing,
                attemptedVersion_of_ensureFinalizer later ensured, refreshes, backedCurrent,
                lastly, ?_⟩
              exact List.forall_mem_cons.mpr ⟨first.records _ _, List.forall_mem_append.mpr
                ⟨fun event member => (spares event member).records _ _, recorded⟩⟩

end Cycle

/-- The server accepts a status update and answers with what it stored. -/
abbrev discoveryAccepted (before : Cluster) (asked object : DataPrepperSourceDiscovery)
    (after : Cluster) : Event Cluster Op Reply :=
  ⟨before, .updateStatus .sourceDiscovery asked, .ok object, after⟩

/-- The generation was stored during the run with the spec. -/
def HasSpec (name : String) (trace : List (Event Cluster Op Reply)) (generation : Nat)
    (spec : DataPrepperSourceDiscoverySpec) : Prop :=
  ∃ version : DataPrepperSourceDiscovery, Shown name trace version ∧
    version.metadata.generation = generation ∧ version.spec = spec

section Runs

variable {faulty : (op : Op) → Reply op → Prop} {reconciler : DiscoveryReconciler} {name : String}
  {state final : Cluster} {trace : List (Event Cluster Op Reply)}
  {outcome : Except String ReconcileResult}

theorem orderly_of_reconcile
    (run : Runs (Interfered (Calls .sourceDiscovery) (Serves faulty))
      (reconcile reconciler name).run state trace outcome final) :
    Orderly .sourceDiscovery name (Calls .sourceDiscovery) trace := by
  refine ⟨fun _ _ => Calls.succeeds, ?_⟩
  intro event member object creates
  obtain spares | ⟨_, _, _, _, _, _, _, _, records⟩ :=
    records_of_reconcile expected_of_interfered run
  · have spared := spares event member
    rw [creates] at spared
    exact spared
  · have recorded := records event member
    rw [creates] at recorded
    exact recorded

/-- Whatever other clients do during a cycle, short of creating the discovery anew: the
generation in an accepted status belongs to the spec of the attempt exactly if the last reply
to the calls that refresh the failure count, if any carries the discovery, still shows that
spec. -/
theorem discovery_generation_truthful_iff
    (run : Runs (Interfered (Calls .sourceDiscovery) (Serves faulty))
      (reconcile reconciler name).run state trace outcome final)
    {before after : Cluster} {asked object : DataPrepperSourceDiscovery}
    (accepted : discoveryAccepted before asked object after ∈ trace) :
    ∃ attempted found refreshing, attemptedVersion trace = some attempted ∧
      Refreshes (Interfered (Calls .sourceDiscovery) (Serves faulty)) reconciler trace attempted
        found refreshing ∧
      object.status.sources = recordedSources name found ∧
      (HasSpec name trace object.status.observedGeneration attempted.spec ↔
        lastSpec attempted.spec refreshing = attempted.spec) := by
  obtain spares |
    ⟨attempted, found, current, refreshing, version, refreshes, backed, lastly, records⟩ :=
    records_of_reconcile expected_of_interfered run
  · exact (spares _ accepted).elim
  obtain ⟨_, served, _⟩ : Interfered (Calls .sourceDiscovery) (Serves faulty) before
    (.updateStatus .sourceDiscovery asked) (.ok object) after := served_of_runs run _ accepted
  obtain ⟨generation, sources⟩ := records _ accepted
  rw [← status_of_updateStatus served] at generation sources
  refine ⟨attempted, found, refreshing, version, refreshes, sources, ?_⟩
  rw [generation, ← lastly]
  obtain ⟨_, stored, shown, storedGeneration, storedSpec⟩ := backed
  constructor
  · rintro ⟨other, shownToo, sameGeneration, sameSpec⟩
    rw [← storedSpec, ← sameSpec]
    exact spec_of_generation (orderly_of_reconcile run) run shown shownToo
      (storedGeneration.trans sameGeneration.symm)
  · intro same
    exact ⟨stored, shown, storedGeneration, storedSpec.trans same⟩

end Runs

/-- Two topics, and a discovery that failed before. -/
def afterFailure : Cluster :=
  let discovery : DataPrepperSourceDiscovery :=
    { topicDiscovery "v1" .delete with
      metadata := { (topicDiscovery "v1" .delete).metadata with
        annotations := (∅ : GoMap String).insert discoveryFailureCountKey "1" } }
  withTopics ["a", "b"] (Cluster.empty.create discovery).2

def onlyTopicB : DataPrepperSourceDiscoverySpec :=
  { (topicDiscovery "v1" .delete).spec with
    kafka := (topicDiscovery "v1" .delete).spec.kafka.map fun kafka =>
      { kafka with topicSelector := { kafka.topicSelector with topicPrefix := "b" } } }

/-- A user narrows the selector after the topics are listed. -/
def narrow : Op → Cluster → Cluster
  | .kafkaListTopics _, cluster =>
      match cluster.find .sourceDiscovery "topics" with
      | none => cluster
      | some stored =>
          (cluster.answer (.update .sourceDiscovery { stored with spec := onlyTopicB })).2
  | _, cluster => cluster

theorem interference_of_narrow (op : Op) (cluster : Cluster) :
    Relation.ReflTransGen (Calls .sourceDiscovery) cluster (narrow op cluster) := by
  unfold narrow
  split
  · split
    next => exact .refl
    next => exact .single ⟨_, _, by simp, cluster.answer_honest _⟩
  · exact .refl

/-- The stored version has the reported generation and another spec than the attempt. -/
def misreports (attempted : Option DataPrepperSourceDiscovery) : Event Cluster Op Reply → Bool
  | ⟨before, .updateStatus .sourceDiscovery _, .ok object, _⟩ =>
      (before.find .sourceDiscovery "topics").any fun stored =>
        decide (stored.metadata.generation = object.status.observedGeneration) &&
          attempted.any fun version => decide (stored.spec ≠ version.spec)
  | _ => false

theorem exists_of_misreports (trace : List (Event Cluster Op Reply))
    (wrongly : trace.any (misreports (attemptedVersion trace)) = true) :
    ∃ before asked object after attempted stored,
      discoveryAccepted before asked object after ∈ trace ∧
      attemptedVersion trace = some attempted ∧
      before.find .sourceDiscovery "topics" = some stored ∧
      stored.metadata.generation = object.status.observedGeneration ∧
      stored.spec ≠ attempted.spec := by
  obtain ⟨event, member, wrong⟩ := List.any_eq_true.mp wrongly
  unfold misreports at wrong
  split at wrong
  next before asked object after =>
    cases found : before.find .sourceDiscovery "topics" with
    | none => simp [found] at wrong
    | some stored =>
        cases version : attemptedVersion trace with
        | none => simp [found, version] at wrong
        | some attempted =>
            simp only [found, version, Option.any_some, Bool.and_eq_true, decide_eq_true_eq]
              at wrong
            exact ⟨before, asked, object, after, attempted, stored, member, rfl, found, wrong⟩
  next => cases wrong

theorem discovery_generation_misreported :
    ∃ trace outcome final before asked object after attempted,
      Runs (Interfered (Calls .sourceDiscovery) Reliable)
        (reconcile sampleDiscoveryReconciler "topics").run afterFailure trace outcome final ∧
      discoveryAccepted before asked object after ∈ trace ∧
      attemptedVersion trace = some attempted ∧
      ¬HasSpec "topics" trace object.status.observedGeneration attempted.spec := by
  have run : Runs (Interfered (Calls .sourceDiscovery) Reliable) _ _ _ _ _ :=
    runs_amid interference_of_narrow (reconcile sampleDiscoveryReconciler "topics").run afterFailure
  obtain ⟨before, asked, object, after, attempted, stored, member, version, found, generation,
    different⟩ := exists_of_misreports ((reconcile sampleDiscoveryReconciler "topics").run.trace
      (Cluster.answerAmid narrow) afterFailure) (by decide +kernel)
  refine ⟨_, _, _, before, asked, object, after, attempted, run, member, version, ?_⟩
  rintro ⟨other, shown, otherGeneration, otherSpec⟩
  apply different
  rw [← otherSpec]
  exact spec_of_generation (orderly_of_reconcile run) run ⟨_, member, .inl found⟩ shown
    (generation.trans otherGeneration.symm)

theorem discovery_generation_truthful_narrowed :
    ∃ trace outcome final before asked object after attempted found refreshing,
      Runs (Interfered (Calls .sourceDiscovery) Reliable)
        (reconcile sampleDiscoveryReconciler "topics").run afterFailure trace outcome final ∧
      discoveryAccepted before asked object after ∈ trace ∧
      attemptedVersion trace = some attempted ∧
      Refreshes (Interfered (Calls .sourceDiscovery) Reliable) sampleDiscoveryReconciler trace
        attempted found refreshing ∧
      (HasSpec "topics" trace object.status.observedGeneration attempted.spec ↔
        lastSpec attempted.spec refreshing = attempted.spec) := by
  have run : Runs (Interfered (Calls .sourceDiscovery) Reliable) _ _ _ _ _ :=
    runs_amid interference_of_narrow (reconcile sampleDiscoveryReconciler "topics").run afterFailure
  obtain ⟨before, asked, object, after, _, _, member, _⟩ :=
    exists_of_misreports ((reconcile sampleDiscoveryReconciler "topics").run.trace
      (Cluster.answerAmid narrow) afterFailure) (by decide +kernel)
  obtain ⟨attempted, found, refreshing, version, refreshes, _, truthful⟩ :=
    discovery_generation_truthful_iff run member
  exact ⟨_, _, _, before, asked, object, after, attempted, found, refreshing, run, member, version,
    refreshes, truthful⟩

end DataPrepperOperator.Controller.SourceDiscovery
