import DataPrepperOperator.Controller.DiscoveryGeneration
import DataPrepperOperator.Controller.Polling

/-!
# Counting failures

A discovery step that fails raises a counter in an annotation, one that succeeds removes it.
The counter is read, changed and written again while users edit the rest of the object.
-/

namespace DataPrepperOperator.Controller.SourceDiscovery

open ServerProgram DataPrepperOperator.Api DataPrepperOperator.Discovery Relation

/-- The text of the counter, if there is one. -/
def failureText (discovery : DataPrepperSourceDiscovery) : Option String :=
  discovery.metadata.annotations.lookup discoveryFailureCountKey

/-- The counter of so many failures; none are not written down. -/
def countText : Nat → Option String
  | 0 => none
  | failures + 1 => some (toString ((failures + 1 : Nat) : Int))

theorem failureText_incrementFailureCount (discovery : DataPrepperSourceDiscovery) :
    failureText (incrementFailureCount discovery).1 =
      some (toString (incrementFailureCount discovery).2) := by
  simp [failureText, incrementFailureCount]

theorem failureText_resetFailureCount (discovery : DataPrepperSourceDiscovery) :
    failureText (resetFailureCount discovery) = none := by
  simp [failureText, resetFailureCount]

/-- Only no failures are not written down. -/
theorem countText_of_failureFree {discovery : DataPrepperSourceDiscovery} {failures : Nat}
    (counted : failureText discovery = countText failures) (clear : FailureFree discovery) :
    countText failures = none := by
  unfold failureText at counted
  unfold FailureFree at clear
  rw [counted] at clear
  cases failures with
  | zero => rfl
  | succ failures => exact absurd clear (GoText.toString_ne_empty (failures + 1))

/-- The counter is a 64-bit number. -/
theorem incrementFailureCount_of_countText {discovery : DataPrepperSourceDiscovery}
    {failures : Nat} (counted : failureText discovery = countText failures)
    (fits : failures < 2 ^ 63) :
    (incrementFailureCount discovery).2 = GoText.toInt (failures + 1) := by
  unfold failureText at counted
  unfold incrementFailureCount
  rw [counted]
  cases failures with
  | zero => rfl
  | succ failures =>
      rw [countText, Option.getD_some, GoText.atoi_toString (by omega) (by omega)]

theorem toInt_of_lt {number : Int} (lower : -2 ^ 63 ≤ number) (upper : number < 2 ^ 63) :
    GoText.toInt number = number := by
  unfold GoText.toInt
  omega

/-- The discovery is stored, is not being deleted and has this counter. -/
def Counts (name : String) (text : Option String) (cluster : Cluster) : Prop :=
  ∃ stored, cluster.find .sourceDiscovery name = some stored ∧
    stored.metadata.deleting = false ∧ failureText stored = text

/-- Others do as they like, but neither delete the discovery nor touch its counter. -/
def EditsOthers (name : String) (before after : Cluster) : Prop :=
  ∀ text, Counts name text before → Counts name text after

/-- Anything may fail, and the discovery is edited between any two calls. -/
abbrev Shared (name : String) (faulty : (op : Op) → Reply op → Prop) :
    Server Cluster Op Reply :=
  Interfered (EditsOthers name) (Serves faulty)

/-- An update that is answered with a conflict has not been made. -/
def ConflictHonest (faulty : (op : Op) → Reply op → Prop) : Prop :=
  ∀ (kind : Kind) (object : Object kind) (conflicting : Kind) (name : String),
    ¬faulty (.update kind object) (.error (.conflict conflicting name))

/-- The operation leaves the annotations of the discovery alone. -/
def Harmless (name : String) : Op → Prop
  | .updateStatus .sourceDiscovery _ => True
  | op => op.target ≠ some (.sourceDiscovery, name)

theorem harmless_of_read {name : String} (op : Op) (reads : op.target = none) :
    Harmless name op := by
  unfold Harmless
  split
  · trivial
  · simp [reads]

theorem harmless_of_child {name : String} (op : Op) (child : String)
    (target : op.target = some (.pipeline, child)) : Harmless name op := by
  unfold Harmless
  split
  · trivial
  · simp [target]

section Counts

variable {faulty : (op : Op) → Reply op → Prop} {name : String} {text : Option String}
  {before after state final : Cluster} {trace : List (Event Cluster Op Reply)}

theorem Counts.of_interference (counts : Counts name text before)
    (interference : ReflTransGen (EditsOthers name) before after) : Counts name text after :=
  stable_of_interference (fun _ _ edits => edits text) interference counts

theorem Counts.of_find (counts : Counts name text before)
    (same : after.find .sourceDiscovery name = before.find .sourceDiscovery name) :
    Counts name text after := by
  unfold Counts at counts ⊢
  rwa [same]

theorem counts_of_harmless_call {op : Op} {reply : Reply op} (harmless : Harmless name op)
    (counts : Counts name text before) (served : Serves faulty before op reply after) :
    Counts name text after := by
  by_cases untouched : op.target ≠ some (.sourceDiscovery, name)
  · exact counts.of_find (served.frame untouched)
  · unfold Harmless at harmless
    split at harmless
    next object =>
      obtain rfl | ⟨stored, found, rfl⟩ := served.updateStatus_cases
      · exact counts
      · obtain rfl : object.name = name := by
          simpa [Op.target] using untouched
        obtain ⟨present, foundBefore, live, counted⟩ := counts
        obtain rfl := Option.some.inj (found.symm.trans foundBefore)
        have named : stored.name = object.name := Cluster.name_of_find found
        rw [← named]
        exact ⟨_, Cluster.find_commit_same before { stored with status := object.status }, live,
          counted⟩
    · exact absurd harmless untouched

theorem counts_of_harmless {Result : Type} {program : Program Op Reply Result} {result : Result}
    (run : Runs (Shared name faulty) program state trace result final)
    (harmless : ∀ event ∈ trace, Harmless name event.op) (counts : Counts name text state) :
    Counts name text final := by
  refine runs_chain (fun first second => Counts name text first → Counts name text second)
    (fun _ => id) (fun first second => second ∘ first) run ?_ counts
  intro event member counted
  obtain ⟨between, served, interference⟩ := served_of_runs run event member
  exact (counts_of_harmless_call (harmless event member) counted served).of_interference
    interference

/-- An accepted update stores the counter it carries. -/
theorem counts_of_update {asked stored : DataPrepperSourceDiscovery} (named : asked.name = name)
    (counts : Counts name text before)
    (served : Serves faulty before (.update .sourceDiscovery asked) (.ok stored) after) :
    Counts name (failureText asked) after ∧ stored.name = name ∧
      failureText stored = failureText asked := by
  subst named
  obtain ⟨present, found, live, _⟩ := counts
  obtain ⟨current, foundCurrent, _, replaces⟩ := served.replaces_of_update
  obtain rfl := Option.some.inj (foundCurrent.symm.trans found)
  have named : current.name = asked.name := Cluster.name_of_find found
  rw [← named] at found ⊢
  obtain left | ⟨deleting, _⟩ := replaces.find found rfl
  · obtain ⟨_, rfl⟩ := replaces.returns
    exact ⟨⟨_, left, live, rfl⟩, rfl, rfl⟩
  · cases live.symm.trans deleting

theorem unchanged_of_conflict {asked : DataPrepperSourceDiscovery} {conflicting : Kind}
    {conflictingName : String} (honest : ConflictHonest faulty)
    (served : Serves faulty before (.update .sourceDiscovery asked)
      (.error (.conflict conflicting conflictingName)) after) : after = before := by
  have effect : (Except.error _, after) = before.update asked :=
    served.honest_of_genuine (honest _ _ _ _)
  obtain ⟨_, refused⟩ | ⟨_, _, _, accepted, _⟩ :=
    before.overwrite_cases asked (Cluster.updated · asked)
  · exact (Prod.mk.inj (effect.trans refused)).2
  · cases effect.trans accepted

section Storing

variable {change : DataPrepperSourceDiscovery → DataPrepperSourceDiscovery}
  {changed : Option String} {discovery : DataPrepperSourceDiscovery} {attempt : Attempt}

/-- One attempt to write the counter, as it may end. -/
structure Attempted (name : String) (text changed : Option String) (attempt : Attempt)
    (final : Cluster) : Prop where
  named : attempt.1.name = name
  succeeded : attempt.2 = .ok () → Counts name changed final
  conflicted : ∀ kind conflicting, attempt.2 = .error (.conflict kind conflicting) →
    Counts name text final

theorem attempted_of_storeFresh (honest : ConflictHonest faulty)
    (keepsName : ∀ object, (change object).name = object.name)
    (changes : ∀ object, failureText object = text → failureText (change object) = changed)
    (named : discovery.name = name) (counts : Counts name text state)
    (run : Runs (Shared name faulty) (storeFresh Client.update change discovery) state trace attempt
      final) :
    Attempted name text changed attempt final := by
  obtain ⟨_, middle, reply, rest, rfl, reading, continued⟩ := runs_bind_iff.mp run
  obtain ⟨⟨read, served, interference⟩, rfl⟩ := runs_request_iff.mp reading
  have unchanged := served.unchanged rfl
  subst unchanged
  have countsRead := counts.of_interference interference
  cases reply with
  | error error =>
      obtain ⟨rfl, rfl, rfl⟩ := runs_done_iff.mp continued
      exact ⟨named, by simp, fun _ _ _ => countsRead⟩
  | ok fresh =>
      obtain ⟨stored, found, _, counted⟩ := counts
      have foundFresh := served.find_of_get.1
      rw [named] at foundFresh
      obtain rfl := Option.some.inj (found.symm.trans foundFresh)
      have freshName : stored.name = name := Cluster.name_of_find found
      have changedName : (change stored).name = name := (keepsName stored).trans freshName
      obtain ⟨_, last, reply, rest, rfl, updating, finished⟩ := runs_bind_iff.mp continued
      obtain ⟨⟨between, update, edits⟩, rfl⟩ := runs_request_iff.mp updating
      cases reply with
      | error error =>
          obtain ⟨rfl, rfl, rfl⟩ := runs_done_iff.mp finished
          refine ⟨changedName, by simp, ?_⟩
          intro kind conflicting same
          cases same
          obtain rfl := unchanged_of_conflict honest update
          exact countsRead.of_interference edits
      | ok object =>
          obtain ⟨rfl, rfl, rfl⟩ := runs_done_iff.mp finished
          obtain ⟨countsAfter, objectName, _⟩ := counts_of_update changedName countsRead update
          rw [changes stored counted] at countsAfter
          exact ⟨objectName, fun _ => countsAfter.of_interference edits, by simp⟩

/-- However often the update conflicts, the counter is changed once. -/
theorem counts_of_retryAssigning (honest : ConflictHonest faulty)
    (keepsName : ∀ object, (change object).name = object.name)
    (changes : ∀ object, failureText object = text → failureText (change object) = changed)
    {further : Nat} (named : discovery.name = name) (counts : Counts name text state)
    (run : Runs (Shared name faulty)
      (retryAssigning (storeFresh Client.update change) further discovery) state trace attempt
      final)
    (succeeded : attempt.2 = .ok ()) : Counts name changed final := by
  induction further generalizing discovery state trace with
  | zero =>
      exact (attempted_of_storeFresh honest keepsName changes named counts run).succeeded succeeded
  | succ further ih =>
      obtain ⟨first, middle, tried, second, rfl, ran, continued⟩ := runs_bind_iff.mp run
      have attempted := attempted_of_storeFresh honest keepsName changes named counts ran
      split at continued
      next kind conflicting conflict =>
        exact ih attempted.named (attempted.conflicted _ _ conflict) continued
      · obtain ⟨_, rfl, rfl⟩ := runs_done_iff.mp continued
        exact attempted.succeeded succeeded

end Storing

theorem counts_of_ensureFinalizer {fetched discovery : DataPrepperSourceDiscovery}
    (named : fetched.name = name) (counted : failureText fetched = text)
    (counts : Counts name text state)
    (run : Runs (Shared name faulty) (ensureFinalizer fetched).run state trace (.ok discovery)
      final) :
    Counts name text final ∧ discovery.name = name ∧ failureText discovery = text := by
  unfold ensureFinalizer at run
  split at run
  · obtain ⟨_, same, rfl⟩ := runs_pure_iff.mp run
    cases same
    exact ⟨counts, named, counted⟩
  · obtain ⟨⟨between, served, interference⟩, _⟩ :=
      runs_request_iff.mp (runs_callApi_ok (runs_wrapError_ok run))
    obtain ⟨countsAfter, discoveryName, discoveryText⟩ :=
      counts_of_update (by exact named) counts served
    have kept : ∀ finalizers, failureText ({ fetched with metadata := { fetched.metadata with
        finalizers := finalizers } } : DataPrepperSourceDiscovery) = text := fun _ => counted
    rw [kept] at countsAfter discoveryText
    exact ⟨countsAfter.of_interference interference, discoveryName, discoveryText⟩

end Counts

/-- A failure is written down, on top of what is stored by then. -/
def countFailure (discovery : DataPrepperSourceDiscovery) : Program Op Reply Attempt :=
  retryAssigning (storeFresh Client.update fun fresh => (incrementFailureCount fresh).1)
    defaultRetries (incrementFailureCount discovery).1

def forgetFailures (discovery : DataPrepperSourceDiscovery) : Program Op Reply Attempt :=
  retryAssigning (storeFresh Client.update resetFailureCount) defaultRetries discovery

def reportError (discovery : DataPrepperSourceDiscovery) (message : String) :
    Program Op Reply Attempt := do
  let now ← Client.now
  updateDiscoveryStatus (buildDiscoveryStatus discovery .error [] message now)

/-- What follows a discovery step that succeeds. -/
def reconcileChildren (reconciler : DiscoveryReconciler) (current : DataPrepperSourceDiscovery)
    (sources : List DiscoveredSource) : Reconciler ReconcileResult := do
  let rollout ← reconcilePipelines reconciler current sources
  cleanupOrphans current sources
  report reconciler current sources rollout

/-- A reconcile has come to its discovery step. -/
def Begins (server : Server Cluster Op Reply) (reconciler : DiscoveryReconciler) (name : String)
    (before : Cluster) (discovery : DataPrepperSourceDiscovery)
    (discover : Reconciler (List DiscoveredSource)) (ready : Cluster) : Prop :=
  ∃ fetched read prepared, server before (.get .sourceDiscovery name) (.ok fetched) read ∧
    fetched.metadata.deleting = false ∧
    Runs server (ensureFinalizer fetched).run read prepared (.ok discovery) ready ∧
    discoverSources reconciler discovery.spec = some discover

/-- One reconcile whose discovery step failed (or did not) and whose counter was written,
if it had to be. -/
inductive Cycle (server : Server Cluster Op Reply) (reconciler : DiscoveryReconciler)
    (name : String) (before : Cluster) :
    Bool → Except String ReconcileResult → Cluster → Prop where
  | failed {discovery stored discover message attempt ready between counted after tried persisting
        reporting} :
      Begins server reconciler name before discovery discover ready →
      Runs server discover.run ready tried (.error message) between →
      Runs server (countFailure discovery) between persisting (stored, .ok ()) counted →
      Runs server (reportError stored message) counted reporting attempt after →
      Cycle server reconciler name before true
        (.ok { requeueAfter := discoveryBackoff (incrementFailureCount discovery).2 }) after
  | succeeded {discovery discover sources outcome ready between after tried later} :
      Begins server reconciler name before discovery discover ready →
      Runs server discover.run ready tried (.ok sources) between →
      FailureFree discovery →
      Runs server (reconcileChildren reconciler discovery sources).run between later outcome
        after →
      Cycle server reconciler name before false outcome after
  | recovered {discovery current discover sources outcome ready between cleared after tried
        persisting later} :
      Begins server reconciler name before discovery discover ready →
      Runs server discover.run ready tried (.ok sources) between →
      ¬FailureFree discovery →
      Runs server (forgetFailures discovery) between persisting (current, .ok ()) cleared →
      Runs server (reconcileChildren reconciler current sources).run cleared later outcome after →
      Cycle server reconciler name before false outcome after

/-- The counter could not be written. -/
def GaveUp (server : Server Cluster Op Reply) (discovery : DataPrepperSourceDiscovery)
    (trace : List (Event Cluster Op Reply)) : Prop :=
  ∃ earlier persisting later before after stored error, trace = earlier ++ (persisting ++ later) ∧
    (Runs server (countFailure discovery) before persisting (stored, .error error) after ∨
      Runs server (forgetFailures discovery) before persisting (stored, .error error) after)

section Cycle

variable {server : Server Cluster Op Reply} {reconciler : DiscoveryReconciler} {name : String}
  {before ready after : Cluster} {discovery : DataPrepperSourceDiscovery}
  {discover : Reconciler (List DiscoveredSource)} {trace : List (Event Cluster Op Reply)}
  {outcome : Except String ReconcileResult}

theorem reportFailure_eq (discovery : DataPrepperSourceDiscovery) (message : String) :
    reportFailure discovery message = (do
      let persisted ← countFailure discovery
      let _ ← reportError persisted.1 message
      pure { requeueAfter := discoveryBackoff (incrementFailureCount discovery).2 }) :=
  rfl

/-- What begins goes on with the cycle. -/
theorem Begins.runs (begins : Begins server reconciler name before discovery discover ready)
    (run : Runs server (runCycle reconciler discovery discover).run ready trace outcome after) :
    ∃ trace, Runs server (reconcile reconciler name).run before trace outcome after := by
  obtain ⟨fetched, read, prepared, served, live, ensuring, chosen⟩ := begins
  have living : Runs server (reconcileLive reconciler fetched).run read (prepared ++ trace) outcome
      after := by
    refine runs_fallible_bind_iff.mpr (.inr ⟨prepared, ready, discovery, trace, rfl, ensuring, ?_⟩)
    rw [chosen]
    exact run
  refine ⟨_, runs_call_iff.mpr ⟨.ok fetched, read, prepared ++ trace, served, rfl, ?_⟩⟩
  have continues : Runs server (if fetched.metadata.deleting then finalize fetched
      else reconcileLive reconciler fetched).run read (prepared ++ trace) outcome after := by
    rw [live]
    exact living
  exact continues

theorem runs_reportFailure {message : String} {stored : DataPrepperSourceDiscovery}
    {ended : Except ApiError Unit} {attempt : Attempt} {state counted final : Cluster}
    {persisting reporting : List (Event Cluster Op Reply)}
    (persisted : Runs server (countFailure discovery) state persisting (stored, ended) counted)
    (reported : Runs server (reportError stored message) counted reporting attempt final) :
    Runs server (reportFailure discovery message) state (persisting ++ (reporting ++ []))
      { requeueAfter := discoveryBackoff (incrementFailureCount discovery).2 } final := by
  rw [reportFailure_eq]
  exact runs_bind_iff.mpr ⟨_, _, _, _, rfl, persisted,
    runs_bind_iff.mpr ⟨_, _, _, _, rfl, reported, .done⟩⟩

theorem runs_clearFailures_of_free (clear : FailureFree discovery) (state : Cluster) :
    Runs server (clearFailures discovery) state [] discovery state := by
  unfold FailureFree at clear
  unfold clearFailures
  rw [if_pos clear]
  exact .done

theorem runs_clearFailures_of_counted (counted : ¬FailureFree discovery)
    {current : DataPrepperSourceDiscovery} {ended : Except ApiError Unit} {state final : Cluster}
    (persisted : Runs server (forgetFailures discovery) state trace (current, ended) final) :
    Runs server (clearFailures discovery) state (trace ++ []) current final := by
  unfold FailureFree at counted
  unfold clearFailures
  rw [if_neg counted]
  exact runs_bind_iff.mpr ⟨_, _, _, _, rfl, persisted, .done⟩

/-- A cycle is a run of `Reconcile`. -/
theorem Cycle.runs {failed : Bool}
    (cycle : Cycle server reconciler name before failed outcome after) :
    ∃ trace, Runs server (reconcile reconciler name).run before trace outcome after := by
  cases cycle with
  | failed begins discovered persisted reported =>
      have reporting := runs_reportFailure persisted reported
      exact begins.runs (runs_lift_then discovered (runs_lift_iff.mpr ⟨_, rfl, reporting⟩))
  | succeeded begins discovered clear reconciling =>
      exact begins.runs (runs_lift_then discovered
        (runs_lift_then (runs_clearFailures_of_free clear _) reconciling))
  | recovered begins discovered counted persisted reconciling =>
      exact begins.runs (runs_lift_then discovered
        (runs_lift_then (runs_clearFailures_of_counted counted persisted) reconciling))

/-- Once it has begun, a run of `Reconcile` is a cycle, if the counter can be written. -/
theorem cycle_of_runCycle
    (begins : Begins server reconciler name before discovery discover ready)
    (run : Runs server (runCycle reconciler discovery discover).run ready trace outcome after) :
    (∃ failed, Cycle server reconciler name before failed outcome after) ∨
      GaveUp server discovery trace := by
  obtain ⟨tried, between, found, rest, rfl, discovered, continued⟩ := runs_lift_bind run
  cases found with
  | error message =>
      obtain ⟨result, rfl, reported⟩ := runs_lift_iff.mp continued
      rw [reportFailure_eq] at reported
      obtain ⟨persisting, counted, stored, _, rfl, persisted, reporting⟩ :=
        runs_bind_iff.mp reported
      obtain ⟨stored, ended⟩ := stored
      cases ended with
      | error error => exact .inr ⟨tried, persisting, _, _, _, stored, error, rfl, .inl persisted⟩
      | ok _ =>
          obtain ⟨_, _, attempt, _, _, told, finished⟩ := runs_bind_iff.mp reporting
          obtain ⟨_, rfl, rfl⟩ := runs_done_iff.mp finished
          exact .inl ⟨true, .failed begins discovered persisted told⟩
  | ok sources =>
      obtain ⟨clearing, cleared, current, later, rfl, ran, reconciling⟩ := runs_lift_bind continued
      unfold clearFailures at ran
      split at ran
      next clear =>
        obtain ⟨_, rfl, rfl⟩ := runs_done_iff.mp ran
        exact .inl ⟨false, .succeeded begins discovered clear reconciling⟩
      next counted =>
        obtain ⟨persisting, _, stored, _, rfl, persisted, finished⟩ := runs_bind_iff.mp ran
        obtain ⟨rfl, rfl, rfl⟩ := runs_done_iff.mp finished
        obtain ⟨stored, ended⟩ := stored
        rw [List.append_nil]
        cases ended with
        | error error =>
            exact .inr ⟨tried, persisting, later, _, _, stored, error, rfl, .inr persisted⟩
        | ok _ => exact .inl ⟨false, .recovered begins discovered counted persisted reconciling⟩

end Cycle

section Counting

variable {faulty : (op : Op) → Reply op → Prop} {reconciler : DiscoveryReconciler} {name : String}
  {text : Option String} {before ready state final after : Cluster}
  {discovery : DataPrepperSourceDiscovery} {discover : Reconciler (List DiscoveredSource)}
  {trace : List (Event Cluster Op Reply)} {outcome : Except String ReconcileResult}

/-- A program that issues harmless operations keeps the counter. -/
theorem counts_of_issues {Result : Type} {good : Result → Prop} {program : Program Op Reply Result}
    {result : Result} (issues : Issues (Harmless name) Expected good program)
    (counts : Counts name text state)
    (run : Runs (Shared name faulty) program state trace result final) : Counts name text final :=
  counts_of_harmless run (issues.runs expected_of_interfered run).2 counts

theorem Begins.counts
    (begins : Begins (Shared name faulty) reconciler name before discovery discover ready)
    (counts : Counts name text before) :
    Counts name text ready ∧ discovery.name = name ∧ failureText discovery = text := by
  obtain ⟨fetched, read, prepared, ⟨between, served, interference⟩, _, ensuring, _⟩ := begins
  obtain ⟨found, rfl⟩ := served.find_of_get
  have countsRead := counts.of_interference interference
  obtain ⟨stored, foundStored, _, counted⟩ := counts
  obtain rfl := Option.some.inj (found.symm.trans foundStored)
  exact counts_of_ensureFinalizer (Cluster.name_of_find found) counted countsRead ensuring

theorem Begins.discovered {found : Except String (List DiscoveredSource)}
    (begins : Begins (Shared name faulty) reconciler name before discovery discover ready)
    (counts : Counts name text before)
    (run : Runs (Shared name faulty) discover.run ready trace found final) :
    Counts name text final ∧ discovery.name = name ∧ failureText discovery = text := by
  obtain ⟨countsReady, named, counted⟩ := begins.counts counts
  obtain ⟨_, _, _, _, _, _, chosen⟩ := begins
  exact ⟨counts_of_issues (issues_discoverSources harmless_of_read chosen) countsReady run, named,
    counted⟩

theorem harmless_updateDiscoveryStatus (discovery : DataPrepperSourceDiscovery) :
    Issues (Harmless name) Expected (fun _ => True) (updateDiscoveryStatus discovery) :=
  issues_updateDiscoveryStatus harmless_of_read (fun _ _ => id) fun _ _ _ => trivial

theorem harmless_reportError (discovery : DataPrepperSourceDiscovery) (message : String) :
    Issues (Harmless name) Expected (fun _ => True) (reportError discovery message) := by
  apply Issues.bind (issues_read harmless_of_read .now rfl)
  intro now _
  exact harmless_updateDiscoveryStatus _

theorem harmless_reconcileChildren (current : DataPrepperSourceDiscovery)
    (sources : List DiscoveredSource) :
    Issues (Harmless name) Expected (OnSuccess fun _ => True)
      (reconcileChildren reconciler current sources).run := by
  have children := writesChildren_of_target (@harmless_of_child name) current
  apply Issues.bind_fallible _ (issues_reconcilePipelines harmless_of_read (fun _ _ => id)
    children reconciler sources)
  intro rollout _
  apply Issues.bind_fallible _ (issues_cleanupOrphans harmless_of_read children sources)
  intro _ _
  apply Issues.bind_fallible _ (Issues.lift (issues_read harmless_of_read .now rfl))
  intro now _
  apply Issues.bind_fallible _ (Issues.lift (harmless_updateDiscoveryStatus _))
  intro stored _
  split <;> trivial

/-- A cycle that fails counts its failure once. -/
theorem Cycle.counts_failed {failures : Nat} (honest : ConflictHonest faulty)
    (cycle : Cycle (Shared name faulty) reconciler name before true outcome after)
    (fits : failures < 2 ^ 63) (counts : Counts name (countText failures) before) :
    Counts name (some (toString (GoText.toInt (failures + 1)))) after ∧
      outcome = .ok { requeueAfter := discoveryBackoff (GoText.toInt (failures + 1)) } := by
  have changes : ∀ object, failureText object = countText failures →
      failureText (incrementFailureCount object).1 =
        some (toString (GoText.toInt (failures + 1))) := by
    intro object counted
    rw [failureText_incrementFailureCount, incrementFailureCount_of_countText counted fits]
  cases cycle with
  | failed begins discovered persisted reported =>
      obtain ⟨countsTried, named, counted⟩ := begins.discovered counts discovered
      have countsAfter := counts_of_retryAssigning honest bookkeeping_incrementFailureCount.name
        changes (by exact named) countsTried persisted rfl
      refine ⟨counts_of_issues (harmless_reportError _ _) countsAfter reported, ?_⟩
      rw [incrementFailureCount_of_countText counted fits]

/-- A cycle that succeeds forgets the failures. -/
theorem Cycle.counts_succeeded {failures : Nat} (honest : ConflictHonest faulty)
    (cycle : Cycle (Shared name faulty) reconciler name before false outcome after)
    (counts : Counts name (countText failures) before) : Counts name none after := by
  cases cycle with
  | succeeded begins discovered clear reconciling =>
      obtain ⟨countsTried, _, counted⟩ := begins.discovered counts discovered
      rw [countText_of_failureFree counted clear] at countsTried
      exact counts_of_issues (harmless_reconcileChildren _ _) countsTried reconciling
  | recovered begins discovered _ persisted reconciling =>
      obtain ⟨countsTried, named, _⟩ := begins.discovered counts discovered
      have countsAfter := counts_of_retryAssigning honest bookkeeping_resetFailureCount.name
        (fun object _ => failureText_resetFailureCount object) named countsTried persisted rfl
      exact counts_of_issues (harmless_reconcileChildren _ _) countsAfter reconciling

end Counting

/-- Cycles of one discovery in turn, with edits in between: whether each cycle failed, and how
it ended. -/
inductive History (server : Server Cluster Op Reply) (reconciler : DiscoveryReconciler)
    (name : String) (start : Cluster) :
    List (Bool × Except String ReconcileResult) → Cluster → Prop where
  | start : History server reconciler name start [] start
  | edited {cycles before after} : History server reconciler name start cycles before →
      EditsOthers name before after → History server reconciler name start cycles after
  | cycle {cycles before failed outcome after} :
      History server reconciler name start cycles before →
      Cycle server reconciler name before failed outcome after →
      History server reconciler name start (cycles ++ [(failed, outcome)]) after

/-- The length of the current run of failures. -/
def consecutiveFailures (cycles : List (Bool × Except String ReconcileResult)) : Nat :=
  (cycles.reverse.takeWhile fun cycle => cycle.1).length

theorem consecutiveFailures_append (cycles : List (Bool × Except String ReconcileResult))
    (failed : Bool) (outcome : Except String ReconcileResult) :
    consecutiveFailures (cycles ++ [(failed, outcome)]) =
      if failed then consecutiveFailures cycles + 1 else 0 := by
  cases failed <;> simp [consecutiveFailures]

/-- The delay before the next attempt after so many failures. -/
def backoffAfter (failures : Nat) : Int :=
  min (30 * second * 2 ^ (failures - 1)) (5 * 60 * second)

theorem discoveryBackoff_eq (failures : Nat) :
    discoveryBackoff ((failures + 1 : Nat) : Int) = backoffAfter (failures + 1) := by
  unfold discoveryBackoff backoffAfter
  split
  next once =>
    obtain rfl : failures = 0 := by omega
    decide
  next =>
    have power : (((failures + 1 : Nat) : Int) - 1).toNat = failures + 1 - 1 := by omega
    rw [power]
    rfl

section Histories

variable {faulty : (op : Op) → Reply op → Prop} {reconciler : DiscoveryReconciler} {name : String}
  {start final : Cluster} {cycles : List (Bool × Except String ReconcileResult)}

theorem History.counts (honest : ConflictHonest faulty) (initially : Counts name none start)
    (history : History (Shared name faulty) reconciler name start cycles final)
    (fits : ∀ earlier, earlier <+: cycles → consecutiveFailures earlier < 2 ^ 63) :
    Counts name (countText (consecutiveFailures cycles)) final := by
  induction history with
  | start => exact initially
  | edited _ edits ih => exact edits _ (ih fits)
  | @cycle cycles before failed outcome after _ cycle ih =>
      have counts := ih fun earlier shorter =>
        fits earlier (shorter.trans (List.prefix_append _ _))
      have now := fits _ (List.prefix_refl _)
      rw [consecutiveFailures_append] at now ⊢
      cases failed with
      | false => exact cycle.counts_succeeded honest counts
      | true =>
          rw [if_pos rfl] at now ⊢
          have counted := (cycle.counts_failed honest (by omega) counts).1
          rwa [toInt_of_lt (by omega) (by omega)] at counted

/-- As long as they can be counted, the counter shows the failures since the last success, and
the k-th of them asks for the k-th delay. -/
theorem failures_counted (honest : ConflictHonest faulty) (initially : Counts name none start)
    (history : History (Shared name faulty) reconciler name start cycles final)
    (fits : ∀ earlier, earlier <+: cycles → consecutiveFailures earlier < 2 ^ 63) :
    Counts name (countText (consecutiveFailures cycles)) final ∧
      ∀ earlier outcome, earlier ++ [(true, outcome)] <+: cycles →
        outcome = .ok ⟨backoffAfter (consecutiveFailures (earlier ++ [(true, outcome)]))⟩ := by
  refine ⟨history.counts honest initially fits, ?_⟩
  induction history with
  | start =>
      intro earlier outcome shorter
      simp at shorter
  | edited _ edits ih => exact ih fits
  | @cycle cycles before failed outcome after history cycle ih =>
      have fitsBefore : ∀ earlier, earlier <+: cycles → consecutiveFailures earlier < 2 ^ 63 :=
        fun earlier shorter => fits earlier (shorter.trans (List.prefix_append _ _))
      intro earlier ended shorter
      obtain whole | within := List.prefix_concat_iff.mp shorter
      · obtain ⟨rfl, same⟩ := List.append_inj' whole rfl
        cases same
        have now := fits _ (List.prefix_refl _)
        rw [consecutiveFailures_append, if_pos rfl] at now ⊢
        have counts := history.counts honest initially fitsBefore
        rw [(cycle.counts_failed honest (by omega) counts).2, toInt_of_lt (by omega) (by omega),
          ← discoveryBackoff_eq]
        rfl
      · exact ih fitsBefore earlier ended within

end Histories

section Failing

variable {reconciler : DiscoveryReconciler} {base : DataPrepperSourceDiscovery}
  {text : Option String} {state start : Cluster}

theorem shared_of_reliable {name : String} {before after : Cluster} {op : Op} {reply : Reply op}
    (served : Reliable before op reply after) :
    Shared name (fun _ _ => False) before op reply after :=
  ⟨after, served, .refl⟩

/-- Some run in which nothing fails and nobody interferes. -/
theorem runs_alone {Result : Type} (name : String) (program : Program Op Reply Result)
    (state : Cluster) :
    ∃ trace result final, Runs Reliable program state trace result final ∧
      Runs (Shared name fun _ _ => False) program state trace result final := by
  obtain ⟨trace, run⟩ : ∃ trace, Runs Reliable program state trace _ _ :=
    runs_execute program state
  exact ⟨trace, _, _, run, runs_mono (fun _ _ _ _ => shared_of_reliable) run⟩

theorem tends_reportError {faulty : (op : Op) → Reply op → Prop}
    {discovery : DataPrepperSourceDiscovery} (same : SameSource discovery base)
    (message : String) :
    Tends faulty base (fun tried => SameSource tried.1 base) (reportError discovery message) := by
  apply tends_bind tends_now
  intro now _
  exact tends_updateDiscoveryStatus (sameSource_buildDiscoveryStatus same .error [] message now)

/-- Without a client factory a cycle can always fail once more. -/
theorem cycle_of_unconfigured (unconfigured : reconciler.adminClientFactory = false)
    (kafka : base.spec.kafka.isSome = true) (stored : StoredAs base state)
    (counts : Counts base.name text state) :
    ∃ outcome after, StoredAs base after ∧
      Cycle (Shared base.name fun _ _ => False) reconciler base.name state true outcome after := by
  obtain ⟨fetched, found, live, _⟩ := counts
  obtain ⟨same, _⟩ := stored fetched found
  have read : Reliable state (.get .sourceDiscovery base.name) (.ok fetched) state :=
    .honest ⟨by simp [Cluster.read, found], rfl⟩
  obtain ⟨_, ensured, ready, ensuring, ensuringShared⟩ :=
    runs_alone base.name (ensureFinalizer fetched).run state
  have foundFetched : state.find .sourceDiscovery fetched.name = some fetched := by
    rw [same.name, found]
  obtain ⟨discovery, rfl⟩ := succeeds_of_ensureFinalizer foundFetched ensuring
  obtain ⟨held, _⟩ := held_of_ensureFinalizer foundFetched live ensuring
  obtain ⟨_, storedReady, sameReady⟩ := tends_ensureFinalizer same _ _ _ _ stored ensuring
  obtain ⟨settings, configured⟩ := Option.isSome_iff_exists.mp kafka
  have chosen : discoverSources reconciler discovery.spec =
      some (discoverKafka reconciler settings) := by
    rw [sameReady.spec]
    unfold discoverSources
    rw [configured]
  have discovering : Runs (Shared base.name fun _ _ => False)
      (discoverKafka reconciler settings).run ready []
      (.error "kafka admin client factory not configured") ready := by
    unfold discoverKafka
    rw [if_pos unconfigured]
    exact .done
  obtain ⟨_, ⟨written, ended⟩, counted, persisting, persistingShared⟩ :=
    runs_alone base.name (countFailure discovery) ready
  have foundReady : ready.find .sourceDiscovery (incrementFailureCount discovery).1.name =
      some discovery := held.stored
  obtain ⟨succeeded, _⟩ := runs_persist foundReady rfl rfl persisting
  cases succeeded
  obtain ⟨_, storedCounted, sameCounted⟩ :=
    tends_persist (fun _ => sameSource_incrementFailureCount)
      (sameSource_incrementFailureCount sameReady) _ _ _ _ storedReady persisting
  obtain ⟨_, attempt, after, reporting, reportingShared⟩ :=
    runs_alone base.name (reportError written "kafka admin client factory not configured") counted
  obtain ⟨_, storedAfter, _⟩ := tends_reportError sameCounted _ _ _ _ _ storedCounted reporting
  have begins : Begins (Shared base.name fun _ _ => False) reconciler base.name state discovery
      (discoverKafka reconciler settings) ready :=
    ⟨fetched, state, _, shared_of_reliable read, live, ensuringShared, chosen⟩
  exact ⟨_, after, storedAfter, .failed begins discovering persistingShared reportingShared⟩

theorem consecutiveFailures_le (cycles : List (Bool × Except String ReconcileResult)) :
    consecutiveFailures cycles ≤ cycles.length := by
  unfold consecutiveFailures
  exact ((List.takeWhile_prefix _).length_le).trans_eq List.length_reverse

/-- So many failures in a row can happen. -/
theorem history_of_unconfigured (unconfigured : reconciler.adminClientFactory = false)
    (kafka : base.spec.kafka.isSome = true) (stored : StoredAs base start)
    (initially : Counts base.name none start) (failures : Nat) (fits : failures ≤ 2 ^ 63) :
    ∃ cycles final, History (Shared base.name fun _ _ => False) reconciler base.name start cycles
        final ∧ cycles.length = failures ∧ consecutiveFailures cycles = failures ∧
      StoredAs base final := by
  induction failures with
  | zero => exact ⟨[], start, .start, rfl, rfl, stored⟩
  | succ failures ih =>
      obtain ⟨cycles, before, history, length, consecutive, storedBefore⟩ :=
        ih (by omega)
      have counts := history.counts (by simp [ConflictHonest]) initially fun earlier shorter =>
        (consecutiveFailures_le earlier).trans_lt (shorter.length_le.trans_lt (by omega))
      obtain ⟨outcome, after, storedAfter, cycle⟩ :=
        cycle_of_unconfigured unconfigured kafka storedBefore counts
      refine ⟨_, after, history.cycle cycle, ?_, ?_, storedAfter⟩
      · rw [List.length_append, List.length_singleton, length]
      · rw [consecutiveFailures_append, if_pos rfl, consecutive]

theorem Counts.unique {name : String} {first second : Option String} {cluster : Cluster}
    (counts : Counts name first cluster) (again : Counts name second cluster) :
    first = second := by
  obtain ⟨stored, found, _, rfl⟩ := counts
  obtain ⟨other, foundAgain, _, rfl⟩ := again
  rw [Option.some.inj (found.symm.trans foundAgain)]

end Failing

/-- An operator that cannot reach the brokers. -/
def cutOffReconciler : DiscoveryReconciler :=
  { sampleDiscoveryReconciler with adminClientFactory := false }

/-- A discovery of topics that has not failed yet. -/
def uncounted : Cluster := quietCluster (topicDiscovery "v1" .delete) ""

theorem unconfigured_cutOffReconciler : cutOffReconciler.adminClientFactory = false := rfl

theorem counts_uncounted : Counts (topicDiscovery "v1" .delete).name none uncounted :=
  ⟨_, find_quietCluster _ _, rfl, rfl⟩

theorem storedAs_uncounted : StoredAs (topicDiscovery "v1" .delete) uncounted :=
  storedAs_of_find (find_quietCluster _ _)

/-- Two failures are counted, and the second asks for a minute. -/
theorem second_failure_counted :
    ∃ earlier outcome final, History (Shared "topics" fun _ _ => False) cutOffReconciler "topics"
        uncounted (earlier ++ [(true, outcome)]) final ∧
      Counts "topics" (some "2") final ∧ outcome = .ok ⟨60 * second⟩ := by
  obtain ⟨cycles, before, history, length, consecutive, stored⟩ :=
    history_of_unconfigured unconfigured_cutOffReconciler rfl storedAs_uncounted
      counts_uncounted 1 (by decide)
  have honest : ConflictHonest (fun _ _ => False) := by simp [ConflictHonest]
  have counts := history.counts honest counts_uncounted fun earlier shorter =>
    (consecutiveFailures_le earlier).trans_lt (shorter.length_le.trans_lt (by omega))
  obtain ⟨outcome, after, _, cycle⟩ :=
    cycle_of_unconfigured unconfigured_cutOffReconciler rfl stored counts
  have fits : ∀ earlier, earlier <+: cycles ++ [(true, outcome)] →
      consecutiveFailures earlier < 2 ^ 63 := by
    intro earlier shorter
    have short := shorter.length_le
    rw [List.length_append, length, List.length_singleton] at short
    exact (consecutiveFailures_le earlier).trans_lt (by omega)
  obtain ⟨counted, delays⟩ := failures_counted honest counts_uncounted (history.cycle cycle) fits
  have delay := delays cycles outcome (List.prefix_refl _)
  rw [consecutiveFailures_append, if_pos rfl, consecutive] at counted delay
  exact ⟨cycles, outcome, after, history.cycle cycle, counted, delay⟩

/-- After 2⁶³ failures in a row the counter turns negative. -/
theorem failures_overflow :
    ConflictHonest (fun _ _ => False) ∧ Counts "topics" none uncounted ∧
      ∃ cycles final, History (Shared "topics" fun _ _ => False) cutOffReconciler "topics"
          uncounted cycles final ∧
        ¬Counts "topics" (countText (consecutiveFailures cycles)) final := by
  have honest : ConflictHonest (fun _ _ => False) := by simp [ConflictHonest]
  refine ⟨honest, counts_uncounted, ?_⟩
  obtain ⟨failures, last⟩ : ∃ failures : Nat, failures + 1 = 2 ^ 63 := ⟨2 ^ 63 - 1, by decide⟩
  obtain ⟨cycles, before, history, length, consecutive, stored⟩ :=
    history_of_unconfigured unconfigured_cutOffReconciler rfl storedAs_uncounted
      counts_uncounted failures (by omega)
  have counts := history.counts honest counts_uncounted fun earlier shorter =>
    (consecutiveFailures_le earlier).trans_lt (shorter.length_le.trans_lt (by omega))
  obtain ⟨outcome, after, _, cycle⟩ :=
    cycle_of_unconfigured unconfigured_cutOffReconciler rfl stored counts
  rw [consecutive] at counts
  have counted := (cycle.counts_failed honest (by omega) counts).1
  refine ⟨_, after, history.cycle cycle, fun expected => ?_⟩
  rw [consecutiveFailures_append, if_pos rfl, consecutive] at expected
  have same := counted.unique expected
  have number : ((failures + 1 : Nat) : Int) = 2 ^ 63 := by omega
  rw [countText, number, Option.some.injEq] at same
  have wrapped : GoText.toInt (failures + 1) = -2 ^ 63 := by
    unfold GoText.toInt
    omega
  rw [wrapped] at same
  exact absurd same (by decide +kernel)

end DataPrepperOperator.Controller.SourceDiscovery
