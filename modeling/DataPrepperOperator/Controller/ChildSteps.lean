import DataPrepperOperator.Controller.Rollout

/-!
# The pipeline under one name in a cycle

A cycle may end after any of its calls.  Whatever its outcome, it brings the
pipeline under a name from one state to the next by writing the child of a source
or by cleaning up a child that no source keeps alive.
-/

namespace DataPrepperOperator.Controller.SourceDiscovery

open ServerProgram DataPrepperOperator.Api DataPrepperOperator.Discovery

variable {faulty : (op : Op) → Reply op → Prop}

/-- One write of a cycle, seen from one name. -/
inductive ChildStep (discovery : DataPrepperSourceDiscovery) (desired : GoMap Desired)
    (name : String) : Option DataPrepperPipeline → Option DataPrepperPipeline → Prop where
  | written {wanted : Desired} {before : Option DataPrepperPipeline}
      {after : DataPrepperPipeline} : desired.lookup name = some wanted →
      WrittenFrom discovery name wanted before after →
      ChildStep discovery desired name before (some after)
  | cleaned {child before : DataPrepperPipeline} {after : Option DataPrepperPipeline} :
      name ∉ desired → Labelled discovery.name child → CleanedFrom discovery child before after →
      ChildStep discovery desired name (some before) after

/-- A cycle that got to the children, with or without success. -/
structure Reshaped (reconciler : DiscoveryReconciler) (fetched : DataPrepperSourceDiscovery)
    (before after : Cluster) (sources : List DiscoveredSource) (desired : GoMap Desired)
    (existing : GoMap DataPrepperPipeline) (completed : Bool)
    (created updated : List (String × Desired)) : Prop where
  discovered : sourcesIn reconciler fetched.spec before = .ok sources
  built : desiredPipelines reconciler.toolkit fetched sources ∅ = .ok desired
  children : Children before fetched.name existing
  rolled : RolledOut desired existing completed created updated
  steps : ∃ current, SameSource current fetched ∧ ∀ name,
    Relation.ReflTransGen (ChildStep current desired name) (before.find .pipeline name)
      (after.find .pipeline name)
  frame : ∀ name ∈ desired, (∀ item ∈ created ++ updated, item.1 ≠ name) →
    after.find .pipeline name = before.find .pipeline name

/-- The child that a name stands for; of several sources with one name the last counts. -/
def wantedChild (toolkit : Toolkit) (base : DataPrepperSourceDiscovery)
    (sources : List DiscoveredSource) (name : String) : Option Desired :=
  match desiredPipelines toolkit base sources ∅ with
  | .ok desired => desired.lookup name
  | .error _ => none

theorem wantedChild_of_built {toolkit : Toolkit} {base : DataPrepperSourceDiscovery}
    {sources : List DiscoveredSource} {desired : GoMap Desired}
    (built : desiredPipelines toolkit base sources ∅ = .ok desired) (name : String) :
    wantedChild toolkit base sources name = desired.lookup name := by
  unfold wantedChild
  rw [built]

section Cycle

variable {reconciler : DiscoveryReconciler} {fetched : DataPrepperSourceDiscovery}
  {state final : Cluster} {trace : List (Event Cluster Op Reply)}
  {outcome : Except String ReconcileResult}

theorem mem_desired_iff_active {toolkit : Toolkit} {base : DataPrepperSourceDiscovery}
    {sources : List DiscoveredSource} {desired : GoMap Desired}
    (built : desiredPipelines toolkit base sources ∅ = .ok desired) {name : String} :
    name ∈ desired ↔ name ∈ activeNames base.name sources := by
  rw [mem_desiredPipelines built]
  simp [activeNames, eq_comm, Finmap.notMem_empty]

/-- The events of a cycle only write pipelines and the discovery itself. -/
theorem secrets_of_cycle {name : String}
    (stored : state.find .sourceDiscovery name = some fetched)
    (live : fetched.metadata.deleting = false)
    (run : Runs (Serves faulty) (reconcile reconciler name).run state trace outcome final)
    (secret : String) : final.find .secret secret = state.find .secret secret := by
  cases course_of_runs stored live run with
  | idle _ _ _ _ _ elsewhere => exact elsewhere.inputs.secrets secret
  | found _ _ _ same _ storedAs elsewhere children =>
      obtain ⟨_, _, _, _, _, _, _, _, _, _, phases⟩ := phases_of_runs same storedAs children
      rw [phases.elsewhere.inputs.secrets, phases.cleaning.frame (by simp)]
      obtain ⟨_, _, _, _, rfl⟩ | ⟨_, _, _, _, _, _, _, _, writes⟩ :=
        runs_reconcilePipelines phases.rolling
      · exact elsewhere.inputs.secrets secret
      · rw [writes.frame (by simp)]
        exact elsewhere.inputs.secrets secret

/-- What a cycle of a discovery that is not being deleted does, with any call failing. -/
theorem reshaped_of_runs {name : String}
    (stored : state.find .sourceDiscovery name = some fetched)
    (live : fetched.metadata.deleting = false)
    (run : Runs (Serves faulty) (reconcile reconciler name).run state trace outcome final) :
    (∀ child, final.find .pipeline child = state.find .pipeline child) ∨
      ∃ sources desired existing completed created updated,
        Reshaped reconciler fetched state final sources desired existing completed created
          updated := by
  cases course_of_runs stored live run with
  | idle _ _ _ _ _ elsewhere =>
      exact .inl fun child => elsewhere.find .pipeline child (by simp)
  | @found sources current start _ _ _ _ discovered same _ storedAs elsewhere children =>
      obtain ⟨_, rollout, _, _, _, between, afterwards, items, _, _, phases⟩ :=
        phases_of_runs same storedAs children
      have before : ∀ child, start.find .pipeline child = state.find .pipeline child :=
        fun child => elsewhere.find .pipeline child (by simp)
      have after : ∀ child, final.find .pipeline child = afterwards.find .pipeline child :=
        fun child => phases.elsewhere.find .pipeline child (by simp)
      obtain ⟨_, _, rfl, _, rfl⟩ | ⟨desired, existing, created, updated, built, childrenAt,
        rolledOut, _, writes⟩ := runs_reconcilePipelines phases.rolling
      · left
        intro child
        have nothing := (phases.ready rfl).1
        rw [after, phases.cleaning.frame (by simp [nothing]), before]
      · have active : ∀ child, child ∈ desired ↔ child ∈ activeNames current.name sources :=
          fun child => mem_desired_iff_active built
        rw [same.desiredPipelines] at built
        refine .inr ⟨sources, desired, existing, _, created, updated, discovered, built, ?_,
          rolledOut, ⟨current, same, ?_⟩, ?_⟩
        · intro child pipeline
          rw [← before, ← same.name]
          exact childrenAt child pipeline
        · intro child
          rw [after, ← before]
          apply phases.cleaning.keeps
          · intro item member named earlier later held cleaned
            obtain ⟨_, labelled, inactive⟩ := phases.inactive item member
            rw [named, ← active] at inactive
            exact held.tail (.cleaned inactive labelled cleaned)
          · apply writes.keeps
            · exact fun wanted member _ _ held written =>
                held.tail (.written (rolledOut.consistent _ member) written)
            · exact .refl
        · intro child wanted unwritten
          have kept : ∀ item ∈ items, (Kind.pipeline, child) ≠ (Kind.pipeline, item.name) := by
            rintro item member ⟨⟩
            exact (phases.inactive item member).2.2 ((active _).mp wanted)
          rw [after, phases.cleaning.frame kept, writes.frame, before]
          rintro item member ⟨⟩
          exact unwritten item member rfl

/-- What a cycle leaves as it is. -/
theorem kept_of_runs {name : String}
    (stored : state.find .sourceDiscovery name = some fetched)
    (live : fetched.metadata.deleting = false)
    (run : Runs (Serves faulty) (reconcile reconciler name).run state trace outcome final) :
    StoredAs fetched final ∧ SameInputs state final := by
  obtain ⟨kafka, s3, _⟩ := runs_externals run
  refine ⟨?_, secrets_of_cycle stored live run, kafka, s3⟩
  cases course_of_runs stored live run with
  | idle _ _ _ _ storedFinally _ => exact storedFinally
  | found _ _ _ same _ storedAs _ children => exact (phases_of_runs same storedAs children).1

/-- Nothing happens without the discovery. -/
theorem unchanged_of_absent {name : String} (absent : state.find .sourceDiscovery name = none)
    (run : Runs (Serves faulty) (reconcile reconciler name).run state trace outcome final) :
    final = state := by
  obtain ⟨reply, middle, later, served, rfl, rest⟩ := runs_ask_bind run
  obtain rfl := served.unchanged rfl
  cases reply with
  | ok fetched =>
      rw [served.find_of_get.1] at absent
      cases absent
  | error error =>
      cases error with
      | notFound | alreadyExists | conflict | refused => exact (runs_done_iff.mp rest).2.2

end Cycle

/-- Cycles of a discovery, which may end after any of their calls, interleaved with steps
of others. -/
inductive Cycles (reconciler : DiscoveryReconciler) (name : String) (ready : Cluster → Prop)
    (outside : Cluster → Cluster → Prop) (start : Cluster) : Cluster → Prop where
  | start : Cycles reconciler name ready outside start start
  | cycle {before after current : Cluster} {trace : List (Event Cluster Op Reply)}
      {outcome : Except String ReconcileResult} :
      Cycles reconciler name ready outside start before → ready before →
      Runs Unreliable (reconcile reconciler name).run before trace outcome after →
      (current = after ∨ ∃ event ∈ trace, current = event.after) →
      Cycles reconciler name ready outside start current
  | outside {before after : Cluster} : Cycles reconciler name ready outside start before →
      outside before after → Cycles reconciler name ready outside start after

section Cycles

variable {reconciler : DiscoveryReconciler} {name : String} {ready : Cluster → Prop}
  {outside : Cluster → Cluster → Prop} {start before current : Cluster}

/-- What complete cycles and the steps of others keep holds throughout. -/
theorem Cycles.preserves {holds : Cluster → Prop}
    (cycles : ∀ before trace outcome after, holds before → ready before →
      Runs Unreliable (reconcile reconciler name).run before trace outcome after → holds after)
    (others : ∀ before after, holds before → outside before after → holds after)
    (initially : holds start) (reached : Cycles reconciler name ready outside start current) :
    holds current := by
  induction reached with
  | start => exact initially
  | cycle _ isReady run ends ih =>
      obtain rfl | ⟨event, member, rfl⟩ := ends
      · exact cycles _ _ _ _ ih isReady run
      · -- a cycle that ends early has had failing answers from there on
        obtain ⟨_, _, cut⟩ := runs_until unreliable_stalls run member
        exact cycles _ _ _ _ ih isReady cut
  | outside _ step ih => exact others _ _ ih step

theorem Cycles.afterCycle
    (reached : Cycles sampleDiscoveryReconciler "topics" ready outside start before)
    (isReady : ready before) :
    Cycles sampleDiscoveryReconciler "topics" ready outside start (afterCycle before) := by
  obtain ⟨trace, run⟩ : ∃ trace, Runs Unreliable
      (reconcile sampleDiscoveryReconciler "topics").run before trace _ _ := runs_execute _ _
  exact .cycle reached isReady run (.inl rfl)

end Cycles

end DataPrepperOperator.Controller.SourceDiscovery
