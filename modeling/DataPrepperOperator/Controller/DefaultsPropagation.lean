import DataPrepperOperator.Controller.DefaultsReconciler
import DataPrepperOperator.Defaults.Merge

/-!
# Propagation of defaults

The namespace's defaults objects are created, changed, deleted and created again,
and the defaults reconciler runs after each operation.  A pipeline whose merged spec
an operation changed is woken by a change of its revision annotation.

The revision is only a generation.  A deleted object is not found and wakes nobody,
and an object that is created again starts at generation one, so its revision can
coincide with the one a pipeline got from an earlier object.  These are the only
ways to miss a pipeline.
-/

namespace DataPrepperOperator.Controller.DefaultsReconciler

open ServerProgram DataPrepperOperator.Api DataPrepperOperator.Defaults

inductive Operation where
  | create (defaults : DataPrepperDefaults)
  | updateSpec (name : String) (spec : DataPrepperDefaultsSpec)
  | delete (name : String)

/-- The object whose event the reconciler gets. -/
def Operation.name : Operation → String
  | .create defaults => defaults.name
  | .updateSpec name _ => name
  | .delete name => name

def Operation.apply (cluster : Cluster) : Operation → Cluster
  | .create defaults => (cluster.create defaults).2
  | .updateSpec name spec =>
      match cluster.find .defaults name with
      | none => cluster
      | some stored => (cluster.update { stored with spec := spec }).2
  | .delete name => (cluster.delete .defaults name).2

/-- The defaults that the pipeline reconciler merges: those named `default`. -/
def defaultsIn (cluster : Cluster) : Option DataPrepperDefaultsSpec :=
  (cluster.find .defaults "default").map (·.spec)

/-- One operation and the namespace that the reconciler's run leaves. -/
structure Round where
  before : Cluster
  operation : Operation
  after : Cluster

namespace Round

def operated (round : Round) : Cluster := round.operation.apply round.before

/-- The operation changed what the pipeline's spec is merged to. -/
structure Affects (round : Round) (pipeline : DataPrepperPipeline) : Prop where
  stored : round.operated.find .pipeline pipeline.name = some pipeline
  changed : mergeSpec (defaultsIn round.before) pipeline.spec ≠
    mergeSpec (defaultsIn round.operated) pipeline.spec

/-- The run changed the annotation of every pipeline that the operation affects. -/
def Propagated (round : Round) : Prop :=
  ∀ pipeline, round.Affects pipeline →
    ∃ stored, round.after.find .pipeline pipeline.name = some stored ∧
      stored.metadata.annotations.lookup defaultsRevisionKey ≠
        pipeline.metadata.annotations.lookup defaultsRevisionKey

/-- The defaults object outlives the operation, and no affected pipeline already
carries its generation. -/
def NewRevision (round : Round) : Prop :=
  ∀ pipeline, round.Affects pipeline →
    ∃ defaults, round.operated.find .defaults round.operation.name = some defaults ∧
      pipeline.metadata.annotations.lookup defaultsRevisionKey ≠ some (revisionOf defaults)

end Round

/-- Operations on the defaults objects, each followed by a successful run.  In
between, everything but the defaults may change. -/
inductive History (faulty : (op : Op) → Reply op → Prop) :
    Cluster → List Round → Cluster → Prop where
  | nil {start} : History faulty start [] start
  | cons {start round trace rounds final} :
      (∀ name, round.before.find .defaults name = start.find .defaults name) →
      Runs (Serves faulty) (reconcile round.operation.name).run round.operated trace (.ok ())
        round.after →
      History faulty round.after rounds final →
      History faulty start (round :: rounds) final

theorem revisionOf_ne_empty (defaults : DataPrepperDefaults) : revisionOf defaults ≠ "" := by
  intro empty
  have digits : (revisionOf defaults).toList = [] := by rw [empty]; rfl
  rw [revisionOf, Nat.toString_eq_repr, Nat.repr, String.toList_ofList] at digits
  exact Nat.toDigits_ne_nil digits

/-- The skip test reads a missing annotation as the empty text, which is no
generation. -/
theorem currentRevision_eq_iff {pipeline : DataPrepperPipeline} {defaults : DataPrepperDefaults} :
    currentRevision pipeline = revisionOf defaults ↔
      pipeline.metadata.annotations.lookup defaultsRevisionKey = some (revisionOf defaults) := by
  unfold currentRevision
  cases pipeline.metadata.annotations.lookup defaultsRevisionKey with
  | none => simp [(revisionOf_ne_empty defaults).symm]
  | some revision => simp

variable {faulty : (op : Op) → Reply op → Prop}

theorem Round.propagated_iff {round : Round} {trace : List (Event Cluster Op Reply)}
    (honest : NotFoundHonest faulty)
    (run : Runs (Serves faulty) (reconcile round.operation.name).run round.operated trace
      (.ok ()) round.after) :
    round.Propagated ↔ round.NewRevision := by
  refine forall₂_congr fun pipeline affected => ?_
  have stored := affected.stored
  obtain ⟨absent, same⟩ | ⟨defaults, pipelines, later, found, perm, loop⟩ :=
    runs_reconcile honest run
  · rw [same, stored, absent]
    simp
  · have listed : ∀ item ∈ pipelines, item.name = pipeline.name → item = pipeline := by
      intro item member sameName
      have present := (Cluster.mem_matching.mp (perm.mem_iff.mp member)).1
      rw [sameName, stored, Option.some.injEq] at present
      exact present.symm
    have member : pipeline ∈ pipelines :=
      perm.mem_iff.mpr (Cluster.mem_matching.mpr ⟨stored, rfl⟩)
    rw [found]
    by_cases carried : currentRevision pipeline = revisionOf defaults
    · have untouched : round.after.find .pipeline pipeline.name = some pipeline := by
        rw [find_of_touchAll ?_ loop, stored]
        intro item isListed sameName
        rw [listed item isListed sameName, carried]
      rw [untouched]
      simp [currentRevision_eq_iff.mp carried]
    · obtain ⟨current, present, revised⟩ :=
        revised_of_touchAll (perm.map _ |>.nodup_iff.mpr (Cluster.nodup_matching _ _)) loop
          pipeline member carried
      have different := mt currentRevision_eq_iff.mpr carried
      constructor
      · intro _
        exact ⟨defaults, rfl, different⟩
      · intro _
        refine ⟨current, present, ?_⟩
        rw [revised]
        exact Ne.symm different

theorem defaults_propagated_iff {start final : Cluster} {rounds : List Round}
    (honest : NotFoundHonest faulty) (history : History faulty start rounds final) :
    (∀ round ∈ rounds, round.Propagated) ↔ ∀ round ∈ rounds, round.NewRevision := by
  induction history with
  | nil => simp
  | cons _ run _ ih =>
      rw [List.forall_mem_cons, List.forall_mem_cons, ih,
        Round.propagated_iff honest run]

/-- The reconciler run after an operation on a server that answers everything. -/
def response (cluster : Cluster) (operation : Operation) : Except String Unit × Cluster :=
  (reconcile operation.name).run.execute Cluster.answer (operation.apply cluster)

/-- The rounds of a list of operations with nothing in between. -/
def play (cluster : Cluster) : List Operation → List Round
  | [] => []
  | operation :: rest =>
      let after := (response cluster operation).2
      ⟨cluster, operation, after⟩ :: play after rest

def succeeds (cluster : Cluster) : List Operation → Bool
  | [] => true
  | operation :: rest =>
      (response cluster operation).1.isOk && succeeds (response cluster operation).2 rest

theorem history_of_play {cluster : Cluster} {operations : List Operation}
    (success : succeeds cluster operations = true) :
    ∃ final, History faulty cluster (play cluster operations) final := by
  induction operations generalizing cluster with
  | nil => exact ⟨cluster, .nil⟩
  | cons operation rest ih =>
      obtain ⟨here, later⟩ := Bool.and_eq_true_iff.mp success
      obtain ⟨final, history⟩ := ih later
      obtain ⟨trace, run⟩ : ∃ trace, Runs (Serves faulty) (reconcile operation.name).run
        (operation.apply cluster) trace _ _ := runs_execute _ _
      cases outcome : (response cluster operation).1 with
      | error message => simp [outcome, Except.isOk, Except.toBool] at here
      | ok value =>
          rw [show ((reconcile operation.name).run.execute Cluster.answer
            (operation.apply cluster)).1 = .ok () from outcome] at run
          exact ⟨final, .cons (fun _ => rfl) run history⟩

def namespaceDefaults (image : String) : DataPrepperDefaults where
  metadata := { name := "default", nameSpace := "logs" }
  spec := { image := image }
  status := Kind.defaults.emptyStatus

/-- A pipeline that leaves its image to the defaults. -/
def imagelessPipeline : DataPrepperPipeline where
  metadata := { name := "ingest", nameSpace := "logs" }
  spec := { pipelines := [{ name := "entry", source := { http := some { port := 2021 } },
                            sink := [{ stdout := some {} }] }] }
  status := {}

def undefaulted : Cluster := (Cluster.empty.create imagelessPipeline).2

/-- Created, deleted, and created again with another image: both objects have
generation one. -/
def recreation : List Operation :=
  [.create (namespaceDefaults "data-prepper:2.9"), .delete "default",
    .create (namespaceDefaults "data-prepper:2.10")]

/-- The deletion takes the image away and the second creation brings another, and the
pipeline is as it was after both. -/
theorem recreated_defaults_not_propagated :
    (∃ final, History (fun _ _ => False) undefaulted (play undefaulted recreation) final) ∧
      ∀ round ∈ (play undefaulted recreation).drop 1, ¬round.Propagated := by
  refine ⟨history_of_play (by decide +kernel), ?_⟩
  have missed : ∀ round ∈ (play undefaulted recreation).drop 1,
      ∃ pipeline ∈ round.operated.matching .everything,
        mergeSpec (defaultsIn round.before) pipeline.spec ≠
          mergeSpec (defaultsIn round.operated) pipeline.spec ∧
        round.after.find .pipeline pipeline.name = some pipeline := by decide +kernel
  intro round member propagated
  obtain ⟨pipeline, listed, changed, same⟩ := missed round member
  obtain ⟨current, found, different⟩ :=
    propagated pipeline ⟨(Cluster.mem_matching.mp listed).1, changed⟩
  rw [same, Option.some.injEq] at found
  exact different (found ▸ rfl)

def imageChange : List Operation :=
  [.create (namespaceDefaults "data-prepper:2.9"),
    .updateSpec "default" { image := "data-prepper:2.10" }]

theorem defaults_propagated_of_imageChange :
    (∃ round ∈ play undefaulted imageChange, ∃ pipeline, round.Affects pipeline) ∧
      ∀ round ∈ play undefaulted imageChange, round.Propagated := by
  have affected : ∃ round ∈ play undefaulted imageChange,
      ∃ pipeline ∈ round.operated.matching .everything,
        mergeSpec (defaultsIn round.before) pipeline.spec ≠
          mergeSpec (defaultsIn round.operated) pipeline.spec := by decide +kernel
  have fresh : ∀ round ∈ play undefaulted imageChange,
      (round.operated.find .defaults round.operation.name).isSome ∧
        ∀ defaults ∈ round.operated.find .defaults round.operation.name,
          ∀ pipeline ∈ round.operated.matching .everything,
            pipeline.metadata.annotations.lookup defaultsRevisionKey ≠
              some (revisionOf defaults) := by decide +kernel
  obtain ⟨round, member, pipeline, listed, changed⟩ := affected
  refine ⟨⟨round, member, pipeline, (Cluster.mem_matching.mp listed).1, changed⟩, ?_⟩
  obtain ⟨final, history⟩ : ∃ final, History (fun _ _ => False) undefaulted
    (play undefaulted imageChange) final := history_of_play (by decide +kernel)
  apply (defaults_propagated_iff (fun _ _ _ _ => id) history).mpr
  intro round member pipeline affects
  obtain ⟨present, new⟩ := fresh round member
  obtain ⟨defaults, found⟩ := Option.isSome_iff_exists.mp present
  have listed : pipeline ∈ round.operated.matching .everything :=
    Cluster.mem_matching.mpr ⟨affects.stored, rfl⟩
  exact ⟨defaults, found, new defaults found pipeline listed⟩

end DataPrepperOperator.Controller.DefaultsReconciler
