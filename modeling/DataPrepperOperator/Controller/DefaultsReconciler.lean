import DataPrepperOperator.Controller.Children

/-!
# The defaults reconciler

`DataPrepperDefaultsReconciler.Reconcile`: when a defaults object changes, every
pipeline of the namespace is annotated with its generation, which wakes the pipeline
reconciler.  Pipelines that already carry the generation are skipped.
-/

namespace DataPrepperOperator.Controller.DefaultsReconciler

open ServerProgram DataPrepperOperator.Api

def defaultsRevisionKey : String := "dataprepper.kaasops.io/defaults-revision"

/-- `fmt.Sprintf("%d", generation)`. -/
def revisionOf (defaults : DataPrepperDefaults) : String :=
  toString defaults.metadata.generation

/-- The annotation; a missing one reads as the empty string. -/
def currentRevision (pipeline : DataPrepperPipeline) : String :=
  (pipeline.metadata.annotations.lookup defaultsRevisionKey).getD ""

def withRevision (revision : String) (pipeline : DataPrepperPipeline) : DataPrepperPipeline :=
  { pipeline with metadata := { pipeline.metadata with
    annotations := pipeline.metadata.annotations.insert defaultsRevisionKey revision } }

/-- One attempt: read the pipeline again, annotate it, and store it. -/
def touch (revision name : String) :
    Program Op Reply (Except ApiError DataPrepperPipeline) := do
  match ← Client.get .pipeline name with
  | .error error => pure (.error error)
  | .ok pipeline => Client.update (withRevision revision pipeline)

def touchPipeline (revision name : String) : Reconciler Unit := do
  let _ ← wrapError ("update pipeline " ++ GoText.quote name ++ " annotation: ")
    (callApi (retryOnConflict (touch revision name) defaultRetries))

def touchAll (revision : String) : List DataPrepperPipeline → Reconciler Unit
  | [] => pure ()
  | pipeline :: rest =>
      if currentRevision pipeline = revision then touchAll revision rest
      else do
        touchPipeline revision pipeline.name
        touchAll revision rest

def reconcile (name : String) : Reconciler Unit := do
  match ← Fallible.lift (Client.get .defaults name) with
  | .error (.notFound _ _) => pure ()
  | .error error => throw error.message
  | .ok defaults =>
      let pipelines ← wrapError "list pipelines: "
        (callApi (Client.listPipelines .everything))
      touchAll (revisionOf defaults) pipelines

section Runs

variable {faulty : (op : Op) → Reply op → Prop} {state final : Cluster}
  {trace : List (Event Cluster Op Reply)} {revision name : String}

/-- The pipeline is stored and carries the revision. -/
def Revised (revision name : String) (cluster : Cluster) : Prop :=
  ∃ current, cluster.find .pipeline name = some current ∧
    current.metadata.annotations.lookup defaultsRevisionKey = some revision

theorem touches_touchPipeline (revision name : String) :
    Touches [(.pipeline, name)] (touchPipeline revision name).run := by
  have attempted : Issues (WritesTo [(.pipeline, name)]) Expected (OnSuccess fun _ => True)
      (touch revision name) := by
    apply Issues.bind (Issues.request (.get .pipeline name) (writesTo_of_read _ _ rfl)
      fun _ expected => expected)
    intro outcome named
    cases outcome with
    | error error => trivial
    | ok pipeline =>
        have target : pipeline.name = name := named pipeline rfl
        have written : (Op.update .pipeline (withRevision revision pipeline)).target =
            some (.pipeline, name) := congrArg (fun name => some (Kind.pipeline, name)) target
        apply Touches.issues
        exact Issues.request _ (writesTo_of_mem written (by simp)) fun _ _ => trivial
  apply touches_of_issues
  apply Issues.bind_fallible (fun _ => True)
  · exact issues_wrapError (issues_callApi (issues_retryOnConflict attempted _))
  · intro _ _
    trivial

/-- An accepted attempt leaves the revision on the pipeline: it keeps the
finalizers, so it never completes a deletion. -/
theorem revised_of_touch {stored : DataPrepperPipeline}
    (run : Runs (Serves faulty) (touch revision name) state trace (.ok stored) final) :
    Revised revision name final := by
  obtain ⟨reply, middle, later, served, rfl, continued⟩ := runs_call_iff.mp run
  cases reply with
  | error error => cases (runs_done_iff.mp continued).2.1
  | ok pipeline =>
      obtain ⟨found, rfl⟩ := served.find_of_get
      obtain rfl : pipeline.name = name := Cluster.name_of_find found
      obtain ⟨updating, _⟩ := runs_request_iff.mp continued
      have present : ∃ current,
          final.find .pipeline (withRevision revision pipeline).name = some current := by
        obtain rfl | ⟨previous, before, _, rfl | ⟨held, emptied, _⟩⟩ := updating.update_cases
        · exact ⟨pipeline, found⟩
        · have named : previous.name = pipeline.name := Cluster.name_of_find before
          have target : (Cluster.updated previous (withRevision revision pipeline)).name =
              (withRevision revision pipeline).name := named
          rw [← target]
          exact ⟨_, Cluster.find_commit_same _ _⟩
        · obtain rfl : pipeline = previous := Option.some.inj (found.symm.trans before)
          exact absurd emptied held
      obtain ⟨current, stored⟩ := present
      refine ⟨current, stored, ?_⟩
      rw [(hasContentOf_of_update updating stored).1.annotations]
      exact Finmap.lookup_insert _

theorem revised_of_retry {further : Nat} {stored : DataPrepperPipeline}
    (run : Runs (Serves faulty) (retryOnConflict (touch revision name) further) state trace
      (.ok stored) final) :
    Revised revision name final := by
  induction further generalizing state trace with
  | zero => exact revised_of_touch run
  | succ further ih =>
      obtain ⟨first, middle, tried, second, rfl, attempted, continued⟩ := runs_bind_iff.mp run
      split at continued
      · exact ih continued
      · obtain ⟨_, rfl, rfl⟩ := runs_done_iff.mp continued
        exact revised_of_touch attempted

theorem revised_of_touchPipeline
    (run : Runs (Serves faulty) (touchPipeline revision name).run state trace (.ok ()) final) :
    Revised revision name final := by
  obtain ⟨first, middle, stored, second, rfl, stamped, continued⟩ := runs_bind_ok run
  rw [(runs_pure_iff.mp continued).2.2]
  exact revised_of_retry (runs_callApi_ok (runs_wrapError_ok stamped))

/-- The loop leaves alone what is not listed or already carries the revision. -/
theorem find_of_touchAll {pipelines : List DataPrepperPipeline}
    (spared : ∀ pipeline ∈ pipelines, pipeline.name = name → currentRevision pipeline = revision)
    (run : Runs (Serves faulty) (touchAll revision pipelines).run state trace (.ok ()) final) :
    final.find .pipeline name = state.find .pipeline name := by
  induction pipelines generalizing state trace with
  | nil => rw [(runs_pure_iff.mp run).2.2]
  | cons pipeline rest ih =>
      have later := fun other member => spared other (List.mem_cons_of_mem _ member)
      unfold touchAll at run
      split at run
      next => exact ih later run
      next stale =>
        obtain ⟨first, middle, _, second, rfl, touched, continued⟩ := runs_bind_ok run
        rw [ih later continued]
        apply (touches_touchPipeline revision pipeline.name).frame touched
        intro listed
        obtain rfl : name = pipeline.name := by simpa using listed
        exact stale (spared pipeline List.mem_cons_self rfl)

/-- Every other listed pipeline carries the revision when the loop is through. -/
theorem revised_of_touchAll {pipelines : List DataPrepperPipeline}
    (nodup : (pipelines.map Object.name).Nodup)
    (run : Runs (Serves faulty) (touchAll revision pipelines).run state trace (.ok ()) final) :
    ∀ pipeline ∈ pipelines, currentRevision pipeline ≠ revision →
      Revised revision pipeline.name final := by
  induction pipelines generalizing state trace with
  | nil =>
      intro pipeline member
      cases member
  | cons pipeline rest ih =>
      obtain ⟨fresh, distinct⟩ := List.nodup_cons.mp nodup
      unfold touchAll at run
      intro item member stale
      split at run
      next carried =>
        obtain rfl | later := List.mem_cons.mp member
        · exact absurd carried stale
        · exact ih distinct run item later stale
      next =>
        obtain ⟨first, middle, _, second, rfl, touched, continued⟩ := runs_bind_ok run
        obtain rfl | later := List.mem_cons.mp member
        · obtain ⟨current, found, revised⟩ := revised_of_touchPipeline touched
          refine ⟨current, ?_, revised⟩
          rw [find_of_touchAll ?_ continued]
          · exact found
          · intro other listed same
            exact absurd (List.mem_map.mpr ⟨other, listed, same⟩) fresh
        · exact ih distinct continued item later stale

/-- What a successful run does, given whether the defaults object is there. -/
theorem runs_reconcile (honest : NotFoundHonest faulty)
    (run : Runs (Serves faulty) (reconcile name).run state trace (.ok ()) final) :
    state.find .defaults name = none ∧ final = state ∨
      ∃ defaults pipelines later, state.find .defaults name = some defaults ∧
        pipelines.Perm (state.matching .everything) ∧
        Runs (Serves faulty) (touchAll (revisionOf defaults) pipelines).run state later (.ok ())
          final := by
  obtain ⟨reply, middle, rest, served, rfl, continued⟩ := runs_ask_bind run
  cases reply with
  | error error =>
      cases error with
      | notFound missingKind missing =>
          obtain ⟨absent, rfl⟩ := served.find_of_notFound honest
          exact .inl ⟨absent, (runs_pure_iff.mp continued).2.2⟩
      | alreadyExists | conflict | refused => cases (runs_throw_iff.mp continued).2.1
  | ok defaults =>
      obtain ⟨found, rfl⟩ := served.find_of_get
      obtain ⟨first, listedState, pipelines, second, rfl, listing, loop⟩ := runs_bind_ok continued
      obtain ⟨listed, _⟩ := runs_request_iff.mp (runs_callApi_ok (runs_wrapError_ok listing))
      obtain ⟨perm, rfl⟩ := listed.perm_of_list
      exact .inr ⟨defaults, pipelines, second, found, perm, loop⟩

end Runs

end DataPrepperOperator.Controller.DefaultsReconciler
