import DataPrepperOperator.Controller.Desired

/-!
# Convergence of the pipeline reconciler

The child objects are deployed one after another, each under its own name, so
what one step leaves behind survives the others.  A successful reconcile
therefore realizes the desired content whatever was there before, and a further
one finds nothing to write.
-/

namespace DataPrepperOperator.Controller

open ServerProgram DataPrepperOperator.Api DataPrepperOperator.Generator

/-- One call of `reconcileOrDelete`; the mandatory objects are always needed. -/
structure Child where
  kind : Kind
  name : String
  nameSpace : String
  needed : Bool
  labels : GoMap String
  assign : kind.Spec → kind.Spec

namespace Child

variable (owner : DataPrepperPipeline) (child : Child)

def target : Kind × String := (child.kind, child.name)

def deploy : Reconciler Unit :=
  reconcileOrDelete (Object.named child.kind child.name child.nameSpace) child.needed
    (claimWith owner child.labels child.assign)

/-- There is nothing left to do for this child. -/
def Realized (cluster : Cluster) : Prop :=
  if child.needed then
    ∃ object, cluster.find child.kind child.name = some object ∧
      Settled owner child.labels child.assign object
  else Removed cluster child.kind child.name

end Child

def deployAll (owner : DataPrepperPipeline) : List (String × Child) → Reconciler Unit
  | [] => pure ()
  | (context, child) :: rest => do
      wrapError context (child.deploy owner)
      deployAll owner rest

/-- The steps of `deployChildren`, in order. -/
def children (owner : DataPrepperPipeline) (mergedSpec : DataPrepperPipelineSpec)
    (plan : Plan) : List (String × Child) :=
  let nameSpace := owner.metadata.nameSpace
  let labels := commonLabels owner.name
  let bounds := Scaling.scalingBounds mergedSpec.scaling
  [("reconcile pipelines configmap: ",
      { kind := .configMap, name := owner.name ++ "-pipelines", nameSpace, needed := true, labels
        assign := fun _ => plan.pipelinesData }),
    ("reconcile dp-config configmap: ",
      { kind := .configMap, name := owner.name ++ "-config", nameSpace, needed := true, labels
        assign := fun _ => plan.configData }),
    ("reconcile deployment: ",
      { kind := .deployment, name := owner.name, nameSpace, needed := true, labels
        assign := fun _ => (generateDeployment owner mergedSpec plan.scaling.replicas
          plan.needsPeerForwarder plan.configHash).spec }),
    ("reconcile service: ",
      { kind := .service, name := owner.name, nameSpace
        needed := needsService mergedSpec.pipelines mergedSpec.serviceMonitor, labels
        assign := assignService (generateService owner mergedSpec).spec }),
    ("reconcile headless service: ",
      { kind := .service, name := owner.name ++ "-headless", nameSpace
        needed := plan.needsPeerForwarder, labels
        assign := assignHeadlessService (generateHeadlessService owner).spec }),
    ("reconcile hpa: ",
      { kind := .horizontalPodAutoscaler, name := owner.name, nameSpace
        needed := plan.scaling.useHPA, labels
        assign := fun _ => (generateHPA owner bounds.1 bounds.2 defaultTargetCPU).spec }),
    ("reconcile pdb: ",
      { kind := .podDisruptionBudget, name := owner.name, nameSpace
        needed := decide (1 < plan.scaling.replicas), labels
        assign := fun _ => (generatePDB owner plan.scaling.replicas).spec })]

theorem deployChildren_eq (owner : DataPrepperPipeline) (mergedSpec : DataPrepperPipelineSpec)
    (plan : Plan) :
    deployChildren owner mergedSpec plan = deployAll owner (children owner mergedSpec plan) := by
  simp only [children, deployAll, bind_pure_unit]
  rfl

theorem targets_children (owner : DataPrepperPipeline) (mergedSpec : DataPrepperPipelineSpec)
    (plan : Plan) :
    (children owner mergedSpec plan).map (·.2.target) = derivedObjects owner.name := rfl

theorem target_mem_derivedObjects {owner : DataPrepperPipeline}
    {mergedSpec : DataPrepperPipelineSpec} {plan : Plan} {step : String × Child}
    (member : step ∈ children owner mergedSpec plan) :
    step.2.target ∈ derivedObjects owner.name := by
  rw [← targets_children owner mergedSpec plan]
  exact List.mem_map_of_mem member

theorem nodup_derivedObjects (name : String) : (derivedObjects name).Nodup := by
  have configs : name ++ "-pipelines" ≠ name ++ "-config" := by simp
  have services : name ≠ name ++ "-headless" := by
    intro same
    have lengths := congrArg String.length same
    simp at lengths
  simp [derivedObjects, configs, services]

theorem assign_idempotent {owner : DataPrepperPipeline} {mergedSpec : DataPrepperPipelineSpec}
    {plan : Plan} {context : String} {child : Child}
    (member : (context, child) ∈ children owner mergedSpec plan) (spec : child.kind.Spec) :
    child.assign (child.assign spec) = child.assign spec := by
  simp only [children, List.mem_cons, Prod.mk.injEq, List.not_mem_nil, or_false] at member
  obtain ⟨_, rfl⟩ | ⟨_, rfl⟩ | ⟨_, rfl⟩ | ⟨_, rfl⟩ | ⟨_, rfl⟩ | ⟨_, rfl⟩ | ⟨_, rfl⟩ := member
  all_goals rfl

namespace Child

variable {owner : DataPrepperPipeline} {child : Child} {state final : Cluster}
  {trace : List (Event Cluster Op Reply)}

theorem touches {targets : List (Kind × String)} (member : child.target ∈ targets) :
    Touches targets (child.deploy owner).run := by
  apply touches_of_issues
  apply issues_reconcileOrDelete (writesTo_of_read targets _ rfl) (fun _ _ expected => expected)
  · intro object claimed named success
    obtain ⟨_, _, _, _, claimedName, _⟩ := claimWith_content success
    have target : (child.kind, claimed.name) ∈ targets := by
      rw [claimedName, named]
      exact member
    exact ⟨writesTo_of_mem rfl target, writesTo_of_mem rfl target⟩
  · exact fun _ => writesTo_of_mem rfl member

theorem Realized.congr (realized : child.Realized owner state)
    (same : final.find child.kind child.name = state.find child.kind child.name) :
    child.Realized owner final := by
  unfold Realized Removed at realized ⊢
  rwa [same]

theorem realized_of_deploy
    (idempotent : ∀ spec, child.assign (child.assign spec) = child.assign spec)
    (run : Runs Disturbed (child.deploy owner).run state trace (.ok ()) final) :
    child.Realized owner final := by
  unfold deploy at run
  unfold Realized
  cases needed : child.needed with
  | true =>
      rw [needed] at run
      rw [if_pos rfl]
      exact settled_of_createOrUpdate idempotent run
  | false =>
      rw [needed] at run
      rw [if_neg (by decide)]
      exact removed_of_reconcileOrDelete run

theorem unchanged_of_realized {outcome : Except String Unit}
    (realized : child.Realized owner state)
    (run : Runs Disturbed (child.deploy owner).run state trace outcome final) :
    final = state := by
  unfold deploy at run
  unfold Realized at realized
  cases needed : child.needed with
  | true =>
      rw [needed] at run realized
      obtain ⟨object, found, settled⟩ := realized
      exact unchanged_of_settled found settled run
  | false =>
      rw [needed] at run realized
      exact unchanged_of_removed realized run

end Child

section Lists

variable {owner : DataPrepperPipeline} {steps : List (String × Child)} {state final : Cluster}
  {trace : List (Event Cluster Op Reply)}

theorem issues_deployAll {allowed : Op → Prop} {possible : (op : Op) → Reply op → Prop}
    (each : ∀ step ∈ steps,
      Issues allowed possible (OnSuccess fun _ => True) (step.2.deploy owner).run) :
    Issues allowed possible (OnSuccess fun _ => True) (deployAll owner steps).run := by
  induction steps with
  | nil => trivial
  | cons step rest ih =>
      apply Issues.bind_fallible (fun _ => True)
      · exact issues_wrapError (each step List.mem_cons_self)
      · intro _ _
        exact ih fun later member => each later (List.mem_cons_of_mem _ member)

/-- What a step has realized stays so while the others run. -/
theorem touches_deployAll :
    Touches (steps.map (·.2.target)) (deployAll owner steps).run := by
  apply touches_of_issues
  apply issues_deployAll
  intro step member
  exact (Child.touches (List.mem_map.mpr ⟨step, member, rfl⟩)).issues

theorem realized_of_deployAll (distinct : (steps.map (·.2.target)).Nodup)
    (idempotent : ∀ step ∈ steps, ∀ spec,
      step.2.assign (step.2.assign spec) = step.2.assign spec)
    (run : Runs Disturbed (deployAll owner steps).run state trace (.ok ()) final) :
    ∀ step ∈ steps, step.2.Realized owner final := by
  induction steps generalizing state trace with
  | nil => simp
  | cons step rest ih =>
      rw [List.map_cons, List.nodup_cons] at distinct
      obtain ⟨_, middle, _, _, _, deployed, later⟩ := runs_bind_ok run
      have realized := Child.realized_of_deploy (idempotent step List.mem_cons_self)
        (runs_wrapError_ok deployed)
      intro other member
      obtain rfl | member := List.mem_cons.mp member
      · exact realized.congr (touches_deployAll.frame later distinct.1)
      · exact ih distinct.2
          (fun each inRest => idempotent each (List.mem_cons_of_mem _ inRest)) later other member

theorem unchanged_of_deployAll {outcome : Except String Unit}
    (realized : ∀ step ∈ steps, step.2.Realized owner state)
    (run : Runs Disturbed (deployAll owner steps).run state trace outcome final) :
    final = state := by
  induction steps generalizing state trace with
  | nil => exact (runs_pure_iff.mp run).2.2
  | cons step rest ih =>
      have first := realized step List.mem_cons_self
      rcases runs_fallible_bind_iff.mp run with
        ⟨_, _, failed⟩ | ⟨_, middle, _, _, _, deployed, later⟩
      · obtain ⟨_, ran, _⟩ := runs_of_wrapError failed
        exact Child.unchanged_of_realized first ran
      · obtain ⟨_, ran, _⟩ := runs_of_wrapError deployed
        have same := Child.unchanged_of_realized first ran
        subst same
        exact ih
          (fun other member => realized other (List.mem_cons_of_mem _ member)) later

/-- A child that is realized at the start keeps its object, whatever becomes of the
others. -/
theorem kept_of_deployAll {outcome : Except String Unit}
    (distinct : (steps.map (·.2.target)).Nodup) {step : String × Child} (member : step ∈ steps)
    (realized : step.2.Realized owner state)
    (run : Runs Disturbed (deployAll owner steps).run state trace outcome final) :
    final.find step.2.kind step.2.name = state.find step.2.kind step.2.name := by
  induction steps generalizing state trace with
  | nil => cases member
  | cons first rest ih =>
      rw [List.map_cons, List.nodup_cons] at distinct
      have kept : ∀ {earlier : List (Event Cluster Op Reply)} {middle : Cluster}
          {deployed : Except String Unit},
          Runs Disturbed (first.2.deploy owner).run state earlier deployed middle →
            middle.find step.2.kind step.2.name = state.find step.2.kind step.2.name := by
        intro earlier middle deployed ran
        obtain rfl | later := List.mem_cons.mp member
        · rw [Child.unchanged_of_realized realized ran]
        · apply (Child.touches List.mem_cons_self).frame ran
          intro here
          rw [List.mem_singleton] at here
          exact distinct.1 (here ▸ List.mem_map_of_mem later)
      rcases runs_fallible_bind_iff.mp run with
        ⟨_, _, failed⟩ | ⟨_, middle, _, _, _, deployed, continued⟩
      · obtain ⟨_, ran, _⟩ := runs_of_wrapError failed
        exact kept ran
      · obtain ⟨_, ran, _⟩ := runs_of_wrapError deployed
        obtain rfl | later := List.mem_cons.mp member
        · exact (touches_deployAll.frame continued distinct.1).trans (kept ran)
        · exact (ih distinct.2 later (realized.congr (kept ran)) continued).trans
            (kept ran)

end Lists

section Content

variable {owner : DataPrepperPipeline} {cluster : Cluster} {child : Child} {Content : Type}
  {project : child.kind.Spec → Content} {managed : Managed Content}

theorem Child.Realized.stored (realized : child.Realized owner cluster)
    (needed : child.needed = true) (sameLabels : child.labels = managed.labels)
    (sameController : some (controllerReference owner) = managed.controller)
    (assigned : ∀ spec, project (child.assign spec) = managed.content) :
    Stored cluster child.kind child.name project managed := by
  unfold Child.Realized at realized
  rw [if_pos needed] at realized
  obtain ⟨object, found, settled⟩ := realized
  obtain ⟨labelled, spec, _, controller, _⟩ := claimWith_content settled
  refine ⟨object, found, labelled.trans sameLabels, controller.trans sameController, ?_⟩
  rw [spec]
  exact assigned object.spec

theorem Child.Realized.storedIff (realized : child.Realized owner cluster)
    (sameLabels : child.labels = managed.labels)
    (sameController : some (controllerReference owner) = managed.controller)
    (assigned : ∀ spec, project (child.assign spec) = managed.content) :
    StoredIff cluster child.kind child.name project
      (if child.needed = true then some managed else none) := by
  cases needed : child.needed with
  | true =>
      rw [if_pos rfl]
      exact realized.stored needed sameLabels sameController assigned
  | false =>
      unfold Child.Realized at realized
      rw [needed] at realized
      exact realized

end Content

theorem realizes_of_children {inputs : Inputs} {name : String} {plan : Plan} {cluster : Cluster}
    (realized : ∀ step ∈ children (inputs.owner name) inputs.mergedSpec plan,
      step.2.Realized (inputs.owner name) cluster) :
    Realizes cluster name (inputs.content name plan) := by
  simp only [children, List.mem_cons, List.not_mem_nil, or_false, forall_eq_or_imp,
    forall_eq] at realized
  obtain ⟨pipelines, config, deployment, service, headless, autoscaler, budget⟩ := realized
  constructor
  · exact pipelines.stored rfl rfl rfl fun _ => rfl
  · exact config.stored rfl rfl rfl fun _ => rfl
  · exact deployment.stored rfl rfl rfl fun _ => rfl
  · exact service.storedIff rfl rfl fun _ => rfl
  · exact headless.storedIff rfl rfl fun _ => rfl
  · exact autoscaler.storedIff rfl rfl fun _ => rfl
  · have stored : StoredIff cluster .podDisruptionBudget name id
        (if decide (1 < plan.scaling.replicas) = true then
          some (inputs.managed name (generatePDB (inputs.owner name) plan.scaling.replicas).spec)
        else none) := budget.storedIff rfl rfl fun _ => rfl
    simp only [decide_eq_true_eq] at stored
    exact stored

/-- None of the seven child objects differs. -/
def SameDerived (name : String) (before after : Cluster) : Prop :=
  ∀ kind child, (kind, child) ∈ derivedObjects name → after.find kind child = before.find kind child

theorem SameDerived.trans {name : String} {first second third : Cluster}
    (earlier : SameDerived name first second) (later : SameDerived name second third) :
    SameDerived name first third :=
  fun kind child derived => (later kind child derived).trans (earlier kind child derived)

section Reconcile

variable {reconciler : PipelineReconciler} {name : String} {inputs : Inputs}
  {state final : Cluster} {trace : List (Event Cluster Op Reply)}
  {faulty : (op : Op) → Reply op → Prop}

theorem sameDerived_of_touches {Result : Type} {program : Program Op Reply Result}
    {result : Result} {targets : List (Kind × String)} (touches : Touches targets program)
    (apart : ∀ target ∈ targets, target ∉ derivedObjects name)
    (run : Runs (Serves faulty) program state trace result final) : SameDerived name state final :=
  fun kind child derived => touches.frame run fun inside => apart (kind, child) inside derived

theorem pipeline_not_derived {other : String} :
    ∀ target ∈ [(Kind.pipeline, other)], target ∉ derivedObjects name := by
  simp [derivedObjects]

/-- What is stored for known inputs. -/
theorem stored_of_inputsOf (known : inputsOf state name = some inputs) :
    ∃ pipeline, state.find .pipeline name = some pipeline ∧
      pipeline.metadata.deleting = false ∧ inputs.spec = pipeline.spec ∧
      inputs.uid = pipeline.metadata.uid ∧ inputs.nameSpace = pipeline.metadata.nameSpace ∧
      inputs.defaults = (state.find .defaults "default").map (·.spec) ∧
      inputs.AgreeWith state := by
  unfold inputsOf at known
  cases found : state.find .pipeline name with
  | none => simp [found] at known
  | some pipeline =>
      simp only [found] at known
      split at known
      · cases known
      · rename_i live
        simp only [Option.some.injEq] at known
        subst known
        refine ⟨pipeline, rfl, by simpa using live, rfl, rfl, rfl, rfl, ?_, rfl⟩
        intro secret referenced
        exact if_pos referenced

theorem Inputs.AgreeWith.congr (agree : inputs.AgreeWith state)
    (secrets : ∀ secret, final.find .secret secret = state.find .secret secret)
    (kafka : final.kafka = state.kafka) : inputs.AgreeWith final := by
  refine ⟨?_, ?_⟩
  · intro secret referenced
    rw [secrets]
    exact agree.secrets secret referenced
  · rw [agree.partitions]
    unfold partitionAnswer
    rw [kafka]

theorem touches_ensureFinalizer {pipeline : DataPrepperPipeline} :
    Touches [(.pipeline, pipeline.name)] (ensureFinalizer pipeline).run := by
  refine (issues_ensureFinalizer (fun _ _ expected => expected) ?_).weaken fun _ _ => trivial
  intro object named _
  exact writesTo_of_mem rfl (by simp [named])

/-- The object that `ensureFinalizer` goes on with. -/
theorem runs_ensureFinalizer_ok {fetched pipeline : DataPrepperPipeline}
    (found : state.find .pipeline name = some fetched)
    (run : Runs (Serves faulty) (ensureFinalizer fetched).run state trace (.ok pipeline) final) :
    pipeline.name = name ∧ pipeline.spec = fetched.spec ∧
      pipeline.metadata.uid = fetched.metadata.uid ∧
      pipeline.metadata.nameSpace = fetched.metadata.nameSpace ∧
      pipeline.status = fetched.status := by
  have named : fetched.name = name := Cluster.name_of_find found
  unfold ensureFinalizer at run
  split at run
  · obtain ⟨_, same, _⟩ := runs_pure_iff.mp run
    cases same
    exact ⟨named, rfl, rfl, rfl, rfl⟩
  · obtain ⟨served, _⟩ := runs_request_iff.mp (runs_callApi_ok (runs_wrapError_ok run))
    obtain ⟨sameName, sameSpec, sameSpace, stored, present, sameUid, _⟩ := served.reply_of_update
    obtain ⟨_, again, presentAgain, _, sameStatus, _⟩ := find_of_update served (by simp)
    have asked : ∀ current, state.find .pipeline fetched.name = some current →
        current = fetched := by
      intro current present
      rw [named, found, Option.some.injEq] at present
      exact present.symm
    obtain rfl := asked stored present
    obtain rfl := asked again presentAgain
    exact ⟨sameName.trans named, sameSpec, sameUid, sameSpace, sameStatus⟩

theorem runs_fetchDefaults {outcome : Except String (Option DataPrepperDefaultsSpec)}
    (run : Runs Disturbed fetchDefaults.run state trace outcome final) :
    outcome = .ok ((state.find .defaults "default").map (·.spec)) ∧ final = state := by
  obtain ⟨reply, middle, _, served, _, rest⟩ := runs_ask_bind run
  obtain ⟨answered, rfl⟩ := Disturbed.read_input id served
  unfold Cluster.read at answered
  cases found : middle.find .defaults "default" with
  | none | some =>
      simp only [found] at answered
      subst answered
      obtain ⟨_, rfl, rfl⟩ := runs_pure_iff.mp rest
      exact ⟨rfl, rfl⟩

/-- Deploying looks at the owner's name, namespace and uid only. -/
theorem deployChildren_congr {first second : DataPrepperPipeline}
    (sameName : first.name = second.name)
    (sameSpace : first.metadata.nameSpace = second.metadata.nameSpace)
    (sameUid : first.metadata.uid = second.metadata.uid)
    (mergedSpec : DataPrepperPipelineSpec) (plan : Plan) :
    deployChildren first mergedSpec plan = deployChildren second mergedSpec plan := by
  obtain ⟨⟨firstName, firstSpace, firstUid, _, _, _, _, _, _, _⟩, _, _⟩ := first
  obtain ⟨⟨secondName, secondSpace, secondUid, _, _, _, _, _, _, _⟩, _, _⟩ := second
  simp only [Object.name] at sameName sameSpace sameUid
  subst sameName sameSpace sameUid
  rfl

def monitorChild (pipeline : DataPrepperPipeline) (mergedSpec : DataPrepperPipelineSpec) :
    Child where
  kind := .serviceMonitor
  name := pipeline.name
  nameSpace := pipeline.metadata.nameSpace
  needed := mergedSpec.serviceMonitor.any (·.enabled)
  labels := commonLabels pipeline.name
  assign := fun _ => (generateServiceMonitor pipeline mergedSpec).spec

theorem touches_updateStatus {targets : List (Kind × String)} {pipeline : DataPrepperPipeline}
    (member : (.pipeline, pipeline.name) ∈ targets) (errorPhase : Bool) (message : String) :
    Touches targets (updateStatus pipeline errorPhase message).run := by
  apply touches_of_issues
  apply issues_updateStatus (fun _ _ expected => expected) (writesTo_of_read targets _ rfl)
    (writesTo_of_read targets _ rfl)
  intro object named _
  exact writesTo_of_mem rfl (by rwa [named])

section Finish

variable {allowed : Op → Prop} {possible : (op : Op) → Reply op → Prop}
  (reads : ∀ op, op.target = none → allowed op)
  (expected : ∀ op reply, possible op reply → Expected op reply)

include reads expected

omit expected in
theorem issues_finish_reporting (reconciler : PipelineReconciler) {pipeline : DataPrepperPipeline}
    {mergedSpec : DataPrepperPipelineSpec}
    (monitor : Issues allowed possible (OnSuccess fun _ => True)
      ((monitorChild pipeline mergedSpec).deploy pipeline).run)
    (report : Issues allowed possible (OnSuccess fun _ => True)
      (updateStatus pipeline false "").run) :
    Issues allowed possible (OnSuccess fun _ => True)
      (finish reconciler pipeline mergedSpec).run := by
  apply Issues.bind_fallible (fun _ => True)
  · unfold deployServiceMonitor
    split
    · apply Issues.bind_fallible (fun _ => True)
      · apply Issues.lift
        exact monitor.weaken fun _ _ => trivial
      · intro _ _
        trivial
    · trivial
  · intro _ _
    apply Issues.bind_fallible _ (Issues.lift
      (issues_read reads (.listPipelines .everything) rfl))
    intro _ _
    exact report

theorem issues_finish (reconciler : PipelineReconciler) {pipeline : DataPrepperPipeline}
    {mergedSpec : DataPrepperPipelineSpec}
    (monitor : Issues allowed possible (OnSuccess fun _ => True)
      ((monitorChild pipeline mergedSpec).deploy pipeline).run)
    (status : ∀ object : DataPrepperPipeline, object.name = pipeline.name →
      allowed (.updateStatus .pipeline object)) :
    Issues allowed possible (OnSuccess fun _ => True)
      (finish reconciler pipeline mergedSpec).run :=
  issues_finish_reporting reads reconciler monitor (issues_updateStatus expected (reads _ rfl)
    (reads _ rfl) (fun object named _ => status object named) _ _)

/-- After the finalizer a reconcile writes child objects and its status. -/
theorem issues_reconcileMerged
    (written : ∀ op kind name, op.target = some (kind, name) → IsChild kind → allowed op)
    (status : ∀ object : DataPrepperPipeline, allowed (.updateStatus .pipeline object))
    (reconciler : PipelineReconciler) (pipeline : DataPrepperPipeline)
    (mergedSpec : DataPrepperPipelineSpec) :
    Issues allowed possible (OnSuccess fun _ => True)
      (reconcileMerged reconciler pipeline mergedSpec).run := by
  have deployed : ∀ (child : Child) owner, IsChild child.kind →
      Issues allowed possible (OnSuccess fun _ => True) (child.deploy owner).run := by
    intro child owner isChild
    apply issues_reconcileOrDelete (reads _ rfl) expected
    · exact fun _ _ _ _ => ⟨written _ _ _ rfl isChild, written _ _ _ rfl isChild⟩
    · exact fun _ => written _ _ _ rfl isChild
  unfold reconcileMerged
  split
  · exact issues_updateStatus expected (reads _ rfl) (reads _ rfl) (fun object _ _ => status object)
      _ _
  · apply Issues.bind_fallible _ (issues_makePlan reads reconciler _ mergedSpec)
    intro planned _
    apply Issues.bind_fallible (fun _ => True)
    · rw [deployChildren_eq]
      apply issues_deployAll
      intro step member
      apply deployed
      simp only [children, List.mem_cons, List.not_mem_nil, or_false] at member
      obtain rfl | rfl | rfl | rfl | rfl | rfl | rfl := member <;> trivial
    · intro _ _
      exact issues_finish reads expected reconciler (deployed _ _ trivial)
        fun object _ => status object

end Finish

/-- What follows the child objects does not touch them again. -/
theorem touches_finish (reconciler : PipelineReconciler) (pipeline : DataPrepperPipeline)
    (mergedSpec : DataPrepperPipelineSpec) :
    Touches [(.serviceMonitor, pipeline.name), (.pipeline, pipeline.name)]
      (finish reconciler pipeline mergedSpec).run := by
  apply touches_of_issues
  apply issues_finish (writesTo_of_read _) (fun _ _ expected => expected)
  · exact ((monitorChild pipeline mergedSpec).touches List.mem_cons_self).issues
  · intro object named
    exact writesTo_of_mem rfl (by simp [named])

/-- A reconcile fails before it writes a child object, or deploys the desired
plan; it succeeds only if all of the plan was deployed. -/
def Deploys (reconciler : PipelineReconciler) (name : String) (inputs : Inputs) (state : Cluster)
    (outcome : Except String ReconcileResult) (final : Cluster) : Prop :=
  (∃ message, outcome = .error message) ∧ SameDerived name state final ∨
    ∃ plan middle after steps deployed, inputs.plan reconciler name = .ok plan ∧
      SameDerived name state middle ∧
      Runs Disturbed (deployChildren (inputs.owner name) inputs.mergedSpec plan).run middle
        steps deployed after ∧
      SameDerived name after final ∧
      ∀ result, outcome = .ok result → deployed = .ok ()

theorem Deploys.of_sameDerived {earlier : Cluster} {outcome : Except String ReconcileResult}
    (prepared : SameDerived name earlier state)
    (deploys : Deploys reconciler name inputs state outcome final) :
    Deploys reconciler name inputs earlier outcome final := by
  obtain ⟨failed, same⟩ | ⟨plan, middle, after, steps, deployed, planned, same, rest⟩ := deploys
  · exact .inl ⟨failed, prepared.trans same⟩
  · exact .inr ⟨plan, middle, after, steps, deployed, planned, prepared.trans same, rest⟩

theorem runs_reconcileValid {pipeline : DataPrepperPipeline}
    {outcome : Except String ReconcileResult} (agree : inputs.AgreeWith state)
    (named : pipeline.name = name) (sameSpace : pipeline.metadata.nameSpace = inputs.nameSpace)
    (sameUid : pipeline.metadata.uid = inputs.uid)
    (run : Runs Disturbed (reconcileValid reconciler pipeline inputs.mergedSpec).run state trace
      outcome final) :
    Deploys reconciler name inputs state outcome final := by
  rcases runs_fallible_bind_iff.mp run with
    ⟨message, rfl, failed⟩ | ⟨_, middle, planned, _, _, planning, later⟩
  · obtain ⟨_, _, rfl⟩ := runs_makePlan agree failed sameSpace
    exact .inl ⟨⟨message, rfl⟩, fun _ _ _ => rfl⟩
  obtain ⟨computed, _, rfl⟩ := runs_makePlan agree planning sameSpace
  have sameMeta : planned.2.metadata = pipeline.metadata := (plannedFor_of_runs planning).metadata
  have plan : inputs.plan reconciler name = .ok planned.1 := by
    rw [← named]
    exact computed.symm
  have plannedName : planned.2.name = name := (congrArg ObjectMeta.name sameMeta).trans named
  have sameChildren : deployChildren planned.2 inputs.mergedSpec planned.1 =
      deployChildren (inputs.owner name) inputs.mergedSpec planned.1 := by
    apply deployChildren_congr
    · exact plannedName
    · rw [sameMeta]
      exact sameSpace
    · rw [sameMeta]
      exact sameUid
  rw [sameChildren] at later
  rcases runs_fallible_bind_iff.mp later with
    ⟨message, rfl, failed⟩ | ⟨steps, after, _, _, _, deployed, finishing⟩
  · refine .inr ⟨planned.1, middle, final, _, .error message, plan, fun _ _ _ => rfl, failed,
      fun _ _ _ => rfl, ?_⟩
    intro result impossible
    cases impossible
  · refine .inr ⟨planned.1, middle, after, steps, .ok (), plan, fun _ _ _ => rfl, deployed,
      ?_, fun _ _ => rfl⟩
    apply sameDerived_of_touches (touches_finish reconciler planned.2 inputs.mergedSpec) ?_
      finishing
    simp [derivedObjects]

/-- The calls before the defaults are read. -/
def PreparesPipeline : Op → Prop
  | .get .pipeline _ | .update .pipeline _ => True
  | _ => False

/-- Up to the defaults only the pipeline itself is read and written. -/
theorem runs_reconcileLive {outcome : Except String ReconcileResult}
    (genuine : ∀ reply, ¬faulty (.get .pipeline name) reply)
    (known : inputsOf state name = some inputs)
    (run : Runs (Serves faulty) (reconcile reconciler name).run state trace outcome final) :
    (∃ message, outcome = .error message) ∧ SameDerived name state final ∨
      ∃ earlier later ready current, trace = earlier ++ later ∧
        (∀ event ∈ earlier, PreparesPipeline event.op) ∧
        SameDerived name state ready ∧ inputs.AgreeWith ready ∧
        inputs.defaults = (ready.find .defaults "default").map (·.spec) ∧
        current.name = name ∧ current.metadata.nameSpace = inputs.nameSpace ∧
        current.metadata.uid = inputs.uid ∧ current.spec = inputs.spec ∧
        (∀ stored, state.find .pipeline name = some stored → current.status = stored.status) ∧
        Runs (Serves faulty) (do
          let defaults ← fetchDefaults
          reconcileMerged reconciler current (Defaults.mergeSpec defaults current.spec)).run ready
          later outcome final := by
  obtain ⟨pipeline, found, live, sameSpec, sameUid, sameSpace, sameDefaults, agree⟩ :=
    stored_of_inputsOf known
  obtain ⟨reply, fetched, _, served, rfl, rest⟩ := runs_ask_bind run
  obtain ⟨fetchedReply, rfl⟩ := served.honest_of_genuine (genuine reply)
  have present : reply = .ok pipeline := by
    rw [fetchedReply]
    unfold Cluster.read
    rw [found]
  subst present
  simp only [live, Bool.false_eq_true, if_false] at rest
  rcases runs_fallible_bind_iff.mp rest with
    ⟨message, rfl, failed⟩ | ⟨ensuring, ready, current, later, rfl, ensured, continued⟩
  · exact .inl ⟨⟨message, rfl⟩, sameDerived_of_touches touches_ensureFinalizer pipeline_not_derived
      failed⟩
  have prepared : SameDerived name fetched ready :=
    sameDerived_of_touches touches_ensureFinalizer pipeline_not_derived ensured
  obtain ⟨currentName, currentSpec, currentUid, currentSpace, currentStatus⟩ :=
    runs_ensureFinalizer_ok found ensured
  have framed : ∀ kind other, kind ≠ .pipeline →
      ready.find kind other = fetched.find kind other := fun kind other different =>
    touches_ensureFinalizer.frame ensured (by simp [different])
  have issued : Issues PreparesPipeline Expected (fun _ => True) (ensureFinalizer pipeline).run :=
    (issues_ensureFinalizer (fun _ _ expected => expected) fun _ _ _ => trivial).weaken
      fun _ _ => trivial
  have events := (issued.runs (fun _ _ _ _ served => served.expected) ensured).2
  refine .inr ⟨_ :: ensuring, later, ready, current, rfl,
    List.forall_mem_cons.mpr ⟨trivial, events⟩, prepared,
    agree.congr (fun secret => framed .secret secret (by decide)) (runs_externals ensured).1, ?_,
    currentName, currentSpace.trans sameSpace.symm, currentUid.trans sameUid.symm,
    currentSpec.trans sameSpec.symm, ?_, continued⟩
  · rw [framed .defaults "default" (by decide), sameDefaults]
  · intro stored again
    rw [found, Option.some.injEq] at again
    rw [currentStatus, again]

/-- Up to the validation no child object is written, and the inputs are read. -/
theorem runs_reconcileMerged {outcome : Except String ReconcileResult}
    (known : inputsOf state name = some inputs)
    (run : Runs Disturbed (reconcile reconciler name).run state trace outcome final) :
    (∃ message, outcome = .error message) ∧ SameDerived name state final ∨
      ∃ ready current later, SameDerived name state ready ∧ inputs.AgreeWith ready ∧
        current.name = name ∧ current.metadata.nameSpace = inputs.nameSpace ∧
        current.metadata.uid = inputs.uid ∧
        (∀ stored, state.find .pipeline name = some stored → current.status = stored.status) ∧
        Runs Disturbed (reconcileMerged reconciler current inputs.mergedSpec).run ready later
          outcome final := by
  obtain failed | ⟨_, _, ready, current, _, _, prepared, agree, sameDefaults, named, sameSpace,
    sameUid, sameSpec, status, continued⟩ := 
    runs_reconcileLive (fun _ => genuine_of_input id) known run
  · exact .inl failed
  rcases runs_fallible_bind_iff.mp continued with
    ⟨_, _, failed⟩ | ⟨_, between, defaults, _, _, fetched, validating⟩
  · obtain ⟨impossible, _⟩ := runs_fetchDefaults failed
    cases impossible
  obtain ⟨sameOutcome, rfl⟩ := runs_fetchDefaults fetched
  have merged : Defaults.mergeSpec defaults current.spec = inputs.mergedSpec := by
    cases sameOutcome
    unfold Inputs.mergedSpec
    rw [sameDefaults, sameSpec]
  rw [merged] at validating
  exact .inr ⟨between, current, _, prepared, agree, named, sameSpace, sameUid, status, validating⟩

/-- What a reconcile of a live pipeline with a valid graph does. -/
theorem runs_reconcile {outcome : Except String ReconcileResult}
    (known : inputsOf state name = some inputs)
    (valid : Validation.validateGraph (graphDefs inputs.mergedSpec.pipelines) = .ok ())
    (run : Runs Disturbed (reconcile reconciler name).run state trace outcome final) :
    Deploys reconciler name inputs state outcome final := by
  obtain failed | ⟨ready, current, later, prepared, agree, named, sameSpace, sameUid, _, ran⟩ :=
    runs_reconcileMerged known run
  · exact .inl failed
  · simp only [reconcileMerged, valid] at ran
    exact .of_sameDerived prepared (runs_reconcileValid agree named sameSpace sameUid ran)

/-- An invalid graph is only reported. -/
theorem sameDerived_of_invalid {outcome : Except String ReconcileResult}
    (known : inputsOf state name = some inputs)
    (invalid : Validation.validateGraph (graphDefs inputs.mergedSpec.pipelines) ≠ .ok ())
    (run : Runs Disturbed (reconcile reconciler name).run state trace outcome final) :
    SameDerived name state final := by
  obtain ⟨_, same⟩ | ⟨ready, current, later, prepared, agree, named, _, _, _, ran⟩ :=
    runs_reconcileMerged known run
  · exact same
  · cases graph : Validation.validateGraph (graphDefs inputs.mergedSpec.pipelines) with
    | ok valid => exact absurd graph invalid
    | error error =>
        simp only [reconcileMerged, graph] at ran
        exact prepared.trans (sameDerived_of_touches
          (touches_updateStatus List.mem_cons_self true error.message) pipeline_not_derived ran)

/-- Whatever was there before, a successful reconcile realizes the desired
content. -/
theorem realized_of_reconcile {result : ReconcileResult}
    (known : inputsOf state name = some inputs)
    (valid : Validation.validateGraph (graphDefs inputs.mergedSpec.pipelines) = .ok ())
    (run : Runs Disturbed (reconcile reconciler name).run state trace (.ok result) final) :
    ∃ plan, inputs.plan reconciler name = .ok plan ∧
      ∀ step ∈ children (inputs.owner name) inputs.mergedSpec plan,
        step.2.Realized (inputs.owner name) final := by
  obtain ⟨⟨_, impossible⟩, _⟩ |
    ⟨plan, middle, after, steps, deployed, planned, _, ran, same, success⟩ :=
    runs_reconcile known valid run
  · cases impossible
  · refine ⟨plan, planned, ?_⟩
    rw [success result rfl, deployChildren_eq] at ran
    have distinct : ((children (inputs.owner name) inputs.mergedSpec plan).map
        (·.2.target)).Nodup := by
      rw [targets_children]
      exact nodup_derivedObjects name
    have realized := realized_of_deployAll distinct
      (fun step member => assign_idempotent member) ran
    intro step member
    apply (realized step member).congr
    apply same
    exact target_mem_derivedObjects member

/-- A reconcile that finds its plan realized leaves the child objects alone,
however it ends. -/
theorem sameDerived_of_realized {plan : Plan} {outcome : Except String ReconcileResult}
    (known : inputsOf state name = some inputs)
    (valid : Validation.validateGraph (graphDefs inputs.mergedSpec.pipelines) = .ok ())
    (planned : inputs.plan reconciler name = .ok plan)
    (realized : ∀ step ∈ children (inputs.owner name) inputs.mergedSpec plan,
      step.2.Realized (inputs.owner name) state)
    (run : Runs Disturbed (reconcile reconciler name).run state trace outcome final) :
    SameDerived name state final := by
  obtain ⟨_, same⟩ |
    ⟨again, middle, after, steps, deployed, plannedAgain, prepared, ran, finished, _⟩ :=
    runs_reconcile known valid run
  · exact same
  · rw [planned, Except.ok.injEq] at plannedAgain
    subst plannedAgain
    rw [deployChildren_eq] at ran
    have unchanged := unchanged_of_deployAll (fun step member =>
      (realized step member).congr (prepared _ _ (target_mem_derivedObjects member))) ran
    subst unchanged
    exact prepared.trans finished

end Reconcile

/-- Successful reconciles from any two states with the same inputs realize the
same content, whatever the child objects were before; from then on a reconcile
with these inputs changes none of them, even if it fails half-way. -/
theorem reconcile_path_independent {reconciler : PipelineReconciler} {name : String}
    {inputs : Inputs} {first second firstFinal secondFinal : Cluster}
    {firstTrace secondTrace : List (Event Cluster Op Reply)}
    {firstResult secondResult : ReconcileResult}
    (valid : Validation.validateGraph (graphDefs inputs.mergedSpec.pipelines) = .ok ())
    (firstKnown : inputsOf first name = some inputs)
    (secondKnown : inputsOf second name = some inputs)
    (firstRun : Runs Disturbed (reconcile reconciler name).run first firstTrace
      (.ok firstResult) firstFinal)
    (secondRun : Runs Disturbed (reconcile reconciler name).run second secondTrace
      (.ok secondResult) secondFinal) :
    ∃ plan, inputs.plan reconciler name = .ok plan ∧
      Realizes firstFinal name (inputs.content name plan) ∧
      Realizes secondFinal name (inputs.content name plan) ∧
      ∀ later laterTrace outcome laterFinal, inputsOf later name = some inputs →
        SameDerived name firstFinal later →
        Runs Disturbed (reconcile reconciler name).run later laterTrace outcome laterFinal →
        SameDerived name later laterFinal := by
  obtain ⟨plan, planned, realized⟩ := realized_of_reconcile firstKnown valid firstRun
  obtain ⟨again, plannedAgain, realizedAgain⟩ := realized_of_reconcile secondKnown valid secondRun
  rw [planned, Except.ok.injEq] at plannedAgain
  subst plannedAgain
  refine ⟨plan, planned, realizes_of_children realized, realizes_of_children realizedAgain, ?_⟩
  intro later laterTrace outcome laterFinal known unchanged run
  exact sameDerived_of_realized known valid planned (fun step member =>
    (realized step member).congr (unchanged _ _ (target_mem_derivedObjects member))) run

/-- A pipeline that has never been reconciled. -/
def fresh : Cluster := (Cluster.empty.create (httpPipeline "ingest")).2

def autoscaled : Cluster := (Cluster.empty.create (autoscaledPipeline "ingest" 2 4)).2

/-- The pipeline ran with an autoscaler before its scaling section was removed. -/
def switched : Cluster :=
  (reconciled "ingest" autoscaled).commit
    { httpPipeline "ingest" with
      metadata :=
        { name := "ingest", nameSpace := "logs", uid := "uid-1", generation := 2
          finalizers := [pipelineFinalizerName] } }

def ingestInputs : Inputs where
  spec := (httpPipeline "ingest").spec
  uid := "uid-1"
  nameSpace := "logs"
  defaults := none
  secrets := fun _ => none
  partitions := partitionAnswer Cluster.empty

theorem inputsOf_ingest {cluster : Cluster} {pipeline : DataPrepperPipeline}
    (found : cluster.find .pipeline "ingest" = some pipeline)
    (live : pipeline.metadata.deleting = false) (spec : pipeline.spec = ingestInputs.spec)
    (uid : pipeline.metadata.uid = "uid-1") (nameSpace : pipeline.metadata.nameSpace = "logs")
    (noDefaults : cluster.find .defaults "default" = none)
    (kafka : cluster.kafka = Cluster.empty.kafka) :
    inputsOf cluster "ingest" = some ingestInputs := by
  have unreferenced : referencedSecrets ingestInputs.spec = [] := by decide
  have answers : partitionAnswer cluster = ingestInputs.partitions := by
    unfold partitionAnswer
    rw [kafka]
    rfl
  simp only [inputsOf, found, live, Bool.false_eq_true, if_false, spec, uid, nameSpace,
    noDefaults, Option.map_none, Defaults.mergeSpec, unreferenced, List.not_mem_nil, answers]
  rfl

theorem inputsOf_fresh : inputsOf fresh "ingest" = some ingestInputs :=
  inputsOf_ingest (Cluster.find_commit_same _ _) rfl rfl (by decide +kernel) rfl rfl rfl

theorem completes_fresh : Completes sampleReconciler "ingest" fresh := by decide +kernel

/-- The brokers are those of an empty cluster still. -/
theorem kafka_switched : switched.kafka = Cluster.empty.kafka := by
  obtain ⟨_, earlier⟩ : ∃ trace, Runs Disturbed (reconcile sampleReconciler "ingest").run
      autoscaled trace _ _ := runs_execute _ _
  exact (runs_externals earlier).1

/-- The autoscaler and the disruption budget of the earlier mode are cleaned up. -/
theorem reconcile_path_independent_of_switched :
    (switched.find .horizontalPodAutoscaler "ingest").isSome ∧
      (switched.find .podDisruptionBudget "ingest").isSome ∧
      ∃ plan freshFinal switchedFinal,
        Realizes freshFinal "ingest" (ingestInputs.content "ingest" plan) ∧
        Realizes switchedFinal "ingest" (ingestInputs.content "ingest" plan) := by
  refine ⟨by decide +kernel, by decide +kernel, ?_⟩
  obtain ⟨_, freshRun⟩ := runs_of_completes ChildFault completes_fresh
  obtain ⟨_, switchedRun⟩ := runs_of_completes ChildFault
    (show Completes sampleReconciler "ingest" switched by decide +kernel)
  have switchedKnown : inputsOf switched "ingest" = some ingestInputs :=
    inputsOf_ingest (Cluster.find_commit_same _ _) rfl rfl rfl rfl (by decide +kernel)
      kafka_switched
  obtain ⟨plan, _, freshRealizes, switchedRealizes, _⟩ :=
    reconcile_path_independent (by decide +kernel) inputsOf_fresh switchedKnown freshRun
      switchedRun
  exact ⟨plan, _, _, freshRealizes, switchedRealizes⟩

/-- Someone has put a finalizer on the autoscaler of the earlier mode. -/
def heldAutoscaler : Cluster :=
  let autoscaler := (switched.find .horizontalPodAutoscaler "ingest").get (by decide +kernel)
  switched.commit
    { autoscaler with metadata := { autoscaler.metadata with finalizers := ["hold"] } }

/-- Whatever bears a derived name is controlled by the pipeline with this identifier. -/
def derivedControlled (uid : String) (name : String) (cluster : Cluster) : Bool :=
  (derivedObjects name).all fun target =>
    (cluster.find target.1 target.2).all fun object =>
      object.controllerOf.any fun controller => controller.uid = uid

/-- The finalizer keeps an autoscaler that is not needed, only marked for deletion, while a
pipeline that never had one has none. -/
theorem held_autoscaler_outlives_reconcile :
    (inputsOf fresh "ingest" = some ingestInputs ∧
        derivedControlled "uid-1" "ingest" fresh = true) ∧
      (inputsOf heldAutoscaler "ingest" = some ingestInputs ∧
        derivedControlled "uid-1" "ingest" heldAutoscaler = true) ∧
      (∀ plan, ingestInputs.plan sampleReconciler "ingest" = .ok plan →
        (ingestInputs.content "ingest" plan).horizontalPodAutoscaler = none) ∧
      ∃ freshTrace heldTrace result freshFinal heldFinal,
        Runs Disturbed (reconcile sampleReconciler "ingest").run fresh freshTrace (.ok result)
          freshFinal ∧
        Runs Disturbed (reconcile sampleReconciler "ingest").run heldAutoscaler heldTrace
          (.ok result) heldFinal ∧
        freshFinal.find .horizontalPodAutoscaler "ingest" = none ∧
        (heldFinal.find .horizontalPodAutoscaler "ingest").map (·.metadata.deleting) =
          some true := by
  have stored : heldAutoscaler.find .pipeline "ingest" = switched.find .pipeline "ingest" :=
    Cluster.find_commit_of_kind_ne _ _ (by simp) _
  have heldKnown : inputsOf heldAutoscaler "ingest" = some ingestInputs :=
    inputsOf_ingest (stored.trans (Cluster.find_commit_same _ _)) rfl rfl rfl rfl
      (by decide +kernel) kafka_switched
  obtain ⟨freshTrace, freshRun⟩ := runs_of_completes ChildFault completes_fresh
  obtain ⟨heldTrace, heldRun⟩ := runs_of_completes ChildFault
    (show Completes sampleReconciler "ingest" heldAutoscaler by decide +kernel)
  refine ⟨⟨inputsOf_fresh, by decide +kernel⟩, ⟨heldKnown, by decide +kernel⟩, ?_,
    freshTrace, heldTrace, _, _, _, freshRun, heldRun, by decide +kernel, by decide +kernel⟩
  intro plan planned
  have manual : plan.scaling.useHPA = false :=
    congrArg ScalingDecision.useHPA (Inputs.scaling_of_plan planned rfl)
  simp [Inputs.content, manual]

end DataPrepperOperator.Controller
