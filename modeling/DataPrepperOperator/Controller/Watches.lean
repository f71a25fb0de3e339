import DataPrepperOperator.Controller.KafkaStatus
import DataPrepperOperator.Controller.Operator
import DataPrepperOperator.Controller.Ownership
import DataPrepperOperator.Controller.SecretWatch
import DataPrepperOperator.Library.ControlLoop

/-!
# The pipeline controller and its watches

`SetupWithManager` tells the manager which changes make it call `Reconcile`: those of a
pipeline, those of an object that a pipeline controls, and those of a Secret that a
pipeline refers to.  Here the manager's queue and its workers run against the cluster, with
the calls of all reconciles and the changes of others in any order, with failing calls and
with restarts.  A pipeline whose name neither waits in the queue nor is worked on has all
its objects as its spec, the defaults, the Secrets and the brokers want them.
-/

namespace DataPrepperOperator.Controller.Watches

open ServerProgram DataPrepperOperator.Api
open Operator (Claims PipelineWrites)

variable {kind : Kind} {reconciler : PipelineReconciler} {name : String} {before after : Cluster}

/-- The kinds that the controller is declared to own. -/
def owns (reconciler : PipelineReconciler) : Kind → Bool
  | .deployment | .configMap | .service | .horizontalPodAutoscaler | .podDisruptionBudget => true
  | .serviceMonitor => reconciler.serviceMonitorAvailable
  | .secret | .pipeline | .defaults | .sourceDiscovery => false

theorem owns_of_derived {child : String} (derived : (kind, child) ∈ derivedObjects name) :
    owns reconciler kind = true := by
  simp only [derivedObjects, List.mem_cons, List.not_mem_nil, or_false, Prod.mk.injEq] at derived
  obtain ⟨rfl, _⟩ | ⟨rfl, _⟩ | ⟨rfl, _⟩ | ⟨rfl, _⟩ | ⟨rfl, _⟩ | ⟨rfl, _⟩ | ⟨rfl, _⟩ := derived
  all_goals rfl

theorem isChild_of_owns (owned : owns reconciler kind = true) : IsChild kind := by
  cases kind <;> trivial

/-- `handler.EnqueueRequestForOwner`, for controllers: the uid is not compared. -/
def ownerRequest (object : Object kind) : Option String :=
  match object.controllerOf with
  | none => none
  | some reference =>
      if reference.group = (groupVersionKind .pipeline).1 ∧
          reference.kind = (groupVersionKind .pipeline).2.2 then
        some reference.name
      else none

theorem ownerRequest_of_controlledBy {object : Object kind}
    (controlled : ControlledBy name object) : ownerRequest object = some name := by
  obtain ⟨reference, controller, group, kind, named⟩ := controlled
  simp [ownerRequest, controller, group, kind, named]

/-- Every event handler has put its requests into the queue. -/
structure Delivers (reconciler : PipelineReconciler) (before after : Cluster)
    (woken : Set String) : Prop where
  pipelines : ∀ name, after.find .pipeline name ≠ before.find .pipeline name → name ∈ woken
  owned : ∀ (kind : Kind) child, owns reconciler kind = true →
    after.find kind child ≠ before.find kind child →
    ∀ object, before.find kind child = some object ∨ after.find kind child = some object →
      ∀ name, ownerRequest object = some name → name ∈ woken
  secrets : ∀ secret, after.find .secret secret ≠ before.find .secret secret →
    ∃ trace requests final,
      Runs IndexUnreliable (findPipelinesForSecret secret) after trace requests final ∧
      ∀ request ∈ requests, request.name ∈ woken

/-- A failed reconcile is repeated, and so is one that asks for it. -/
def again : Except String ReconcileResult → Prop
  | .error _ => True
  | .ok result => 0 < result.requeueAfter

instance : DecidablePred again
  | .error _ => .isTrue trivial
  | .ok result => inferInstanceAs (Decidable (0 < result.requeueAfter))

def mergedIn (cluster : Cluster) (pipeline : DataPrepperPipeline) : DataPrepperPipelineSpec :=
  Defaults.mergeSpec ((cluster.find .defaults "default").map (·.spec)) pipeline.spec

/-- Everything that a reconcile looks at is the same. -/
structure Same (name : String) (before after : Cluster) : Prop where
  pipeline : after.find .pipeline name = before.find .pipeline name
  derived : SameDerived name before after
  defaults : after.find .defaults "default" = before.find .defaults "default"
  secrets : ∀ pipeline, before.find .pipeline name = some pipeline →
    ∀ secret ∈ referencedSecrets (mergedIn before pipeline),
      after.find .secret secret = before.find .secret secret
  kafka : after.kafka = before.kafka

theorem Same.mergedIn_eq (same : Same name before after) (pipeline : DataPrepperPipeline) :
    mergedIn after pipeline = mergedIn before pipeline := by
  rw [mergedIn, same.defaults, mergedIn]

theorem same_equivalence (name : String) : Equivalence (Same name) where
  refl _ := ⟨rfl, fun _ _ _ => rfl, rfl, fun _ _ _ _ => rfl, rfl⟩
  symm := by
    intro before after same
    refine ⟨same.pipeline.symm, fun kind child member => (same.derived kind child member).symm,
      same.defaults.symm, ?_, same.kafka.symm⟩
    intro pipeline found secret member
    rw [same.mergedIn_eq] at member
    exact (same.secrets pipeline (same.pipeline ▸ found) secret member).symm
  trans := by
    intro first second third early late
    refine ⟨late.pipeline.trans early.pipeline, early.derived.trans late.derived,
      late.defaults.trans early.defaults, ?_, late.kafka.trans early.kafka⟩
    intro pipeline found secret member
    have earlier := early.secrets pipeline found secret member
    rw [← early.mergedIn_eq] at member
    exact (late.secrets pipeline (early.pipeline.trans found) secret member).trans earlier

theorem inputsOf_of_same (same : Same name before after) :
    inputsOf after name = inputsOf before name := by
  unfold inputsOf
  rw [same.pipeline, same.defaults]
  cases found : before.find .pipeline name with
  | none => rfl
  | some pipeline =>
      have secrets : ∀ secret ∈ referencedSecrets (mergedIn before pipeline),
          after.find .secret secret = before.find .secret secret :=
        same.secrets pipeline found
      dsimp only
      split
      · rfl
      · congr 2
        · funext secret
          split
          next member => rw [secrets secret member]
          next => rfl
        · unfold partitionAnswer
          rw [same.kafka]

/-- The objects that a reconcile looks at. -/
inductive InView (name : String) (cluster : Cluster) : Kind × String → Prop where
  | pipeline : InView name cluster (.pipeline, name)
  | derived {target} : target ∈ derivedObjects name → InView name cluster target
  | defaults : InView name cluster (.defaults, "default")
  | secret {pipeline secret} : cluster.find .pipeline name = some pipeline →
      secret ∈ referencedSecrets (mergedIn cluster pipeline) →
      InView name cluster (.secret, secret)

theorem InView.of_same {target : Kind × String} (same : Same name before after)
    (inView : InView name before target) : InView name after target := by
  cases inView with
  | pipeline => exact .pipeline
  | derived member => exact .derived member
  | defaults => exact .defaults
  | secret found member =>
      rw [← same.mergedIn_eq] at member
      exact .secret (same.pipeline.trans found) member

theorem Same.find_eq {found : String} (same : Same name before after)
    (inView : InView name before (kind, found)) :
    after.find kind found = before.find kind found := by
  cases inView with
  | pipeline => exact same.pipeline
  | derived member => exact same.derived kind found member
  | defaults => exact same.defaults
  | secret stored member => exact same.secrets _ stored _ member

/-- The operations whose answers depend on what is in view. -/
structure Concerns (name : String) (cluster : Cluster) (op : Op) : Prop where
  isLocal : op.Local
  subject : ∀ target, op.subject = some target → InView name cluster target

/-- The reply to such an operation is one that the cluster itself could give. -/
theorem unchanging_of_sees {cluster : Cluster} {op : Op} {reply : Reply op}
    (concerns : Concerns name cluster op) (sees : Sees Disturbed (Same name) cluster op reply) :
    Disturbed cluster op reply cluster := by
  obtain ⟨before, after, looks, unchanged, served⟩ := sees
  apply served.replay concerns.isLocal _ looks.kafka.symm
  intro kind found subject
  have inView := concerns.subject (kind, found) subject
  exact ⟨(looks.find_eq inView).symm, unchanged.find_eq (inView.of_same looks)⟩

/-- A pipeline that is not being deleted, with everything in place. -/
structure Current (reconciler : PipelineReconciler) (name : String) (cluster : Cluster)
    (pipeline : DataPrepperPipeline) (inputs : Inputs) : Prop where
  finalizer : pipelineFinalizerName ∈ pipeline.metadata.finalizers
  generation : pipeline.status.observedGeneration = pipeline.metadata.generation
  invalid : Validation.validateGraph (graphDefs inputs.mergedSpec.pipelines) ≠ .ok () →
    pipeline.status.phase = .error
  valid : Validation.validateGraph (graphDefs inputs.mergedSpec.pipelines) = .ok () →
    pipeline.status.phase = .running ∧ ∃ plan, inputs.plan reconciler name = .ok plan ∧
      Realizes cluster name (inputs.content name plan)

/-- Nothing is left to do for the pipeline of this name, if there is one. -/
def UpToDate (reconciler : PipelineReconciler) (name : String) (cluster : Cluster) : Prop :=
  ∀ pipeline, cluster.find .pipeline name = some pipeline →
    match inputsOf cluster name with
    | none => pipelineFinalizerName ∉ pipeline.metadata.finalizers
    | some inputs => Current reconciler name cluster pipeline inputs

theorem Realizes.of_sameDerived {content : DerivedContent} (same : SameDerived name before after)
    (realizes : Realizes before name content) : Realizes after name content := by
  have stored : ∀ {kind : Kind} {child : String} {Content : Type} {project : kind.Spec → Content}
      {managed : Managed Content}, (kind, child) ∈ derivedObjects name →
      Stored before kind child project managed → Stored after kind child project managed := by
    intro kind child Content project managed member present
    unfold Stored at present ⊢
    rwa [same kind child member]
  have storedIff : ∀ {kind : Kind} {child : String} {Content : Type}
      {project : kind.Spec → Content} {managed : Option (Managed Content)},
      (kind, child) ∈ derivedObjects name →
      StoredIff before kind child project managed → StoredIff after kind child project managed := by
    intro kind child Content project managed member present
    cases managed with
    | some managed => exact stored member present
    | none =>
        unfold StoredIff Removed at present ⊢
        rwa [same kind child member]
  exact
    { pipelines := stored (by simp [derivedObjects]) realizes.pipelines
      config := stored (by simp [derivedObjects]) realizes.config
      deployment := stored (by simp [derivedObjects]) realizes.deployment
      service := storedIff (by simp [derivedObjects]) realizes.service
      headlessService := storedIff (by simp [derivedObjects]) realizes.headlessService
      horizontalPodAutoscaler :=
        storedIff (by simp [derivedObjects]) realizes.horizontalPodAutoscaler
      podDisruptionBudget := storedIff (by simp [derivedObjects]) realizes.podDisruptionBudget }

theorem UpToDate.of_same (same : Same name before after)
    (upToDate : UpToDate reconciler name before) : UpToDate reconciler name after := by
  intro pipeline found
  rw [same.pipeline] at found
  have holds := upToDate pipeline found
  rw [inputsOf_of_same same]
  split at holds
  next deleted => exact holds
  next inputs known =>
    refine ⟨holds.finalizer, holds.generation, holds.invalid, ?_⟩
    intro valid
    obtain ⟨running, plan, planned, realizes⟩ := holds.valid valid
    exact ⟨running, plan, planned, Realizes.of_sameDerived same.derived realizes⟩

/-- The objects that the reconciles of a name write. -/
def writtenObjects (name : String) : List (Kind × String) :=
  (.pipeline, name) :: (.serviceMonitor, name) :: derivedObjects name

/-- A worker writes to its own objects only, and claims the child objects. -/
structure Own (name : String) (op : Op) : Prop where
  target : ∀ target, op.target = some target → target ∈ writtenObjects name
  claimed : ∀ (kind : Kind) (object : Object kind), IsChild kind →
    op = .create kind object ∨ op = .update kind object → ControlledBy name object

theorem own_of_read (op : Op) (reads : op.target = none) : Own name op where
  target := by
    intro target targeted
    rw [reads] at targeted
    cases targeted
  claimed := by
    rintro kind object child (rfl | rfl)
    all_goals cases reads

theorem own_of_pipeline {op : Op} {object : DataPrepperPipeline}
    (writes : op = .update .pipeline object ∨ op = .updateStatus .pipeline object)
    (named : object.name = name) : Own name op where
  target := by
    obtain rfl | rfl := writes
    all_goals
      rintro _ ⟨⟩
      rw [show object.name = name from named]
      exact List.mem_cons_self
  claimed := by
    rintro kind claimed child (rfl | rfl) <;> obtain same | same := writes <;> cases same
    exact child.elim

theorem own_of_claims {owner : DataPrepperPipeline} {claimed : Object kind}
    (named : owner.name = name) (claims : Claims owner claimed) :
    Own name (.create kind claimed) ∧ Own name (.update kind claimed) := by
  have member : (kind, claimed.name) ∈ writtenObjects name :=
    List.mem_cons_of_mem _ (named ▸ claims.target)
  have controlled : ControlledBy name claimed :=
    ⟨controllerReference owner, claims.controller, rfl, rfl, named⟩
  constructor
  all_goals
    refine ⟨?_, ?_⟩
    · rintro _ ⟨⟩
      exact member
    · rintro other object child (same | same) <;> cases same
      exact controlled

theorem writes_own (name : String) :
    PipelineWrites name (Own name) Expected (fun pipeline => pipeline.name = name) where
  reads := own_of_read
  expected _ _ expected := expected
  fetched pipeline expected := expected pipeline rfl
  finalizers pipeline finalizers named := own_of_pipeline (.inl rfl) named
  stored pipeline finalizers current named expected := (expected current rfl).1.trans named
  deploys pipeline owner kind claimed named sameMeta claims :=
    own_of_claims ((congrArg ObjectMeta.name sameMeta).trans named) claims
  removes pipeline kind removed named child member :=
    ⟨by rintro _ ⟨⟩; exact List.mem_cons_of_mem _ (named ▸ member),
      by rintro kind claimed child (same | same) <;> cases same⟩
  rejects pipeline defaults error object named target _ _ :=
    own_of_pipeline (.inr rfl) (target.trans named)
  reports pipeline calculated needed object named target _ _ :=
    own_of_pipeline (.inr rfl) (target.trans named)

/-- The suffixes of the two ConfigMaps keep them apart. -/
theorem configNames_ne (first second : String) : first ++ "-pipelines" ≠ second ++ "-config" := by
  intro same
  have last := congrArg (fun text : String => text.toList.getLast?) same
  simp [String.toList_append] at last

theorem owner_unique {pipelines : Set String} (free : HeadlessNamesFree pipelines)
    {other : String} (otherIn : other ∈ pipelines) (nameIn : name ∈ pipelines)
    {target : Kind × String} (written : target ∈ writtenObjects other)
    (derived : target ∈ derivedObjects name) : other = name := by
  have apart := free other otherIn name nameIn
  have apart' := free name nameIn other otherIn
  simp only [derivedObjects, List.mem_cons, List.not_mem_nil, or_false] at derived
  simp only [writtenObjects, derivedObjects, List.mem_cons, List.not_mem_nil, or_false] at written
  obtain rfl | rfl | rfl | rfl | rfl | rfl | rfl := derived
  all_goals
    simp only [Prod.mk.injEq, reduceCtorEq, false_and, or_false, false_or, true_and] at written
  · obtain same | same := written
    · exact ((String.append_left_inj _).mp same).symm
    · exact (configNames_ne _ _ same).elim
  · obtain same | same := written
    · exact (configNames_ne _ _ same.symm).elim
    · exact ((String.append_left_inj _).mp same).symm
  · exact written.symm
  · obtain same | same := written
    · exact same.symm
    · exact absurd same apart'
  · obtain same | same := written
    · exact absurd same.symm apart
    · exact ((String.append_left_inj _).mp same).symm
  · exact written.symm
  · exact written.symm

/-- Whatever is stored under a name that belongs to a pipeline is controlled by it. -/
def Held (pipelines : Set String) (cluster : Cluster) : Prop :=
  ∀ name ∈ pipelines, ∀ (kind : Kind) child (object : Object kind),
    (kind, child) ∈ derivedObjects name → cluster.find kind child = some object →
    ControlledBy name object

/-- What others may do.  The controller does not watch the defaults and the brokers, and a
Secret wakes the pipelines that refer to it themselves, not through the defaults. -/
structure Outside (pipelines : Set String) (before after : Cluster) : Prop where
  held : Held pipelines after
  defaults : after.find .defaults "default" = before.find .defaults "default"
  kafka : after.kafka = before.kafka
  fieldIndex : after.fieldIndex = before.fieldIndex
  secrets : ∀ secret, after.find .secret secret ≠ before.find .secret secret →
    ∀ name ∈ pipelines, ∀ pipeline, after.find .pipeline name = some pipeline →
      secret ∈ referencedSecrets (mergedIn after pipeline) →
      secret ∈ referencedSecrets pipeline.spec

/-- The controller for the pipelines with these names.  Reads of the inputs do not fail. -/
def loop (reconciler : PipelineReconciler) (pipelines : Set String) :
    ControlLoop String Cluster Op Reply (Except String ReconcileResult) where
  server := Disturbed
  work name := (reconcile reconciler name).run
  requests := pipelines
  again := again
  delivers := Delivers reconciler
  environment := Outside pipelines
  known cluster := { name | (cluster.find .pipeline name).isSome = true }

section Moves

variable {pipelines : Set String}

theorem Held.served (free : HeadlessNamesFree pipelines) (held : Held pipelines before)
    {worker : String} (member : worker ∈ pipelines) {op : Op} {reply : Reply op}
    (own : Own worker op) (served : Disturbed before op reply after) : Held pipelines after := by
  intro name nameIn kind child object derived present
  have claims : ∀ claimed : Object kind, claimed.name = child →
      op = .create kind claimed ∨ op = .update kind claimed → ControlledBy name claimed := by
    intro claimed named writes
    have target : op.target = some (kind, child) := by
      obtain rfl | rfl := writes
      all_goals exact congrArg (fun found => some (kind, found)) named
    obtain rfl := owner_unique free member nameIn (own.target _ target) derived
    have owned : owns sampleReconciler kind = true := owns_of_derived derived
    exact own.claimed kind claimed (isChild_of_owns owned) writes
  cases served.storedBy present with
  | kept found => exact held name nameIn kind child object derived found
  | @created claimed named absent => exact claims claimed named (.inl rfl)
  | @updated claimed stored named found => exact claims claimed named (.inr rfl)
  | @reported claimed stored named found => exact held name nameIn kind child stored derived found
  | @marked stored found => exact held name nameIn kind child stored derived found

/-- Every change of an object of the pipeline reaches its controller. -/
theorem sameDerived_of_unwoken {woken : Set String} (nameIn : name ∈ pipelines)
    (heldBefore : Held pipelines before) (heldAfter : Held pipelines after)
    (delivered : Delivers reconciler before after woken) (quiet : name ∉ woken) :
    SameDerived name before after := by
  intro kind child derived
  by_contra changed
  apply quiet
  have owned : owns reconciler kind = true := owns_of_derived derived
  cases present : after.find kind child with
  | some object =>
      have controlled := heldAfter name nameIn kind child object derived present
      exact delivered.owned kind child owned changed object (.inr present) name
        (ownerRequest_of_controlledBy controlled)
  | none =>
      obtain ⟨object, found⟩ : ∃ object, before.find kind child = some object :=
        Option.ne_none_iff_exists'.mp fun absent => changed (present.trans absent.symm)
      have controlled := heldBefore name nameIn kind child object derived found
      exact delivered.owned kind child owned changed object (.inl found) name
        (ownerRequest_of_controlledBy controlled)

/-- Every change of a Secret that the pipeline itself refers to reaches the pipeline. -/
theorem secret_of_unwoken {woken : Set String} {pipeline : DataPrepperPipeline} {secret : String}
    (indexed : SecretIndexed after) (found : after.find .pipeline name = some pipeline)
    (referenced : secret ∈ referencedSecrets pipeline.spec)
    (delivered : Delivers reconciler before after woken) (quiet : name ∉ woken) :
    after.find .secret secret = before.find .secret secret := by
  by_contra changed
  obtain ⟨trace, requests, final, run, requested⟩ := delivered.secrets secret changed
  have request := (mem_findPipelinesForSecret indexed found run).mpr referenced
  have named : (requestFor pipeline).name = name := Cluster.name_of_find found
  exact quiet (named ▸ requested _ request)

theorem same_of_unwoken {woken : Set String} (nameIn : name ∈ pipelines)
    (indexed : SecretIndexed after) (heldBefore : Held pipelines before)
    (heldAfter : Held pipelines after)
    (moves : (loop reconciler pipelines).Moves Own before after)
    (delivered : Delivers reconciler before after woken) (quiet : name ∉ woken) :
    Same name before after := by
  have pipeline : after.find .pipeline name = before.find .pipeline name := by
    by_contra changed
    exact quiet (delivered.pipelines name changed)
  have derived := sameDerived_of_unwoken nameIn heldBefore heldAfter delivered quiet
  obtain ⟨worker, _, op, reply, own, served⟩ | (outside : Outside pipelines before after) := moves
  · have frame : ∀ {kind : Kind} {found : String}, (kind, found) ∉ writtenObjects worker →
        after.find kind found = before.find kind found := by
      intro kind found unwritten
      exact (show Disturbed before op reply after from served).frame
        fun target => unwritten (own.target _ target)
    refine ⟨pipeline, derived, frame (by simp [writtenObjects, derivedObjects]),
      fun _ _ _ _ => frame (by simp [writtenObjects, derivedObjects]), ?_⟩
    exact (show Disturbed before op reply after from served).externals.1
  · refine ⟨pipeline, derived, outside.defaults, ?_, outside.kafka⟩
    intro stored found secret member
    by_contra changed
    have present : after.find .pipeline name = some stored := pipeline.trans found
    have merged : mergedIn after stored = mergedIn before stored := by
      rw [mergedIn, outside.defaults, mergedIn]
    have referenced := outside.secrets secret changed name nameIn stored present (merged ▸ member)
    exact changed (secret_of_unwoken indexed present referenced delivered quiet)

end Moves

section Concludes

variable {state : Cluster} {inputs : Inputs}

/-- If all answers fit one view of the state, a success is good. -/
abbrev Concludes {Result : Type} (name : String) (state : Cluster) (good : Result → Prop)
    (action : Reconciler Result) : Prop :=
  Issues (fun _ => True) (Sees Disturbed (Same name) state) (OnSuccess good) action.run

theorem expected_of_sees (op : Op) (reply : Reply op)
    (sees : Sees Disturbed (Same name) state op reply) : Expected op reply := by
  obtain ⟨_, _, _, _, served⟩ := sees
  exact served.expected

/-- A program about what is in view returns what a run in the state itself returns. -/
theorem concludes_of_runs {Result : Type} {action : Reconciler Result} {good : Result → Prop}
    (issued : Issues (Concerns name state) (Sees Disturbed (Same name) state)
      (OnSuccess fun _ => True) action.run)
    (returned : ∀ trace result, Runs Disturbed action.run state trace (.ok result) state →
      good result) : Concludes name state good action := by
  apply Issues.of_unchanging (fun _ _ => unchanging_of_sees) (issued.weaken fun _ _ => trivial)
  intro trace outcome run
  cases outcome with
  | error message => trivial
  | ok result => exact returned trace result run

theorem concerns_of_subject {op : Op} {target : Kind × String} (isLocal : op.Local)
    (subject : op.subject = some target) (inView : InView name state target) :
    Concerns name state op := by
  refine ⟨isLocal, ?_⟩
  intro other same
  obtain rfl := Option.some.inj (subject.symm.trans same)
  exact inView

theorem concerns_of_none {op : Op} (isLocal : op.Local) (subject : op.subject = none) :
    Concerns name state op := by
  refine ⟨isLocal, ?_⟩
  intro target same
  rw [subject] at same
  cases same

theorem planningReads {pipeline : DataPrepperPipeline}
    (found : state.find .pipeline name = some pipeline) :
    PlanningReads (Concerns name state) (mergedIn state pipeline) where
  secrets _ member := concerns_of_subject trivial rfl (.secret found member)
  credentials _ branch referred := concerns_of_subject trivial rfl
    (.secret found (mem_referencedSecrets_of_scalingBranch branch referred))
  ranges _ := concerns_of_none trivial rfl
  connects _ := concerns_of_none trivial rfl
  counts _ _ := concerns_of_none trivial rfl

theorem concludes_makePlan {stored : DataPrepperPipeline} (pipeline : DataPrepperPipeline)
    (found : state.find .pipeline name = some stored)
    (merged : inputs.mergedSpec = mergedIn state stored) (agree : inputs.AgreeWith state)
    (named : pipeline.name = name) (sameSpace : pipeline.metadata.nameSpace = inputs.nameSpace) :
    Concludes name state (fun planned => inputs.plan reconciler name = .ok planned.1 ∧
      planned.2.metadata = pipeline.metadata)
      (makePlan reconciler pipeline inputs.mergedSpec) := by
  apply concludes_of_runs
  · rw [merged]
    exact (issues_makePlan_planned (planningReads found) reconciler pipeline).weaken_success
      fun _ _ => trivial
  · intro trace planned run
    obtain ⟨computed, _, _⟩ := runs_makePlan agree run sameSpace
    rw [named] at computed
    exact ⟨computed.symm, (plannedFor_of_runs run).metadata⟩

theorem concludes_deployChildren {owner : DataPrepperPipeline} (named : owner.name = name)
    (mergedSpec : DataPrepperPipelineSpec) (plan : Plan) :
    Concludes name state
      (fun _ => ∀ step ∈ children owner mergedSpec plan, step.2.Realized owner state)
      (deployChildren owner mergedSpec plan) := by
  rw [deployChildren_eq]
  apply concludes_of_runs
  · apply issues_deployAll
    intro step member
    have derived : InView name state step.2.target :=
      .derived (named ▸ target_mem_derivedObjects member)
    apply issues_reconcileOrDelete
    · exact concerns_of_subject trivial rfl derived
    · exact expected_of_sees
    · intro object claimed sameName success
      have target := (claimWith_ok success).1.trans sameName
      have subject : some (step.2.kind, claimed.name) = some step.2.target :=
        congrArg (fun found => some (step.2.kind, found)) target
      exact ⟨concerns_of_subject trivial subject derived,
        concerns_of_subject trivial subject derived⟩
    · exact fun _ => concerns_of_subject trivial rfl derived
  · intro trace _ run
    apply realized_of_deployAll _ _ run
    · rw [targets_children]
      exact nodup_derivedObjects owner.name
    · exact fun step member => assign_idempotent member

theorem phase_withReadyCondition (pipeline : DataPrepperPipeline) (message : String) :
    (withReadyCondition pipeline message).status.phase = pipeline.status.phase := by
  unfold withReadyCondition
  split <;> rfl

/-- A phase that is not looked at again. -/
theorem pipelinePhase_settled {errorPhase : Bool} {status : DataPrepperPipelineStatus}
    (settled : ¬(pipelinePhase errorPhase status = .pending ∨
      pipelinePhase errorPhase status = .degraded)) :
    pipelinePhase errorPhase status = if errorPhase then .error else .running := by
  unfold pipelinePhase at settled ⊢
  split_ifs at settled ⊢ <;> simp at settled ⊢

/-- The status is stored for the generation in hand. -/
theorem phase_of_runs {pipeline : DataPrepperPipeline} {errorPhase : Bool} {message : String}
    {final : Cluster} {trace : List (Event Cluster Op Reply)} {result : ReconcileResult}
    (run : Runs Disturbed (updateStatus pipeline errorPhase message).run state trace (.ok result)
      final) (done : ¬again (.ok result)) :
    ∃ stored, final.find .pipeline pipeline.name = some stored ∧
      stored.status.observedGeneration = pipeline.metadata.generation ∧
      stored.status.phase = if errorPhase then .error else .running := by
  obtain ⟨stored, found, reports⟩ := reports_of_stored run
  refine ⟨stored, found, reports.generation, ?_⟩
  obtain ⟨_, _, counted, _, _, _, rest⟩ := runs_lift_bind run
  obtain ⟨_, written, _, _, _, storing, finished⟩ := runs_bind_ok rest
  obtain ⟨_, _, _, _, _, called, dropped⟩ := runs_bind_ok (runs_wrapError_ok storing)
  obtain ⟨_, _, attempted⟩ := runs_retryOnConflict_ok (runs_callApi_ok called)
  obtain ⟨placed, same⟩ := stored_of_storeStatus attempted
  obtain ⟨_, _, rfl⟩ := runs_pure_iff.mp dropped
  split at finished
  next unsettled =>
    obtain ⟨_, rewarded, _⟩ := runs_pure_iff.mp finished
    cases rewarded
    exact (done (show (0 : Int) < 30 * second by decide)).elim
  next settled =>
    obtain ⟨_, _, rfl⟩ := runs_pure_iff.mp finished
    rw [placed, Option.some.injEq] at found
    rw [phase_withReadyCondition] at settled
    rw [← found, same, phase_withReadyCondition]
    exact pipelinePhase_settled settled

theorem concludes_updateStatus (pipeline : DataPrepperPipeline) (named : pipeline.name = name)
    (errorPhase : Bool) (message : String) :
    Concludes name state (fun result => ¬again (.ok result) →
      ∃ stored, state.find .pipeline name = some stored ∧
        stored.status.observedGeneration = pipeline.metadata.generation ∧
        stored.status.phase = if errorPhase then .error else .running)
      (updateStatus pipeline errorPhase message) := by
  have inView : InView name state (.pipeline, pipeline.name) := named ▸ .pipeline
  apply concludes_of_runs
  · apply issues_updateStatus expected_of_sees
    · exact concerns_of_subject trivial rfl (.derived (by simp [derivedObjects, named]))
    · exact concerns_of_subject trivial rfl inView
    · intro object target _
      rw [← target] at inView
      exact concerns_of_subject trivial rfl inView
  · intro trace result run done
    rw [← named]
    exact phase_of_runs run done

theorem concludes_finish {pipeline : DataPrepperPipeline} (named : pipeline.name = name)
    (mergedSpec : DataPrepperPipelineSpec) :
    Concludes name state (fun result => ¬again (.ok result) →
      ∃ stored, state.find .pipeline name = some stored ∧
        stored.status.observedGeneration = pipeline.metadata.generation ∧
        stored.status.phase = .running)
      (finish reconciler pipeline mergedSpec) := by
  have anything : ∀ {Result : Type} (program : Reconciler Result),
      Concludes name state (fun _ => True) program :=
    fun program => Issues.of_fewer_replies (fun _ _ _ => trivial) (returns_fallible program)
  apply Issues.bind_fallible _ (anything _)
  intro _ _
  apply Issues.bind_fallible _ (anything _)
  intro _ _
  exact concludes_updateStatus pipeline named false ""

theorem concludes_reconcileMerged {stored : DataPrepperPipeline}
    (found : state.find .pipeline name = some stored)
    (known : inputsOf state name = some inputs)
    (finalizer : pipelineFinalizerName ∈ stored.metadata.finalizers) :
    Concludes name state
      (fun result => ¬again (.ok result) → Current reconciler name state stored inputs)
      (reconcileMerged reconciler stored inputs.mergedSpec) := by
  obtain ⟨again, foundAgain, _, sameSpec, sameUid, sameSpace, sameDefaults, agree⟩ :=
    stored_of_inputsOf known
  obtain rfl := Option.some.inj (found.symm.trans foundAgain)
  have named : stored.name = name := Cluster.name_of_find found
  have merged : inputs.mergedSpec = mergedIn state stored := by
    rw [Inputs.mergedSpec, mergedIn, sameDefaults, sameSpec]
  unfold reconcileMerged
  split
  next error invalid =>
    apply (concludes_updateStatus (withCondition stored "ConfigValid" .false
      "ValidationFailed" error.message) named true error.message).weaken_success
    intro result reported done
    obtain ⟨current, present, generation, phase⟩ := reported done
    obtain rfl := Option.some.inj (found.symm.trans present)
    refine ⟨finalizer, generation, fun _ => phase, fun valid => ?_⟩
    rw [valid] at invalid
    cases invalid
  next valid =>
    apply Issues.bind_fallible _ (concludes_makePlan (withCondition stored "ConfigValid" .true
      "Valid" "Pipeline configuration is valid") found merged agree named sameSpace.symm)
    rintro ⟨plan, recorded⟩ ⟨planned, sameMeta⟩
    have sameOwner : deployChildren recorded inputs.mergedSpec plan =
        deployChildren (inputs.owner name) inputs.mergedSpec plan := by
      apply deployChildren_congr
      · exact (congrArg ObjectMeta.name sameMeta).trans named
      · exact (congrArg ObjectMeta.nameSpace sameMeta).trans sameSpace.symm
      · exact (congrArg ObjectMeta.uid sameMeta).trans sameUid.symm
    dsimp only
    rw [sameOwner]
    apply Issues.bind_fallible _ (concludes_deployChildren rfl inputs.mergedSpec plan)
    intro _ realized
    apply (concludes_finish ((congrArg ObjectMeta.name sameMeta).trans named) _).weaken_success
    intro result reported done
    obtain ⟨current, present, generation, phase⟩ := reported done
    obtain rfl := Option.some.inj (found.symm.trans present)
    refine ⟨finalizer, generation.trans (congrArg ObjectMeta.generation sameMeta), ?_, ?_⟩
    · exact fun invalid => absurd valid invalid
    · exact fun _ => ⟨phase, plan, planned, realizes_of_children realized⟩

/-- An update that is accepted without an effect asks for the stored finalizers. -/
theorem concludes_update {stored asked : DataPrepperPipeline} {context : String}
    {good : DataPrepperPipeline → Prop} (found : state.find .pipeline name = some stored)
    (named : asked.name = name)
    (differs : asked.metadata.finalizers ≠ stored.metadata.finalizers) :
    Concludes name state good (wrapError context (callApi (Client.update asked))) := by
  apply issues_wrapError
  apply issues_callApi
  refine Issues.request (Op.update .pipeline asked) trivial ?_
  rintro (error | object) sees
  · trivial
  · have inView : InView name state (.pipeline, asked.name) := by
      rw [named]
      exact .pipeline
    have concerns : Concerns name state (.update .pipeline asked) :=
      concerns_of_subject trivial rfl inView
    have unchanged := updated_of_unchanged (unchanging_of_sees concerns sees) (named ▸ found)
    exact absurd (congrArg (fun current : DataPrepperPipeline => current.metadata.finalizers)
      unchanged) differs

theorem concludes_finalize {stored : DataPrepperPipeline}
    (found : state.find .pipeline name = some stored) :
    Concludes name state (fun _ => pipelineFinalizerName ∉ stored.metadata.finalizers)
      (finalize stored) := by
  have named : stored.name = name := Cluster.name_of_find found
  unfold finalize
  split
  next present =>
    refine Issues.bind_fallible (fun _ => pipelineFinalizerName ∉ stored.metadata.finalizers)
      (concludes_update found ?_ ?_) fun _ absent => absent
    · exact named
    · intro same
      rw [← same] at present
      simp at present
  next absent => exact absent

theorem concludes_ensureFinalizer {stored : DataPrepperPipeline}
    (found : state.find .pipeline name = some stored) :
    Concludes name state (fun current => current = stored ∧
      pipelineFinalizerName ∈ stored.metadata.finalizers) (ensureFinalizer stored) := by
  have named : stored.name = name := Cluster.name_of_find found
  unfold ensureFinalizer
  split
  next present => exact ⟨rfl, present⟩
  next absent =>
    refine concludes_update found ?_ ?_
    · exact named
    · intro same
      rw [← same] at absent
      simp at absent

theorem concludes_fetchDefaults :
    Concludes name state
      (fun defaults => defaults = (state.find .defaults "default").map (·.spec))
      fetchDefaults := by
  apply concludes_of_runs
  · apply Issues.bind_fallible (fun _ => True)
    · apply Issues.lift
      exact Issues.request (Op.get .defaults "default")
        (concerns_of_subject trivial rfl .defaults) fun _ _ => trivial
    · rintro (error | defaults) _ <;> trivial
  · intro trace defaults run
    exact Except.ok.inj (runs_fetchDefaults run).1

/-- Whoever saw one state from the first call to the last has nothing left to do in it. -/
theorem concludes_reconcile (reconciler : PipelineReconciler) (name : String) (state : Cluster) :
    Issues (fun _ => True) (Sees Disturbed (Same name) state)
      (fun outcome => ¬again outcome → UpToDate reconciler name state)
      (reconcile reconciler name).run := by
  have verdict : Concludes name state
      (fun result => ¬again (.ok result) → UpToDate reconciler name state)
      (reconcile reconciler name) := by
    apply Issues.bind_fallible (fun reply => reply = state.read .pipeline name)
    · apply Issues.lift
      refine Issues.request (Op.get .pipeline name) trivial ?_
      intro reply sees
      have concerns : Concerns name state (.get .pipeline name) :=
        concerns_of_subject trivial rfl .pipeline
      exact (Disturbed.read_input id (unchanging_of_sees concerns sees)).1
    rintro _ rfl
    unfold Cluster.read
    cases found : state.find .pipeline name with
    | none =>
        intro _ pipeline present
        rw [found] at present
        cases present
    | some stored =>
        dsimp only
        split
        next deleting =>
          apply (concludes_finalize found).weaken_success
          intro result released _ pipeline present
          obtain rfl := Option.some.inj (found.symm.trans present)
          have gone : inputsOf state name = none := by simp [inputsOf, found, deleting]
          rw [gone]
          exact released
        next live =>
          obtain ⟨inputs, known⟩ : ∃ inputs, inputsOf state name = some inputs := by
            simp [inputsOf, found, live]
          obtain ⟨again, foundAgain, _, sameSpec, _, _, sameDefaults, _⟩ :=
            stored_of_inputsOf known
          obtain rfl := Option.some.inj (found.symm.trans foundAgain)
          apply Issues.bind_fallible _ (concludes_ensureFinalizer found)
          rintro _ ⟨rfl, finalizer⟩
          apply Issues.bind_fallible _ concludes_fetchDefaults
          rintro _ rfl
          rw [← sameSpec, ← sameDefaults]
          apply (concludes_reconcileMerged found known finalizer).weaken_success
          intro result current done pipeline present
          obtain rfl := Option.some.inj (found.symm.trans present)
          rw [known]
          exact current done
  apply verdict.weaken
  intro outcome holds
  cases outcome with
  | error message => exact fun done => (done trivial).elim
  | ok result => exact holds

end Concludes

theorem levelTriggered (reconciler : PipelineReconciler) {pipelines : Set String}
    (free : HeadlessNamesFree pipelines) :
    (loop reconciler pipelines).LevelTriggered Own Expected
      (fun cluster => Held pipelines cluster ∧ SecretIndexed cluster) Same
      (UpToDate reconciler) where
  equivalence := same_equivalence
  respects _ _ _ same upToDate := upToDate.of_same same
  issues name _ := ((writes_own name).reconcile reconciler).weaken fun _ _ => trivial
  replies _ _ _ _ served := served.expected
  keeps := by
    rintro before after (⟨worker, member, op, reply, own, served⟩ | outside) ⟨held, indexed⟩
    · refine ⟨held.served free member own served, ?_⟩
      rw [SecretIndexed, (show Disturbed before op reply after from served).externals.2.2]
      exact indexed
    · refine ⟨outside.held, ?_⟩
      rw [SecretIndexed, outside.fieldIndex]
      exact indexed
  delivered _ nameIn _ _ _ moves heldBefore heldAfter delivered quiet :=
    same_of_unwoken nameIn heldAfter.2 heldBefore.1 heldAfter.1 moves delivered quiet
  concludes name _ state _ := concludes_reconcile reconciler name state
  unknown name cluster unknown := by
    intro pipeline found
    exact (unknown (by simp [loop, found])).elim

/-- No change is lost: in every order of the calls of all reconciles, of the changes of
others and of restarts, a pipeline that nobody waits to look at has its objects in place,
and its status says so for its present generation. -/
theorem quiet_pipelines_up_to_date {reconciler : PipelineReconciler} {pipelines : Set String}
    (free : HeadlessNamesFree pipelines)
    {start queue : Queue String Cluster Op Reply (Except String ReconcileResult)}
    (fresh : (loop reconciler pipelines).Fresh start) (held : Held pipelines start.state)
    (indexed : SecretIndexed start.state) (run : (loop reconciler pipelines).Run start queue)
    {name : String} (member : name ∈ pipelines) (quiet : name ∉ queue.pending)
    (idle : queue.running name = none) : UpToDate reconciler name queue.state :=
  ControlLoop.Run.settles (levelTriggered reconciler free) run fresh ⟨held, indexed⟩ member quiet
    idle

theorem unchanged_of_clock {faulty : (op : Op) → Reply op → Prop} {op : Op} {reply : Reply op}
    (served : Serves faulty before op reply after) (same : after.clock = before.clock) :
    after = before := by
  obtain unchanged | ⟨_, _, _, written⟩ := served.written
  · exact unchanged
  · cases written with
    | unchanged => rfl
    | stored | removed => exact absurd same (Nat.succ_ne_self _)

theorem delivers_everywhere (before after : Cluster) :
    Delivers reconciler before after { _request | after ≠ before } where
  pipelines _ changed same := changed (same ▸ rfl)
  owned _ _ _ changed _ _ _ _ same := changed (same ▸ rfl)
  secrets secret changed := by
    obtain ⟨trace, run⟩ := runs_execute (findPipelinesForSecret secret) after
    exact ⟨trace, _, _, run, fun _ _ same => changed (same ▸ rfl)⟩

/-- A pipeline in a namespace with the index. -/
def announced : Cluster := (indexedNamespace.create (httpPipeline "ingest")).2

/-- The pods of the Deployment become ready. -/
def podsReady (cluster : Cluster) : Cluster :=
  match cluster.find .deployment "ingest" with
  | none => cluster
  | some deployment =>
      (cluster.updateStatus { deployment with status := { replicas := 1, readyReplicas := 1 } }).2

theorem outside_podsReady {pipelines : Set String} {cluster : Cluster}
    (held : Held pipelines cluster) : Outside pipelines cluster (podsReady cluster) := by
  unfold podsReady
  split
  · exact ⟨held, rfl, rfl, rfl, fun _ changed => (changed rfl).elim⟩
  next deployment found =>
    let ready := { deployment with status := { replicas := 1, readyReplicas := 1 } }
    have served : Reliable cluster (.updateStatus .deployment ready) (cluster.updateStatus ready).1
      (cluster.updateStatus ready).2 := .honest rfl
    refine ⟨?_, served.frame (by simp [Op.target]), served.externals.1, served.externals.2.2, ?_⟩
    · intro name nameIn kind child object derived present
      cases served.storedBy present with
      | kept found => exact held name nameIn kind child object derived found
      | @reported _ stored _ found => exact held name nameIn _ child stored derived found
    · exact fun _ changed => (changed (served.frame (by simp [Op.target]))).elim

/-- One reconcile from the first call to the last. -/
theorem run_reconciled (cluster : Cluster) :
    ∃ later, (loop sampleReconciler {"ingest"}).Run ⟨⟨cluster, fun _ => none⟩, Set.univ⟩
        ⟨⟨reconciled "ingest" cluster, fun _ => none⟩, later⟩ ∧
      ((∀ event ∈ (reconcile sampleReconciler "ingest").run.trace Cluster.answer cluster,
          event.after.clock = event.before.clock) →
        ¬again ((reconcile sampleReconciler "ingest").run.execute Cluster.answer cluster).1 →
        "ingest" ∉ later) := by
  have served (state : Cluster) (op : Op) :
      (loop sampleReconciler {"ingest"}).server state op (state.answer op).1 (state.answer op).2 :=
    .honest (state.answer_honest op)
  have runs := Program.runs_trace served (reconcile sampleReconciler "ingest").run cluster
  have begun : Function.update (fun _ : String => none) "ingest"
      (some (reconcile sampleReconciler "ingest").run) "ingest" =
      some (reconcile sampleReconciler "ingest").run := Function.update_self ..
  obtain ⟨later, run, bounded⟩ :=
    ControlLoop.Run.of_runs delivers_everywhere runs begun (Set.univ \ {"ingest"})
  rw [Function.update_idem, Function.update_eq_self] at run
  refine ⟨later, .head (.start rfl trivial rfl) run, ?_⟩
  intro clocks done pends
  obtain early | ⟨event, member, changed⟩ | again := bounded _ pends
  · exact early.2 rfl
  · exact changed (unchanged_of_clock (served_of_runs runs event member) (clocks event member))
  · exact done again

theorem ingest_up_to_date :
    ∃ queue pipeline, (loop sampleReconciler {"ingest"}).Run
        ⟨⟨announced, fun _ => none⟩, Set.univ⟩ queue ∧ "ingest" ∉ queue.pending ∧
      queue.state.find .pipeline "ingest" = some pipeline ∧ pipeline.status.phase = .running ∧
      UpToDate sampleReconciler "ingest" queue.state := by
  have free : HeadlessNamesFree {"ingest"} := by
    rintro _ rfl _ rfl
    decide
  have fresh : (loop sampleReconciler {"ingest"}).Fresh ⟨⟨announced, fun _ => none⟩, Set.univ⟩ :=
    ⟨fun _ => rfl, Set.subset_univ _⟩
  have held : Held {"ingest"} announced := by
    rintro _ rfl kind child object derived present
    have owned : owns sampleReconciler kind = true := owns_of_derived derived
    cases kind <;> first | cases present | cases owned
  have indexed : SecretIndexed announced := by
    funext spec
    rw [show announced.fieldIndex = indexedNamespace.fieldIndex from rfl]
    simp [indexedNamespace]
  obtain ⟨_, first, -⟩ := run_reconciled announced
  have kept := (ControlLoop.Run.sound (levelTriggered sampleReconciler free) first
    (ControlLoop.Sound.fresh (levelTriggered sampleReconciler free) ⟨held, indexed⟩ fresh)).holds.1
  -- the Deployment gets its pods, and the manager looks at everything twice more
  obtain ⟨_, second, -⟩ := run_reconciled (podsReady (reconciled "ingest" announced))
  obtain ⟨later, third, quiet⟩ :=
    run_reconciled (reconciled "ingest" (podsReady (reconciled "ingest" announced)))
  have restart (cluster : Cluster) (pending : Set String) :
      (loop sampleReconciler {"ingest"}).Step ⟨⟨cluster, fun _ => none⟩, pending⟩
        ⟨⟨cluster, fun _ => none⟩, Set.univ⟩ := .restart (Set.subset_univ _)
  have calm : "ingest" ∉ later := quiet (by decide +kernel) (by decide +kernel)
  have phase : ((reconciled "ingest" (reconciled "ingest" (podsReady
      (reconciled "ingest" announced)))).find .pipeline "ingest").map (·.status.phase) =
      some .running := by
    decide +kernel
  obtain ⟨pipeline, found, running⟩ := Option.map_eq_some_iff.mp phase
  have run := ((((first.tail (.change (outside_podsReady kept) (delivers_everywhere _ _))).tail
    (restart _ _)).trans second).tail (restart _ _)).trans third
  -- from here on the cluster is only a name
  generalize reconciled "ingest" (reconciled "ingest" (podsReady (reconciled "ingest"
    announced))) = final at run found
  exact ⟨_, pipeline, run, calm, found, running,
    quiet_pipelines_up_to_date free fresh held indexed run rfl calm rfl⟩

end DataPrepperOperator.Controller.Watches
