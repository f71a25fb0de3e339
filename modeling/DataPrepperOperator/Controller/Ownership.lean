import DataPrepperOperator.Controller.Footprint

/-!
# Whose objects a pipeline touches

The create-or-update path asks `SetControllerReference` before it writes; the
delete path of `reconcileOrDelete` goes by the name alone.  It is safe as long as
every object under a deletable name of a pipeline is controlled by that pipeline.
This invariant is kept by the operator itself when no pipeline is named like the
headless Service of another.
-/

namespace DataPrepperOperator.Controller

open ServerProgram DataPrepperOperator.Api DataPrepperOperator.Generator Relation

variable {kind : Kind}

def RefersTo (pipeline : String) (reference : OwnerReference) : Prop :=
  reference.group = (groupVersionKind .pipeline).1 ∧
    reference.kind = (groupVersionKind .pipeline).2.2 ∧ reference.name = pipeline

instance (pipeline : String) (reference : OwnerReference) :
    Decidable (RefersTo pipeline reference) :=
  inferInstanceAs (Decidable (_ ∧ _ ∧ _))

/-- The controller owner reference names the pipeline. -/
def ControlledBy (pipeline : String) (object : Object kind) : Prop :=
  ∃ reference, object.controllerOf = some reference ∧ RefersTo pipeline reference

/-- Some owner reference names the pipeline. -/
def OwnedBy (pipeline : String) (object : Object kind) : Prop :=
  ∃ reference ∈ object.metadata.ownerReferences, RefersTo pipeline reference

theorem ControlledBy.ownedBy {pipeline : String} {object : Object kind}
    (controlled : ControlledBy pipeline object) : OwnedBy pipeline object := by
  obtain ⟨reference, controller, refers⟩ := controlled
  exact ⟨reference, List.mem_of_find?_eq_some controller, refers⟩

theorem ControlledBy.unique {first second : String} {object : Object kind}
    (one : ControlledBy first object) (other : ControlledBy second object) : first = second := by
  obtain ⟨reference, controller, _, _, named⟩ := one
  obtain ⟨again, controllerAgain, _, _, namedAgain⟩ := other
  rw [controller, Option.some.injEq] at controllerAgain
  rw [← named, ← namedAgain, controllerAgain]

/-- What the mutate functions do to the metadata, and when they succeed. -/
theorem claimWith_ok {owner : DataPrepperPipeline} {labels : GoMap String}
    {assign : kind.Spec → kind.Spec} {object claimed : Object kind}
    (success : claimWith owner labels assign object = .ok claimed) :
    claimed.name = object.name ∧
      claimed.metadata.resourceVersion = object.metadata.resourceVersion ∧
      claimed.metadata.finalizers = object.metadata.finalizers ∧
      ControlledBy owner.name claimed ∧
      ∀ other, ControlledBy other object → other = owner.name := by
  have controller := controllerOf_of_setControllerReference success
  obtain ⟨rfl, free⟩ := setControllerReference_ok success
  refine ⟨rfl, rfl, rfl, ⟨_, controller, referSameObject_iff.mp ?_⟩, ?_⟩
  · exact referSameObject_iff.mpr ⟨rfl, rfl, rfl⟩
  · rintro other ⟨reference, controls, _, _, named⟩
    have same := referSameObject_iff.mp (free reference controls)
    rw [← named]
    exact same.2.2

/-- A step of one pipeline leaves the objects of the others alone, and deletes
nothing that it does not own. -/
structure Respects (pipeline : String) (before after : Cluster) : Prop where
  others : ∀ (kind : Kind) name (object : Object kind) other, IsChild kind →
    other ≠ pipeline → before.find kind name = some object → ControlledBy other object →
    after.find kind name = some object
  unowned : ∀ (kind : Kind) name (object : Object kind), IsChild kind →
    before.find kind name = some object → ¬OwnedBy pipeline object →
    ∃ current, after.find kind name = some current ∧
      current.metadata.deleting = object.metadata.deleting

/-- The objects that `reconcileOrDelete` may delete for a pipeline. -/
def deletable (pipeline : String) : List (Kind × String) :=
  [(.service, pipeline), (.service, pipeline ++ "-headless"),
    (.horizontalPodAutoscaler, pipeline), (.podDisruptionBudget, pipeline),
    (.serviceMonitor, pipeline)]

/-- Every object under a deletable name is controlled by the pipeline of that
name. -/
def Owned (pipelines : Set String) (cluster : Cluster) : Prop :=
  ∀ pipeline ∈ pipelines, ∀ (kind : Kind) name (object : Object kind),
    (kind, name) ∈ deletable pipeline → cluster.find kind name = some object →
    ControlledBy pipeline object

/-- No pipeline bears the name of another one's headless Service. -/
def HeadlessNamesFree (pipelines : Set String) : Prop :=
  ∀ first ∈ pipelines, ∀ second ∈ pipelines, first ≠ second ++ "-headless"

theorem deletable_unique {pipelines : Set String} (free : HeadlessNamesFree pipelines)
    {first second : String} (firstIn : first ∈ pipelines) (secondIn : second ∈ pipelines)
    {target : Kind × String} (ofFirst : target ∈ deletable first)
    (ofSecond : target ∈ deletable second) : first = second := by
  have apart := free first firstIn second secondIn
  have apart' := free second secondIn first firstIn
  simp only [deletable, List.mem_cons, List.not_mem_nil, or_false] at ofFirst ofSecond
  obtain rfl | rfl | rfl | rfl | rfl := ofFirst
  · simp only [Prod.mk.injEq, reduceCtorEq, false_and, or_false, true_and] at ofSecond
    obtain same | same := ofSecond
    · exact same
    · exact absurd same apart
  · simp only [Prod.mk.injEq, reduceCtorEq, false_and, or_false, true_and] at ofSecond
    obtain same | same := ofSecond
    · exact absurd same.symm apart'
    · exact (String.append_left_inj "-headless").mp same
  all_goals
    simpa only [Prod.mk.injEq, reduceCtorEq, false_and, or_false, false_or, true_and]
      using ofSecond

section Steps

variable {pipelines : Set String} {pipeline : String}

/-- What a running reconcile relies on. -/
def Rely (pipelines : Set String) (before after : Cluster) : Prop :=
  Evolves before after ∧ Owned pipelines after

structure Guarantee (pipelines : Set String) (pipeline : String) (before after : Cluster) :
    Prop where
  respects : Respects pipeline before after
  evolves : Evolves before after
  keeps : Owned pipelines before → Owned pipelines after

theorem rely_owned (before after : Cluster) (interference : Rely pipelines before after)
    (_ : Owned pipelines before) : Owned pipelines after :=
  interference.2

theorem rely_seen {object : Object kind} (before after : Cluster)
    (interference : Rely pipelines before after)
    (holds : Owned pipelines before ∧ Seen before object) :
    Owned pipelines after ∧ Seen after object :=
  ⟨interference.2, holds.2.evolves interference.1⟩

theorem Guarantee.of_children {before after : Cluster} (evolves : Evolves before after)
    (children : ∀ (kind : Kind) name, IsChild kind →
      after.find kind name = before.find kind name) :
    Guarantee pipelines pipeline before after := by
  refine ⟨⟨?_, ?_⟩, evolves, ?_⟩
  · intro kind name object other child _ found _
    rw [children kind name child, found]
  · intro kind name object child found _
    exact ⟨object, by rw [children kind name child, found], rfl⟩
  · intro owned client member kind name object derived found
    have child : IsChild kind := by
      simp only [deletable, List.mem_cons, Prod.mk.injEq, List.not_mem_nil, or_false] at derived
      obtain ⟨rfl, _⟩ | ⟨rfl, _⟩ | ⟨rfl, _⟩ | ⟨rfl, _⟩ | ⟨rfl, _⟩ := derived <;> trivial
    rw [children kind name child] at found
    exact owned client member kind name object derived found

/-- A step that can only change one object is judged by that object. -/
theorem Guarantee.of_target {before after : Cluster} (name : String)
    (evolves : Evolves before after)
    (elsewhere : ∀ (other : Kind) found, (other, found) ≠ (kind, name) →
      after.find other found = before.find other found)
    (othersKept : ∀ object other, other ≠ pipeline → before.find kind name = some object →
      ControlledBy other object → after.find kind name = some object)
    (unownedKept : ∀ object, before.find kind name = some object → ¬OwnedBy pipeline object →
      ∃ current, after.find kind name = some current ∧
        current.metadata.deleting = object.metadata.deleting)
    (claimed : Owned pipelines before → ∀ client ∈ pipelines, (kind, name) ∈ deletable client →
      ∀ object, after.find kind name = some object → ControlledBy client object) :
    Guarantee pipelines pipeline before after := by
  refine ⟨⟨?_, ?_⟩, evolves, ?_⟩
  · intro other found object controller _ different present controlled
    by_cases here : (other, found) = (kind, name)
    · obtain ⟨rfl, rfl⟩ := Prod.mk.inj here
      exact othersKept object controller different present controlled
    · rw [elsewhere other found here, present]
  · intro other found object _ present unowned
    by_cases here : (other, found) = (kind, name)
    · obtain ⟨rfl, rfl⟩ := Prod.mk.inj here
      exact unownedKept object present unowned
    · exact ⟨object, by rw [elsewhere other found here, present], rfl⟩
  · intro owned client member other found object derived present
    by_cases here : (other, found) = (kind, name)
    · obtain ⟨rfl, rfl⟩ := Prod.mk.inj here
      exact claimed owned client member derived object present
    · rw [elsewhere other found here] at present
      exact owned client member other found object derived present

theorem Guarantee.refl (cluster : Cluster) : Guarantee pipelines pipeline cluster cluster :=
  .of_children (.refl cluster) fun _ _ _ => rfl

variable {before after : Cluster}

theorem guarantee_create {claimed : Object kind} {reply : Reply (.create kind claimed)}
    (served : Unreliable before (.create kind claimed) reply after)
    (controlled : ControlledBy pipeline claimed)
    (exclusive : ∀ client ∈ pipelines, (kind, claimed.name) ∈ deletable client →
      client = pipeline) : Guarantee pipelines pipeline before after := by
  obtain rfl | ⟨absent, rfl⟩ := served.create_cases
  · exact .refl _
  · refine .of_target claimed.name served.evolves
      (fun other found different => before.find_commit_of_ne _ different) ?_ ?_ ?_
    · intro object other _ present
      simp [absent] at present
    · intro object present
      simp [absent] at present
    · intro _ client member derived object present
      obtain rfl := Cluster.eq_of_find_commit present rfl
      rw [exclusive client member derived]
      exact controlled

/-- An update writes over the very object that was claimed. -/
theorem guarantee_update {owner : DataPrepperPipeline} {labels : GoMap String}
    {assign : kind.Spec → kind.Spec} {existing claimed : Object kind}
    {reply : Reply (.update kind claimed)}
    (served : Unreliable before (.update kind claimed) reply after)
    (seen : Seen before existing)
    (success : claimWith owner labels assign existing = .ok claimed)
    (exclusive : ∀ client ∈ pipelines, (kind, claimed.name) ∈ deletable client →
      client = owner.name) : Guarantee pipelines owner.name before after := by
  obtain ⟨named, version, finalizers, controlled, free⟩ := claimWith_ok success
  obtain rfl | ⟨stored, found, sameVersion, effect⟩ := served.update_cases
  · exact .refl _
  · rw [named] at found
    have isExisting := seen.unique stored found (sameVersion.trans version)
    subst isExisting
    obtain rfl | ⟨some_, none_, _⟩ := effect
    · have target : (Cluster.updated stored claimed).name = claimed.name := named.symm
      refine .of_target claimed.name served.evolves
        (fun other name different => before.find_commit_of_ne _ (target ▸ different)) ?_ ?_ ?_
      · intro object other different present controlledByOther
        rw [named, found, Option.some.injEq] at present
        subst present
        exact absurd (free other controlledByOther) different
      · intro object present _
        rw [named, found, Option.some.injEq] at present
        subst present
        rw [← target, Cluster.find_commit_same]
        exact ⟨_, rfl, rfl⟩
      · intro _ client member derived object present
        obtain rfl := Cluster.eq_of_find_commit present target
        rw [exclusive client member derived]
        exact controlled
    · exact absurd (finalizers ▸ none_) some_

/-- A delete under a deletable name meets an object of the pipeline itself. -/
theorem guarantee_delete {name : String} {reply : Reply (.delete kind name)}
    (served : Unreliable before (.delete kind name) reply after)
    (owned : Owned pipelines before) (member : pipeline ∈ pipelines)
    (derived : (kind, name) ∈ deletable pipeline) : Guarantee pipelines pipeline before after := by
  obtain rfl | ⟨stored, found, effect⟩ := served.delete_cases
  · exact .refl _
  · have controlled := owned pipeline member kind name stored derived found
    have elsewhere : ∀ (other : Kind) target, (other, target) ≠ (kind, name) →
        after.find other target = before.find other target := by
      intro other target different
      apply served.frame
      simpa [Op.target, eq_comm] using different
    refine .of_target name served.evolves elsewhere ?_ ?_ ?_
    · intro object other different present controlledByOther
      rw [found, Option.some.injEq] at present
      subst present
      exact absurd (controlledByOther.unique controlled) different
    · intro object present unowned
      rw [found, Option.some.injEq] at present
      subst present
      exact absurd controlled.ownedBy unowned
    · intro _ client clientMember clientDerived object present
      have named : stored.name = name := Cluster.name_of_find found
      obtain rfl | rfl := effect
      · simp at present
      · subst named
        obtain rfl := Cluster.eq_of_find_commit present rfl
        exact owned client clientMember kind stored.name stored clientDerived found

end Steps

section Programs

variable {pipelines : Set String} {pipeline : String} {Result Other : Type}

/-- Started with the invariant, every call of the action keeps the guarantee. -/
def Safe (pipelines : Set String) (pipeline : String) (good : Result → Prop)
    (action : Reconciler Result) : Prop :=
  ∀ state, Owned pipelines state →
    Ensures Unreliable (Rely pipelines) (Guarantee pipelines pipeline)
      (fun outcome final => Owned pipelines final ∧ OnSuccess good outcome) action.run state

theorem Safe.bind (middle : Result → Prop) {good : Other → Prop} {action : Reconciler Result}
    {rest : Result → Reconciler Other} (first : Safe pipelines pipeline middle action)
    (second : ∀ result, middle result → Safe pipelines pipeline good (rest result)) :
    Safe pipelines pipeline good (action >>= rest) := by
  intro state owned
  apply Ensures.bind_fallible (fun result final => Owned pipelines final ∧ middle result)
  · apply (first state owned).weaken
    intro outcome final holds
    cases outcome with
    | ok result => exact holds
    | error message => exact ⟨holds.1, trivial⟩
  · intro result after holds
    exact second result holds.2 after holds.1

theorem Safe.wrapError {good : Result → Prop} {action : Reconciler Result} {context : String}
    (safe : Safe pipelines pipeline good action) :
    Safe pipelines pipeline good (wrapError context action) :=
  fun state owned => ensures_wrapError (safe state owned)

/-- Operations that cannot change a child object. -/
def Harmless (op : Op) : Prop :=
  ∀ kind name, op.target = some (kind, name) → ¬IsChild kind

theorem harmless_of_read (op : Op) (reads : op.target = none) : Harmless op := by
  intro kind name target
  simp [reads] at target

theorem Safe.of_issues {good : Result → Prop} {action : Reconciler Result}
    (issued : Issues Harmless Expected (OnSuccess good) action.run) :
    Safe pipelines pipeline good action := by
  intro state owned
  refine Issues.ensures (fun _ _ _ _ _ served => served.expected) ?_ rely_owned issued owned
  intro op harmless before reply after holds served
  have guarantee : Guarantee pipelines pipeline before after := by
    apply Guarantee.of_children served.evolves
    intro kind name child
    exact served.frame fun target => harmless kind name target child
  exact ⟨guarantee, guarantee.keeps holds⟩

theorem ensures_callApi {Answer : Type} {call : Client.Call Answer} {state : Cluster}
    (ensured : Ensures Unreliable (Rely pipelines) (Guarantee pipelines pipeline)
      (fun _ final => Owned pipelines final) call state) :
    Ensures Unreliable (Rely pipelines) (Guarantee pipelines pipeline)
      (fun outcome final => Owned pipelines final ∧ OnSuccess (fun _ => True) outcome)
      (callApi call).run state := by
  apply Ensures.bind ensured
  intro outcome final owned
  cases outcome with
  | ok | error => exact ⟨owned, trivial⟩

/-- The write that ends a create-or-update. -/
theorem ensures_write {Answer : Type} {call : Client.Call Answer} {state : Cluster}
    (ensured : Ensures Unreliable (Rely pipelines) (Guarantee pipelines pipeline)
      (fun _ final => Owned pipelines final) call state) :
    Ensures Unreliable (Rely pipelines) (Guarantee pipelines pipeline)
      (fun outcome final => Owned pipelines final ∧ OnSuccess (fun _ => True) outcome)
      (do let _ ← callApi call : Reconciler Unit).run state := by
  apply Ensures.bind_fallible (fun _ final => Owned pipelines final)
  · apply (ensures_callApi ensured).weaken
    intro outcome final holds
    cases outcome with
    | ok answer => exact holds.1
    | error message => exact holds
  · intro _ final owned
    exact ⟨owned, trivial⟩

/-- A read of an object that is kept for the next write. -/
theorem ensures_get (name : String) {state : Cluster} (owned : Owned pipelines state) :
    Ensures Unreliable (Rely pipelines) (Guarantee pipelines pipeline)
      (fun outcome final => ∃ reply : Except ApiError (Object kind), outcome = .ok reply ∧
        Owned pipelines final ∧
        ∀ existing, reply = .ok existing → existing.name = name ∧ Seen final existing)
      (Fallible.lift (Client.get kind name) : Reconciler _).run state := by
  apply Ensures.lift
  apply Ensures.request rely_owned owned
  intro before reply after holds served
  have unchanged := served.unchanged rfl
  subst unchanged
  refine ⟨.refl _, holds, ?_⟩
  intro existing answered
  subst answered
  have found := served.find_of_get.1
  exact ⟨Cluster.name_of_find found, Cluster.seen_of_find found⟩

theorem safe_createOrUpdate {owner : DataPrepperPipeline} {labels : GoMap String}
    {assign : kind.Spec → kind.Spec} {name nameSpace : String}
    (exclusive : ∀ client ∈ pipelines, (kind, name) ∈ deletable client → client = owner.name) :
    Safe pipelines owner.name (fun _ => True)
      (createOrUpdate (Object.named kind name nameSpace) (claimWith owner labels assign)) := by
  intro state owned
  apply Ensures.bind_fallible (fun reply final => Owned pipelines final ∧
    ∀ existing, reply = .ok existing → existing.name = name ∧ Seen final existing)
  · apply (ensures_get name owned).weaken
    rintro outcome final ⟨reply, rfl, holds⟩
    exact holds
  · rintro reply after ⟨ownedAfter, observed⟩
    cases reply with
    | ok existing =>
        obtain ⟨named, seen⟩ := observed existing rfl
        apply Ensures.bind_ofExcept
        · intro message _
          exact ⟨ownedAfter, trivial⟩
        · intro claimed success
          split
          · exact ⟨ownedAfter, trivial⟩
          · apply ensures_write
            apply Ensures.request rely_seen ⟨ownedAfter, seen⟩
            rintro before answer final ⟨holds, seenBefore⟩ served
            have guarantee := guarantee_update served seenBefore success (by
              rw [(claimWith_ok success).1, named]
              exact exclusive)
            exact ⟨guarantee, guarantee.keeps holds⟩
    | error error =>
        cases error with
        | notFound missingKind missing =>
            apply Ensures.bind_ofExcept
            · intro message _
              exact ⟨ownedAfter, trivial⟩
            · intro claimed success
              obtain ⟨named, _, _, controlled, _⟩ := claimWith_ok success
              apply ensures_write
              apply Ensures.request rely_owned ownedAfter
              intro before answer final holds served
              have guarantee := guarantee_create served controlled (by
                rw [named]
                exact exclusive)
              exact ⟨guarantee, guarantee.keeps holds⟩
        | alreadyExists | conflict | refused => exact ⟨ownedAfter, trivial⟩

theorem safe_reconcileOrDelete {owner : DataPrepperPipeline} {labels : GoMap String}
    {assign : kind.Spec → kind.Spec} {name nameSpace : String} (needed : Bool)
    (member : owner.name ∈ pipelines) (derived : (kind, name) ∈ deletable owner.name)
    (free : HeadlessNamesFree pipelines) :
    Safe pipelines owner.name (fun _ => True)
      (reconcileOrDelete (Object.named kind name nameSpace) needed
        (claimWith owner labels assign)) := by
  cases needed with
  | true =>
      apply safe_createOrUpdate
      intro client clientMember clientDerived
      exact deletable_unique free clientMember member clientDerived derived
  | false =>
      intro state owned
      apply Ensures.bind_fallible (fun reply final => Owned pipelines final ∧
        ∀ existing, reply = .ok existing → existing.name = name ∧ Seen final existing)
      · apply (ensures_get name owned).weaken
        rintro outcome final ⟨reply, rfl, holds⟩
        exact holds
      · rintro reply after ⟨ownedAfter, observed⟩
        cases reply with
        | ok found =>
            obtain ⟨named, _⟩ := observed found rfl
            have removal : Ensures Unreliable (Rely pipelines) (Guarantee pipelines owner.name)
                (fun _ final => Owned pipelines final) (Client.delete kind found.name) after := by
              apply Ensures.request rely_owned ownedAfter
              intro before answer final holds served
              have guarantee := guarantee_delete served holds member (by rwa [named])
              exact ⟨guarantee, guarantee.keeps holds⟩
            exact ensures_callApi removal
        | error error =>
            cases error with
            | notFound missingKind missing => exact ⟨ownedAfter, trivial⟩
            | alreadyExists | conflict | refused => exact ⟨ownedAfter, trivial⟩

theorem safe_deployChildren {owner : DataPrepperPipeline} (member : owner.name ∈ pipelines)
    (free : HeadlessNamesFree pipelines) (mergedSpec : DataPrepperPipelineSpec) (plan : Plan) :
    Safe pipelines owner.name (fun _ => True) (deployChildren owner mergedSpec plan) := by
  have configMap : ∀ name data,
      Safe pipelines owner.name (fun _ => True) (reconcileConfigMap owner name data) := by
    intro name data
    apply safe_createOrUpdate
    intro client _ derived
    simp [deletable] at derived
  apply Safe.bind _ (configMap _ _).wrapError
  intro _ _
  apply Safe.bind _ (configMap _ _).wrapError
  intro _ _
  apply Safe.bind (fun _ => True)
  · apply Safe.wrapError
    apply safe_createOrUpdate
    intro client _ derived
    simp [deletable] at derived
  intro _ _
  apply Safe.bind _
    (safe_reconcileOrDelete _ member (by simp [deletable]) free).wrapError
  intro _ _
  apply Safe.bind _
    (safe_reconcileOrDelete _ member (by simp [deletable]) free).wrapError
  intro _ _
  apply Safe.bind _
    (safe_reconcileOrDelete _ member (by simp [deletable]) free).wrapError
  intro _ _
  exact (safe_reconcileOrDelete _ member (by simp [deletable]) free).wrapError

theorem safe_deployServiceMonitor {owner : DataPrepperPipeline}
    (member : owner.name ∈ pipelines) (free : HeadlessNamesFree pipelines)
    (reconciler : PipelineReconciler) (mergedSpec : DataPrepperPipelineSpec) :
    Safe pipelines owner.name (fun _ => True)
      (deployServiceMonitor reconciler owner mergedSpec) := by
  unfold deployServiceMonitor
  split
  · apply Safe.bind (fun _ => True)
    · intro state owned
      have monitor : Safe pipelines owner.name (fun _ => True)
          (reconcileServiceMonitor owner mergedSpec (mergedSpec.serviceMonitor.any (·.enabled))) :=
        safe_reconcileOrDelete _ member (by simp [deletable]) free
      apply (monitor state owned).lift.weaken
      rintro outcome final ⟨result, rfl, holds⟩
      exact ⟨holds.1, trivial⟩
    · intro _ _ state owned
      exact ⟨owned, trivial⟩
  · intro state owned
    exact ⟨owned, trivial⟩

theorem harmless_pipeline_write {op : Op} {name : String}
    (target : op.target = some (.pipeline, name)) : Harmless op := by
  intro kind found again child
  rw [target, Option.some.injEq, Prod.mk.injEq] at again
  rw [← again.1] at child
  exact child

theorem safe_updateStatus (reconciled : DataPrepperPipeline) (errorPhase : Bool)
    (message : String) :
    Safe pipelines pipeline (fun _ => True) (updateStatus reconciled errorPhase message) :=
  .of_issues (issues_updateStatus (fun _ _ expected => expected) (harmless_of_read _ rfl)
    (harmless_of_read _ rfl) (fun _ _ _ => harmless_pipeline_write rfl) errorPhase message)

theorem safe_reconcileValid (reconciler : PipelineReconciler) {owner : DataPrepperPipeline}
    (member : owner.name ∈ pipelines) (free : HeadlessNamesFree pipelines)
    (mergedSpec : DataPrepperPipelineSpec) :
    Safe pipelines owner.name (fun _ => True) (reconcileValid reconciler owner mergedSpec) := by
  apply Safe.bind _ (.of_issues (issues_makePlan harmless_of_read reconciler _ mergedSpec))
  intro planned plannedFor
  have sameName : planned.2.name = owner.name := congrArg ObjectMeta.name plannedFor.metadata
  rw [← sameName] at member ⊢
  apply Safe.bind _ (safe_deployChildren member free mergedSpec planned.1)
  intro _ _
  apply Safe.bind _ (safe_deployServiceMonitor member free reconciler mergedSpec)
  intro _ _
  apply Safe.bind (fun _ => True)
  · exact .of_issues (Issues.lift
      (issues_read harmless_of_read (.listPipelines .everything) rfl))
  intro _ _
  exact safe_updateStatus _ _ _

/-- Every call of a reconcile keeps the guarantee of its pipeline. -/
theorem safe_reconcile (reconciler : PipelineReconciler) (member : pipeline ∈ pipelines)
    (free : HeadlessNamesFree pipelines) :
    Safe pipelines pipeline (fun _ => True) (reconcile reconciler pipeline) := by
  apply Safe.bind (fun reply => ∀ fetched, reply = .ok fetched →
    fetched.name = pipeline)
  · exact .of_issues (Issues.lift (Issues.request (.get .pipeline pipeline)
      (harmless_of_read _ rfl) fun _ expected => expected))
  intro reply named
  cases reply with
  | error error =>
      cases error <;> exact fun state owned => ⟨owned, trivial⟩
  | ok fetched =>
      have sameName := named fetched rfl
      change Safe _ _ _ (if fetched.metadata.deleting = true then _ else _)
      split
      · exact .of_issues (issues_finalize fun _ _ _ => harmless_pipeline_write rfl)
      · apply Safe.bind _ (.of_issues (issues_ensureFinalizer (fun _ _ expected => expected)
          fun _ _ _ => harmless_pipeline_write rfl))
        intro current kept
        apply Safe.bind _ (.of_issues (issues_fetchDefaults harmless_of_read))
        intro defaults _
        have currentName : current.name = pipeline := kept.1.trans sameName
        subst currentName
        unfold reconcileMerged
        split
        · exact safe_updateStatus _ _ _
        · exact safe_reconcileValid reconciler member free _

end Programs

/-- The workqueue runs at most one reconcile per pipeline at a time. -/
def ReconcileOf (reconciler : PipelineReconciler) (pipelines : Set String) (client : String)
    (program : Program Op Reply (Except String ReconcileResult)) : Prop :=
  client ∈ pipelines ∧ program = (reconcile reconciler client).run

/-- Anyone else may do anything, as long as no deletable name is taken by an
object that its pipeline does not control. -/
def OthersKeepNames (pipelines : Set String) (before after : Cluster) : Prop :=
  Evolves before after ∧ Owned pipelines after

theorem ownership_protocol (reconciler : PipelineReconciler) {pipelines : Set String}
    (free : HeadlessNamesFree pipelines) :
    Pool.Protocol Unreliable (ReconcileOf reconciler pipelines) (OthersKeepNames pipelines)
      (Owned pipelines) (fun _ => Rely pipelines) (Guarantee pipelines) where
  idle _ state := .refl state
  keeps _ _ _ owned guarantee := guarantee.keeps owned
  environmentKeeps _ _ _ moved := moved.2
  others _ _ _ _ _ owned guarantee := ⟨guarantee.evolves, guarantee.keeps owned⟩
  environmentRelies _ _ _ _ moved := moved
  starts := by
    rintro client program ⟨member, rfl⟩ state owned
    exact (safe_reconcile reconciler member free state owned).weaken fun _ _ _ => trivial

/-- In every interleaving of reconciles, API failures and outside changes, a
reconcile leaves the objects of other pipelines alone and deletes nothing that it
does not own. -/
theorem reconcile_respects_owners (reconciler : PipelineReconciler) {pipelines : Set String}
    (free : HeadlessNamesFree pipelines)
    {start pool next : Pool String Cluster Op Reply (Except String ReconcileResult)}
    (idle : start.Idle) (owned : Owned pipelines start.state)
    (run : Pool.Run Unreliable (ReconcileOf reconciler pipelines) (OthersKeepNames pipelines)
      start pool)
    {pipeline : String}
    (step : Pool.Step Unreliable (ReconcileOf reconciler pipelines) (OthersKeepNames pipelines)
      (.client pipeline) pool next) :
    Respects pipeline pool.state next.state :=
  (Pool.guaranteed (ownership_protocol reconciler free) idle owned run step).respects

abbrev unrelated : Set String := {"ingest", "export"}

/-- Two pipelines with unrelated names. -/
def strangers : Cluster :=
  ((Cluster.empty.create (httpPipeline "ingest")).2.create (httpPipeline "export")).2

/-- The pipeline takes its records from a topic from now on. -/
def retargeted (cluster : Cluster) : Cluster :=
  match cluster.find .pipeline "ingest" with
  | none => cluster
  | some pipeline => (cluster.update { pipeline with spec := (kafkaPipeline none).spec }).2

theorem othersKeepNames_retargeted {pipelines : Set String} {cluster : Cluster}
    (owned : Owned pipelines cluster) : OthersKeepNames pipelines cluster (retargeted cluster) := by
  unfold retargeted
  split
  · exact ⟨.refl _, owned⟩
  next pipeline found =>
    let edited : DataPrepperPipeline := { pipeline with spec := (kafkaPipeline none).spec }
    have served : Unreliable cluster (.update .pipeline edited) (cluster.update edited).1
      (cluster.update edited).2 := .honest rfl
    have guarantee : Guarantee pipelines "ingest" cluster (cluster.update edited).2 :=
      .of_children served.evolves fun kind name child =>
        served.frame fun target => harmless_pipeline_write rfl kind name target child
    exact ⟨guarantee.evolves, guarantee.keeps owned⟩

/-- The call takes the Service of one pipeline away while the other one has its own. -/
def deletesService (event : Event Cluster Op Reply) : Bool :=
  (event.before.find .service "ingest").isSome && (event.after.find .service "ingest").isNone &&
    (event.before.find .service "export").any fun service =>
      service.controllerOf.any fun reference => RefersTo "export" reference

/-- Both pipelines are reconciled, one of them no longer needs its Service, and its next
reconcile deletes it. -/
theorem reconcile_respects_owners_of_strangers :
    ∃ pool next : Pool String Cluster Op Reply (Except String ReconcileResult),
      Pool.Run Unreliable (ReconcileOf sampleReconciler unrelated) (OthersKeepNames unrelated)
        ⟨strangers, fun _ => none⟩ pool ∧
      Pool.Step Unreliable (ReconcileOf sampleReconciler unrelated) (OthersKeepNames unrelated)
        (.client "ingest") pool next ∧
      (pool.state.find .service "ingest").isSome = true ∧
      next.state.find .service "ingest" = none ∧
      (∃ service, pool.state.find .service "export" = some service ∧
        ControlledBy "export" service) ∧
      Respects "ingest" pool.state next.state := by
  have free : HeadlessNamesFree unrelated := by
    rintro first (rfl | rfl) second (rfl | rfl) <;> decide
  have owned : Owned unrelated strangers := by
    intro pipeline _ kind name object derived found
    simp only [deletable, List.mem_cons, Prod.mk.injEq, List.not_mem_nil, or_false] at derived
    obtain ⟨rfl, _⟩ | ⟨rfl, _⟩ | ⟨rfl, _⟩ | ⟨rfl, _⟩ | ⟨rfl, _⟩ := derived <;> cases found
  let resting (cluster : Cluster) : Pool String Cluster Op Reply (Except String ReconcileResult) :=
    ⟨cluster, fun _ => none⟩
  have idle : (resting strangers).Idle := fun _ => rfl
  have once (name : String) (member : name ∈ unrelated) (cluster : Cluster) :
      Pool.Run Unreliable (ReconcileOf sampleReconciler unrelated) (OthersKeepNames unrelated)
        (resting cluster) (resting (reconciled name cluster)) := by
    obtain ⟨_, runs⟩ := runs_execute (reconcile sampleReconciler name).run cluster
    exact Pool.Run.complete runs rfl ⟨member, rfl⟩
  have both := (once "export" (.inr rfl) strangers).trans (once "ingest" (.inl rfl) _)
  have deletes : (((reconcile sampleReconciler "ingest").run.trace Cluster.answer (retargeted
      (reconciled "ingest" (reconciled "export" strangers)))).find? deletesService).isSome =
      true := by
    decide +kernel
  -- from here on the cluster is only a name
  generalize reconciled "ingest" (reconciled "export" strangers) = settled at both deletes
  have kept := Pool.Run.obeys (ownership_protocol sampleReconciler free) (idle.obeys owned) both
  have edited : Pool.Step Unreliable (ReconcileOf sampleReconciler unrelated)
      (OthersKeepNames unrelated) .environment (resting settled) (resting (retargeted settled)) :=
    .environment (othersKeepNames_retargeted kept.1)
  let begun : Pool String Cluster Op Reply (Except String ReconcileResult) :=
    ⟨retargeted settled,
      Function.update (fun _ => none) "ingest" (some (reconcile sampleReconciler "ingest").run)⟩
  have start : Pool.Step Unreliable (ReconcileOf sampleReconciler unrelated)
      (OthersKeepNames unrelated) (.client "ingest") (resting (retargeted settled)) begun :=
    .start rfl ⟨.inl rfl, rfl⟩
  have held : begun.running "ingest" = some (reconcile sampleReconciler "ingest").run := by
    simp [begun]
  have served (state : Cluster) (op : Op) :
      Unreliable state op (state.answer op).1 (state.answer op).2 :=
    .honest (state.answer_honest op)
  obtain ⟨event, found⟩ := Option.isSome_iff_exists.mp deletes
  obtain ⟨pool, next, reached, step, before, after⟩ := Pool.Run.of_event
    (Program.runs_trace served _ _) (List.mem_of_find?_eq_some found) "ingest" held rfl
  have run := ((both.tail ⟨_, edited⟩).tail ⟨_, start⟩).trans reached
  have deleting := List.find?_some found
  simp only [deletesService, Bool.and_eq_true, Option.isNone_iff_eq_none, Option.any_eq_true,
    decide_eq_true_eq] at deleting
  obtain ⟨⟨present, gone⟩, service, ofExport, controlled⟩ := deleting
  rw [← before] at present ofExport
  rw [← after] at gone
  exact ⟨pool, next, run, step, present, gone, ⟨service, ofExport, controlled⟩,
    reconcile_respects_owners sampleReconciler free idle owned run step⟩

/-- Two pipelines, the second one named like the headless Service of the first. -/
def headlessNamesake : Cluster :=
  ((Cluster.empty.create (httpPipeline "ingest")).2.create (httpPipeline "ingest-headless")).2

/-- Both pipelines are reconciled from scratch.  The first one needs no peer
forwarder, looks for its headless Service, and deletes the Service of the second. -/
theorem reconcile_deletes_service_of_namesake :
    ∃ middle final firstTrace secondTrace result,
      (∀ kind, IsChild kind → ∀ name, headlessNamesake.find kind name = none) ∧
      Runs Reliable (reconcile sampleReconciler "ingest-headless").run headlessNamesake
        firstTrace (.ok result) middle ∧
      Runs Reliable (reconcile sampleReconciler "ingest").run middle secondTrace (.ok result)
        final ∧
      (∃ service, middle.find .service "ingest-headless" = some service ∧
        ControlledBy "ingest-headless" service) ∧
      final.find .service "ingest-headless" = none ∧
      ¬Respects "ingest" middle final := by
  obtain ⟨firstTrace, firstRun⟩ := runs_of_completes (fun _ _ => False)
    (show Completes sampleReconciler "ingest-headless" headlessNamesake by decide +kernel)
  obtain ⟨secondTrace, secondRun⟩ := runs_of_completes (fun _ _ => False)
    (show Completes sampleReconciler "ingest" (reconciled "ingest-headless" headlessNamesake)
      by decide +kernel)
  have controlled : ∃ service, (reconciled "ingest-headless" headlessNamesake).find .service
      "ingest-headless" = some service ∧ ControlledBy "ingest-headless" service := by
    refine ⟨_, (Option.some_get (by decide +kernel)).symm, _,
      (Option.some_get (by decide +kernel)).symm, ?_⟩
    decide +kernel
  have gone : (reconciled "ingest" (reconciled "ingest-headless" headlessNamesake)).find .service
      "ingest-headless" = none := by decide +kernel
  refine ⟨_, _, firstTrace, secondTrace, _, ?_, firstRun, secondRun, controlled, gone, ?_⟩
  · intro kind child name
    cases kind <;> first | rfl | exact child.elim
  · intro respects
    obtain ⟨service, found, isControlled⟩ := controlled
    have kept := respects.others .service "ingest-headless" service "ingest-headless" trivial
      (by decide) found isControlled
    rw [gone] at kept
    cases kept

end DataPrepperOperator.Controller
