import DataPrepperOperator.Controller.Convergence
import DataPrepperOperator.Controller.DefaultsReconciler
import DataPrepperOperator.Controller.DiscoveryFootprint

/-!
# The writers of a pipeline

A stored pipeline is written by the discovery that generated it, by the defaults
reconciler, by its own reconciler and by users.  Each of them reads the object, changes
the fields that are its own, and sends the whole object back; the server refuses what
was read before the last change.  So nobody undoes what another has stored.
-/

namespace DataPrepperOperator.Controller.SharedPipeline

open ServerProgram DataPrepperOperator.Api Relation

/-- A part of a stored pipeline that is changed as a whole. -/
inductive Field where
  | labels (key : String)
  | annotations (key : String)
  | finalizers (name : String)
  | ownerReferences (reference : OwnerReference)
  | spec
  | status

inductive Role where
  | discovery
  | defaults
  | pipeline
  | user
  deriving DecidableEq

/-- A reference to a source discovery: by its kind, or by the uid of one. -/
def RefersToDiscovery (uids : Set String) (reference : OwnerReference) : Prop :=
  reference.group = (groupVersionKind .sourceDiscovery).1 ∧
      reference.kind = (groupVersionKind .sourceDiscovery).2.2 ∨
    reference.uid ∈ uids

open Classical in
/-- To whom a field belongs; `uids` are those that source discoveries have. -/
noncomputable def Field.writer (uids : Set String) : Field → Role
  | .labels key =>
      if key = "app.kubernetes.io/managed-by" ∨ key = SourceDiscovery.discoveryLabelKey ∨
          key = SourceDiscovery.orphanedLabelKey then .discovery
      else .user
  | .annotations key =>
      if key = SourceDiscovery.templateGenerationKey then .discovery
      else if key = DefaultsReconciler.defaultsRevisionKey then .defaults
      else .user
  | .finalizers name => if name = pipelineFinalizerName then .pipeline else .user
  | .ownerReferences reference => if RefersToDiscovery uids reference then .discovery else .user
  | .spec => .discovery
  | .status => .pipeline

def Field.Same : Field → (old new : DataPrepperPipeline) → Prop
  | .labels key, old, new => new.metadata.labels.lookup key = old.metadata.labels.lookup key
  | .annotations key, old, new =>
      new.metadata.annotations.lookup key = old.metadata.annotations.lookup key
  | .finalizers name, old, new => name ∈ new.metadata.finalizers ↔ name ∈ old.metadata.finalizers
  | .ownerReferences reference, old, new =>
      reference ∈ new.metadata.ownerReferences ↔ reference ∈ old.metadata.ownerReferences
  | .spec, old, new => new.spec = old.spec
  | .status, old, new => new.status = old.status

/-- Nothing differs but fields of the role. -/
def ChangesOnly (uids : Set String) (role : Role) (old new : DataPrepperPipeline) : Prop :=
  ∀ field : Field, field.writer uids ≠ role → field.Same old new

/-- What a client sends back for an object that it has read. -/
structure Edits (uids : Set String) (role : Role) (base object : DataPrepperPipeline) : Prop where
  named : object.name = base.name
  version : object.metadata.resourceVersion = base.metadata.resourceVersion
  changes : ChangesOnly uids role base object

section Fields

variable {uids : Set String} {role : Role} {old new : DataPrepperPipeline}

theorem Field.Same.refl (field : Field) (pipeline : DataPrepperPipeline) :
    field.Same pipeline pipeline := by
  cases field with
  | finalizers | ownerReferences => exact Iff.rfl
  | labels | annotations | spec | status => rfl

theorem Field.Same.trans {field : Field} {first second third : DataPrepperPipeline}
    (one : field.Same first second) (other : field.Same second third) :
    field.Same first third := by
  cases field with
  | finalizers | ownerReferences => exact Iff.trans other one
  | labels | annotations | spec | status => exact Eq.trans other one

theorem ChangesOnly.refl (pipeline : DataPrepperPipeline) :
    ChangesOnly uids role pipeline pipeline :=
  fun field _ => .refl field pipeline

/-- A version stamp, the deletion mark and the generation are no fields. -/
theorem ChangesOnly.congr {other : DataPrepperPipeline} (changes : ChangesOnly uids role old new)
    (labels : other.metadata.labels = new.metadata.labels)
    (annotations : other.metadata.annotations = new.metadata.annotations)
    (finalizers : other.metadata.finalizers = new.metadata.finalizers)
    (ownerReferences : other.metadata.ownerReferences = new.metadata.ownerReferences)
    (spec : other.spec = new.spec)
    (status : role ≠ .pipeline → other.status = old.status) :
    ChangesOnly uids role old other := by
  intro field foreign
  have same := changes field foreign
  cases field with
  | labels key => rwa [Field.Same, labels]
  | annotations key => rwa [Field.Same, annotations]
  | finalizers name => rwa [Field.Same, finalizers]
  | ownerReferences reference => rwa [Field.Same, ownerReferences]
  | spec => rwa [Field.Same, spec]
  | status => exact status fun isPipeline => foreign isPipeline.symm

end Fields

def Registered (uids : Set String) (discovery : DataPrepperSourceDiscovery) : Prop :=
  discovery.metadata.uid ∈ uids

/-- The uids of all source discoveries are among these. -/
def Known (uids : Set String) (cluster : Cluster) : Prop :=
  ∀ name discovery, cluster.find .sourceDiscovery name = some discovery →
    Registered uids discovery

/-- The pipelines that stay are changed in fields of the role only. -/
def Limited (uids : Set String) (role : Role) (before after : Cluster) : Prop :=
  ∀ name old new, before.find .pipeline name = some old → after.find .pipeline name = some new →
    ChangesOnly uids role old new

structure Guarantee (uids : Set String) (role : Role) (before after : Cluster) : Prop where
  limited : Limited uids role before after
  evolves : Evolves before after
  known : Known uids before → Known uids after

structure Rely (uids : Set String) (before after : Cluster) : Prop where
  evolves : Evolves before after
  known : Known uids after

/-- The versions of pipelines that a client has in hand. -/
def Held (uids : Set String) (items : List DataPrepperPipeline) (cluster : Cluster) : Prop :=
  Known uids cluster ∧ ∀ item ∈ items, Seen cluster item

/-- The operations that concern no field of another role, whatever they carry. -/
def Harmless (role : Role) : Op → Prop
  | .create kind _ => kind ≠ .sourceDiscovery
  | .update kind _ => kind ≠ .pipeline
  | .updateStatus kind _ => kind = .pipeline → role = .pipeline
  | .get _ _ | .listPipelines _ | .delete _ _ | .kafkaConnect _ | .kafkaPartitionCount _ _
  | .kafkaListTopics _ | .s3Connect _ | .s3ListPrefixes _ _ _ | .now | .rangeOver _ => True

section Steps

variable {uids : Set String} {role : Role} {before after : Cluster} {op : Op} {reply : Reply op}
  {items : List DataPrepperPipeline}

theorem Guarantee.refl (cluster : Cluster) : Guarantee uids role cluster cluster where
  limited name old new found present := by
    rw [found, Option.some.injEq] at present
    exact present ▸ .refl old
  evolves := .refl cluster
  known := id

theorem Held.evolves (held : Held uids items before) (evolves : Evolves before after)
    (known : Known uids after) : Held uids items after :=
  ⟨known, fun item member => (held.2 item member).evolves evolves⟩

theorem Held.stable (before after : Cluster) (interference : Rely uids before after)
    (held : Held uids items before) : Held uids items after :=
  held.evolves interference.evolves interference.known

theorem Guarantee.held (guarantee : Guarantee uids role before after)
    (held : Held uids items before) : Held uids items after :=
  held.evolves guarantee.evolves (guarantee.known held.1)

/-- No write changes the uid of a source discovery. -/
theorem known_of_served (noCreation : ∀ object, op ≠ .create .sourceDiscovery object)
    (served : Unreliable before op reply after) (known : Known uids before) :
    Known uids after := by
  intro name discovery present
  cases served.storedBy present with
  | kept found => exact known name discovery found
  | created _ _ => exact absurd rfl (noCreation _)
  | @updated _ stored _ found => exact known name stored found
  | @reported _ stored _ found => exact known name stored found
  | @marked stored found => exact known name stored found

theorem limited_of_harmless (harmless : Harmless role op)
    (served : Unreliable before op reply after) : Limited uids role before after := by
  intro name old new found present
  cases served.storedBy present with
  | kept same =>
      rw [found, Option.some.injEq] at same
      exact same ▸ .refl old
  | created _ absent =>
      rw [found] at absent
      cases absent
  | updated _ _ => exact absurd rfl harmless
  | reported _ stores =>
      rw [found, Option.some.injEq] at stores
      subst stores
      exact (ChangesOnly.refl old).congr rfl rfl rfl rfl rfl
        fun notPipeline => absurd (harmless rfl) notPipeline
  | marked stores =>
      rw [found, Option.some.injEq] at stores
      subst stores
      exact (ChangesOnly.refl old).congr rfl rfl rfl rfl rfl fun _ => rfl

theorem guarantee_of_harmless (harmless : Harmless role op)
    (served : Unreliable before op reply after) : Guarantee uids role before after where
  limited := limited_of_harmless harmless served
  evolves := served.evolves
  known := known_of_served (by rintro object rfl; exact harmless rfl) served

/-- An update of a version that was seen is refused, or changes what the client has
changed. -/
theorem guarantee_update {base object : DataPrepperPipeline}
    {reply : Reply (.update .pipeline object)} (seen : Seen before base)
    (edits : Edits uids role base object)
    (served : Unreliable before (.update .pipeline object) reply after) :
    Guarantee uids role before after where
  limited := by
    intro name old new found present
    by_cases same : name = object.name
    · subst same
      obtain rfl | ⟨stored, stores, sameVersion, effect⟩ := served.update_cases
      · rw [found, Option.some.injEq] at present
        exact present ▸ .refl old
      rw [found, Option.some.injEq] at stores
      subst stores
      obtain rfl : old = base :=
        seen.unique old (by rw [← edits.named, found]) (sameVersion.trans edits.version)
      obtain rfl | ⟨_, _, rfl⟩ := effect
      · obtain rfl := Cluster.eq_of_find_commit present edits.named.symm
        exact edits.changes.congr rfl rfl rfl rfl rfl fun _ => rfl
      · rw [edits.named, Cluster.find_remove_same] at present
        cases present
    · have untouched : (Op.update .pipeline object).target ≠ some (.pipeline, name) := by
        simpa [Op.target] using fun sameName => same sameName.symm
      rw [served.frame untouched, found, Option.some.injEq] at present
      exact present ▸ .refl old
  evolves := served.evolves
  known := known_of_served (by simp) served

end Steps

section Programs

variable {uids : Set String} {role : Role} {items : List DataPrepperPipeline} {Result : Type}

/-- What a client learns from an answer, source discoveries included. -/
def Replies (uids : Set String) (op : Op) (reply : Reply op) : Prop :=
  Expected op reply ∧
    match op, reply with
    | .get .sourceDiscovery _, reply => OnSuccess (Registered uids) reply
    | .update .sourceDiscovery _, reply => OnSuccess (Registered uids) reply
    | .updateStatus .sourceDiscovery _, reply => OnSuccess (Registered uids) reply
    | _, _ => True

theorem replies_of_served {before after : Cluster} {op : Op} {reply : Reply op}
    (known : Known uids before) (served : Unreliable before op reply after) :
    Replies uids op reply := by
  refine ⟨served.expected, ?_⟩
  split
  next name reply =>
    cases reply with
    | error error => trivial
    | ok found => exact known name found served.find_of_get.1
  next object reply =>
    cases reply with
    | error error => trivial
    | ok stored =>
        obtain ⟨_, _, _, previous, found, sameUid, _⟩ := served.reply_of_update
        change stored.metadata.uid ∈ uids
        rw [sameUid]
        exact known _ previous found
  next object reply =>
    cases reply with
    | error error => trivial
    | ok stored =>
        obtain ⟨_, previous, found, _, _, sameUid⟩ := served.reply_of_updateStatus
        change stored.metadata.uid ∈ uids
        rw [sameUid]
        exact known _ previous found
  next => trivial

/-- Every call of the action keeps the guarantee of the role. -/
abbrev Keeps (uids : Set String) (role : Role) (before : Cluster → Prop)
    (after : Result → Cluster → Prop) (action : Reconciler Result) : Prop :=
  Upholds Unreliable (Rely uids) (Guarantee uids role) before after action

theorem keeps_of_issues {good : Result → Prop} {action : Reconciler Result}
    (issued : Issues (Harmless role) (Replies uids) (OnSuccess good) action.run) :
    Keeps uids role (Held uids items) (fun result final => Held uids items final ∧ good result)
      action := by
  refine .of_issues (fun _ _ _ _ held served => replies_of_served held.1 served) ?_
    Held.stable issued
  intro op harmless before reply after held served
  have guarantee : Guarantee uids role before after := guarantee_of_harmless harmless served
  exact ⟨guarantee, guarantee.held held⟩

theorem keeps_quietly {action : Reconciler Result}
    (issued : Issues (Harmless role) (Replies uids) (OnSuccess fun _ => True) action.run) :
    Keeps uids role (Held uids items) (fun _ final => Held uids items final) action :=
  (keeps_of_issues issued).weaken fun _ _ => And.left

theorem keeps_harmless {call : Client.Call Result}
    (issued : Issues (Harmless role) (Replies uids) (fun _ => True) call) :
    Keeps uids role (Held uids items) (fun _ final => Held uids items final) (callApi call) :=
  keeps_quietly (issues_callApi (issued.weaken fun reply _ => onSuccess_true reply))

theorem harmless_of_read (op : Op) (reads : op.target = none) : Harmless role op := by
  cases op with
  | create | update | updateStatus | delete => cases reads
  | get | listPipelines | kafkaConnect | kafkaPartitionCount | kafkaListTopics | s3Connect
  | s3ListPrefixes | now | rangeOver => trivial

/-- A read whose answer is not kept for a write. -/
theorem keeps_read (op : Op) (reads : op.target = none) :
    Keeps uids role (Held uids items) (fun _ final => Held uids items final)
      (Fallible.lift (Program.request op)) :=
  keeps_quietly (Issues.lift (issues_read harmless_of_read op reads))

theorem ensures_get (name : String) {state : Cluster} (held : Held uids items state) :
    Ensures Unreliable (Rely uids) (Guarantee uids role)
      (fun reply final => Held uids reply.toOption.toList final)
      (Client.get .pipeline name) state := by
  apply Ensures.request Held.stable held
  intro before reply after held served
  obtain rfl := served.unchanged rfl
  refine ⟨.refl _, held.1, ?_⟩
  intro item member
  cases reply with
  | error error => cases member
  | ok existing =>
      obtain rfl := List.mem_singleton.mp member
      exact Cluster.seen_of_find served.find_of_get.1

theorem ensures_update {base object : DataPrepperPipeline} (edits : Edits uids role base object)
    (member : base ∈ items) {state : Cluster} (held : Held uids items state) :
    Ensures Unreliable (Rely uids) (Guarantee uids role)
      (fun _ final => Held uids items final) (Client.update object) state := by
  apply Ensures.request Held.stable held
  intro before reply after held served
  have guarantee := guarantee_update (held.2 base member) edits served
  exact ⟨guarantee, guarantee.held held⟩

theorem keeps_update {base object : DataPrepperPipeline} (edits : Edits uids role base object)
    (member : base ∈ items) :
    Keeps uids role (Held uids items) (fun _ final => Held uids items final)
      (callApi (Client.update object)) := by
  apply upholds_callApi
  intro state held
  apply (ensures_update edits member held).weaken
  intro reply final held
  cases reply with
  | error error => trivial
  | ok stored => exact held

theorem keeps_list (selector : Selector) :
    Keeps uids role (Held uids items) (fun listed final => Held uids listed final)
      (callApi (Client.listPipelines selector)) := by
  apply upholds_callApi
  intro state held
  apply Ensures.request Held.stable held
  intro before reply after held served
  obtain rfl := served.unchanged rfl
  refine ⟨.refl _, ?_⟩
  cases reply with
  | error error => trivial
  | ok listed =>
      refine ⟨held.1, ?_⟩
      intro item member
      rw [served.perm_of_list.1.mem_iff, Cluster.mem_matching] at member
      exact Cluster.seen_of_find member.1

theorem Held.forget {cluster : Cluster} (held : Held uids items cluster) :
    Held uids [] cluster :=
  ⟨held.1, by simp⟩

theorem keeps_createOrUpdate {name nameSpace : String}
    {mutate : DataPrepperPipeline → Except String DataPrepperPipeline}
    (edits : ∀ existing mutated, mutate existing = .ok mutated →
      Edits uids role existing mutated) :
    Keeps uids role (Held uids items) (fun _ final => Held uids [] final)
      (createOrUpdate (Object.named .pipeline name nameSpace) mutate) := by
  apply Upholds.bind (Upholds.lift fun state held => ensures_get _ held)
  intro reply
  cases reply with
  | error error =>
      cases error with
      | notFound missingKind missing =>
          apply Upholds.bind_ofExcept
          intro mutated _
          have created : Issues (Harmless role) (Replies uids) (fun _ => True)
              (Client.create mutated) :=
            Issues.request _ (by simp [Harmless]) fun _ _ => trivial
          exact Upholds.bind (keeps_harmless created) fun _ => .pure fun _ => id
      | alreadyExists | conflict | refused => exact Upholds.throw _
  | ok existing =>
      apply Upholds.bind_ofExcept
      intro mutated success
      split
      · exact .pure fun _ held => held.forget
      · have updated := keeps_update (edits existing mutated success) (List.mem_singleton_self _)
        exact Upholds.bind updated fun _ => .pure fun _ held => held.forget

end Programs

section Discovery

open SourceDiscovery DataPrepperOperator.Discovery

variable {uids : Set String} {items : List DataPrepperPipeline}
  {discovery : DataPrepperSourceDiscovery}

theorem mem_upsertOwnerReference {reference other : OwnerReference}
    (references : List OwnerReference) (differs : referSameObject other reference ≠ true) :
    other ∈ upsertOwnerReference reference references ↔ other ∈ references := by
  have distinct : other ≠ reference := by
    rintro rfl
    exact differs (referSameObject_self _)
  induction references with
  | nil => simp [upsertOwnerReference, distinct]
  | cons present rest ih =>
      by_cases same : referSameObject present reference = true
      · have apart : other ≠ present := by
          rintro rfl
          exact differs same
        simp [upsertOwnerReference, same, distinct, apart]
      · simp [upsertOwnerReference, same, ih]

theorem edits_adoptChild {wanted : Desired} {existing adopted : DataPrepperPipeline}
    (success : adoptChild discovery wanted existing = .ok adopted) :
    Edits uids .discovery existing adopted := by
  obtain ⟨rfl, _⟩ := setControllerReference_ok success
  refine ⟨rfl, rfl, ?_⟩
  intro field foreign
  cases field with
  | labels key =>
      have others := not_or.mp fun own => foreign (if_pos own)
      have unlabelled := (not_or.mp others.2).1
      exact (Finmap.lookup_insert_of_ne _ unlabelled).trans
        (Finmap.lookup_insert_of_ne _ others.1)
  | annotations key => exact Finmap.lookup_insert_of_ne _ fun own => foreign (if_pos own)
  | finalizers name => exact Iff.rfl
  | ownerReferences reference =>
      apply mem_upsertOwnerReference
      intro same
      obtain ⟨group, kind, _⟩ := referSameObject_iff.mp same
      exact foreign (if_pos (.inl ⟨group, kind⟩))
  | spec => exact absurd rfl foreign
  | status => rfl

theorem edits_orphaned (known : Registered uids discovery) (pipeline : DataPrepperPipeline) :
    Edits uids .discovery pipeline (orphaned discovery pipeline) := by
  refine ⟨rfl, rfl, ?_⟩
  intro field foreign
  cases field with
  | labels key =>
      have others := not_or.mp fun own => foreign (if_pos own)
      have ⟨unlabelled, unmarked⟩ := not_or.mp others.2
      exact (Finmap.lookup_insert_of_ne _ unmarked).trans (Finmap.lookup_erase_ne unlabelled)
  | annotations key => rfl
  | finalizers name => exact Iff.rfl
  | ownerReferences reference =>
      have differs : reference.uid ≠ discovery.metadata.uid := by
        intro same
        exact foreign (if_pos (.inr (same ▸ known)))
      simp [Field.Same, orphaned, removeOwnerRef, differs]
  | spec | status => rfl

theorem keeps_writeChild (name : String) (wanted : Desired) :
    Keeps uids .discovery (Held uids items) (fun _ final => Held uids [] final)
      (writeChild discovery name wanted) :=
  keeps_createOrUpdate fun _ _ => edits_adoptChild

theorem keeps_createMissing (desired : GoMap Desired) (existing : GoMap DataPrepperPipeline)
    (limit : Int) (names : List String) (created : Nat) :
    Keeps uids .discovery (Held uids []) (fun _ final => Held uids [] final)
      (createMissing discovery desired existing limit names created) := by
  induction names generalizing created with
  | nil => exact .pure fun _ => id
  | cons name rest ih =>
      unfold createMissing
      split
      · split
        · exact ih created
        · exact Upholds.bind (upholds_wrapError (keeps_writeChild name _))
            fun _ => ih (created + 1)
      · exact ih created

theorem keeps_updateBatch (desired : GoMap Desired) (limit : Nat) (names : List String)
    (updated : Nat) :
    Keeps uids .discovery (Held uids []) (fun _ final => Held uids [] final)
      (updateBatch discovery desired limit names updated) := by
  induction names generalizing updated with
  | nil => exact .pure fun _ => id
  | cons name rest ih =>
      unfold updateBatch
      split
      · exact .pure fun _ => id
      · split
        · exact ih updated
        · exact Upholds.bind (upholds_wrapError (keeps_writeChild name _))
            fun _ => ih (updated + 1)

theorem keeps_rollOut (desired : GoMap Desired) (existing : GoMap DataPrepperPipeline) :
    Keeps uids .discovery (Held uids []) (fun _ final => Held uids [] final)
      (rollOut discovery desired existing) := by
  apply Upholds.bind (keeps_read (.rangeOver _) rfl)
  intro creationOrder
  apply Upholds.bind (keeps_createMissing desired existing _ _ _)
  intro created
  apply Upholds.bind (keeps_read (.rangeOver _) rfl)
  intro updateOrder
  dsimp only
  split
  · exact .pure fun _ => id
  · apply Upholds.bind (keeps_read (.rangeOver _) rfl)
    intro order
    split
    · exact .pure fun _ => id
    · exact Upholds.bind (keeps_updateBatch desired _ _ _) fun _ => .pure fun _ => id

theorem keeps_reconcilePipelines (reconciler : DiscoveryReconciler)
    (sources : List DiscoveredSource) :
    Keeps uids .discovery (Held uids []) (fun _ final => Held uids [] final)
      (reconcilePipelines reconciler discovery sources) := by
  apply Upholds.bind_ofExcept
  intro desired _
  apply Upholds.bind (upholds_wrapError (keeps_list _))
  intro listed
  exact (keeps_rollOut desired _).of_imp fun _ held => held.forget

theorem keeps_orphan (known : Registered uids discovery) {pipeline : DataPrepperPipeline}
    (member : pipeline ∈ items) :
    Keeps uids .discovery (Held uids items) (fun _ final => Held uids items final)
      (orphan discovery pipeline) :=
  Upholds.bind (upholds_wrapError (keeps_update (edits_orphaned known pipeline) member))
    fun _ => .pure fun _ => id

theorem keeps_cleanUp (known : Registered uids discovery) {pipeline : DataPrepperPipeline}
    (member : pipeline ∈ items) :
    Keeps uids .discovery (Held uids items) (fun _ final => Held uids items final)
      (cleanUp discovery pipeline) := by
  unfold cleanUp
  split
  · apply upholds_wrapError
    exact keeps_harmless (Issues.request _ trivial fun _ _ => trivial)
  · exact keeps_orphan known member
  · exact .pure fun _ => id

theorem keeps_cleanUpAll (known : Registered uids discovery) (activeNames : List String)
    {listed : List DataPrepperPipeline} (members : listed ⊆ items) :
    Keeps uids .discovery (Held uids items) (fun _ final => Held uids items final)
      (cleanUpAll discovery activeNames listed) := by
  induction listed with
  | nil => exact .pure fun _ => id
  | cons pipeline rest ih =>
      have further := ih (List.subset_of_cons_subset members)
      unfold cleanUpAll
      split
      · exact further
      · exact Upholds.bind (keeps_cleanUp known (members List.mem_cons_self)) fun _ => further

theorem keeps_cleanupOrphans (known : Registered uids discovery)
    (sources : List DiscoveredSource) :
    Keeps uids .discovery (Held uids items) (fun _ final => Held uids [] final)
      (cleanupOrphans discovery sources) := by
  apply Upholds.bind (upholds_wrapError (keeps_list _))
  intro listed
  exact (keeps_cleanUpAll known _ fun _ => id).weaken fun _ _ held => held.forget

theorem keeps_orphanAll (known : Registered uids discovery)
    {listed : List DataPrepperPipeline} (members : listed ⊆ items) :
    Keeps uids .discovery (Held uids items) (fun _ final => Held uids items final)
      (orphanAll discovery listed) := by
  induction listed with
  | nil => exact .pure fun _ => id
  | cons pipeline rest ih =>
      apply Upholds.bind (keeps_orphan known (members List.mem_cons_self))
      exact fun _ => ih (List.subset_of_cons_subset members)

theorem keeps_cleanupOnDeletion (known : Registered uids discovery) :
    Keeps uids .discovery (Held uids items) (fun _ final => Held uids [] final)
      (cleanupOnDeletion discovery) := by
  apply Upholds.bind (upholds_wrapError (keeps_list _))
  intro listed
  split
  · exact (keeps_orphanAll known fun _ => id).weaken fun _ _ held => held.forget
  · exact .pure fun _ held => held.forget
  · exact .pure fun _ held => held.forget

theorem keeps_finalizeDiscovery (known : Registered uids discovery) :
    Keeps uids .discovery (Held uids items) (fun _ _ => True)
      (SourceDiscovery.finalize discovery) := by
  unfold SourceDiscovery.finalize
  split
  · apply Upholds.bind (upholds_wrapError (keeps_cleanupOnDeletion known))
    intro _
    refine Upholds.bind (upholds_wrapError (keeps_harmless ?_)) fun _ => .pure fun _ _ => trivial
    exact Issues.request _ (by simp [Harmless]) fun _ _ => trivial
  · exact .pure fun _ _ => trivial

/-- Reading the discovery again and storing it keeps its uid. -/
theorem issues_store (change : DataPrepperSourceDiscovery → DataPrepperSourceDiscovery)
    (keepsUid : ∀ fresh, (change fresh).metadata.uid = fresh.metadata.uid)
    (known : Registered uids discovery) :
    Issues (Harmless .discovery) (Replies uids) (fun attempt => Registered uids attempt.1)
      (retryAssigning (storeFresh Client.update change) defaultRetries discovery) := by
  refine issues_retryAssigning harmless_of_read (fun _ _ _ replies => replies.2) ?_ ?_ _ known
  · intro fresh known
    rwa [Registered, keepsUid]
  · intro fresh _
    exact Issues.request _ (by simp [Harmless]) fun _ replies => replies.2

theorem issues_clearFailures (known : Registered uids discovery) :
    Issues (Harmless .discovery) (Replies uids) (Registered uids)
      (clearFailures discovery) := by
  unfold clearFailures
  split
  · exact known
  · apply Issues.bind (issues_store resetFailureCount (fun _ => rfl) known)
    exact fun _ => id

theorem issues_status :
    Issues (Harmless .discovery) (Replies uids) (fun _ => True)
      (updateDiscoveryStatus discovery) :=
  issues_updateDiscoveryStatus harmless_of_read (fun _ _ replies => replies.1)
    fun _ _ _ => by simp [Harmless]

theorem issues_reportFailure (known : Registered uids discovery) (message : String) :
    Issues (Harmless .discovery) (Replies uids) (fun _ => True)
      (reportFailure discovery message) := by
  have counted : Registered uids (incrementFailureCount discovery).1 := known
  apply Issues.bind (issues_store (fun fresh => (incrementFailureCount fresh).1) (fun _ => rfl)
    counted)
  intro persisted _
  apply Issues.bind (issues_read harmless_of_read .now rfl)
  intro now _
  apply Issues.bind issues_status
  exact fun _ _ => trivial

theorem issues_report (reconciler : DiscoveryReconciler) (sources : List DiscoveredSource)
    (rollout : Rollout) :
    Issues (Harmless .discovery) (Replies uids) (OnSuccess fun _ => True)
      (report reconciler discovery sources rollout).run := by
  apply Issues.bind_fallible _ (Issues.lift (issues_read harmless_of_read .now rfl))
  intro now _
  apply Issues.bind_fallible _ (Issues.lift issues_status)
  intro stored _
  split <;> trivial

theorem keeps_reconcileSources (reconciler : DiscoveryReconciler)
    (known : Registered uids discovery) (sources : List DiscoveredSource) :
    Keeps uids .discovery (Held uids []) (fun _ _ => True)
      (reconcileSources reconciler discovery sources) := by
  apply Upholds.bind_and (keeps_of_issues (Issues.lift (issues_clearFailures known)))
  intro current known
  apply Upholds.bind (keeps_reconcilePipelines reconciler sources)
  intro rollout
  apply Upholds.bind (keeps_cleanupOrphans known sources)
  intro _
  exact (keeps_quietly (issues_report reconciler sources rollout)).weaken fun _ _ _ => trivial

theorem keeps_runCycle (reconciler : DiscoveryReconciler) (known : Registered uids discovery)
    {discover : Reconciler (List DiscoveredSource)}
    (chosen : discoverSources reconciler discovery.spec = some discover) :
    Keeps uids .discovery (Held uids []) (fun _ _ => True)
      (runCycle reconciler discovery discover) := by
  have discovering : Issues (Harmless .discovery) (Replies uids) (fun _ => True) discover.run :=
    (issues_discoverSources harmless_of_read chosen).weaken fun _ _ => trivial
  apply Upholds.bind (keeps_quietly (Issues.lift discovering))
  intro outcome
  cases outcome with
  | error message =>
      exact (keeps_quietly (Issues.lift (issues_reportFailure known message))).weaken
        fun _ _ _ => trivial
  | ok sources => exact keeps_reconcileSources reconciler known sources

theorem issues_ensureDiscoveryFinalizer (known : Registered uids discovery) :
    Issues (Harmless .discovery) (Replies uids)
      (OnSuccess (Registered uids))
      (SourceDiscovery.ensureFinalizer discovery).run := by
  unfold SourceDiscovery.ensureFinalizer
  split
  · exact known
  · apply issues_wrapError
    apply issues_callApi
    exact Issues.request _ (by simp [Harmless]) fun _ replies => replies.2

theorem keeps_discovery (reconciler : DiscoveryReconciler) (name : String) :
    Keeps uids .discovery (Held uids []) (fun _ _ => True)
      (SourceDiscovery.reconcile reconciler name) := by
  have fetched : Issues (Harmless .discovery) (Replies uids) (OnSuccess (Registered uids))
      (Client.get .sourceDiscovery name) :=
    Issues.request _ trivial fun _ replies => replies.2
  apply Upholds.bind_and (keeps_of_issues (Issues.lift fetched))
  intro reply known
  cases reply with
  | error error =>
      cases error with
      | notFound missingKind missing => exact .pure fun _ _ => trivial
      | alreadyExists | conflict | refused => exact Upholds.throw _
  | ok discovery =>
      change Keeps _ _ _ _ (if discovery.metadata.deleting = true then _ else _)
      split
      · exact keeps_finalizeDiscovery known
      · apply Upholds.bind_and (keeps_of_issues (issues_ensureDiscoveryFinalizer known))
        intro current known
        split
        next => exact .pure fun _ _ => trivial
        next discover chosen => exact keeps_runCycle reconciler known chosen

end Discovery

section Defaults

open DefaultsReconciler

variable {uids : Set String} {items : List DataPrepperPipeline}

theorem edits_withRevision (revision : String) (pipeline : DataPrepperPipeline) :
    Edits uids .defaults pipeline (withRevision revision pipeline) := by
  refine ⟨rfl, rfl, ?_⟩
  intro field foreign
  cases field with
  | annotations key =>
      apply Finmap.lookup_insert_of_ne
      rintro rfl
      exact foreign (by
        simp [Field.writer, defaultsRevisionKey, SourceDiscovery.templateGenerationKey])
  | finalizers | ownerReferences => exact Iff.rfl
  | labels | spec | status => rfl

theorem ensures_touch (revision name : String) {state : Cluster} (held : Held uids items state) :
    Ensures Unreliable (Rely uids) (Guarantee uids .defaults)
      (fun _ final => Held uids [] final) (touch revision name) state := by
  apply Ensures.bind (ensures_get name held)
  intro reply final held
  cases reply with
  | error error => exact held
  | ok pipeline =>
      exact (ensures_update (edits_withRevision revision pipeline) (List.mem_singleton_self _)
        held).weaken fun _ _ held => held.forget

theorem ensures_retryTouch (revision name : String) (further : Nat) {state : Cluster}
    (held : Held uids items state) :
    Ensures Unreliable (Rely uids) (Guarantee uids .defaults)
      (fun _ final => Held uids [] final) (retryOnConflict (touch revision name) further)
      state := by
  induction further generalizing items state with
  | zero => exact ensures_touch revision name held
  | succ further ih =>
      apply Ensures.bind (ensures_touch revision name held)
      intro outcome final held
      split
      · exact ih held
      · exact held

theorem keeps_touchPipeline (revision name : String) :
    Keeps uids .defaults (Held uids []) (fun _ final => Held uids [] final)
      (touchPipeline revision name) := by
  refine Upholds.bind (upholds_wrapError (upholds_callApi ?_)) fun _ => .pure fun _ => id
  intro state held
  apply (ensures_retryTouch revision name _ held).weaken
  intro reply final held
  cases reply with
  | error error => trivial
  | ok stored => exact held

theorem keeps_touchAll (revision : String) (pipelines : List DataPrepperPipeline) :
    Keeps uids .defaults (Held uids []) (fun _ final => Held uids [] final)
      (touchAll revision pipelines) := by
  induction pipelines with
  | nil => exact .pure fun _ => id
  | cons pipeline rest ih =>
      unfold touchAll
      split
      · exact ih
      · exact Upholds.bind (keeps_touchPipeline revision pipeline.name)
          fun _ => ih

theorem keeps_defaults (name : String) :
    Keeps uids .defaults (Held uids []) (fun _ _ => True) (DefaultsReconciler.reconcile name) := by
  apply Upholds.bind (keeps_read (.get .defaults name) rfl)
  intro reply
  cases reply with
  | error error =>
      cases error with
      | notFound missingKind missing => exact .pure fun _ _ => trivial
      | alreadyExists | conflict | refused => exact Upholds.throw _
  | ok defaults =>
      apply Upholds.bind (upholds_wrapError (keeps_list .everything))
      intro pipelines
      apply Upholds.of_imp (fun _ held => held.forget)
      exact (keeps_touchAll (revisionOf defaults) pipelines).weaken fun _ _ _ => trivial

end Defaults

section Pipeline

variable {uids : Set String} {items : List DataPrepperPipeline}

/-- The finalizers may differ in the one of the pipeline reconciler. -/
theorem edits_finalizers {pipeline : DataPrepperPipeline} {finalizers : List String}
    (others : ∀ name, name ≠ pipelineFinalizerName →
      (name ∈ finalizers ↔ name ∈ pipeline.metadata.finalizers)) :
    Edits uids .pipeline pipeline
      { pipeline with metadata := { pipeline.metadata with finalizers := finalizers } } := by
  refine ⟨rfl, rfl, ?_⟩
  intro field foreign
  cases field with
  | finalizers name => exact others name fun own => foreign (if_pos own)
  | ownerReferences reference => exact Iff.rfl
  | labels | annotations | spec | status => rfl

theorem keeps_finalize (pipeline : DataPrepperPipeline) :
    Keeps uids .pipeline (Held uids [pipeline]) (fun _ _ => True) (finalize pipeline) := by
  unfold finalize
  split
  · have removed : Edits uids .pipeline pipeline { pipeline with metadata :=
        { pipeline.metadata with finalizers :=
          pipeline.metadata.finalizers.filter (· ≠ pipelineFinalizerName) } } :=
      edits_finalizers fun name other => by simp [other]
    exact Upholds.bind (upholds_wrapError (keeps_update removed (List.mem_singleton_self _)))
      fun _ => .pure fun _ _ => trivial
  · exact .pure fun _ _ => trivial

theorem keeps_ensureFinalizer (pipeline : DataPrepperPipeline) :
    Keeps uids .pipeline (Held uids [pipeline]) (fun _ final => Held uids [] final)
      (ensureFinalizer pipeline) := by
  unfold ensureFinalizer
  split
  · exact .pure fun _ held => held.forget
  · have added : Edits uids .pipeline pipeline { pipeline with metadata :=
        { pipeline.metadata with finalizers :=
          pipeline.metadata.finalizers ++ [pipelineFinalizerName] } } :=
      edits_finalizers fun name other => by simp [other]
    exact (upholds_wrapError (keeps_update added (List.mem_singleton_self _))).weaken
      fun _ _ held => held.forget

theorem harmless_of_child (op : Op) (kind : Kind) (name : String)
    (target : op.target = some (kind, name)) (child : IsChild kind) :
    Harmless .pipeline op := by
  cases op with
  | create | update =>
      simp only [Op.target, Option.some.injEq, Prod.mk.injEq] at target
      rintro rfl
      rwa [← target.1] at child
  | updateStatus other object => exact fun _ => rfl
  | delete other found => trivial
  | get | listPipelines | kafkaConnect | kafkaPartitionCount | kafkaListTopics | s3Connect
  | s3ListPrefixes | now | rangeOver => trivial

theorem keeps_pipeline (reconciler : PipelineReconciler) (name : String) :
    Keeps uids .pipeline (Held uids []) (fun _ _ => True) (reconcile reconciler name) := by
  apply Upholds.bind (Upholds.lift fun state held => ensures_get name held)
  intro reply
  cases reply with
  | error error =>
      cases error with
      | notFound missingKind missing => exact .pure fun _ _ => trivial
      | alreadyExists | conflict | refused => exact Upholds.throw _
  | ok pipeline =>
      change Keeps _ _ _ _ (if pipeline.metadata.deleting = true then _ else _)
      split
      · exact keeps_finalize pipeline
      · apply Upholds.bind (keeps_ensureFinalizer pipeline)
        intro current
        apply Upholds.bind (keeps_quietly (issues_fetchDefaults harmless_of_read))
        intro defaults
        have merged : Issues (Harmless .pipeline) (Replies uids) (OnSuccess fun _ => True)
            (reconcileMerged reconciler current (Defaults.mergeSpec defaults current.spec)).run :=
          issues_reconcileMerged harmless_of_read (fun _ _ replies => replies.1)
            harmless_of_child (fun _ _ => rfl) reconciler current _
        exact (keeps_quietly merged).weaken fun _ _ _ => trivial

end Pipeline

section Runs

open SourceDiscovery (DiscoveryReconciler)

/-- A reconciler of the operator and the object that it works for. -/
inductive Writer where
  | discovery (name : String)
  | defaults (name : String)
  | pipeline (name : String)
  deriving DecidableEq

def Writer.role : Writer → Role
  | .discovery _ => .discovery
  | .defaults _ => .defaults
  | .pipeline _ => .pipeline

def Writer.reconcile (discoverer : DiscoveryReconciler) (deployer : PipelineReconciler) :
    Writer → Reconciler Unit
  | .discovery name => do let _ ← SourceDiscovery.reconcile discoverer name
  | .defaults name => DefaultsReconciler.reconcile name
  | .pipeline name => do let _ ← Controller.reconcile deployer name

/-- Each object may have any number of workers. -/
abbrev Worker := Writer × Nat

def Works (discoverer : DiscoveryReconciler) (deployer : PipelineReconciler) (worker : Worker)
    (program : Program Op Reply (Except String Unit)) : Prop :=
  program = (worker.1.reconcile discoverer deployer).run

/-- The environment are the users. -/
def roleOf : Actor Worker → Role
  | .client worker => worker.1.role
  | .environment => .user

abbrev Workers := Pool Worker Cluster Op Reply (Except String Unit)

/-- A step of a worker, or an edit by a user, of fields that are theirs. -/
abbrev Moves (discoverer : DiscoveryReconciler) (deployer : PipelineReconciler)
    (uids : Set String) : Actor Worker → Workers → Workers → Prop :=
  Pool.Step Unreliable (Works discoverer deployer) (Guarantee uids .user)

/-- Steps of others than the role, through all of which the pipeline is stored. -/
def Meanwhile (discoverer : DiscoveryReconciler) (deployer : PipelineReconciler)
    (uids : Set String) (role : Role) (name : String) : Workers → Workers → Prop :=
  ReflTransGen fun pool next =>
    (∃ actor, roleOf actor ≠ role ∧ Moves discoverer deployer uids actor pool next) ∧
      ∃ pipeline, next.state.find .pipeline name = some pipeline

variable {discoverer : DiscoveryReconciler} {deployer : PipelineReconciler} {uids : Set String}

theorem keeps_writer (writer : Writer) :
    Keeps uids writer.role (Held uids []) (fun _ _ => True)
      (writer.reconcile discoverer deployer) := by
  cases writer with
  | discovery name =>
      exact Upholds.bind (keeps_discovery discoverer name) fun _ => .pure fun _ _ => trivial
  | defaults name => exact keeps_defaults name
  | pipeline name =>
      exact Upholds.bind (keeps_pipeline deployer name) fun _ => .pure fun _ _ => trivial

theorem writers_protocol :
    Pool.Protocol Unreliable (Works discoverer deployer) (Guarantee uids .user) (Known uids)
      (fun _ => Rely uids) (fun worker => Guarantee uids worker.1.role) where
  idle _ state := .refl state
  keeps _ _ _ known guarantee := guarantee.known known
  environmentKeeps _ _ known moved := moved.known known
  others _ _ _ _ _ known guarantee := ⟨guarantee.evolves, guarantee.known known⟩
  environmentRelies _ _ _ known moved := ⟨moved.evolves, moved.known known⟩
  starts := by
    rintro worker program rfl state known
    exact (keeps_writer worker.1 state ⟨known, by simp⟩).weaken fun _ _ _ => trivial

theorem limited_of_moves {start pool next : Workers} {actor : Actor Worker} (idle : start.Idle)
    (known : Known uids start.state)
    (run : Pool.Run Unreliable (Works discoverer deployer) (Guarantee uids .user) start pool)
    (moves : Moves discoverer deployer uids actor pool next) :
    Limited uids (roleOf actor) pool.state next.state := by
  cases actor with
  | client worker => exact (Pool.guaranteed writers_protocol idle known run moves).limited
  | environment =>
      cases moves with
      | environment moved => exact moved.limited

/-- A call of a worker of another role, after which the pipeline is stored. -/
theorem meanwhile_advance {role : Role} {name : String} {pool : Workers} {worker : Worker}
    (foreign : worker.1.role ≠ role)
    (stored : ((pool.advance Cluster.answer worker).state.find .pipeline name).isSome) :
    Meanwhile discoverer deployer uids role name pool (pool.advance Cluster.answer worker) := by
  obtain ⟨pipeline, present⟩ := Option.isSome_iff_exists.mp stored
  obtain same | step := pool.step_advance
    (fun state op => Serves.honest (state.answer_honest op)) worker
  · rw [same]
    exact .refl
  · exact .single ⟨⟨.client worker, foreign, step⟩, pipeline, present⟩

/-- What others do meanwhile leaves a field as it is. -/
theorem same_of_meanwhile {start pool later : Workers} (idle : start.Idle)
    (known : Known uids start.state)
    (run : Pool.Run Unreliable (Works discoverer deployer) (Guarantee uids .user) start pool)
    {name : String} {old : DataPrepperPipeline}
    (stored : pool.state.find .pipeline name = some old) {field : Field}
    (meanwhile : Meanwhile discoverer deployer uids (field.writer uids) name pool later) :
    Pool.Run Unreliable (Works discoverer deployer) (Guarantee uids .user) start later ∧
      ∃ current, later.state.find .pipeline name = some current ∧ field.Same old current := by
  induction meanwhile with
  | refl => exact ⟨run, old, stored, .refl field old⟩
  | tail _ step ih =>
      obtain ⟨reached, current, present, same⟩ := ih
      obtain ⟨⟨actor, foreign, moves⟩, next, presentNext⟩ := step
      have kept := limited_of_moves idle known reached moves name current next present presentNext
      exact ⟨reached.tail ⟨actor, moves⟩, next, presentNext, same.trans (kept field foreign.symm)⟩

/-- In every interleaving of the reconcilers, API failures and user edits, each step
changes fields of its own role only; so as long as the pipeline is stored, a field stays
as it is until its own writer changes it. -/
theorem fields_changed_by_their_writers (discoverer : DiscoveryReconciler)
    (deployer : PipelineReconciler) {uids : Set String} {start pool : Workers}
    (idle : start.Idle) (known : Known uids start.state)
    (run : Pool.Run Unreliable (Works discoverer deployer) (Guarantee uids .user) start pool)
    {name : String} {old : DataPrepperPipeline}
    (stored : pool.state.find .pipeline name = some old) :
    (∀ actor next new, Moves discoverer deployer uids actor pool next →
      next.state.find .pipeline name = some new →
      ∀ field : Field, field.writer uids ≠ roleOf actor → field.Same old new) ∧
    ∀ (field : Field) later new,
      Meanwhile discoverer deployer uids (field.writer uids) name pool later →
      later.state.find .pipeline name = some new → field.Same old new := by
  constructor
  · intro actor next new moves present
    exact limited_of_moves idle known run moves name old new stored present
  · intro field later new meanwhile present
    obtain ⟨_, current, found, same⟩ := same_of_meanwhile idle known run stored meanwhile
    rw [found, Option.some.injEq] at present
    exact present ▸ same

/-- A pipeline with a label of its users. -/
def teamPipeline : DataPrepperPipeline where
  metadata :=
    { name := "ingest", nameSpace := "logs", labels := Finmap.singleton "team" "observability" }
  spec := (httpPipeline "ingest").spec
  status := {}

def teamCluster : Cluster := (Cluster.empty.create teamPipeline).2

/-- The workers when the pipeline reconciler has just begun. -/
def teamWorkers : Workers :=
  ⟨teamCluster, Function.update (fun _ => none) (.pipeline "ingest", 0) (some
    ((Writer.pipeline "ingest").reconcile SourceDiscovery.sampleDiscoveryReconciler
      sampleReconciler).run)⟩

/-- The pipeline reconciler reads the pipeline and adds its finalizer; the label of the
users stays. -/
theorem team_label_survives_finalizer :
    ∃ (later : Workers) (old new : DataPrepperPipeline),
      Meanwhile SourceDiscovery.sampleDiscoveryReconciler sampleReconciler ∅ .user "ingest"
        teamWorkers later ∧
      teamCluster.find .pipeline "ingest" = some old ∧
      later.state.find .pipeline "ingest" = some new ∧
      old.metadata.finalizers = [] ∧ new.metadata.finalizers = [pipelineFinalizerName] ∧
      new.metadata.labels.lookup "team" = old.metadata.labels.lookup "team" := by
  have known : Known ∅ teamCluster := by
    intro name discovery found
    cases found
  have idle : Pool.Idle (⟨teamCluster, fun _ => none⟩ : Workers) := fun _ => rfl
  have begun : Pool.Run Unreliable
      (Works SourceDiscovery.sampleDiscoveryReconciler sampleReconciler) (Guarantee ∅ .user)
      ⟨teamCluster, fun _ => none⟩ teamWorkers := .single ⟨_, .start rfl rfl⟩
  let fetched : Workers := teamWorkers.advance Cluster.answer (.pipeline "ingest", 0)
  let later : Workers := fetched.advance Cluster.answer (.pipeline "ingest", 0)
  have reading : Meanwhile SourceDiscovery.sampleDiscoveryReconciler sampleReconciler ∅ .user
      "ingest" teamWorkers fetched := meanwhile_advance (by decide) (by decide +kernel)
  have storing : Meanwhile SourceDiscovery.sampleDiscoveryReconciler sampleReconciler ∅ .user
      "ingest" fetched later := meanwhile_advance (by decide) (by decide +kernel)
  have meanwhile := ReflTransGen.trans reading storing
  obtain ⟨old, stored, unprotected⟩ : ∃ old, teamCluster.find .pipeline "ingest" = some old ∧
      old.metadata.finalizers = [] :=
    ⟨_, (Option.some_get (by decide +kernel)).symm, by decide +kernel⟩
  obtain ⟨new, present, holding⟩ : ∃ new, later.state.find .pipeline "ingest" = some new ∧
      new.metadata.finalizers = [pipelineFinalizerName] :=
    ⟨_, (Option.some_get (by decide +kernel)).symm, by decide +kernel⟩
  have kept := (fields_changed_by_their_writers _ _ idle known begun stored).2 (.labels "team")
    later new
  have usersOwn : (Field.labels "team").writer ∅ = .user := by
    simp [Field.writer, SourceDiscovery.discoveryLabelKey, SourceDiscovery.orphanedLabelKey]
  rw [usersOwn] at kept
  exact ⟨later, old, new, meanwhile, stored, present, unprotected, holding,
    kept meanwhile present⟩

end Runs

end DataPrepperOperator.Controller.SharedPipeline
