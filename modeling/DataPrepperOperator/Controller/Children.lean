import DataPrepperOperator.Controller.Footprint

/-!
# What a child step leaves behind

A create-or-update that succeeds stores a fixed point of its mutate function; a
delete that succeeds leaves nothing alive.  A second step of the same kind then
writes nothing.  The server here may fail on the child objects and on the status,
but it does not lie about what a reconcile reads as input, nor report a stored
object as missing.
-/

namespace DataPrepperOperator.Controller

open ServerProgram DataPrepperOperator.Api DataPrepperOperator.Generator

variable {kind : Kind}

/-- Replies by which a write, a read of a child object or a list may fail. -/
def ChildFault : (op : Op) → Reply op → Prop
  | .get _ _, .error (.notFound _ _) => False
  | .get kind _, _ => IsChild kind
  | .listPipelines _, _ | .create _ _, _ | .update _ _, _ | .updateStatus _ _, _
  | .delete _ _, _ => True
  | .kafkaConnect _, _ | .kafkaPartitionCount _ _, _ | .kafkaListTopics _, _
  | .s3Connect _, _ | .s3ListPrefixes _ _ _, _ | .now, _ | .rangeOver _, _ => False

abbrev Disturbed : Server Cluster Op Reply := Serves ChildFault

section Reads

variable {before after : Cluster} {name : String}

theorem notFoundHonest_childFault : NotFoundHonest ChildFault := by
  intro kind name missingKind missing
  simp [ChildFault]

theorem genuine_of_input {reply : Except ApiError (Object kind)} (input : ¬IsChild kind) :
    ¬ChildFault (.get kind name) reply := by
  intro fault
  cases reply with
  | ok object => exact input fault
  | error error =>
      cases error with
      | notFound missingKind missing => exact fault
      | alreadyExists | conflict | refused => exact input fault

/-- Inputs are read as they are. -/
theorem Disturbed.read_input {reply : Except ApiError (Object kind)} (input : ¬IsChild kind)
    (served : Disturbed before (.get kind name) reply after) :
    reply = before.read kind name ∧ after = before :=
  served.honest_of_genuine (genuine_of_input input)

end Reads

/-- The mutate function has nothing left to do. -/
def Settled (owner : DataPrepperPipeline) (labels : GoMap String)
    (assign : kind.Spec → kind.Spec) (object : Object kind) : Prop :=
  claimWith owner labels assign object = .ok object

theorem referSameObject_self (reference : OwnerReference) :
    referSameObject reference reference = true := by
  simp [referSameObject]

theorem upsertOwnerReference_idempotent (reference : OwnerReference)
    (references : List OwnerReference) :
    upsertOwnerReference reference (upsertOwnerReference reference references) =
      upsertOwnerReference reference references := by
  induction references with
  | nil => simp [upsertOwnerReference, referSameObject_self]
  | cons present rest ih =>
      by_cases same : referSameObject present reference = true
      · simp [upsertOwnerReference, same, referSameObject_self]
      · simp [upsertOwnerReference, same, ih]

/-- The content of a claimed object. -/
theorem claimWith_content {owner : DataPrepperPipeline} {labels : GoMap String}
    {assign : kind.Spec → kind.Spec} {object claimed : Object kind}
    (success : claimWith owner labels assign object = .ok claimed) :
    claimed.metadata.labels = labels ∧ claimed.spec = assign object.spec ∧
      claimed.metadata.ownerReferences =
        upsertOwnerReference (controllerReference owner) object.metadata.ownerReferences ∧
      claimed.controllerOf = some (controllerReference owner) ∧
      claimed.name = object.name ∧
      claimed.metadata.resourceVersion = object.metadata.resourceVersion ∧
      claimed.metadata.finalizers = object.metadata.finalizers := by
  have controller := controllerOf_of_setControllerReference success
  obtain ⟨rfl, _⟩ := setControllerReference_ok success
  exact ⟨rfl, rfl, rfl, controller, rfl, rfl, rfl⟩

/-- Whatever has the labels, the owners and the spec of a claimed object is
settled. -/
theorem settled_of_claimed {owner : DataPrepperPipeline} {labels : GoMap String}
    {assign : kind.Spec → kind.Spec} (idempotent : ∀ spec, assign (assign spec) = assign spec)
    {source claimed object : Object kind}
    (success : claimWith owner labels assign source = .ok claimed)
    (sameLabels : object.metadata.labels = claimed.metadata.labels)
    (sameOwners : object.metadata.ownerReferences = claimed.metadata.ownerReferences)
    (sameSpec : object.spec = claimed.spec) : Settled owner labels assign object := by
  obtain ⟨claimedLabels, claimedSpec, claimedOwners, controller, _⟩ := claimWith_content success
  have labelled : object.metadata.labels = labels := sameLabels.trans claimedLabels
  have assigned : assign object.spec = object.spec := by
    rw [sameSpec, claimedSpec, idempotent]
  have upserted : upsertOwnerReference (controllerReference owner)
      object.metadata.ownerReferences = object.metadata.ownerReferences := by
    rw [sameOwners, claimedOwners, upsertOwnerReference_idempotent]
  have controls : object.controllerOf = some (controllerReference owner) := by
    unfold Object.controllerOf at controller ⊢
    rw [sameOwners]
    exact controller
  obtain ⟨metadata, spec, status⟩ := object
  obtain ⟨name, nameSpace, uid, version, generation, objectLabels, annotations, finalizers,
    owners, deleting⟩ := metadata
  simp only at labelled assigned upserted
  subst labelled
  unfold Settled claimWith setControllerReference
  simp only [assigned]
  rw [controls]
  simp only [referSameObject_self, if_true, upserted]

section Steps

variable {state final : Cluster} {trace : List (Event Cluster Op Reply)}
  {faulty : (op : Op) → Reply op → Prop}

/-- The call of an action that drops what the server returns. -/
theorem called_of_discarded {Result : Type} {call : Client.Call Result}
    {outcome : Except String Unit}
    (run : Runs (Serves faulty) (do let _ ← callApi call).run state trace outcome final) :
    ∃ reply, Runs (Serves faulty) call state trace reply final := by
  rcases runs_fallible_bind_iff.mp run with
    ⟨failure, rfl, failed⟩ | ⟨first, middle, _, second, rfl, ran, finished⟩
  · obtain ⟨reply, called, _⟩ := runs_of_callApi failed
    exact ⟨reply, called⟩
  · obtain ⟨rfl, _, rfl⟩ := runs_pure_iff.mp finished
    rw [List.append_nil]
    exact ⟨_, runs_callApi_ok ran⟩

/-- The calls of a create-or-update that succeeds. -/
theorem calls_of_createOrUpdate {object : Object kind}
    {mutate : Object kind → Except String (Object kind)}
    (run : Runs (Serves faulty) (createOrUpdate object mutate).run state trace (.ok ()) final) :
    ∃ reply later, Serves faulty state (.get kind object.name) reply state ∧
      trace = ⟨state, .get kind object.name, reply, state⟩ :: later ∧
      ((∃ existing claimed, reply = .ok existing ∧ mutate existing = .ok claimed ∧
          (claimed = existing ∧ later = [] ∧ final = state ∨
            ∃ stored, Serves faulty state (.update kind claimed) (.ok stored) final ∧
              later = [⟨state, .update kind claimed, .ok stored, final⟩])) ∨
        ∃ missingKind missing claimed stored, reply = .error (.notFound missingKind missing) ∧
          mutate object = .ok claimed ∧
          Serves faulty state (.create kind claimed) (.ok stored) final ∧
          later = [⟨state, .create kind claimed, .ok stored, final⟩]) := by
  obtain ⟨reply, middle, later, served, rfl, rest⟩ := runs_ask_bind run
  obtain rfl := served.unchanged rfl
  refine ⟨reply, later, served, rfl, ?_⟩
  cases reply with
  | ok existing =>
      obtain ⟨_, _, impossible, _⟩ | ⟨claimed, success, written⟩ := runs_ofExcept_bind rest
      · cases impossible
      refine .inl ⟨existing, claimed, rfl, success, ?_⟩
      split at written
      · rename_i same
        obtain ⟨rfl, _, rfl⟩ := runs_pure_iff.mp written
        exact .inl ⟨same, rfl, rfl⟩
      · obtain ⟨_, _, stored, _, rfl, called, finished⟩ := runs_bind_ok written
        obtain ⟨rfl, _, rfl⟩ := runs_pure_iff.mp finished
        obtain ⟨updated, rfl⟩ := runs_request_iff.mp (runs_callApi_ok called)
        exact .inr ⟨stored, updated, rfl⟩
  | error error =>
      cases error with
      | notFound missingKind missing =>
          obtain ⟨_, _, impossible, _⟩ | ⟨claimed, success, written⟩ := runs_ofExcept_bind rest
          · cases impossible
          obtain ⟨_, _, stored, _, rfl, called, finished⟩ := runs_bind_ok written
          obtain ⟨rfl, _, rfl⟩ := runs_pure_iff.mp finished
          obtain ⟨created, rfl⟩ := runs_request_iff.mp (runs_callApi_ok called)
          exact .inr ⟨missingKind, missing, claimed, stored, rfl, success, created, rfl⟩
      | alreadyExists | conflict | refused =>
          obtain ⟨_, impossible, _⟩ := runs_throw_iff.mp rest
          cases impossible

theorem runs_createOrUpdate_ok {object : Object kind}
    {mutate : Object kind → Except String (Object kind)} (honest : NotFoundHonest faulty)
    (run : Runs (Serves faulty) (createOrUpdate object mutate).run state trace (.ok ()) final) :
    (state.find kind object.name = none ∧ ∃ claimed reply, mutate object = .ok claimed ∧
        Honest state (.create kind claimed) (.ok reply) final) ∨
      ∃ existing claimed, state.find kind object.name = some existing ∧
        mutate existing = .ok claimed ∧
        (claimed = existing ∧ final = state ∨
          ∃ reply, Honest state (.update kind claimed) (.ok reply) final) := by
  obtain ⟨_, _, served, _, ⟨existing, claimed, rfl, success, written⟩ |
    ⟨_, _, claimed, stored, rfl, success, created, _⟩⟩ := calls_of_createOrUpdate run
  · refine .inr ⟨existing, claimed, served.find_of_get.1, success, ?_⟩
    obtain ⟨same, _, unchanged⟩ | ⟨stored, updated, _⟩ := written
    · exact .inl ⟨same, unchanged⟩
    · exact .inr ⟨stored, updated.honest_of_not_fails (by simp [Fails])⟩
  · exact .inl ⟨(Serves.find_of_notFound honest served).1, claimed, stored, success,
      created.honest_of_not_fails (by simp [Fails])⟩

/-- Every write of a successful create-or-update was accepted. -/
theorem accepted_of_createOrUpdate {object : Object kind}
    {mutate : Object kind → Except String (Object kind)}
    (run : Runs (Serves faulty) (createOrUpdate object mutate).run state trace (.ok ()) final) :
    ∀ event ∈ trace, event.op.target ≠ none → ¬Fails event.op event.reply := by
  obtain ⟨reply, later, _, rfl, calls⟩ := calls_of_createOrUpdate run
  have laterAccepted : ∀ event ∈ later, ¬Fails event.op event.reply := by
    obtain ⟨_, _, _, _, ⟨_, rfl, _⟩ | ⟨_, _, rfl⟩⟩ | ⟨_, _, _, _, _, _, _, rfl⟩ := calls <;>
      simp [Fails]
  intro event member written
  obtain rfl | listed := List.mem_cons.mp member
  · exact absurd rfl written
  · exact laterAccepted event listed

/-- A mutate function leaves to the server what is the server's. -/
def KeepsIdentity (mutate : Object kind → Except String (Object kind)) : Prop :=
  ∀ source claimed, mutate source = .ok claimed →
    claimed.name = source.name ∧
      claimed.metadata.resourceVersion = source.metadata.resourceVersion ∧
      claimed.metadata.finalizers = source.metadata.finalizers ∧
      claimed.metadata.deleting = source.metadata.deleting

/-- What a create-or-update does to the cluster, whether or not it succeeds: nothing, or
it updates the object that is there, or it creates a missing one. -/
theorem effect_of_createOrUpdate {object : Object kind}
    {mutate : Object kind → Except String (Object kind)} (keeps : KeepsIdentity mutate)
    {outcome : Except String Unit}
    (run : Runs (Serves faulty) (createOrUpdate object mutate).run state trace outcome final) :
    final = state ∨
      (∃ existing claimed, state.find kind object.name = some existing ∧
        mutate existing = .ok claimed ∧
        final = state.commit (Cluster.updated existing claimed)) ∨
      (state.find kind object.name = none ∧ ∃ claimed, mutate object = .ok claimed ∧
        final = state.commit (state.newborn claimed)) := by
  obtain ⟨reply, middle, later, served, rfl, rest⟩ := runs_ask_bind run
  obtain rfl := served.unchanged rfl
  cases reply with
  | ok existing =>
      obtain ⟨found, _⟩ := served.find_of_get
      obtain ⟨_, _, _, rfl⟩ | ⟨claimed, success, written⟩ := runs_ofExcept_bind rest
      · exact .inl rfl
      obtain ⟨claimedName, _, finalizers, _⟩ := keeps _ _ success
      have existingName : existing.name = object.name := Cluster.name_of_find found
      split at written
      · obtain ⟨_, _, rfl⟩ := runs_pure_iff.mp written
        exact .inl rfl
      · obtain ⟨answer, called⟩ := called_of_discarded written
        obtain ⟨updated, _⟩ := runs_request_iff.mp called
        obtain rfl | ⟨stored, present, _, effect⟩ := updated.update_cases
        · exact .inl rfl
        rw [claimedName, existingName, found, Option.some.injEq] at present
        subst present
        obtain rfl | ⟨held, emptied, _⟩ := effect
        · exact .inr (.inl ⟨existing, claimed, found, success, rfl⟩)
        · -- the mutate function keeps the finalizers, so the object stays
          exact absurd (finalizers ▸ emptied) held
  | error error =>
      cases error with
      | notFound missingKind missing =>
          obtain ⟨_, _, _, rfl⟩ | ⟨claimed, success, written⟩ := runs_ofExcept_bind rest
          · exact .inl rfl
          obtain ⟨answer, called⟩ := called_of_discarded written
          obtain ⟨created, _⟩ := runs_request_iff.mp called
          obtain rfl | ⟨absent, rfl⟩ := created.create_cases
          · exact .inl rfl
          · rw [(keeps _ _ success).1] at absent
            exact .inr (.inr ⟨absent, claimed, success, rfl⟩)
      | alreadyExists | conflict | refused =>
          exact .inl (runs_throw_iff.mp rest).2.2

/-- The stored object has the content that the mutate function gave it. -/
structure HasContentOf (stored claimed : Object kind) : Prop where
  labels : stored.metadata.labels = claimed.metadata.labels
  annotations : stored.metadata.annotations = claimed.metadata.annotations
  owners : stored.metadata.ownerReferences = claimed.metadata.ownerReferences
  spec : stored.spec = claimed.spec

/-- What an accepted update leaves under the name has the content it was given. -/
theorem hasContentOf_of_update {before after : Cluster} {asked returned current : Object kind}
    (served : Serves faulty before (.update kind asked) (.ok returned) after)
    (present : after.find kind asked.name = some current) :
    HasContentOf current asked ∧ ∃ stored, before.find kind asked.name = some stored ∧
      stored.metadata.resourceVersion = asked.metadata.resourceVersion ∧
      current.metadata.deleting = stored.metadata.deleting := by
  obtain ⟨stored, found, version, replaces⟩ := served.replaces_of_update
  have named : stored.name = asked.name := Cluster.name_of_find found
  rw [← named] at found present ⊢
  obtain left | ⟨_, _, _, gone⟩ := replaces.find found rfl
  · obtain rfl := Option.some.inj (left.symm.trans present)
    obtain ⟨_, rfl⟩ := replaces.returns
    exact ⟨⟨rfl, rfl, rfl, rfl⟩, stored, found, version, rfl⟩
  · rw [gone] at present
    cases present

/-- Whatever was there before, a successful create-or-update stores the result of
its mutate function. -/
theorem stored_of_createOrUpdate {object : Object kind}
    {mutate : Object kind → Except String (Object kind)} (honest : NotFoundHonest faulty)
    (keeps : KeepsIdentity mutate)
    (run : Runs (Serves faulty) (createOrUpdate object mutate).run state trace (.ok ()) final) :
    ∃ source claimed stored, mutate source = .ok claimed ∧
      final.find kind object.name = some stored ∧ HasContentOf stored claimed := by
  obtain ⟨absent, claimed, reply, success, created⟩ |
    ⟨existing, claimed, found, success, ⟨rfl, rfl⟩ | ⟨reply, updated⟩⟩ :=
      runs_createOrUpdate_ok honest run
  · obtain ⟨claimedName, _⟩ := keeps _ _ success
    have effect : (Except.ok reply, final) = state.create claimed := created
    unfold Cluster.create at effect
    simp only [claimedName, absent, Prod.mk.injEq] at effect
    obtain ⟨_, rfl⟩ := effect
    exact ⟨object, claimed, _, success, Cluster.find_commit_of_name claimedName,
      ⟨rfl, rfl, rfl, rfl⟩⟩
  · exact ⟨claimed, claimed, claimed, success, found, rfl, rfl, rfl, rfl⟩
  · have served : Serves faulty state (.update kind claimed) (.ok reply) final := .honest updated
    have claimedName : claimed.name = object.name :=
      (keeps _ _ success).1.trans (Cluster.name_of_find found)
    obtain ⟨stored, present⟩ : ∃ stored, final.find kind claimed.name = some stored := by
      rw [claimedName]
      obtain rfl | ⟨_, _, found, _, rfl⟩ | ⟨absent, _⟩ := effect_of_createOrUpdate keeps run
      · exact ⟨existing, found⟩
      · rw [← Cluster.name_of_find found]
        exact ⟨_, Cluster.find_commit_same _ (Cluster.updated _ _)⟩
      · rw [found] at absent
        cases absent
    rw [← claimedName]
    exact ⟨existing, claimed, stored, success, present, (hasContentOf_of_update served present).1⟩

variable {owner : DataPrepperPipeline} {labels : GoMap String} {assign : kind.Spec → kind.Spec}
  {name nameSpace : String}

theorem keepsIdentity_claimWith : KeepsIdentity (claimWith owner labels assign) := by
  intro source claimed success
  obtain ⟨rfl, _⟩ := setControllerReference_ok success
  exact ⟨rfl, rfl, rfl, rfl⟩

/-- Whatever was there before, a successful create-or-update leaves a settled
object. -/
theorem settled_of_createOrUpdate (idempotent : ∀ spec, assign (assign spec) = assign spec)
    (run : Runs Disturbed (createOrUpdate (Object.named kind name nameSpace)
      (claimWith owner labels assign)).run state trace (.ok ()) final) :
    ∃ object, final.find kind name = some object ∧ Settled owner labels assign object := by
  obtain ⟨source, claimed, stored, success, found, content⟩ :=
    stored_of_createOrUpdate notFoundHonest_childFault keepsIdentity_claimWith run
  exact ⟨stored, found,
    settled_of_claimed idempotent success content.labels content.owners content.spec⟩

/-- Nothing is alive under the name; what is left waits for its finalizers. -/
def Removed (cluster : Cluster) (kind : Kind) (name : String) : Prop :=
  ∀ object, cluster.find kind name = some object →
    object.metadata.deleting = true ∧ object.metadata.finalizers ≠ []

theorem removed_of_delete {reply : Unit}
    (honest : Honest state (.delete kind name) (.ok reply) final) : Removed final kind name := by
  have effect : (Except.ok reply, final) = state.delete kind name := honest
  unfold Cluster.delete at effect
  intro object present
  cases found : state.find kind name with
  | none => simp [found] at effect
  | some stored =>
      have storedName : stored.name = name := Cluster.name_of_find found
      simp only [found] at effect
      split at effect
      · simp only [Prod.mk.injEq] at effect
        obtain ⟨_, rfl⟩ := effect
        simp at present
      · rename_i held
        split at effect
        · rename_i deleting
          simp only [Prod.mk.injEq] at effect
          obtain ⟨_, rfl⟩ := effect
          rw [found, Option.some.injEq] at present
          subst present
          exact ⟨deleting, held⟩
        · simp only [Prod.mk.injEq] at effect
          obtain ⟨_, rfl⟩ := effect
          obtain rfl := Cluster.eq_of_find_commit present storedName
          exact ⟨rfl, held⟩

theorem removed_of_reconcileOrDelete {object : Object kind}
    {mutate : Object kind → Except String (Object kind)}
    (run : Runs Disturbed (reconcileOrDelete object false mutate).run state trace (.ok ()) final) :
    Removed final kind object.name := by
  obtain ⟨reply, middle, later, served, rfl, rest⟩ := runs_ask_bind run
  cases reply with
  | ok stored =>
      obtain ⟨found, rfl⟩ := served.find_of_get
      have storedName : stored.name = object.name := Cluster.name_of_find found
      obtain ⟨deleted, _⟩ := runs_request_iff.mp (runs_callApi_ok rest)
      rw [← storedName]
      exact removed_of_delete (deleted.honest_of_not_fails (by simp [Fails]))
  | error error =>
      cases error with
      | notFound missingKind missing =>
          obtain ⟨absent, rfl⟩ := Serves.find_of_notFound notFoundHonest_childFault served
          obtain ⟨_, _, rfl⟩ := runs_pure_iff.mp rest
          intro present found
          rw [absent] at found
          cases found
      | alreadyExists | conflict | refused =>
          obtain ⟨_, impossible, _⟩ := runs_throw_iff.mp rest
          cases impossible

variable {outcome : Except String Unit}

/-- A create-or-update that meets a settled object writes nothing. -/
theorem unchanged_of_settled {object : Object kind} (found : state.find kind name = some object)
    (settled : Settled owner labels assign object)
    (run : Runs Disturbed (createOrUpdate (Object.named kind name nameSpace)
      (claimWith owner labels assign)).run state trace outcome final) : final = state := by
  obtain ⟨reply, middle, later, served, rfl, rest⟩ := runs_ask_bind run
  have unchanged := served.unchanged rfl
  subst unchanged
  cases reply with
  | ok existing =>
      have same : existing = object := by
        have present := served.find_of_get.1
        change middle.find kind name = some existing at present
        rw [found, Option.some.injEq] at present
        exact present.symm
      subst same
      obtain ⟨_, failed, _, _⟩ | ⟨claimed, success, written⟩ := runs_ofExcept_bind rest
      · rw [settled] at failed
        cases failed
      · rw [settled, Except.ok.injEq] at success
        rw [if_pos success.symm] at written
        exact (runs_pure_iff.mp written).2.2
  | error error =>
      cases error with
      | notFound missingKind missing =>
          have absent := (Serves.find_of_notFound notFoundHonest_childFault served).1
          change middle.find kind name = none at absent
          rw [found] at absent
          cases absent
      | alreadyExists | conflict | refused => exact (runs_throw_iff.mp rest).2.2

/-- Deleting what is already gone or going changes nothing. -/
theorem unchanged_of_removed {mutate : Object kind → Except String (Object kind)}
    (removed : Removed state kind name)
    (run : Runs Disturbed (reconcileOrDelete (Object.named kind name nameSpace) false
      mutate).run state trace outcome final) : final = state := by
  obtain ⟨reply, middle, later, served, rfl, rest⟩ := runs_ask_bind run
  have unchanged := served.unchanged rfl
  subst unchanged
  cases reply with
  | ok stored =>
      have found : middle.find kind name = some stored := served.find_of_get.1
      obtain ⟨deleting, held⟩ := removed stored found
      obtain ⟨_, called, _⟩ := runs_of_callApi rest
      obtain ⟨deleted, _⟩ := runs_request_iff.mp called
      obtain same | ⟨answer, honest⟩ := deleted.effect
      · exact same
      · have result : final = (middle.delete kind stored.name).2 := congrArg Prod.snd honest
        have storedName : stored.name = name := Cluster.name_of_find found
        rw [storedName] at result
        unfold Cluster.delete at result
        simpa [found, deleting, held] using result
  | error error =>
      cases error with
      | notFound missingKind missing => exact (runs_pure_iff.mp rest).2.2
      | alreadyExists | conflict | refused => exact (runs_throw_iff.mp rest).2.2

end Steps

end DataPrepperOperator.Controller
