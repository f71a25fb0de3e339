import DataPrepperOperator.Api.Server

/-!
# What an operation can do to the cluster

Every operation of the server leaves the cluster alone, stores one object with a
fresh resource version, or removes one object.  Framing and the uniqueness of
resource versions are read off from that.
-/

namespace DataPrepperOperator.Api

open ServerProgram

variable {kind : Kind}

/-- The object that an operation may write. -/
def Op.target : Op → Option (Kind × String)
  | .create kind object => some (kind, object.name)
  | .update kind object => some (kind, object.name)
  | .updateStatus kind object => some (kind, object.name)
  | .delete kind name => some (kind, name)
  | .get _ _ | .listPipelines _ | .kafkaConnect _ | .kafkaPartitionCount _ _
  | .kafkaListTopics _ | .s3Connect _ | .s3ListPrefixes _ _ _ | .now | .rangeOver _ => none

/-- One object may have been stored or removed. -/
inductive Written (before : Cluster) (kind : Kind) (name : String) : Cluster → Prop where
  | unchanged : Written before kind name before
  | stored (object : Object kind) : object.name = name →
      Written before kind name (before.commit object)
  | removed : Written before kind name (before.remove kind name)

/-- A replacement removes an object being deleted with its last finalizer, or finds nothing
to change, or stores the candidate. -/
inductive Replaces (before : Cluster) (stored candidate : Object kind) :
    Object kind → Cluster → Prop where
  | removed : stored.metadata.deleting = true → stored.metadata.finalizers ≠ [] →
      candidate.metadata.finalizers = [] →
      Replaces before stored candidate candidate (before.remove kind stored.name)
  | kept : candidate = stored → Replaces before stored candidate stored before
  | committed : candidate ≠ stored →
      Replaces before stored candidate (before.stamped candidate) (before.commit candidate)

namespace Cluster

theorem replaces (cluster : Cluster) (stored candidate : Object kind) :
    ∃ returned after, cluster.replace stored candidate = (.ok returned, after) ∧
      Replaces cluster stored candidate returned after := by
  unfold replace
  split
  next emptied => exact ⟨_, _, rfl, .removed emptied.1 emptied.2.1 emptied.2.2⟩
  next =>
    split
    next same => exact ⟨_, _, rfl, .kept same⟩
    next different => exact ⟨_, _, rfl, .committed different⟩

theorem find_commit_of_ne (cluster : Cluster) (object : Object kind) {other : Kind}
    {name : String} (different : (other, name) ≠ (kind, object.name)) :
    (cluster.commit object).find other name = cluster.find other name := by
  by_cases sameKind : other = kind
  · subst other
    apply find_commit_of_name_ne
    intro sameName
    exact different (by rw [sameName])
  · exact cluster.find_commit_of_kind_ne object sameKind name

theorem find_remove_of_ne (cluster : Cluster) {other : Kind} {name found : String}
    (different : (other, found) ≠ (kind, name)) :
    (cluster.remove kind name).find other found = cluster.find other found := by
  by_cases sameKind : other = kind
  · subst other
    apply find_remove_of_name_ne
    intro sameName
    exact different (by rw [sameName])
  · exact cluster.find_remove_of_kind_ne sameKind name found

theorem create_written (cluster : Cluster) (object : Object kind) :
    Written cluster kind object.name (cluster.create object).2 := by
  unfold create
  cases cluster.find kind object.name with
  | some present => exact .unchanged
  | none => exact .stored _ rfl

/-- A write is refused, or it replaces the version that it was made from. -/
theorem overwrite_cases (cluster : Cluster) (asked : Object kind)
    (successor : Object kind → Object kind) :
    (∃ error, cluster.overwrite asked successor = (.error error, cluster)) ∨
      ∃ stored returned after, cluster.overwrite asked successor = (.ok returned, after) ∧
        cluster.find kind asked.name = some stored ∧
        stored.metadata.resourceVersion = asked.metadata.resourceVersion ∧
        Replaces cluster stored (successor stored) returned after := by
  unfold overwrite
  cases found : cluster.find kind asked.name with
  | none => exact .inl ⟨_, rfl⟩
  | some stored =>
      dsimp only
      split
      · exact .inl ⟨_, rfl⟩
      · rename_i current
        obtain ⟨returned, after, same, replaces⟩ := cluster.replaces stored (successor stored)
        exact .inr ⟨stored, returned, after, same, rfl, (not_not.mp current).symm, replaces⟩

/-- A write that takes effect met the version it was made from. -/
theorem effect_of_overwrite (cluster : Cluster) (asked : Object kind)
    {successor : Object kind → Object kind} {after : Cluster}
    (result : after = (cluster.overwrite asked successor).2) :
    after = cluster ∨
      ∃ stored, cluster.find kind asked.name = some stored ∧
        stored.metadata.resourceVersion = asked.metadata.resourceVersion ∧
        (after = cluster.commit (successor stored) ∨
          stored.metadata.finalizers ≠ [] ∧ (successor stored).metadata.finalizers = [] ∧
            after = cluster.remove kind stored.name) := by
  obtain ⟨_, refused⟩ | ⟨stored, _, _, accepted, found, version, replaces⟩ :=
    cluster.overwrite_cases asked successor
  · exact .inl (result.trans (congrArg Prod.snd refused))
  · obtain rfl := result.trans (congrArg Prod.snd accepted)
    cases replaces with
    | removed _ held emptied => exact .inr ⟨stored, found, version, .inr ⟨held, emptied, rfl⟩⟩
    | kept => exact .inl rfl
    | committed => exact .inr ⟨stored, found, version, .inl rfl⟩

theorem overwrite_written (cluster : Cluster) (asked : Object kind)
    {successor : Object kind → Object kind}
    (named : ∀ stored, (successor stored).name = stored.name) :
    Written cluster kind asked.name (cluster.overwrite asked successor).2 := by
  generalize result : (cluster.overwrite asked successor).2 = after
  obtain rfl | ⟨stored, found, _, rfl | ⟨_, _, rfl⟩⟩ :=
    cluster.effect_of_overwrite asked result.symm
  · exact .unchanged
  · exact .stored _ ((named stored).trans (name_of_find found))
  · rw [name_of_find found]
    exact .removed

theorem delete_written (cluster : Cluster) (kind : Kind) (name : String) :
    Written cluster kind name (cluster.delete kind name).2 := by
  unfold delete
  cases found : cluster.find kind name with
  | none => exact .unchanged
  | some stored =>
      simp only
      split
      · exact .removed
      · split
        · exact .unchanged
        · have sameName : stored.name = name := name_of_find found
          exact .stored _ sameName

end Cluster

variable {before after : Cluster} {op : Op} {reply : Reply op}

theorem Honest.written (honest : Honest before op reply after) :
    after = before ∨
      ∃ kind name, op.target = some (kind, name) ∧ Written before kind name after := by
  cases op with
  | create kind object =>
      obtain rfl : after = (before.create object).2 := congrArg Prod.snd honest
      exact .inr ⟨kind, object.name, rfl, before.create_written object⟩
  | update kind object =>
      obtain rfl : after = (before.update object).2 := congrArg Prod.snd honest
      exact .inr ⟨kind, object.name, rfl, before.overwrite_written object fun _ => rfl⟩
  | updateStatus kind object =>
      obtain rfl : after = (before.updateStatus object).2 := congrArg Prod.snd honest
      exact .inr ⟨kind, object.name, rfl, before.overwrite_written object fun _ => rfl⟩
  | delete kind name =>
      obtain rfl : after = (before.delete kind name).2 := congrArg Prod.snd honest
      exact .inr ⟨kind, name, rfl, before.delete_written kind name⟩
  | get | listPipelines | kafkaConnect | kafkaPartitionCount | kafkaListTopics | s3Connect
  | s3ListPrefixes => exact .inl honest.2
  | now | rangeOver => exact .inl honest

variable {faulty : (op : Op) → Reply op → Prop}

/-- Whatever was replied, the operation took its honest effect or none. -/
theorem Serves.effect (served : Serves faulty before op reply after) :
    after = before ∨ ∃ answer, Honest before op answer after := by
  cases served with
  | honest honest => exact .inr ⟨_, honest⟩
  | failed _ _ => exact .inl rfl
  | lost _ _ honest => exact .inr ⟨_, honest⟩

theorem Serves.written (served : Serves faulty before op reply after) :
    after = before ∨
      ∃ kind name, op.target = some (kind, name) ∧ Written before kind name after := by
  obtain same | ⟨answer, honest⟩ := served.effect
  · exact .inl same
  · exact honest.written

/-- A read leaves the cluster alone. -/
theorem Serves.unchanged (served : Serves faulty before op reply after)
    (reads : op.target = none) : after = before := by
  obtain same | ⟨kind, name, target, _⟩ := served.written
  · exact same
  · simp [reads] at target

/-- Some reply is allowed to be a failure. -/
def Faulty (faulty : (op : Op) → Reply op → Prop) : Prop :=
  ∃ op reply, faulty op reply

/-- A read is answered honestly, or it fails. -/
theorem Serves.read_cases (served : Serves faulty before op reply after)
    (reads : op.target = none) :
    after = before ∧ (Honest before op reply before ∨ Faulty faulty ∧ Fails op reply) := by
  have unchanged := served.unchanged reads
  refine ⟨unchanged, ?_⟩
  cases served with
  | honest honest => exact .inl (unchanged ▸ honest)
  | failed fault fails => exact .inr ⟨⟨_, _, fault⟩, fails⟩
  | lost fault fails _ => exact .inr ⟨⟨_, _, fault⟩, fails⟩

theorem runs_read {state final : Cluster} {trace : List (Event Cluster Op Reply)}
    (reads : op.target = none)
    (run : Runs (Serves faulty) (Program.request op) state trace reply final) :
    final = state ∧ ∀ event ∈ trace, event.op.target = none := by
  obtain ⟨served, rfl⟩ := runs_request_iff.mp run
  exact ⟨served.unchanged reads, by simpa using reads⟩

/-- The program reads its result off from the cluster. -/
abbrev Observes {Result : Type} (faulty : (op : Op) → Reply op → Prop)
    (program : Reconciler Result) (compute : Cluster → Except String Result) : Prop :=
  Computes (Serves faulty) (fun op => op.target = none) (Faulty faulty) program compute

theorem Serves.create_cases {object : Object kind} {reply : Reply (.create kind object)}
    (served : Serves faulty before (.create kind object) reply after) :
    after = before ∨
      before.find kind object.name = none ∧ after = before.commit (before.newborn object) := by
  obtain same | ⟨answer, honest⟩ := served.effect
  · exact .inl same
  · have result : after = (before.create object).2 := congrArg Prod.snd honest
    unfold Cluster.create at result
    cases found : before.find kind object.name with
    | some present => exact .inl (by simpa [found] using result)
    | none => exact .inr ⟨rfl, by simpa [found] using result⟩

/-- An update that takes effect met the version it was made from. -/
theorem Serves.update_cases {object : Object kind} {reply : Reply (.update kind object)}
    (served : Serves faulty before (.update kind object) reply after) :
    after = before ∨
      ∃ stored, before.find kind object.name = some stored ∧
        stored.metadata.resourceVersion = object.metadata.resourceVersion ∧
        (after = before.commit (Cluster.updated stored object) ∨
          stored.metadata.finalizers ≠ [] ∧ object.metadata.finalizers = [] ∧
            after = before.remove kind stored.name) := by
  obtain same | ⟨answer, honest⟩ := served.effect
  · exact .inl same
  · exact before.effect_of_overwrite object (congrArg Prod.snd honest)

/-- A status update leaves everything but the status alone. -/
theorem Serves.updateStatus_cases {object : Object kind}
    {reply : Reply (.updateStatus kind object)}
    (served : Serves faulty before (.updateStatus kind object) reply after) :
    after = before ∨
      ∃ stored, before.find kind object.name = some stored ∧
        after = before.commit { stored with status := object.status } := by
  obtain same | ⟨answer, honest⟩ := served.effect
  · exact .inl same
  · obtain same | ⟨stored, found, _, written | ⟨held, emptied, _⟩⟩ :=
      before.effect_of_overwrite object (congrArg Prod.snd honest)
    · exact .inl same
    · exact .inr ⟨stored, found, written⟩
    · exact absurd emptied held

/-- A delete removes the object or marks it. -/
theorem Serves.delete_cases {name : String} {reply : Reply (.delete kind name)}
    (served : Serves faulty before (.delete kind name) reply after) :
    after = before ∨
      ∃ stored, before.find kind name = some stored ∧
        (after = before.remove kind name ∨ after = before.commit (Cluster.marked stored)) := by
  obtain same | ⟨answer, honest⟩ := served.effect
  · exact .inl same
  · have result : after = (before.delete kind name).2 := congrArg Prod.snd honest
    unfold Cluster.delete at result
    cases found : before.find kind name with
    | none => exact .inl (by simpa [found] using result)
    | some stored =>
        simp only [found] at result
        split at result
        · exact .inr ⟨stored, rfl, .inl result⟩
        · split at result
          · exact .inl result
          · exact .inr ⟨stored, rfl, .inr result⟩

theorem Serves.after_create {object current : Object kind} {reply : Reply (.create kind object)}
    (served : Serves faulty before (.create kind object) reply after)
    (present : after.find kind object.name = some current) :
    before.find kind object.name = some current ∨
      before.find kind object.name = none ∧
        current = before.stamped (before.newborn object) := by
  obtain rfl | ⟨absent, rfl⟩ := served.create_cases
  · exact .inl present
  · exact .inr ⟨absent, Cluster.eq_of_find_commit present rfl⟩

theorem Serves.after_update {object current : Object kind} {reply : Reply (.update kind object)}
    (served : Serves faulty before (.update kind object) reply after)
    (present : after.find kind object.name = some current) :
    before.find kind object.name = some current ∨
      ∃ stored, before.find kind object.name = some stored ∧
        current = before.stamped (Cluster.updated stored object) := by
  obtain rfl | ⟨stored, found, _, rfl | ⟨_, _, rfl⟩⟩ := served.update_cases
  · exact .inl present
  · have named : stored.name = object.name := Cluster.name_of_find found
    exact .inr ⟨stored, found, Cluster.eq_of_find_commit present named⟩
  · rw [Cluster.name_of_find found, Cluster.find_remove_same] at present
    cases present

theorem Serves.after_updateStatus {object current : Object kind}
    {reply : Reply (.updateStatus kind object)}
    (served : Serves faulty before (.updateStatus kind object) reply after)
    (present : after.find kind object.name = some current) :
    before.find kind object.name = some current ∨
      ∃ stored, before.find kind object.name = some stored ∧
        current = before.stamped { stored with status := object.status } := by
  obtain rfl | ⟨stored, found, rfl⟩ := served.updateStatus_cases
  · exact .inl present
  · have named : stored.name = object.name := Cluster.name_of_find found
    exact .inr ⟨stored, found, Cluster.eq_of_find_commit present named⟩

theorem Serves.after_delete {name : String} {current : Object kind}
    {reply : Reply (.delete kind name)}
    (served : Serves faulty before (.delete kind name) reply after)
    (present : after.find kind name = some current) :
    before.find kind name = some current ∨
      ∃ stored, before.find kind name = some stored ∧
        current = before.stamped (Cluster.marked stored) := by
  obtain rfl | ⟨stored, found, rfl | rfl⟩ := served.delete_cases
  · exact .inl present
  · rw [Cluster.find_remove_same] at present
    cases present
  · have named : stored.name = name := Cluster.name_of_find found
    exact .inr ⟨stored, found, Cluster.eq_of_find_commit present named⟩

/-- Only the target of an operation changes. -/
theorem Serves.frame (served : Serves faulty before op reply after) {other : Kind}
    {name : String} (untouched : op.target ≠ some (other, name)) :
    after.find other name = before.find other name := by
  obtain rfl | ⟨kind, target, targeted, written⟩ := served.written
  · rfl
  · have different : (other, name) ≠ (kind, target) := by
      intro same
      rw [same] at untouched
      exact untouched targeted
    cases written with
    | unchanged => rfl
    | stored object named =>
        subst named
        exact before.find_commit_of_ne object different
    | removed => exact before.find_remove_of_ne different

/-- How an object comes to be stored under a name when an operation is served. -/
inductive StoredBy (before : Cluster) (kind : Kind) (name : String) : Op → Object kind → Prop where
  | kept {op : Op} {current : Object kind} :
      before.find kind name = some current → StoredBy before kind name op current
  | created {object : Object kind} :
      object.name = name → before.find kind name = none →
      StoredBy before kind name (.create kind object) (before.stamped (before.newborn object))
  | updated {object stored : Object kind} :
      object.name = name → before.find kind name = some stored →
      StoredBy before kind name (.update kind object)
        (before.stamped (Cluster.updated stored object))
  | reported {object stored : Object kind} :
      object.name = name → before.find kind name = some stored →
      StoredBy before kind name (.updateStatus kind object)
        (before.stamped { stored with status := object.status })
  | marked {stored : Object kind} :
      before.find kind name = some stored →
      StoredBy before kind name (.delete kind name) (before.stamped (Cluster.marked stored))

theorem Serves.storedBy (served : Serves faulty before op reply after) {kind : Kind}
    {name : String} {current : Object kind} (present : after.find kind name = some current) :
    StoredBy before kind name op current := by
  by_cases targeted : op.target = some (kind, name)
  · cases op with
    | create _ object =>
        obtain ⟨rfl, rfl⟩ := Prod.mk.inj (Option.some.inj targeted)
        obtain same | ⟨absent, rfl⟩ := served.after_create present
        · exact .kept same
        · exact .created rfl absent
    | update _ object =>
        obtain ⟨rfl, rfl⟩ := Prod.mk.inj (Option.some.inj targeted)
        obtain same | ⟨stored, found, rfl⟩ := served.after_update present
        · exact .kept same
        · exact .updated rfl found
    | updateStatus _ object =>
        obtain ⟨rfl, rfl⟩ := Prod.mk.inj (Option.some.inj targeted)
        obtain same | ⟨stored, found, rfl⟩ := served.after_updateStatus present
        · exact .kept same
        · exact .reported rfl found
    | delete _ target =>
        obtain ⟨rfl, rfl⟩ := Prod.mk.inj (Option.some.inj targeted)
        obtain same | ⟨stored, found, rfl⟩ := served.after_delete present
        · exact .kept same
        · exact .marked found
    | get | listPipelines | kafkaConnect | kafkaPartitionCount | kafkaListTopics | s3Connect
    | s3ListPrefixes | now | rangeOver => cases targeted
  · rw [served.frame targeted] at present
    exact .kept present

/-- The services behind the other clients are not the API server's to change. -/
theorem Serves.externals (served : Serves faulty before op reply after) :
    after.kafka = before.kafka ∧ after.s3 = before.s3 ∧ after.fieldIndex = before.fieldIndex := by
  obtain rfl | ⟨kind, target, _, written⟩ := served.written
  · exact ⟨rfl, rfl, rfl⟩
  · cases written <;> exact ⟨rfl, rfl, rfl⟩

/-- A reply that carries an object carries one of the name that was asked for. -/
def Expected : (op : Op) → Reply op → Prop
  | .get _ name, reply => ∀ object, reply = .ok object → object.name = name
  | .create _ asked, reply => ∀ object, reply = .ok object → object.name = asked.name
  | .update _ asked, reply =>
      ∀ object, reply = .ok object → object.name = asked.name ∧ object.spec = asked.spec
  | .updateStatus _ asked, reply => ∀ object, reply = .ok object → object.name = asked.name
  | _, _ => True

/-- Only an honest server answers with an object. -/
theorem Serves.honest_of_not_fails (served : Serves faulty before op reply after)
    (success : ¬Fails op reply) : Honest before op reply after := by
  cases served with
  | honest honest => exact honest
  | failed _ fails => exact absurd fails success
  | lost _ fails _ => exact absurd fails success

theorem Serves.honest_of_genuine (served : Serves faulty before op reply after)
    (genuine : ¬faulty op reply) : Honest before op reply after := by
  cases served with
  | honest honest => exact honest
  | failed fault _ => exact absurd fault genuine
  | lost fault _ _ => exact absurd fault genuine

/-- A server without faults answers honestly. -/
theorem honest_of_reliable (served : Reliable before op reply after) :
    Honest before op reply after :=
  served.honest_of_genuine id

theorem Serves.find_of_get {name : String} {object : Object kind}
    (served : Serves faulty before (.get kind name) (.ok object) after) :
    before.find kind name = some object ∧ after = before := by
  have honest := served.honest_of_not_fails (by simp [Fails])
  obtain ⟨answered, unchanged⟩ := honest
  refine ⟨?_, unchanged⟩
  unfold Cluster.read at answered
  cases found : before.find kind name with
  | none => simp [found] at answered
  | some stored => simpa [found] using answered.symm

theorem Serves.perm_of_list {selector : Selector} {items : List DataPrepperPipeline}
    (served : Serves faulty before (.listPipelines selector) (.ok items) after) :
    items.Perm (before.matching selector) ∧ after = before := by
  obtain ⟨⟨listed, perm, answered⟩, unchanged⟩ := served.honest_of_not_fails (by simp [Fails])
  cases answered
  exact ⟨perm, unchanged⟩

/-- The server does not report a stored object as missing. -/
def NotFoundHonest (faulty : (op : Op) → Reply op → Prop) : Prop :=
  ∀ kind name missingKind missing,
    ¬faulty (.get kind name) (.error (.notFound missingKind missing))

theorem Serves.find_of_notFound {name : String} {missingKind : Kind} {missing : String}
    (honest : NotFoundHonest faulty)
    (served : Serves faulty before (.get kind name) (.error (.notFound missingKind missing))
      after) :
    before.find kind name = none ∧ after = before := by
  have genuine : Honest before (.get kind name) (.error (.notFound missingKind missing)) after := by
    cases served with
    | honest answered => exact answered
    | failed fault _ => exact absurd fault (honest _ _ _ _)
    | lost fault _ _ => exact absurd fault (honest _ _ _ _)
  obtain ⟨answered, unchanged⟩ := genuine
  refine ⟨?_, unchanged⟩
  unfold Cluster.read at answered
  cases found : before.find kind name with
  | none => rfl
  | some object => simp [found] at answered

section Accepted

variable {asked object stored candidate returned : Object kind}

/-- An accepted update replaces the version that it was made from. -/
theorem Serves.replaces_of_update
    (served : Serves faulty before (.update kind asked) (.ok object) after) :
    ∃ stored, before.find kind asked.name = some stored ∧
      stored.metadata.resourceVersion = asked.metadata.resourceVersion ∧
      Replaces before stored (Cluster.updated stored asked) object after := by
  have effect : (Except.ok object, after) = before.update asked :=
    served.honest_of_not_fails (by simp [Fails])
  obtain ⟨_, refused⟩ | ⟨stored, _, _, accepted, found, version, replaces⟩ :=
    before.overwrite_cases asked (Cluster.updated · asked)
  · cases effect.trans refused
  · cases effect.trans accepted
    exact ⟨stored, found, version, replaces⟩

theorem Serves.replaces_of_updateStatus
    (served : Serves faulty before (.updateStatus kind asked) (.ok object) after) :
    ∃ stored, before.find kind asked.name = some stored ∧
      Replaces before stored { stored with status := asked.status } object after := by
  have effect : (Except.ok object, after) = before.updateStatus asked :=
    served.honest_of_not_fails (by simp [Fails])
  obtain ⟨_, refused⟩ | ⟨stored, _, _, accepted, found, _, replaces⟩ :=
    before.overwrite_cases asked fun stored => { stored with status := asked.status }
  · cases effect.trans refused
  · cases effect.trans accepted
    exact ⟨stored, found, replaces⟩

/-- Up to its version, the candidate is returned. -/
theorem Replaces.returns (replaces : Replaces before stored candidate returned after) :
    ∃ version, returned = { candidate with
      metadata := { candidate.metadata with resourceVersion := version } } := by
  cases replaces with
  | removed => exact ⟨candidate.metadata.resourceVersion, rfl⟩
  | kept same => exact ⟨candidate.metadata.resourceVersion, same.symm⟩
  | committed => exact ⟨_, rfl⟩

/-- What is left under the name is what was returned. -/
theorem Replaces.find (replaces : Replaces before stored candidate returned after)
    (found : before.find kind stored.name = some stored)
    (named : candidate.name = stored.name) :
    after.find kind stored.name = some returned ∨
      stored.metadata.deleting = true ∧ stored.metadata.finalizers ≠ [] ∧
        candidate.metadata.finalizers = [] ∧ after.find kind stored.name = none := by
  cases replaces with
  | removed deleting held emptied =>
      exact .inr ⟨deleting, held, emptied, Cluster.find_remove_same ..⟩
  | kept => exact .inl found
  | committed =>
      rw [← named]
      exact .inl (Cluster.find_commit_same _ _)

/-- What a successful update returns. -/
theorem Serves.reply_of_update
    (served : Serves faulty before (.update kind asked) (.ok object) after) :
    object.name = asked.name ∧ object.spec = asked.spec ∧
      object.metadata.nameSpace = asked.metadata.nameSpace ∧
      ∃ stored, before.find kind asked.name = some stored ∧
        object.metadata.uid = stored.metadata.uid ∧ object.status = stored.status := by
  obtain ⟨stored, found, _, replaces⟩ := served.replaces_of_update
  have named : stored.name = asked.name := Cluster.name_of_find found
  obtain ⟨version, rfl⟩ := replaces.returns
  exact ⟨named, rfl, rfl, stored, found, rfl, rfl⟩

theorem Serves.reply_of_updateStatus
    (served : Serves faulty before (.updateStatus kind asked) (.ok object) after) :
    object.name = asked.name ∧
      ∃ stored, before.find kind asked.name = some stored ∧ object.spec = stored.spec ∧
        object.metadata.nameSpace = stored.metadata.nameSpace ∧
        object.metadata.uid = stored.metadata.uid := by
  obtain ⟨stored, found, replaces⟩ := served.replaces_of_updateStatus
  have named : stored.name = asked.name := Cluster.name_of_find found
  obtain ⟨version, rfl⟩ := replaces.returns
  exact ⟨named, stored, found, rfl, rfl, rfl⟩

end Accepted

theorem Serves.expected (served : Serves faulty before op reply after) :
    Expected op reply := by
  cases op with
  | get kind name =>
      intro object answered
      subst answered
      exact Cluster.name_of_find served.find_of_get.1
  | create kind asked =>
      intro object answered
      subst answered
      have honest := served.honest_of_not_fails (by simp [Fails])
      have answer : Except.ok object = (before.create asked).1 := congrArg Prod.fst honest
      unfold Cluster.create at answer
      split at answer
      · cases answer
      · cases answer
        rfl
  | update kind asked =>
      intro object answered
      subst answered
      obtain ⟨named, spec, _⟩ := served.reply_of_update
      exact ⟨named, spec⟩
  | updateStatus kind asked =>
      intro object answered
      subst answered
      exact served.reply_of_updateStatus.1
  | listPipelines | delete | kafkaConnect | kafkaPartitionCount | kafkaListTopics | s3Connect
  | s3ListPrefixes | now | rangeOver => trivial

/-- Time has passed: whatever is new carries a resource version that was not
handed out before. -/
structure Evolves (before after : Cluster) : Prop where
  clock : before.clock ≤ after.clock
  fresh : ∀ (kind : Kind) name (object : Object kind), after.find kind name = some object →
    before.find kind name = some object ∨ before.clock < object.metadata.resourceVersion

theorem Evolves.refl (cluster : Cluster) : Evolves cluster cluster :=
  ⟨Nat.le_refl _, fun _ _ _ found => .inl found⟩

theorem Written.evolves {name : String} (written : Written before kind name after) :
    Evolves before after := by
  cases written with
  | unchanged => exact .refl before
  | stored object named =>
      refine ⟨Nat.le_succ _, ?_⟩
      intro other found current present
      by_cases target : (other, found) = (kind, object.name)
      · obtain ⟨rfl, rfl⟩ := Prod.mk.inj target
        rw [Cluster.find_commit_same, Option.some.injEq] at present
        subst present
        exact .inr (Nat.lt_succ_self _)
      · rw [before.find_commit_of_ne object target] at present
        exact .inl present
  | removed =>
      refine ⟨Nat.le_succ _, ?_⟩
      intro other found current present
      by_cases target : (other, found) = (kind, name)
      · obtain ⟨rfl, rfl⟩ := Prod.mk.inj target
        simp at present
      · rw [before.find_remove_of_ne target] at present
        exact .inl present

theorem Serves.evolves (served : Serves faulty before op reply after) :
    Evolves before after := by
  obtain rfl | ⟨kind, target, _, written⟩ := served.written
  · exact .refl _
  · exact written.evolves

/-- The object has been read: a stored object of its name and version is the
object itself. -/
structure Seen (cluster : Cluster) (object : Object kind) : Prop where
  old : object.metadata.resourceVersion ≤ cluster.clock
  unique : ∀ current, cluster.find kind object.name = some current →
    current.metadata.resourceVersion = object.metadata.resourceVersion → current = object

theorem Cluster.seen_of_find {cluster : Cluster} {name : String} {object : Object kind}
    (found : cluster.find kind name = some object) : Seen cluster object := by
  refine ⟨version_le_clock found, ?_⟩
  intro current present _
  rw [name_of_find found, found, Option.some.injEq] at present
  exact present.symm

/-- Having been read survives interference. -/
theorem Seen.evolves {object : Object kind} (seen : Seen before object)
    (evolved : Evolves before after) : Seen after object := by
  refine ⟨Nat.le_trans seen.old evolved.clock, ?_⟩
  intro current present sameVersion
  obtain earlier | newer := evolved.fresh kind object.name current present
  · exact seen.unique current earlier sameVersion
  · have old := seen.old
    omega

section Storing

variable {asked object : Object kind}

/-- An accepted update that keeps finalizers stores what it returns. -/
theorem find_of_update
    (served : Serves faulty before (.update kind asked) (.ok object) after)
    (held : asked.metadata.finalizers ≠ []) :
    after.find kind asked.name = some object ∧
      ∃ stored, before.find kind asked.name = some stored ∧
        object.metadata.generation = (Cluster.updated stored asked).metadata.generation ∧
        object.status = stored.status ∧ object.metadata.deleting = stored.metadata.deleting ∧
        object.metadata.finalizers = asked.metadata.finalizers ∧
        object.metadata.annotations = asked.metadata.annotations := by
  obtain ⟨stored, found, _, replaces⟩ := served.replaces_of_update
  have named : stored.name = asked.name := Cluster.name_of_find found
  rw [← named] at found ⊢
  obtain present | ⟨_, _, emptied, _⟩ := replaces.find found rfl
  · obtain ⟨version, rfl⟩ := replaces.returns
    exact ⟨present, stored, found, rfl, rfl, rfl, rfl, rfl⟩
  · exact absurd emptied held

/-- An accepted status update stores what it returns, and nothing if the status is
there already. -/
theorem find_of_updateStatus
    (served : Serves faulty before (.updateStatus kind asked) (.ok object) after) :
    after.find kind asked.name = some object ∧
      ∃ stored, before.find kind asked.name = some stored ∧
        (stored.status = asked.status ∧ object = stored ∨
          stored.status ≠ asked.status ∧
            object = before.stamped { stored with status := asked.status }) := by
  obtain ⟨stored, found, replaces⟩ := served.replaces_of_updateStatus
  have named : stored.name = asked.name := Cluster.name_of_find found
  rw [← named] at found ⊢
  obtain present | ⟨_, held, emptied, _⟩ := replaces.find found rfl
  · refine ⟨present, stored, found, ?_⟩
    cases replaces with
    | removed _ held emptied => exact absurd emptied held
    | kept same => exact .inl ⟨(congrArg Object.status same).symm, rfl⟩
    | committed different => exact .inr ⟨fun same => different (by rw [← same]), rfl⟩
  · exact absurd emptied held

theorem status_of_updateStatus
    (served : Serves faulty before (.updateStatus kind asked) (.ok object) after) :
    object.status = asked.status := by
  obtain ⟨stored, _, replaces⟩ := served.replaces_of_updateStatus
  obtain ⟨version, rfl⟩ := replaces.returns
  rfl

/-- A write of the current version is accepted. -/
theorem accepted_of_overwrite {stored : Object kind} {successor : Object kind → Object kind}
    {reply : Except ApiError (Object kind)} (found : before.find kind asked.name = some stored)
    (fresh : asked.metadata.resourceVersion = stored.metadata.resourceVersion)
    (effect : (reply, after) = before.overwrite asked successor) :
    ∃ object, reply = .ok object := by
  simp only [Cluster.overwrite, found, fresh, ne_eq, not_true_eq_false, if_false] at effect
  obtain ⟨returned, _, same, _⟩ := before.replaces stored (successor stored)
  exact ⟨returned, congrArg Prod.fst (effect.trans same)⟩

theorem accepted_of_update {stored : Object kind} {reply : Reply (.update kind asked)}
    (served : Reliable before (.update kind asked) reply after)
    (found : before.find kind asked.name = some stored)
    (fresh : asked.metadata.resourceVersion = stored.metadata.resourceVersion) :
    ∃ object, reply = .ok object := by
  have effect : (reply, after) = before.update asked := honest_of_reliable served
  exact accepted_of_overwrite found fresh effect

theorem accepted_of_updateStatus {stored : Object kind} {reply : Reply (.updateStatus kind asked)}
    (served : Reliable before (.updateStatus kind asked) reply after)
    (found : before.find kind asked.name = some stored)
    (fresh : asked.metadata.resourceVersion = stored.metadata.resourceVersion) :
    ∃ object, reply = .ok object := by
  have effect : (reply, after) = before.updateStatus asked := honest_of_reliable served
  exact accepted_of_overwrite found fresh effect

end Storing

/-- The object that an operation reads or writes. -/
def Op.subject : Op → Option (Kind × String)
  | .get kind name => some (kind, name)
  | op => op.target

/-- The answer depends on the subject, on the brokers, or on nothing in the cluster. -/
def Op.Local : Op → Prop
  | .listPipelines _ | .s3Connect _ | .s3ListPrefixes _ _ _ => False
  | _ => True

theorem Cluster.find_commit_ne (cluster : Cluster) (object : Object kind) :
    (cluster.commit object).find kind object.name ≠ cluster.find kind object.name := by
  intro same
  have old := cluster.version_le_clock (same.symm.trans (cluster.find_commit_same object))
  exact absurd old (Nat.not_succ_le_self _)

/-- A replacement without an effect was by what is stored. -/
theorem Replaces.candidate_eq {stored candidate returned : Object kind}
    (replaces : Replaces before stored candidate returned after)
    (found : before.find kind stored.name = some stored) (unchanged : after = before) :
    candidate = stored := by
  cases replaces with
  | removed =>
      rw [← unchanged, Cluster.find_remove_same] at found
      cases found
  | kept same => exact same
  | committed =>
      apply (before.find_commit_ne candidate _).elim
      rw [unchanged]

/-- An accepted update without an effect asked for what is stored. -/
theorem updated_of_unchanged {stored asked object : Object kind}
    (served : Serves faulty before (.update kind asked) (.ok object) before)
    (found : before.find kind asked.name = some stored) :
    Cluster.updated stored asked = stored := by
  obtain ⟨present, foundPresent, _, replaces⟩ := served.replaces_of_update
  obtain rfl := Option.some.inj (foundPresent.symm.trans found)
  rw [← Cluster.name_of_find found] at found
  exact replaces.candidate_eq found rfl

theorem replay_of_create {object : Object kind} {reply : Except ApiError (Object kind)}
    {other : Cluster} (looks : other.find kind object.name = before.find kind object.name)
    (unchanged : after.find kind object.name = before.find kind object.name)
    (effect : (reply, after) = before.create object) : (reply, other) = other.create object := by
  unfold Cluster.create at effect ⊢
  rw [looks]
  cases found : before.find kind object.name with
  | none =>
      rw [found] at effect
      rw [(Prod.mk.inj effect).2] at unchanged
      exact (before.find_commit_ne (before.newborn object) unchanged).elim
  | some stored =>
      rw [found] at effect
      rw [(Prod.mk.inj effect).1]

/-- A successor that changes nothing is the stored object, in any cluster. -/
theorem replay_of_replace {stored candidate : Object kind}
    {reply : Except ApiError (Object kind)} (found : before.find kind stored.name = some stored)
    (named : candidate.name = stored.name)
    (unchanged : after.find kind stored.name = before.find kind stored.name)
    (effect : (reply, after) = before.replace stored candidate) (other : Cluster) :
    (reply, other) = other.replace stored candidate := by
  unfold Cluster.replace at effect ⊢
  split at effect
  next =>
    rw [(Prod.mk.inj effect).2, Cluster.find_remove_same, found] at unchanged
    cases unchanged
  next stays =>
    rw [if_neg stays]
    split at effect
    next same => rw [if_pos same, (Prod.mk.inj effect).1]
    next =>
      rw [(Prod.mk.inj effect).2, ← named] at unchanged
      exact (before.find_commit_ne candidate unchanged).elim

theorem replay_of_overwrite {asked : Object kind} {successor : Object kind → Object kind}
    {reply : Except ApiError (Object kind)} {other : Cluster}
    (named : ∀ stored, (successor stored).name = stored.name)
    (looks : other.find kind asked.name = before.find kind asked.name)
    (unchanged : after.find kind asked.name = before.find kind asked.name)
    (effect : (reply, after) = before.overwrite asked successor) :
    (reply, other) = other.overwrite asked successor := by
  unfold Cluster.overwrite at effect ⊢
  rw [looks]
  cases found : before.find kind asked.name with
  | none =>
      rw [found] at effect
      rw [(Prod.mk.inj effect).1]
  | some stored =>
      rw [found] at effect
      have target := Cluster.name_of_find found
      rw [← target] at found unchanged
      dsimp only at effect ⊢
      split at effect
      next stale => rw [if_pos stale, (Prod.mk.inj effect).1]
      next fresh =>
        rw [if_neg fresh]
        exact replay_of_replace found (named stored) unchanged effect other

theorem replay_of_delete {name : String} {reply : Except ApiError Unit} {other : Cluster}
    (looks : other.find kind name = before.find kind name)
    (unchanged : after.find kind name = before.find kind name)
    (effect : (reply, after) = before.delete kind name) :
    (reply, other) = other.delete kind name := by
  unfold Cluster.delete at effect ⊢
  rw [looks]
  cases found : before.find kind name with
  | none =>
      rw [found] at effect
      rw [(Prod.mk.inj effect).1]
  | some stored =>
      rw [found] at effect
      dsimp only at effect ⊢
      split at effect
      next =>
        rw [(Prod.mk.inj effect).2, Cluster.find_remove_same, found] at unchanged
        cases unchanged
      next held =>
        rw [if_neg held]
        split at effect
        next deleting => rw [if_pos deleting, (Prod.mk.inj effect).1]
        next =>
          rw [(Prod.mk.inj effect).2, ← Cluster.name_of_find found] at unchanged
          exact (before.find_commit_ne (Cluster.marked stored) unchanged).elim

theorem Serves.replay {other : Cluster} (served : Serves faulty before op reply after)
    (isLocal : op.Local)
    (same : ∀ kind name, op.subject = some (kind, name) →
      other.find kind name = before.find kind name ∧
        after.find kind name = before.find kind name)
    (kafka : other.kafka = before.kafka) : Serves faulty other op reply other := by
  cases served with
  | failed faults fails => exact .failed faults fails
  | lost faults fails _ => exact .failed faults fails
  | honest honest =>
      refine .honest ?_
      cases op with
      | get kind name =>
          obtain ⟨rfl, rfl⟩ := honest
          exact ⟨by simp only [Cluster.read, (same kind name rfl).1], rfl⟩
      | create kind object =>
          obtain ⟨looks, unchanged⟩ := same kind object.name rfl
          exact replay_of_create looks unchanged honest
      | update kind object =>
          obtain ⟨looks, unchanged⟩ := same kind object.name rfl
          exact replay_of_overwrite (fun _ => rfl) looks unchanged honest
      | updateStatus kind object =>
          obtain ⟨looks, unchanged⟩ := same kind object.name rfl
          exact replay_of_overwrite (fun _ => rfl) looks unchanged honest
      | delete kind name =>
          obtain ⟨looks, unchanged⟩ := same kind name rfl
          exact replay_of_delete looks unchanged honest
      | kafkaConnect | kafkaPartitionCount | kafkaListTopics =>
          obtain ⟨rfl, rfl⟩ := honest
          simp only [Honest, kafka, and_self]
      | rangeOver | now => exact rfl
      | listPipelines | s3Connect | s3ListPrefixes => exact isLocal.elim

end DataPrepperOperator.Api
