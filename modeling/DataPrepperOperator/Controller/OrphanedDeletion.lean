import DataPrepperOperator.Controller.Orphaning

/-!
# Deleting a discovery that lets its children go

A discovery with the orphan policy keeps its finalizer until no pipeline carries its
label.  The loop over the children may stop anywhere and starts again from a new list.
What holds throughout is stated against the state in which deletion began: a child of
then is as it was, or it has been let go.
-/

namespace DataPrepperOperator.Controller.SourceDiscovery

open ServerProgram DataPrepperOperator.Api Relation

/-- A discovery with the orphan policy, and the state in which its deletion began. -/
structure Deletion where
  name : String
  start : Cluster
  discovery : DataPrepperSourceDiscovery
  stored : start.find .sourceDiscovery name = some discovery
  deleting : discovery.metadata.deleting = true
  finalizer : discoveryFinalizerName ∈ discovery.metadata.finalizers
  policy : discoveryCleanupPolicy discovery = .orphan

namespace Deletion

/-- The pipeline is neither let go nor deleted. -/
structure Untouched (original current : DataPrepperPipeline) : Prop where
  labels : current.metadata.labels = original.metadata.labels
  owners : current.metadata.ownerReferences = original.metadata.ownerReferences
  spec : current.spec = original.spec
  deleting : current.metadata.deleting = original.metadata.deleting

/-- The pipeline has lost its label and its references to the owner, is marked as
orphaned, and is otherwise as it was. -/
structure Freed (owner : String) (original current : DataPrepperPipeline) : Prop where
  label : current.metadata.labels.lookup discoveryLabelKey = none
  mark : MarkedOrphaned current
  owners : current.metadata.ownerReferences =
    original.metadata.ownerReferences.filter fun reference => reference.uid ≠ owner
  spec : current.spec = original.spec
  deleting : current.metadata.deleting = original.metadata.deleting

def NoneLabelled (name : String) (cluster : Cluster) : Prop :=
  ∀ child pipeline, cluster.find .pipeline child = some pipeline → ¬Labelled name pipeline

/-- Nobody adds the label. -/
def Shrinks (name : String) (before after : Cluster) : Prop :=
  ∀ child later, after.find .pipeline child = some later → Labelled name later →
    ∃ earlier, before.find .pipeline child = some earlier ∧ Labelled name earlier

/-- The discovery is stored with its finalizer. -/
def Holds (name : String) (cluster : Cluster) : Prop :=
  ∃ discovery, cluster.find .sourceDiscovery name = some discovery ∧
    discoveryFinalizerName ∈ discovery.metadata.finalizers

theorem Untouched.refl (pipeline : DataPrepperPipeline) : Untouched pipeline pipeline :=
  ⟨rfl, rfl, rfl, rfl⟩

theorem Untouched.trans {first second third : DataPrepperPipeline}
    (one : Untouched first second) (other : Untouched second third) : Untouched first third :=
  ⟨other.labels.trans one.labels, other.owners.trans one.owners, other.spec.trans one.spec,
    other.deleting.trans one.deleting⟩

theorem Freed.untouched {owner : String} {original current later : DataPrepperPipeline}
    (freed : Freed owner original current) (same : Untouched current later) :
    Freed owner original later where
  label := by rw [same.labels, freed.label]
  mark := by rw [MarkedOrphaned, same.labels, freed.mark]
  owners := by rw [same.owners, freed.owners]
  spec := by rw [same.spec, freed.spec]
  deleting := by rw [same.deleting, freed.deleting]

theorem Freed.not_labelled {owner name : String} {original current : DataPrepperPipeline}
    (freed : Freed owner original current) : ¬Labelled name current := by
  intro labelled
  rw [Labelled, freed.label] at labelled
  cases labelled

theorem Shrinks.refl (name : String) (cluster : Cluster) : Shrinks name cluster cluster :=
  fun _ later present labelled => ⟨later, present, labelled⟩

theorem NoneLabelled.shrinks {name : String} {before after : Cluster}
    (none : NoneLabelled name before) (shrinks : Shrinks name before after) :
    NoneLabelled name after := by
  intro child later present labelled
  obtain ⟨earlier, found, wasLabelled⟩ := shrinks child later present labelled
  exact none child earlier found wasLabelled

section

variable (deletion : Deletion)

/-- A pipeline that carried the label when deletion began. -/
def WasChild (child : String) (original : DataPrepperPipeline) : Prop :=
  deletion.start.find .pipeline child = some original ∧ Labelled deletion.name original

def Unharmed (original current : DataPrepperPipeline) : Prop :=
  Untouched original current ∨ Freed deletion.discovery.metadata.uid original current

/-- A later version of the discovery. -/
structure Dying (current : DataPrepperSourceDiscovery) : Prop where
  uid : current.metadata.uid = deletion.discovery.metadata.uid
  deleting : current.metadata.deleting = true
  policy : discoveryCleanupPolicy current = .orphan

/-- All children have been let go. -/
structure Released (cluster : Cluster) : Prop where
  unlabelled : NoneLabelled deletion.name cluster
  freed : ∀ child original, deletion.WasChild child original →
    ∃ current, cluster.find .pipeline child = some current ∧
      Freed deletion.discovery.metadata.uid original current

/-- What holds until the discovery is gone, and after. -/
structure Underway (cluster : Cluster) : Prop where
  children : ∀ child original, deletion.WasChild child original →
    ∃ current, cluster.find .pipeline child = some current ∧ deletion.Unharmed original current
  labelled : Shrinks deletion.name deletion.start cluster
  dying : ∀ current, cluster.find .sourceDiscovery deletion.name = some current →
    deletion.Dying current
  held : Holds deletion.name cluster ∨ NoneLabelled deletion.name cluster

end

variable {deletion : Deletion} {before after : Cluster}

theorem Unharmed.untouched {original current later : DataPrepperPipeline}
    (unharmed : deletion.Unharmed original current) (same : Untouched current later) :
    deletion.Unharmed original later :=
  unharmed.imp (·.trans same) (·.untouched same)

theorem underway_start (deletion : Deletion) : deletion.Underway deletion.start where
  children _ original was := ⟨original, was.1, .inl (.refl original)⟩
  labelled := .refl _ _
  dying current found := by
    rw [deletion.stored, Option.some.injEq] at found
    subst found
    exact ⟨rfl, deletion.deleting, deletion.policy⟩
  held := .inl ⟨deletion.discovery, deletion.stored, deletion.finalizer⟩

/-- Without the label a child has been let go. -/
theorem Underway.released (underway : deletion.Underway before)
    (none : NoneLabelled deletion.name before) : deletion.Released before := by
  refine ⟨none, ?_⟩
  intro child original was
  obtain ⟨current, found, same | freed⟩ := underway.children child original was
  · have labelled : Labelled deletion.name current := by
      rw [Labelled, same.labels]
      exact was.2
    exact absurd labelled (none child current found)
  · exact ⟨current, found, freed⟩

section

variable (deletion : Deletion)

structure Guarantee (before after : Cluster) : Prop where
  evolves : Evolves before after
  shrinks : Shrinks deletion.name before after
  keeps : deletion.Underway before → deletion.Underway after
  removal : Holds deletion.name before → ¬Holds deletion.name after →
    NoneLabelled deletion.name before

structure Rely (before after : Cluster) : Prop where
  evolves : Evolves before after
  shrinks : Shrinks deletion.name before after
  underway : deletion.Underway after

end

theorem Guarantee.refl (cluster : Cluster) : deletion.Guarantee cluster cluster where
  evolves := .refl cluster
  shrinks := .refl _ cluster
  keeps := id
  removal holds gone := absurd holds gone

/-- A step that leaves the discovery alone is judged by the children. -/
theorem underway_of_children (same : after.find .sourceDiscovery deletion.name =
      before.find .sourceDiscovery deletion.name)
    (shrinks : Shrinks deletion.name before after) (underway : deletion.Underway before)
    (children : ∀ child original current, deletion.WasChild child original →
      before.find .pipeline child = some current → deletion.Unharmed original current →
      ∃ later, after.find .pipeline child = some later ∧ deletion.Unharmed original later) :
    deletion.Underway after where
  children child original was := by
    obtain ⟨current, found, unharmed⟩ := underway.children child original was
    exact children child original current was found unharmed
  labelled child later present labelled := by
    obtain ⟨earlier, found, wasLabelled⟩ := shrinks child later present labelled
    exact underway.labelled child earlier found wasLabelled
  dying := by
    rw [same]
    exact underway.dying
  held := by
    rw [Holds, same]
    exact underway.held.imp id (·.shrinks shrinks)

section Orphan

variable {discovery : DataPrepperSourceDiscovery} {item : DataPrepperPipeline}
  {reply : Reply (.update .pipeline (orphaned discovery item))}

/-- The update is refused, or it is the listed version that is let go: its finalizers
stay, so it is not removed. -/
theorem orphan_cases (seen : Seen before item)
    (served : Unreliable before (.update .pipeline (orphaned discovery item)) reply after) :
    after = before ∨ before.find .pipeline item.name = some item ∧
      after = before.commit (Cluster.updated item (orphaned discovery item)) := by
  obtain same | ⟨stored, found, version, effect⟩ := served.update_cases
  · exact .inl same
  · obtain rfl : stored = item := seen.unique stored found version
    obtain committed | ⟨held, emptied, _⟩ := effect
    · exact .inr ⟨found, committed⟩
    · exact absurd emptied held

theorem freed_updated {original : DataPrepperPipeline} (dying : deletion.Dying discovery)
    (same : Untouched original item) :
    Freed deletion.discovery.metadata.uid original
      (before.stamped (Cluster.updated item (orphaned discovery item))) where
  label := lookup_orphaned discovery item
  mark := Finmap.lookup_insert _
  owners := by
    rw [← dying.uid, ← same.owners]
    rfl
  spec := same.spec
  deleting := same.deleting

theorem guarantee_orphan (dying : deletion.Dying discovery) (seen : Seen before item)
    (labelled : Labelled deletion.name item)
    (served : Unreliable before (.update .pipeline (orphaned discovery item)) reply after) :
    deletion.Guarantee before after := by
  obtain rfl | ⟨found, rfl⟩ := orphan_cases seen served
  · exact .refl _
  have discoveryKept : ∀ name, (before.commit (Cluster.updated item
      (orphaned discovery item))).find .sourceDiscovery name =
        before.find .sourceDiscovery name :=
    fun name => before.find_commit_of_ne _ (by simp)
  have elsewhere : ∀ child, child ≠ item.name → (before.commit (Cluster.updated item
      (orphaned discovery item))).find .pipeline child = before.find .pipeline child :=
    fun child different => before.find_commit_of_ne _ fun same => different (Prod.mk.inj same).2
  have here : (before.commit (Cluster.updated item (orphaned discovery item))).find .pipeline
      item.name = some (before.stamped (Cluster.updated item (orphaned discovery item))) :=
    Cluster.find_commit_same _ _
  have shrinks : Shrinks deletion.name before
      (before.commit (Cluster.updated item (orphaned discovery item))) := by
    intro child later present stillLabelled
    by_cases same : child = item.name
    · exact ⟨item, same ▸ found, labelled⟩
    · rw [elsewhere child same] at present
      exact ⟨later, present, stillLabelled⟩
  refine ⟨served.evolves, shrinks, fun underway => ?_, fun holds gone => ?_⟩
  · apply underway_of_children (discoveryKept _) shrinks underway
    intro child original current was stored unharmed
    by_cases same : child = item.name
    · subst same
      rw [found, Option.some.injEq] at stored
      subst stored
      refine ⟨_, here, .inr (freed_updated dying ?_)⟩
      exact unharmed.resolve_right fun freed => freed.not_labelled labelled
    · exact ⟨current, by rw [elsewhere child same, stored], unharmed⟩
  · rw [Holds, discoveryKept] at gone
    exact absurd holds gone

end Orphan

section Finalizer

variable {discovery : DataPrepperSourceDiscovery}

/-- The finalizer goes when nothing is labelled. -/
theorem guarantee_finalizer {finalizers : List String}
    {reply : Reply (.update .sourceDiscovery { discovery with
      metadata := { discovery.metadata with finalizers := finalizers } })}
    (dying : deletion.Dying discovery) (none : NoneLabelled deletion.name before)
    (served : Unreliable before (.update .sourceDiscovery { discovery with
      metadata := { discovery.metadata with finalizers := finalizers } }) reply after) :
    deletion.Guarantee before after := by
  have pipelines : ∀ child, after.find .pipeline child = before.find .pipeline child :=
    fun child => served.frame (by simp [Op.target])
  have shrinks : Shrinks deletion.name before after := by
    intro child later present labelled
    exact ⟨later, pipelines child ▸ present, labelled⟩
  refine ⟨served.evolves, shrinks, fun underway => ?_, fun _ _ => none⟩
  refine ⟨?_, ?_, ?_, .inr (none.shrinks shrinks)⟩
  · intro child original was
    rw [pipelines]
    exact underway.children child original was
  · intro child later present labelled
    rw [pipelines] at present
    exact underway.labelled child later present labelled
  · intro current present
    cases served.storedBy present with
    | kept same => exact underway.dying current same
    | @updated _ stored _ found =>
        have previous := underway.dying stored found
        exact ⟨previous.uid, previous.deleting, dying.policy⟩

end Finalizer

section Programs

variable {discovery : DataPrepperSourceDiscovery}

/-- The items were listed, and no other pipeline carries the label. -/
structure Working (deletion : Deletion) (items : List DataPrepperPipeline) (cluster : Cluster) :
    Prop where
  underway : deletion.Underway cluster
  seen : ∀ item ∈ items, Seen cluster item
  complete : ∀ child pipeline, cluster.find .pipeline child = some pipeline →
    Labelled deletion.name pipeline → child ∈ items.map Object.name

theorem Working.step {items : List DataPrepperPipeline} (working : deletion.Working items before)
    (evolves : Evolves before after) (shrinks : Shrinks deletion.name before after)
    (underway : deletion.Underway after) : deletion.Working items after where
  underway := underway
  seen item member := (working.seen item member).evolves evolves
  complete child later present labelled := by
    obtain ⟨earlier, found, wasLabelled⟩ := shrinks child later present labelled
    exact working.complete child earlier found wasLabelled

theorem Working.stable {items : List DataPrepperPipeline} (before after : Cluster)
    (interference : deletion.Rely before after) (working : deletion.Working items before) :
    deletion.Working items after :=
  working.step interference.evolves interference.shrinks interference.underway

theorem Working.guaranteed {items : List DataPrepperPipeline}
    (working : deletion.Working items before) (guarantee : deletion.Guarantee before after) :
    deletion.Working items after :=
  working.step guarantee.evolves guarantee.shrinks (guarantee.keeps working.underway)

theorem underway_stable (before after : Cluster) (interference : deletion.Rely before after)
    (_ : deletion.Underway before) : deletion.Underway after :=
  interference.underway

/-- Every call of the action keeps the guarantee. -/
abbrev Upheld {Result : Type} (deletion : Deletion) (fact : Cluster → Prop)
    (holds : Result → Cluster → Prop) (action : Reconciler Result) : Prop :=
  Upholds Unreliable deletion.Rely deletion.Guarantee fact holds action

theorem upheld_get :
    deletion.Upheld deletion.Underway
      (fun reply final => deletion.Underway final ∧
        OnSuccess (fun found => deletion.Dying found ∧ found.name = deletion.name) reply)
      (Fallible.lift (Client.get .sourceDiscovery deletion.name)) := by
  apply Upholds.lift
  intro state underway
  apply Ensures.request underway_stable underway
  intro before reply after underway served
  obtain rfl := served.unchanged rfl
  refine ⟨.refl _, underway, ?_⟩
  cases reply with
  | error error => trivial
  | ok found =>
      have stored := served.find_of_get.1
      exact ⟨underway.dying found stored, Cluster.name_of_find stored⟩

theorem upheld_list (named : discovery.name = deletion.name) :
    deletion.Upheld deletion.Underway
      (fun items final => deletion.Working items final ∧
        ∀ item ∈ items, Labelled deletion.name item)
      (callApi (Client.listPipelines (childSelector discovery))) := by
  apply upholds_callApi
  intro state underway
  apply Ensures.request underway_stable underway
  intro before reply after underway served
  obtain rfl := served.unchanged rfl
  refine ⟨.refl _, ?_⟩
  cases reply with
  | error error => trivial
  | ok items =>
      have listed : ∀ pipeline, pipeline ∈ items ↔
          after.find .pipeline pipeline.name = some pipeline ∧
            Labelled deletion.name pipeline := by
        intro pipeline
        rw [← named]
        exact mem_listed served.perm_of_list.1
      refine ⟨⟨underway, ?_, ?_⟩, fun item member => ((listed item).mp member).2⟩
      · exact fun item member => Cluster.seen_of_find ((listed item).mp member).1
      · intro child pipeline found labelled
        obtain rfl : pipeline.name = child := Cluster.name_of_find found
        exact List.mem_map_of_mem ((listed pipeline).mpr ⟨found, labelled⟩)

/-- One child is let go. -/
theorem upheld_orphan (dying : deletion.Dying discovery) {item : DataPrepperPipeline}
    {rest : List DataPrepperPipeline} (labelled : Labelled deletion.name item) :
    deletion.Upheld (deletion.Working (item :: rest))
      (fun _ final => deletion.Working rest final) (orphan discovery item) := by
  refine Upholds.bind (upholds_wrapError (upholds_callApi ?_)) fun _ => .pure fun _ => id
  intro state working
  apply Ensures.request Working.stable working
  intro before reply after working served
  have guarantee := guarantee_orphan dying (working.seen item List.mem_cons_self) labelled served
  refine ⟨guarantee, ?_⟩
  cases reply with
  | error error => trivial
  | ok stored =>
      have later := working.guaranteed guarantee
      refine ⟨later.underway,
        fun other member => later.seen other (List.mem_cons_of_mem _ member), ?_⟩
      intro child pipeline present stillLabelled
      have remaining := later.complete child pipeline present stillLabelled
      rw [List.map_cons, List.mem_cons] at remaining
      refine remaining.resolve_left ?_
      rintro rfl
      have content := (hasContentOf_of_update served present).1
      rw [Labelled, content.labels, lookup_orphaned] at stillLabelled
      cases stillLabelled

theorem upheld_orphanAll (dying : deletion.Dying discovery) {items : List DataPrepperPipeline}
    (labelled : ∀ item ∈ items, Labelled deletion.name item) :
    deletion.Upheld (deletion.Working items)
      (fun _ final => deletion.Working [] final) (orphanAll discovery items) := by
  induction items with
  | nil => exact .pure fun _ => id
  | cons item rest ih =>
      apply Upholds.bind (upheld_orphan dying (labelled item List.mem_cons_self))
      intro _
      exact ih fun other member => labelled other (List.mem_cons_of_mem _ member)

theorem upheld_cleanupOnDeletion (dying : deletion.Dying discovery)
    (named : discovery.name = deletion.name) :
    deletion.Upheld deletion.Underway
      (fun _ final => deletion.Working [] final) (cleanupOnDeletion discovery) := by
  apply Upholds.bind_and (upholds_wrapError (upheld_list named))
  intro items labelled
  rw [dying.policy]
  exact upheld_orphanAll dying labelled

theorem upheld_finalize (dying : deletion.Dying discovery)
    (named : discovery.name = deletion.name) :
    deletion.Upheld deletion.Underway
      (fun _ _ => True) (finalize discovery) := by
  unfold finalize
  split
  · apply Upholds.bind (upholds_wrapError (upheld_cleanupOnDeletion dying named))
    intro _
    refine Upholds.bind (upholds_wrapError (upholds_callApi fun state working => ?_))
      fun _ => .pure fun _ => id
    apply Ensures.request Working.stable working
    intro before reply after working served
    have none : NoneLabelled deletion.name before := by
      intro child pipeline found labelled
      cases working.complete child pipeline found labelled
    exact ⟨guarantee_finalizer dying none served, onSuccess_true reply⟩
  · exact .pure fun _ _ => trivial

theorem upheld_reconcile (reconciler : DiscoveryReconciler) :
    deletion.Upheld deletion.Underway (fun _ _ => True)
      (reconcile reconciler deletion.name) := by
  apply Upholds.bind_and upheld_get
  intro reply known
  cases reply with
  | error error =>
      cases error with
      | notFound missingKind missing => exact .pure fun _ _ => trivial
      | alreadyExists | conflict | refused => exact Upholds.throw _
  | ok discovery =>
      obtain ⟨dying, named⟩ := known
      change deletion.Upheld _ _ (if discovery.metadata.deleting = true then _ else _)
      rw [if_pos dying.deleting]
      exact upheld_finalize dying named

end Programs

section

variable (deletion : Deletion)

/-- Others leave the children alone, as far as labels, owners, spec and deletion go, do
not add the label, and neither take the finalizer away nor create the discovery anew. -/
structure Leaves (before after : Cluster) : Prop where
  evolves : Evolves before after
  children : ∀ child original, deletion.WasChild child original →
    ∀ current, before.find .pipeline child = some current →
      ∃ later, after.find .pipeline child = some later ∧ Untouched current later
  labels : Shrinks deletion.name before after
  discovery : ∀ current, after.find .sourceDiscovery deletion.name = some current →
    deletion.Dying current
  finalizer : Holds deletion.name before ↔ Holds deletion.name after

/-- The collector deletes a pipeline that refers to the discovery, once the discovery is
gone. -/
def Collects (before after : Cluster) : Prop :=
  (∀ current, before.find .sourceDiscovery deletion.name = some current →
      current.metadata.uid ≠ deletion.discovery.metadata.uid) ∧
    ∃ child pipeline reference, before.find .pipeline child = some pipeline ∧
      reference ∈ pipeline.metadata.ownerReferences ∧
      reference.uid = deletion.discovery.metadata.uid ∧
      after = (before.delete .pipeline child).2

def Outside (before after : Cluster) : Prop :=
  deletion.Leaves before after ∨ deletion.Collects before after

/-- Any number of workers reconcile the discovery, each as often as it likes. -/
def Works (reconciler : DiscoveryReconciler) (_worker : Nat)
    (program : Program Op Reply (Except String ReconcileResult)) : Prop :=
  program = (reconcile reconciler deletion.name).run

end

abbrev Workers := Pool Nat Cluster Op Reply (Except String ReconcileResult)

theorem guarantee_leaves (leaves : deletion.Leaves before after) :
    deletion.Guarantee before after where
  evolves := leaves.evolves
  shrinks := leaves.labels
  keeps underway :=
    { children := by
        intro child original was
        obtain ⟨current, found, unharmed⟩ := underway.children child original was
        obtain ⟨later, present, same⟩ := leaves.children child original was current found
        exact ⟨later, present, unharmed.untouched same⟩
      labelled := by
        intro child later present labelled
        obtain ⟨earlier, found, wasLabelled⟩ := leaves.labels child later present labelled
        exact underway.labelled child earlier found wasLabelled
      dying := leaves.discovery
      held := underway.held.imp leaves.finalizer.mp (·.shrinks leaves.labels) }
  removal holds gone := absurd (leaves.finalizer.mp holds) gone

/-- What the collector takes is no child: without the discovery they are all let go. -/
theorem guarantee_collects (underway : deletion.Underway before)
    (collects : deletion.Collects before after) : deletion.Guarantee before after := by
  obtain ⟨gone, target, pipeline, reference, found, member, refers, rfl⟩ := collects
  have served : Unreliable before (.delete .pipeline target) (before.delete .pipeline target).1
      (before.delete .pipeline target).2 := .honest rfl
  have discoveryKept : (before.delete .pipeline target).2.find .sourceDiscovery deletion.name =
      before.find .sourceDiscovery deletion.name := served.frame (by simp [Op.target])
  have unlabelled : NoneLabelled deletion.name before := by
    refine underway.held.resolve_left ?_
    rintro ⟨current, stored, _⟩
    exact gone current stored (underway.dying current stored).uid
  have shrinks : Shrinks deletion.name before (before.delete .pipeline target).2 := by
    intro child later present labelled
    cases served.storedBy present with
    | kept earlier => exact ⟨later, earlier, labelled⟩
    | @marked stored earlier => exact ⟨stored, earlier, labelled⟩
  refine ⟨served.evolves, shrinks, fun underway => ?_, fun _ _ => unlabelled⟩
  apply underway_of_children discoveryKept shrinks underway
  intro child original current was stored unharmed
  have different : target ≠ child := by
    rintro rfl
    obtain ⟨freed, present, letGo⟩ := (underway.released unlabelled).freed target original was
    rw [found, Option.some.injEq] at present
    subst present
    rw [letGo.owners, List.mem_filter, decide_eq_true_iff] at member
    exact member.2 refers
  exact ⟨current, by rw [served.frame (by simpa [Op.target] using different), stored], unharmed⟩

theorem guarantee_outside (underway : deletion.Underway before)
    (outside : deletion.Outside before after) : deletion.Guarantee before after :=
  outside.elim guarantee_leaves (guarantee_collects underway)

theorem deletion_protocol (deletion : Deletion) (reconciler : DiscoveryReconciler) :
    Pool.Protocol Unreliable (deletion.Works reconciler) deletion.Outside deletion.Underway
      (fun _ => deletion.Rely) (fun _ => deletion.Guarantee) where
  idle _ state := .refl state
  keeps _ _ _ underway guarantee := guarantee.keeps underway
  environmentKeeps _ _ underway outside := (guarantee_outside underway outside).keeps underway
  others _ _ _ _ _ underway guarantee :=
    ⟨guarantee.evolves, guarantee.shrinks, guarantee.keeps underway⟩
  environmentRelies _ _ _ underway outside :=
    have guarantee := guarantee_outside underway outside
    ⟨guarantee.evolves, guarantee.shrinks, guarantee.keeps underway⟩
  starts := by
    rintro worker program rfl state underway
    exact (upheld_reconcile reconciler state underway).weaken fun _ _ _ => trivial

/-- However often deletion reconciles fail and start again: the finalizer is removed only
when all children have been let go, they are let go whenever it is missing, and no child
is ever collected. -/
theorem finalizer_outlives_labels (deletion : Deletion) (reconciler : DiscoveryReconciler)
    {start pool : Workers} (idle : start.Idle) (begins : start.state = deletion.start)
    (run : Pool.Run Unreliable (deletion.Works reconciler) deletion.Outside start pool) :
    (∀ actor next, Pool.Step Unreliable (deletion.Works reconciler) deletion.Outside actor pool
      next → Holds deletion.name pool.state → ¬Holds deletion.name next.state →
      deletion.Released pool.state) ∧
    (¬Holds deletion.name pool.state → deletion.Released pool.state) ∧
    ∀ child original, deletion.WasChild child original →
      ∃ current, pool.state.find .pipeline child = some current ∧
        deletion.Unharmed original current := by
  have protocol := deletion_protocol deletion reconciler
  have initially : deletion.Underway start.state := begins ▸ underway_start deletion
  have underway : deletion.Underway pool.state :=
    (run.obeys protocol (idle.obeys initially)).1
  refine ⟨?_, fun gone => underway.released (underway.held.resolve_left gone), underway.children⟩
  intro actor next step holds gone
  apply underway.released
  cases actor with
  | client worker => exact (Pool.guaranteed protocol idle initially run step).removal holds gone
  | environment =>
      cases step with
      | environment outside => exact (guarantee_outside underway outside).removal holds gone

/-- A discovery with one child is deleted by its user. -/
def deletedDiscovery : Cluster :=
  ((afterCycle (withTopics ["logs-a"] beforeFirstCycle)).delete .sourceDiscovery "topics").2

def topicsDeletion : Deletion where
  name := "topics"
  start := deletedDiscovery
  discovery := (deletedDiscovery.find .sourceDiscovery "topics").get (by decide +kernel)
  stored := (Option.some_get _).symm
  deleting := by decide +kernel
  finalizer := by decide +kernel
  policy := by decide +kernel

/-- One reconcile lets the child go, and the discovery as well. -/
theorem finalizer_outlives_labels_of_topics :
    (∃ original, topicsDeletion.WasChild "topics-logs-a" original) ∧
      (afterCycle deletedDiscovery).find .sourceDiscovery "topics" = none ∧
      topicsDeletion.Released (afterCycle deletedDiscovery) := by
  have gone : (afterCycle deletedDiscovery).find .sourceDiscovery "topics" = none := by
    decide +kernel
  have child : (deletedDiscovery.find .pipeline "topics-logs-a").map
      (fun pipeline => decide (Labelled "topics" pipeline)) = some true := by
    decide +kernel
  obtain ⟨original, found, labelled⟩ := Option.map_eq_some_iff.mp child
  refine ⟨⟨original, found, of_decide_eq_true labelled⟩, gone, ?_⟩
  let program := (reconcile sampleDiscoveryReconciler "topics").run
  obtain ⟨trace, runs⟩ : ∃ trace, Runs Unreliable program deletedDiscovery trace _
      (afterCycle deletedDiscovery) := runs_execute program deletedDiscovery
  let resting : Workers := ⟨deletedDiscovery, fun _ => none⟩
  have run : Pool.Run Unreliable (topicsDeletion.Works sampleDiscoveryReconciler)
      topicsDeletion.Outside resting ⟨afterCycle deletedDiscovery, fun _ => none⟩ :=
    Pool.Run.complete runs (show resting.running 0 = none from rfl) rfl
  have idle : resting.Idle := fun _ => rfl
  obtain ⟨_, released, _⟩ := finalizer_outlives_labels topicsDeletion sampleDiscoveryReconciler
    idle rfl run
  apply released
  rintro ⟨current, present, _⟩
  cases gone.symm.trans present

end Deletion

end DataPrepperOperator.Controller.SourceDiscovery
