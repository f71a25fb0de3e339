import DataPrepperOperator.Controller.DiscoveryCycle

/-!
# What a cycle does to the children

The creation loop, the update batch and the cleanup loop each run one step after
another until one fails.  `reconcilePipelines` comes to writing some missing
children and then one batch of stale ones, and `cleanupOrphans` to cleaning up
labelled children outside the active names.
-/

namespace DataPrepperOperator.Controller.SourceDiscovery

open ServerProgram DataPrepperOperator.Api DataPrepperOperator.Discovery

variable {faulty : (op : Op) → Reply op → Prop}

/-- The pipeline carries the label of the discovery. -/
abbrev Labelled (discovery : String) (pipeline : DataPrepperPipeline) : Prop :=
  pipeline.metadata.labels.lookup discoveryLabelKey = some discovery

/-- The table holds the labelled pipelines of the cluster by name. -/
def Children (cluster : Cluster) (discovery : String) (existing : GoMap DataPrepperPipeline) :
    Prop :=
  ∀ name pipeline, existing.lookup name = some pipeline ↔
    cluster.find .pipeline name = some pipeline ∧ Labelled discovery pipeline

theorem mem_listed {cluster : Cluster} {discovery : String} {items : List DataPrepperPipeline}
    (listed : items.Perm (cluster.matching (.matchingLabels discoveryLabelKey discovery)))
    {pipeline : DataPrepperPipeline} :
    pipeline ∈ items ↔
      cluster.find .pipeline pipeline.name = some pipeline ∧ Labelled discovery pipeline := by
  rw [listed.mem_iff, Cluster.mem_matching]
  simp [Cluster.selects]

theorem nodup_listed {cluster : Cluster} {selector : Selector} {items : List DataPrepperPipeline}
    (listed : items.Perm (cluster.matching selector)) : (items.map Object.name).Nodup :=
  (listed.map _).nodup_iff.mpr (cluster.nodup_matching selector)

theorem lookup_foldl_insert {items : List DataPrepperPipeline} {table : GoMap DataPrepperPipeline}
    (nodup : (items.map Object.name).Nodup) {name : String} {pipeline : DataPrepperPipeline} :
    (items.foldl (fun table item => table.insert item.name item) table).lookup name =
        some pipeline ↔
      pipeline ∈ items ∧ pipeline.name = name ∨
        name ∉ items.map Object.name ∧ table.lookup name = some pipeline := by
  induction items generalizing table with
  | nil => simp
  | cons item rest ih =>
      obtain ⟨fresh, restNodup⟩ := List.nodup_cons.mp nodup
      rw [List.foldl_cons, ih restNodup, List.map_cons, List.mem_cons,
        List.mem_cons]
      by_cases same : name = item.name
      · subst same
        rw [Finmap.lookup_insert, Option.some.injEq]
        constructor
        · rintro (⟨member, sameName⟩ | ⟨_, rfl⟩)
          · exact absurd (sameName ▸ List.mem_map_of_mem member) fresh
          · exact .inl ⟨.inl rfl, rfl⟩
        · rintro (⟨rfl | member, sameName⟩ | ⟨absent, _⟩)
          · exact .inr ⟨fresh, rfl⟩
          · exact absurd (sameName ▸ List.mem_map_of_mem member) fresh
          · exact absurd (.inl rfl) absent
      · rw [Finmap.lookup_insert_of_ne _ same]
        constructor
        · rintro (⟨member, sameName⟩ | ⟨absent, found⟩)
          · exact .inl ⟨.inr member, sameName⟩
          · exact .inr ⟨fun present => present.elim same absent, found⟩
        · rintro (⟨rfl | member, sameName⟩ | ⟨absent, found⟩)
          · exact absurd sameName.symm same
          · exact .inl ⟨member, sameName⟩
          · exact .inr ⟨fun present => absent (.inr present), found⟩

theorem children_existingByName {cluster : Cluster} {discovery : String}
    {items : List DataPrepperPipeline}
    (listed : items.Perm (cluster.matching (.matchingLabels discoveryLabelKey discovery))) :
    Children cluster discovery (existingByName items) := by
  intro name pipeline
  unfold existingByName
  rw [lookup_foldl_insert (nodup_listed listed), Finmap.lookup_empty, mem_listed listed]
  constructor
  · rintro (⟨⟨found, labelled⟩, rfl⟩ | ⟨_, impossible⟩)
    · exact ⟨found, labelled⟩
    · cases impossible
  · rintro ⟨found, labelled⟩
    have named : pipeline.name = name := Cluster.name_of_find found
    exact .inl ⟨⟨by rwa [named], labelled⟩, named⟩

theorem Children.mem_iff {cluster : Cluster} {discovery : String}
    {existing : GoMap DataPrepperPipeline} (children : Children cluster discovery existing)
    {name : String} :
    name ∈ existing ↔
      ∃ pipeline, cluster.find .pipeline name = some pipeline ∧ Labelled discovery pipeline := by
  rw [← Finmap.lookup_isSome, Option.isSome_iff_exists]
  exact exists_congr fun pipeline => children name pipeline

theorem Children.length_sortedKeys {cluster : Cluster} {name : String}
    {existing : GoMap DataPrepperPipeline} (children : Children cluster name existing) :
    (GoMap.sortedKeys existing).length =
      (cluster.matching (.matchingLabels discoveryLabelKey name)).length := by
  rw [← List.length_map Object.name]
  apply List.Perm.length_eq
  apply (List.perm_ext_iff_of_nodup (GoMap.nodup_sortedKeys _) (cluster.nodup_matching _)).mpr
  intro found
  rw [GoMap.mem_sortedKeys, children.mem_iff, List.mem_map]
  constructor
  · rintro ⟨pipeline, present, labelled⟩
    have named : pipeline.name = found := Cluster.name_of_find present
    subst named
    exact ⟨pipeline, (mem_listed (.refl _)).mpr ⟨present, labelled⟩, rfl⟩
  · rintro ⟨pipeline, member, rfl⟩
    exact ⟨pipeline, (mem_listed (.refl _)).mp member⟩

/-- The loop that writes the given children in turn. -/
abbrev Writes (faulty : (op : Op) → Reply op → Prop) (discovery : DataPrepperSourceDiscovery) :
    List (String × Desired) → Cluster → List (Event Cluster Op Reply) → Bool → Cluster → Prop :=
  RunsEach (Serves faulty) (fun op => op.target = none) fun item =>
    writeChild discovery item.1 item.2

section Loops

variable {discovery : DataPrepperSourceDiscovery} {desired : GoMap Desired}
  {existing : GoMap DataPrepperPipeline} {state final : Cluster}
  {trace : List (Event Cluster Op Reply)}

/-- One round of a loop that writes children. -/
theorem writes_of_round {context name : String} {wanted : Desired}
    {rest : Reconciler Nat} {outcome : Except String Nat}
    (run : Runs (Serves faulty)
      (do wrapError context (writeChild discovery name wanted); rest).run
      state trace outcome final) :
    (outcome.isOk = false ∧ Writes faulty discovery [(name, wanted)] state trace false final) ∨
      ∃ first middle second, trace = first ++ second ∧
        Runs (Serves faulty) (writeChild discovery name wanted).run state first (.ok ()) middle ∧
        Runs (Serves faulty) rest.run middle second outcome final := by
  rcases runs_fallible_bind_iff.mp run with
    ⟨failure, rfl, failed⟩ | ⟨first, middle, _, second, joined, ran, continued⟩
  · obtain ⟨inner, ran, same⟩ := runs_of_wrapError failed
    cases inner with
    | ok result => cases same
    | error message => exact .inl ⟨rfl, .fail ran⟩
  · exact .inr ⟨first, middle, second, joined, runs_wrapError_ok ran, continued⟩

theorem runs_createMissing {creationLimit : Int} {order : List String} {created : Nat}
    {outcome : Except String Nat}
    (run : Runs (Serves faulty)
      (createMissing discovery desired existing creationLimit order created).run
      state trace outcome final) :
    ∃ written, Writes faulty discovery written state trace outcome.isOk final ∧
      (∀ item ∈ written, desired.lookup item.1 = some item.2 ∧ existing.lookup item.1 = none) ∧
      (written.map Prod.fst).Sublist order ∧
      (written ≠ [] → ((created + written.length : Nat) : Int) ≤ creationLimit) ∧
      ∀ count, outcome = .ok count → count = created + written.length ∧
        (count < creationLimit → ∀ name ∈ order, name ∈ desired →
          name ∈ existing ∨ name ∈ written.map Prod.fst) := by
  induction order generalizing created state trace with
  | nil =>
      obtain ⟨rfl, rfl, rfl⟩ := runs_pure_iff.mp run
      exact ⟨[], .stop _, by simp, by simp, by simp, by simp⟩
  | cons name rest ih =>
      unfold createMissing at run
      split at run
      · rename_i wanted absent found
        split at run
        · rename_i limited
          obtain ⟨written, writes, facts, ordered, short, counted⟩ := ih run
          refine ⟨written, writes, facts, ordered.cons name, short, ?_⟩
          intro count success
          obtain ⟨total, _⟩ := counted count success
          exact ⟨total, fun room => absurd room (by omega)⟩
        · rename_i room
          obtain ⟨failed, writes⟩ | ⟨first, middle, second, rfl, ran, continued⟩ :=
            writes_of_round run
          · rw [failed]
            refine ⟨_, writes, by simp [absent, found], by simp, fun _ => ?_, ?_⟩
            · rw [List.length_singleton]
              omega
            · rintro count rfl
              cases failed
          · obtain ⟨written, writes, facts, ordered, short, counted⟩ :=
              ih continued
            refine ⟨(name, wanted) :: written, .step ran writes,
              List.forall_mem_cons.mpr ⟨⟨found, absent⟩, facts⟩, ordered.cons_cons name, ?_, ?_⟩
            · intro _
              rw [List.length_cons]
              by_cases last : written = []
              · subst last
                simp only [List.length_nil]
                omega
              · have bounded := short last
                omega
            · intro count success
              obtain ⟨total, complete⟩ := counted count success
              refine ⟨by rw [total, List.length_cons]; omega, ?_⟩
              intro open_ other member wantedName
              obtain rfl | later := List.mem_cons.mp member
              · exact .inr List.mem_cons_self
              · exact (complete open_ other later wantedName).imp_right (List.mem_cons_of_mem _)
      · rename_i other
        obtain ⟨written, writes, facts, ordered, short, counted⟩ := ih run
        refine ⟨written, writes, facts, ordered.cons name, short, ?_⟩
        intro count success
        obtain ⟨total, complete⟩ := counted count success
        refine ⟨total, ?_⟩
        intro room found member wantedName
        obtain rfl | later := List.mem_cons.mp member
        · left
          by_contra missing
          obtain ⟨wanted, lookup⟩ := Finmap.mem_iff.mp wantedName
          exact other wanted (Finmap.lookup_eq_none.mpr missing) lookup
        · exact complete room found later wantedName

theorem runs_updateBatch {limit updated : Nat} {toUpdate : List String}
    {outcome : Except String Nat}
    (run : Runs (Serves faulty) (updateBatch discovery desired limit toUpdate updated).run
      state trace outcome final) :
    ∃ written, Writes faulty discovery written state trace outcome.isOk final ∧
      (∀ item ∈ written, desired.lookup item.1 = some item.2) ∧
      (written.map Prod.fst).Sublist toUpdate ∧
      written.length ≤ limit - updated ∧
      ∀ count, outcome = .ok count → count = updated + written.length ∧
        (written = [] → updated < limit → ∀ name ∈ toUpdate, name ∉ desired) := by
  induction toUpdate generalizing updated state trace with
  | nil =>
      obtain ⟨rfl, rfl, rfl⟩ := runs_pure_iff.mp run
      exact ⟨[], .stop _, by simp, by simp, by simp, by simp⟩
  | cons name rest ih =>
      unfold updateBatch at run
      split at run
      · rename_i full
        obtain ⟨rfl, rfl, rfl⟩ := runs_pure_iff.mp run
        refine ⟨[], .stop _, by simp, by simp, by simp, ?_⟩
        rintro count same
        cases same
        exact ⟨rfl, fun _ room => absurd room (not_lt.mpr full)⟩
      · rename_i room
        split at run
        · rename_i unwanted
          obtain ⟨written, writes, facts, ordered, short, counted⟩ := ih run
          refine ⟨written, writes, facts, ordered.cons name, short, ?_⟩
          intro count success
          obtain ⟨total, complete⟩ := counted count success
          refine ⟨total, ?_⟩
          intro empty open_ found member
          obtain rfl | later := List.mem_cons.mp member
          · exact Finmap.lookup_eq_none.mp unwanted
          · exact complete empty open_ found later
        · rename_i wanted found
          obtain ⟨failed, writes⟩ | ⟨first, middle, second, rfl, ran, continued⟩ :=
            writes_of_round run
          · rw [failed]
            refine ⟨_, writes, by simp [found], by simp, ?_, ?_⟩
            · rw [List.length_singleton]
              omega
            · rintro count rfl
              cases failed
          · obtain ⟨written, writes, facts, ordered, short, counted⟩ :=
              ih continued
            refine ⟨(name, wanted) :: written, .step ran writes,
              List.forall_mem_cons.mpr ⟨found, facts⟩, ordered.cons_cons name, ?_, ?_⟩
            · rw [List.length_cons]
              omega
            · intro count success
              obtain ⟨total, _⟩ := counted count success
              exact ⟨by rw [total, List.length_cons]; omega, by simp⟩

/-- What is written, by the children that were there: missing ones, and a batch of
stale ones that is empty while an updated one is unhealthy. -/
structure RolledOut (desired : GoMap Desired) (existing : GoMap DataPrepperPipeline)
    (completed : Bool) (created updated : List (String × Desired)) : Prop where
  missing : ∀ item ∈ created, desired.lookup item.1 = some item.2 ∧ existing.lookup item.1 = none
  stale : ∀ item ∈ updated,
    desired.lookup item.1 = some item.2 ∧ isStale desired existing item.1 = true
  batch : updated.length ≤ maxUpdatesPerCycle (GoMap.sortedKeys existing).length
  healthy : updated ≠ [] → ∀ name, isUnhealthy desired existing name = false
  noneMissing : completed = true → created = [] → ∀ name ∈ desired, name ∈ existing
  noneStale : completed = true → updated = [] →
    (∀ name, isStale desired existing name = false) ∨
      ∃ name, isUnhealthy desired existing name = true

/-- A rollout that did not get to the children. -/
theorem RolledOut.stopped (desired : GoMap Desired) (existing : GoMap DataPrepperPipeline) :
    RolledOut desired existing false [] [] :=
  ⟨by simp, by simp, by simp, by simp, by simp, by simp⟩

theorem mem_of_isStale {name : String} (stale : isStale desired existing name = true) :
    name ∈ desired := by
  unfold isStale at stale
  split at stale
  · rename_i found
    exact Finmap.mem_iff.mpr ⟨_, found⟩
  · cases stale

theorem mem_of_isUnhealthy {name : String} (unhealthy : isUnhealthy desired existing name = true) :
    name ∈ existing := by
  unfold isUnhealthy at unhealthy
  split at unhealthy
  · rename_i found _
    exact Finmap.mem_iff.mpr ⟨_, found⟩
  · cases unhealthy

/-- The figures of a rollout: what was written, and how many of the stale children are left. -/
def Reckons (desired : GoMap Desired) (existing : GoMap DataPrepperPipeline)
    (created updated : Nat) (rollout : Rollout) : Prop :=
  ∃ stale : List String, stale.Nodup ∧
    (∀ name, name ∈ stale ↔ isStale desired existing name = true) ∧
    rollout.created = created ∧ rollout.updated = updated ∧
    rollout.pendingUpdates = stale.length - updated ∧
    (rollout.healthCheckFail = true → rollout.pendingUpdates ≠ 0)

/-- Each child is written once, within the limit, and the figures are those of the writes. -/
structure Counted (discovery : DataPrepperSourceDiscovery) (desired : GoMap Desired)
    (existing : GoMap DataPrepperPipeline) (created updated : List (String × Desired))
    (outcome : Except String Rollout) : Prop where
  distinct : ((created ++ updated).map Prod.fst).Nodup
  limited : (created.length : Int) ≤ discoveryMaxCreationsPerCycle discovery
  uncreated : outcome.isOk = true →
    (created.length : Int) < discoveryMaxCreationsPerCycle discovery →
      ∀ name ∈ desired, name ∈ existing ∨ name ∈ created.map Prod.fst
  reported : ∀ rollout, outcome = .ok rollout →
    Reckons desired existing created.length updated.length rollout

theorem Counted.stopped (discovery : DataPrepperSourceDiscovery) (desired : GoMap Desired)
    (existing : GoMap DataPrepperPipeline) (failure : String) :
    Counted discovery desired existing [] [] (.error failure) :=
  ⟨by simp, (discoveryMaxCreationsPerCycle_pos discovery).le, by simp [Except.isOk, Except.toBool],
    by simp⟩

theorem runs_updateStaged {created : Nat} {toUpdate : List String}
    {outcome : Except String Rollout} (nonempty : toUpdate ≠ [])
    (run : Runs (Serves faulty) (updateStaged discovery desired existing created toUpdate).run
      state trace outcome final) :
    ∃ updated, Writes faulty discovery updated state trace outcome.isOk final ∧
      (∀ item ∈ updated, desired.lookup item.1 = some item.2) ∧
      (updated.map Prod.fst).Sublist toUpdate ∧
      updated.length ≤ maxUpdatesPerCycle (GoMap.sortedKeys existing).length ∧
      (updated ≠ [] → ∀ name, isUnhealthy desired existing name = false) ∧
      ∀ rollout, outcome = .ok rollout →
        rollout.created = created ∧ rollout.updated = updated.length ∧
        rollout.pendingUpdates = toUpdate.length - updated.length ∧
        (rollout.healthCheckFail = true → rollout.pendingUpdates ≠ 0) ∧
        (updated = [] → (∀ name ∈ toUpdate, name ∉ desired) ∨
          ∃ name, isUnhealthy desired existing name = true) := by
  obtain ⟨order, middle, later, served, rfl, continued⟩ := runs_ask_bind run
  split at continued
  · rename_i unhealthy
    obtain ⟨name, _, found⟩ := List.any_eq_true.mp unhealthy
    obtain ⟨rfl, rfl, rfl⟩ := runs_pure_iff.mp continued
    refine ⟨[], .idle rfl served (.stop _), by simp, by simp, by simp, by simp, ?_⟩
    rintro rollout same
    cases same
    exact ⟨rfl, rfl, rfl, fun _ => by simpa using nonempty, fun _ => .inr ⟨name, found⟩⟩
  · rename_i healthy
    have allHealthy : ∀ name, isUnhealthy desired existing name = false := by
      intro name
      by_contra unhealthy
      rw [Bool.not_eq_false] at unhealthy
      have listed : name ∈ order.1 :=
        order.2.mem_iff.mpr (GoMap.mem_sortedKeys.mpr (mem_of_isUnhealthy unhealthy))
      exact healthy (List.any_eq_true.mpr ⟨name, listed, unhealthy⟩)
    have atLeastOne : 0 < maxUpdatesPerCycle (GoMap.sortedKeys existing).length :=
      Nat.lt_of_lt_of_le Nat.one_pos (Nat.le_max_left _ _)
    rcases runs_fallible_bind_iff.mp continued with
      ⟨failure, rfl, failed⟩ | ⟨first, between, count, second, rfl, ran, finished⟩
    · obtain ⟨updated, writes, facts, ordered, short, _⟩ := runs_updateBatch failed
      exact ⟨updated, .idle rfl served writes, facts, ordered, short, fun _ => allHealthy,
        by simp⟩
    · obtain ⟨updated, writes, facts, ordered, short, counted⟩ := runs_updateBatch ran
      obtain ⟨total, complete⟩ := counted count rfl
      obtain ⟨rfl, rfl, rfl⟩ := runs_pure_iff.mp finished
      rw [List.append_nil]
      refine ⟨updated, .idle rfl served writes, facts, ordered, short, fun _ => allHealthy, ?_⟩
      rintro rollout same
      cases same
      rw [Nat.zero_add] at total
      subst total
      exact ⟨rfl, rfl, rfl, by simp, fun empty => .inl (complete empty atLeastOne)⟩

theorem mem_of_isStale_existing {name : String} (stale : isStale desired existing name = true) :
    existing.lookup name ≠ none := by
  intro absent
  simp [isStale, absent] at stale

/-- Missing children and stale ones have different names. -/
theorem distinct_of_rolledOut {created updated : List (String × Desired)} {completed : Bool}
    (rolledOut : RolledOut desired existing completed created updated)
    (createdOnce : (created.map Prod.fst).Nodup) (updatedOnce : (updated.map Prod.fst).Nodup) :
    ((created ++ updated).map Prod.fst).Nodup := by
  rw [List.map_append]
  refine createdOnce.append updatedOnce ?_
  intro name inCreated inUpdated
  obtain ⟨missing, member, rfl⟩ := List.mem_map.mp inCreated
  obtain ⟨stale, listed, same⟩ := List.mem_map.mp inUpdated
  have needsUpdate := (rolledOut.stale stale listed).2
  rw [same] at needsUpdate
  exact mem_of_isStale_existing needsUpdate (rolledOut.missing missing member).2

theorem length_le_of_nonempty {written : List (String × Desired)} {limit : Int}
    (positive : 0 < limit) (short : written ≠ [] → ((0 + written.length : Nat) : Int) ≤ limit) :
    (written.length : Int) ≤ limit := by
  by_cases empty : written = []
  · subst empty
    exact positive.le
  · simpa using short empty

/-- What phases 2 to 4 write, and what they report. -/
structure UpdatedBatch (desired : GoMap Desired) (existing : GoMap DataPrepperPipeline)
    (created : Nat) (updated : List (String × Desired)) (outcome : Except String Rollout) :
    Prop where
  once : (updated.map Prod.fst).Nodup
  stale : ∀ item ∈ updated,
    desired.lookup item.1 = some item.2 ∧ isStale desired existing item.1 = true
  batch : updated.length ≤ maxUpdatesPerCycle (GoMap.sortedKeys existing).length
  healthy : updated ≠ [] → ∀ name, isUnhealthy desired existing name = false
  noneStale : outcome.isOk = true → updated = [] →
    (∀ name, isStale desired existing name = false) ∨
      ∃ name, isUnhealthy desired existing name = true
  reported : ∀ rollout, outcome = .ok rollout →
    Reckons desired existing created updated.length rollout

theorem mem_filter_isStale {order : List String} (perm : order.Perm (GoMap.sortedKeys desired))
    (name : String) :
    name ∈ order.filter (isStale desired existing) ↔ isStale desired existing name = true := by
  rw [List.mem_filter, and_iff_right_iff_imp]
  intro stale
  exact perm.mem_iff.mpr (GoMap.mem_sortedKeys.mpr (mem_of_isStale stale))

theorem runs_updatePhases {created : Nat} {outcome : Except String Rollout}
    (run : Runs (Serves faulty) (do
      let updateOrder ← Fallible.lift (Client.rangeOver (GoMap.sortedKeys desired))
      let toUpdate := updateOrder.1.filter (isStale desired existing)
      if toUpdate = [] then pure { created := created }
      else updateStaged discovery desired existing created toUpdate : Reconciler Rollout).run
      state trace outcome final) :
    ∃ updated, UpdatedBatch desired existing created updated outcome ∧
      Writes faulty discovery updated state trace outcome.isOk final := by
  obtain ⟨order, _, staging, served, rfl, remaining⟩ := runs_ask_bind run
  have nodupStale : (order.1.filter (isStale desired existing)).Nodup :=
    (order.2.nodup_iff.mpr (GoMap.nodup_sortedKeys desired)).filter _
  have listedIfStale : ∀ name, name ∈ order.1.filter (isStale desired existing) ↔
      isStale desired existing name = true := mem_filter_isStale order.2
  dsimp only at remaining
  split at remaining
  · rename_i noneListed
    obtain ⟨rfl, rfl, rfl⟩ := runs_pure_iff.mp remaining
    have noneStale : ∀ name, isStale desired existing name = false := by
      intro name
      by_contra stale
      rw [Bool.not_eq_false, ← listedIfStale, noneListed] at stale
      cases stale
    refine ⟨[], ⟨List.nodup_nil, by simp, by simp, by simp, fun _ _ => .inl noneStale, ?_⟩,
      .idle rfl served (.stop _)⟩
    rintro rollout same
    cases same
    exact ⟨[], List.nodup_nil, by simp [noneStale], rfl, rfl, rfl, by simp⟩
  · rename_i someListed
    obtain ⟨updated, updates, wanted, batchOrder, batch, healthy, staged⟩ :=
      runs_updateStaged someListed remaining
    refine ⟨updated, ⟨batchOrder.nodup nodupStale, ?_, batch, healthy, ?_, ?_⟩,
      .idle rfl served updates⟩
    · exact fun item member => ⟨wanted item member, (listedIfStale _).mp
        (batchOrder.subset (List.mem_map_of_mem member))⟩
    · intro success empty
      cases outcome with
      | error failure => cases success
      | ok rollout =>
          obtain ⟨_, _, _, _, settled⟩ := staged rollout rfl
          refine (settled empty).imp_left fun unwanted name => ?_
          by_contra stale
          rw [Bool.not_eq_false] at stale
          exact unwanted name ((listedIfStale name).mpr stale) (mem_of_isStale stale)
    · intro rollout success
      obtain ⟨createdCount, updatedCount, pending, unhealthy, _⟩ := staged rollout success
      exact ⟨_, nodupStale, listedIfStale, createdCount, updatedCount, pending, unhealthy⟩

theorem runs_rollOut {outcome : Except String Rollout}
    (run : Runs (Serves faulty) (rollOut discovery desired existing).run state trace outcome
      final) :
    ∃ created updated, RolledOut desired existing outcome.isOk created updated ∧
      Counted discovery desired existing created updated outcome ∧
      Writes faulty discovery (created ++ updated) state trace outcome.isOk final := by
  obtain ⟨order, _, later, servedOrder, rfl, continued⟩ := runs_ask_bind run
  have nodupOrder : order.1.Nodup := order.2.nodup_iff.mpr (GoMap.nodup_sortedKeys desired)
  have positive := discoveryMaxCreationsPerCycle_pos discovery
  rcases runs_fallible_bind_iff.mp continued with
    ⟨failure, rfl, failed⟩ | ⟨creating, middle, count, rest, rfl, created, updating⟩
  · obtain ⟨written, writes, facts, ordered, short, _⟩ := runs_createMissing failed
    have rolledOut : RolledOut desired existing false written [] :=
      ⟨facts, by simp, by simp, by simp, by simp, by simp⟩
    have once := distinct_of_rolledOut rolledOut (ordered.nodup nodupOrder) List.nodup_nil
    refine ⟨written, [], rolledOut, ⟨once, length_le_of_nonempty positive short, ?_, by simp⟩, ?_⟩
    · simp [Except.isOk, Except.toBool]
    · rw [List.append_nil]
      exact .idle rfl servedOrder writes
  · obtain ⟨written, writes, facts, ordered, short, counted⟩ := runs_createMissing created
    obtain ⟨total, complete⟩ := counted count rfl
    rw [Nat.zero_add] at total
    subst total
    have uncreated : (written.length : Int) < discoveryMaxCreationsPerCycle discovery →
        ∀ name ∈ desired, name ∈ existing ∨ name ∈ written.map Prod.fst :=
      fun room name wantedName => complete room name
        (order.2.mem_iff.mpr (GoMap.mem_sortedKeys.mpr wantedName)) wantedName
    have noneMissing : written = [] → ∀ name ∈ desired, name ∈ existing := by
      rintro rfl name wantedName
      simpa using uncreated positive name wantedName
    obtain ⟨updated, batch, updates⟩ := runs_updatePhases updating
    have rolledOut : RolledOut desired existing outcome.isOk written updated :=
      ⟨facts, batch.stale, batch.batch, batch.healthy, fun _ => noneMissing, batch.noneStale⟩
    have once := distinct_of_rolledOut rolledOut (ordered.nodup nodupOrder) batch.once
    exact ⟨written, updated, rolledOut, ⟨once, length_le_of_nonempty positive short,
      fun _ => uncreated, batch.reported⟩, .idle rfl servedOrder (writes.append updates)⟩

/-- Either some source cannot be rendered and nothing is called, or the children
are listed and written. -/
theorem runs_reconcilePipelines {reconciler : DiscoveryReconciler}
    {sources : List DiscoveredSource} {outcome : Except String Rollout}
    (run : Runs (Serves faulty) (reconcilePipelines reconciler discovery sources).run state trace
      outcome final) :
    (∃ message, desiredPipelines reconciler.toolkit discovery sources ∅ = .error message ∧
        outcome = .error message ∧ trace = [] ∧ final = state) ∨
      ∃ desired existing created updated,
        desiredPipelines reconciler.toolkit discovery sources ∅ = .ok desired ∧
        Children state discovery.name existing ∧
        RolledOut desired existing outcome.isOk created updated ∧
        Counted discovery desired existing created updated outcome ∧
        Writes faulty discovery (created ++ updated) state trace outcome.isOk final := by
  unfold reconcilePipelines at run
  cases built : desiredPipelines reconciler.toolkit discovery sources ∅ with
  | error message =>
      rw [built] at run
      obtain ⟨rfl, rfl, rfl⟩ := runs_done_iff.mp run
      exact .inl ⟨message, rfl, rfl, rfl, rfl⟩
  | ok desired =>
      rw [built] at run
      right
      obtain ⟨_, impossible, _⟩ | ⟨_, same, listing⟩ := runs_ofExcept_bind run
      · cases impossible
      cases same
      rcases runs_fallible_bind_iff.mp listing with
        ⟨failure, rfl, failed⟩ | ⟨first, middle, items, second, rfl, ran, continued⟩
      · obtain ⟨_, ran, _⟩ := runs_of_wrapError failed
        obtain ⟨reply, called, _⟩ := runs_of_callApi ran
        obtain ⟨served, rfl⟩ := runs_request_iff.mp called
        exact ⟨desired, _, [], [], rfl, children_existingByName (.refl _), .stopped _ _,
          .stopped _ _ _ _, .idle rfl served (.stop _)⟩
      · obtain ⟨served, rfl⟩ := runs_request_iff.mp (runs_callApi_ok (runs_wrapError_ok ran))
        obtain ⟨perm, rfl⟩ := served.perm_of_list
        obtain ⟨created, updated, rolled, counted, writes⟩ := runs_rollOut continued
        exact ⟨desired, _, created, updated, rfl, children_existingByName perm, rolled, counted,
          .idle rfl served writes⟩

end Loops

section Child

variable {discovery : DataPrepperSourceDiscovery} {name : String} {wanted : Desired}
  {state final : Cluster} {trace : List (Event Cluster Op Reply)}

/-- A child as the discovery writes it. -/
structure Adopted (discovery : String) (wanted : Desired) (pipeline : DataPrepperPipeline) :
    Prop where
  label : Labelled discovery pipeline
  hash : pipeline.metadata.annotations.lookup templateGenerationKey = some wanted.hash
  spec : pipeline.spec = wanted.spec

theorem keepsIdentity_adoptChild : KeepsIdentity (adoptChild discovery wanted) := by
  intro source claimed success
  obtain ⟨rfl, _⟩ := setControllerReference_ok success
  exact ⟨rfl, rfl, rfl, rfl⟩

theorem adopted_of_adoptChild {source claimed : DataPrepperPipeline}
    (success : adoptChild discovery wanted source = .ok claimed) :
    Adopted discovery.name wanted claimed := by
  obtain ⟨rfl, _⟩ := setControllerReference_ok success
  exact ⟨Finmap.lookup_insert _, Finmap.lookup_insert _, rfl⟩

theorem labelled_of_content {discovery : String} {later earlier : DataPrepperPipeline}
    (content : HasContentOf later earlier) :
    Labelled discovery later ↔ Labelled discovery earlier := by
  unfold Labelled
  rw [content.labels]

theorem Adopted.of_content {discovery : String} {later earlier : DataPrepperPipeline}
    (adopted : Adopted discovery wanted earlier) (content : HasContentOf later earlier) :
    Adopted discovery wanted later := by
  refine ⟨(labelled_of_content content).mpr adopted.label, ?_, content.spec.trans adopted.spec⟩
  rw [content.annotations]
  exact adopted.hash

/-- What writing a child makes of the pipeline that was under its name, if there was one. -/
structure WrittenFrom (discovery : DataPrepperSourceDiscovery) (name : String) (wanted : Desired)
    (before : Option DataPrepperPipeline) (after : DataPrepperPipeline) : Prop where
  content : ∃ claimed, adoptChild discovery wanted
      (before.getD (Object.named .pipeline name discovery.metadata.nameSpace)) = .ok claimed ∧
    HasContentOf after claimed
  deleting : after.metadata.deleting = true → ∃ existing, before = some existing ∧
    existing.metadata.deleting = true

theorem WrittenFrom.adopted {before : Option DataPrepperPipeline} {after : DataPrepperPipeline}
    (written : WrittenFrom discovery name wanted before after) :
    Adopted discovery.name wanted after := by
  obtain ⟨claimed, success, content⟩ := written.content
  exact (adopted_of_adoptChild success).of_content content

/-- Writing a child writes it or leaves it, whether or not it succeeds. -/
theorem effect_of_writeChild {outcome : Except String Unit}
    (run : Runs (Serves faulty) (writeChild discovery name wanted).run state trace outcome final) :
    final.find .pipeline name = state.find .pipeline name ∨
      ∃ after, final.find .pipeline name = some after ∧
        WrittenFrom discovery name wanted (state.find .pipeline name) after := by
  obtain rfl | ⟨existing, claimed, found, success, rfl⟩ | ⟨absent, claimed, success, rfl⟩ :=
    effect_of_createOrUpdate keepsIdentity_adoptChild run
  · exact .inl rfl
  · have found : state.find .pipeline name = some existing := found
    have existingName : existing.name = name := Cluster.name_of_find found
    refine .inr ⟨_, Cluster.find_commit_of_name existingName, ?_⟩
    rw [found]
    exact ⟨⟨claimed, success, rfl, rfl, rfl, rfl⟩, fun deleting => ⟨existing, rfl, deleting⟩⟩
  · have absent : state.find .pipeline name = none := absent
    have named : claimed.name = name := (keepsIdentity_adoptChild _ _ success).1
    refine .inr ⟨_, Cluster.find_commit_of_name named, ?_⟩
    rw [absent]
    exact ⟨⟨claimed, success, rfl, rfl, rfl, rfl⟩, fun impossible => by cases impossible⟩

/-- The operation writes a child with the label of the discovery. -/
def Adopts (discovery child : String) : Op → Prop
  | .create .pipeline object | .update .pipeline object =>
      object.name = child ∧ Labelled discovery object
  | _ => False

theorem Adopts.target {child other : String} {op : Op} (adopts : Adopts other child op) :
    op.target = some (.pipeline, child) := by
  unfold Adopts at adopts
  split at adopts
  · rw [← adopts.1]
    rfl
  · rw [← adopts.1]
    rfl
  · cases adopts

theorem events_writeChild {outcome : Except String Unit}
    (run : Runs (Serves faulty) (writeChild discovery name wanted).run state trace outcome final) :
    ∀ event ∈ trace, event.op.target = none ∨ Adopts discovery.name name event.op := by
  have issued : Issues (fun op => op.target = none ∨ Adopts discovery.name name op) Expected
      (OnSuccess fun _ => True) (writeChild discovery name wanted).run := by
    apply issues_createOrUpdate (.inl rfl) (fun _ _ expected => expected)
    intro object claimed named success
    have kept := (keepsIdentity_adoptChild object claimed success).1
    have label := (adopted_of_adoptChild success).label
    exact ⟨.inr ⟨kept.trans named, label⟩, .inr ⟨kept.trans named, label⟩⟩
  exact (issued.runs (fun _ _ _ _ served => served.expected) run).2

theorem frame_writeChild {outcome : Except String Unit}
    (run : Runs (Serves faulty) (writeChild discovery name wanted).run state trace outcome final)
    {kind : Kind} {other : String} (different : (kind, other) ≠ (.pipeline, name)) :
    final.find kind other = state.find kind other := by
  apply find_of_untouched run
  intro event member targeted
  obtain reads | adopts := events_writeChild run event member
  · rw [reads] at targeted
    cases targeted
  · rw [adopts.target, Option.some.injEq] at targeted
    exact different targeted.symm

/-- A child that is written is there as it should be. -/
theorem adopted_of_writeChild (honest : NotFoundHonest faulty)
    (run : Runs (Serves faulty) (writeChild discovery name wanted).run state trace (.ok ())
      final) :
    ∃ stored, final.find .pipeline name = some stored ∧ Adopted discovery.name wanted stored := by
  obtain ⟨source, claimed, stored, success, found, content⟩ :=
    stored_of_createOrUpdate honest keepsIdentity_adoptChild run
  exact ⟨stored, found, (adopted_of_adoptChild success).of_content content⟩

end Child

section Writing

variable {discovery : DataPrepperSourceDiscovery} {written : List (String × Desired)}
  {state final : Cluster} {trace : List (Event Cluster Op Reply)} {completed : Bool}

theorem Writes.events (writes : Writes faulty discovery written state trace completed final) :
    ∀ event ∈ trace, event.op.target = none ∨
      ∃ item ∈ written, Adopts discovery.name item.1 event.op := by
  refine writes.all_events
    (fun event => event.op.target = none ∨ ∃ item ∈ written, Adopts discovery.name item.1 event.op)
    (fun _ _ _ _ reads _ => .inl reads) ?_
  intro item before trace outcome after member _ run event listed
  exact (events_writeChild run event listed).imp_right fun adopts => ⟨item, member, adopts⟩

theorem Writes.accepted (writes : Writes faulty discovery written state trace true final) :
    ∀ event ∈ trace, event.op.target ≠ none → ¬Fails event.op event.reply := by
  refine writes.all_events (fun event => event.op.target ≠ none → ¬Fails event.op event.reply)
    (fun _ _ _ _ reads _ written => absurd reads written) ?_
  intro item before trace outcome after member succeeded run
  rw [succeeded rfl] at run
  exact accepted_of_createOrUpdate run

theorem Writes.frame (writes : Writes faulty discovery written state trace completed final)
    {kind : Kind} {name : String}
    (outside : ∀ item ∈ written, (kind, name) ≠ (Kind.pipeline, item.1)) :
    final.find kind name = state.find kind name := by
  refine writes.invariant (fun cluster => cluster.find kind name = state.find kind name) ?_ ?_ rfl
  · intro before op reply after reads served same
    rw [served.unchanged reads, same]
  · intro item before trace outcome after member _ run same
    rw [frame_writeChild run (outside item member), same]

/-- The items agree on what each name should be. -/
def Consistent (desired : GoMap Desired) (written : List (String × Desired)) : Prop :=
  ∀ item ∈ written, desired.lookup item.1 = some item.2

theorem RolledOut.consistent {desired : GoMap Desired} {existing : GoMap DataPrepperPipeline}
    {created updated : List (String × Desired)}
    (rolled : RolledOut desired existing completed created updated) :
    Consistent desired (created ++ updated) :=
  List.forall_mem_append.mpr
    ⟨fun item member => (rolled.missing item member).1,
      fun item member => (rolled.stale item member).1⟩

/-- Each written child is there as it should be. -/
theorem Writes.adopted {desired : GoMap Desired} (honest : NotFoundHonest faulty)
    (consistent : Consistent desired written)
    (writes : Writes faulty discovery written state trace true final) :
    ∀ item ∈ written, ∃ stored, final.find .pipeline item.1 = some stored ∧
      Adopted discovery.name item.2 stored := by
  refine RunsEach.establishes
    (fun item cluster => ∃ stored, cluster.find .pipeline item.1 = some stored ∧
      Adopted discovery.name item.2 stored)
    (fun first second => first.1 = second.1 → first.2 = second.2) ?_ ?_ ?_ writes
  · intro item before op reply after reads served holds
    rwa [served.unchanged reads]
  · intro item before trace after member run
    obtain ⟨stored, found, adopted⟩ := adopted_of_writeChild honest run
    refine ⟨⟨stored, found, adopted⟩, ?_⟩
    intro other agree holds
    by_cases same : other.1 = item.1
    · rw [same, agree same]
      exact ⟨stored, found, adopted⟩
    · rwa [frame_writeChild run (by simpa using same)]
  · apply List.pairwise_iff_forall_sublist.mpr
    intro first second both same
    have firstWanted := consistent first (both.subset List.mem_cons_self)
    have secondWanted := consistent second (both.subset (List.mem_cons_of_mem _ List.mem_cons_self))
    rw [same, secondWanted, Option.some.injEq] at firstWanted
    exact firstWanted.symm

/-- What holds of the pipeline under a name, and stays so when the loop writes it,
holds after the loop, whether or not the loop completes. -/
theorem Writes.keeps (writes : Writes faulty discovery written state trace completed final)
    {name : String} {holds : Option DataPrepperPipeline → Prop}
    (stays : ∀ wanted, (name, wanted) ∈ written → ∀ before after, holds before →
      WrittenFrom discovery name wanted before after → holds (some after))
    (initially : holds (state.find .pipeline name)) : holds (final.find .pipeline name) := by
  refine writes.invariant (fun cluster => holds (cluster.find .pipeline name)) ?_ ?_ initially
  · intro before op reply after reads served held
    rwa [served.unchanged reads]
  · intro item before trace outcome after member _ run held
    by_cases same : name = item.1
    · subst same
      obtain unchanged | ⟨stored, found, writtenFrom⟩ := effect_of_writeChild run
      · rwa [unchanged]
      · rw [found]
        exact stays item.2 member _ stored held writtenFrom
    · rwa [frame_writeChild run (by simpa using same)]

end Writing

/-- The operation deletes the child or takes the label of its discovery away. -/
def CleansUp (child : String) : Op → Prop
  | .delete .pipeline name => name = child
  | .update .pipeline object =>
      object.name = child ∧ object.metadata.labels.lookup discoveryLabelKey = none
  | _ => False

theorem CleansUp.target {child : String} {op : Op} (cleans : CleansUp child op) :
    op.target = some (.pipeline, child) := by
  unfold CleansUp at cleans
  split at cleans
  · rw [← cleans]
    rfl
  · rw [← cleans.1]
    rfl
  · cases cleans

theorem not_cleansUp_of_adopts {discovery child other : String} {op : Op}
    (adopts : Adopts discovery other op) : ¬CleansUp child op := by
  intro cleans
  unfold CleansUp at cleans
  split at cleans
  · cases adopts
  · have label : Labelled discovery _ := adopts.2
    rw [Labelled, cleans.2] at label
    cases label
  · cases cleans

/-- The loop that cleans up the given children in turn. -/
abbrev Cleans (faulty : (op : Op) → Reply op → Prop) (discovery : DataPrepperSourceDiscovery) :
    List DataPrepperPipeline → Cluster → List (Event Cluster Op Reply) → Bool → Cluster → Prop :=
  RunsEach (Serves faulty) (fun op => op.target = none) (cleanUp discovery)

section Cleaning

variable {discovery : DataPrepperSourceDiscovery} {pipeline : DataPrepperPipeline}
  {state final : Cluster} {trace : List (Event Cluster Op Reply)}

theorem lookup_orphaned (discovery : DataPrepperSourceDiscovery)
    (pipeline : DataPrepperPipeline) :
    (orphaned discovery pipeline).metadata.labels.lookup discoveryLabelKey = none := by
  unfold orphaned
  rw [Finmap.lookup_insert_of_ne _ (by decide), Finmap.lookup_erase]

theorem runs_orphan {outcome : Except String Unit}
    (run : Runs (Serves faulty) (orphan discovery pipeline).run state trace outcome final) :
    ∃ reply, Serves faulty state (.update .pipeline (orphaned discovery pipeline)) reply final ∧
      trace = [⟨state, .update .pipeline (orphaned discovery pipeline), reply, final⟩] ∧
      (outcome = .ok () → ∃ stored, reply = .ok stored) := by
  rcases runs_fallible_bind_iff.mp run with
    ⟨failure, rfl, failed⟩ | ⟨first, middle, stored, second, rfl, ran, finished⟩
  · obtain ⟨_, ran, _⟩ := runs_of_wrapError failed
    obtain ⟨reply, called, _⟩ := runs_of_callApi ran
    obtain ⟨served, rfl⟩ := runs_request_iff.mp called
    exact ⟨reply, served, rfl, by simp⟩
  · obtain ⟨served, rfl⟩ := runs_request_iff.mp (runs_callApi_ok (runs_wrapError_ok ran))
    obtain ⟨rfl, _, rfl⟩ := runs_pure_iff.mp finished
    exact ⟨_, served, rfl, fun _ => ⟨stored, rfl⟩⟩

theorem frame_orphan {outcome : Except String Unit}
    (run : Runs (Serves faulty) (orphan discovery pipeline).run state trace outcome final)
    {kind : Kind} {other : String} (different : (kind, other) ≠ (.pipeline, pipeline.name)) :
    final.find kind other = state.find kind other := by
  obtain ⟨reply, served, _, _⟩ := runs_orphan run
  apply served.frame
  intro targeted
  exact different (Option.some.inj targeted).symm

theorem events_cleanUp {outcome : Except String Unit}
    (run : Runs (Serves faulty) (cleanUp discovery pipeline).run state trace outcome final) :
    ∀ event ∈ trace, event.before = state ∧ CleansUp pipeline.name event.op := by
  unfold cleanUp at run
  split at run
  · obtain ⟨_, ran, _⟩ := runs_of_wrapError run
    obtain ⟨reply, called, _⟩ := runs_of_callApi ran
    obtain ⟨_, rfl⟩ := runs_request_iff.mp called
    simp [CleansUp]
  · obtain ⟨reply, _, rfl, _⟩ := runs_orphan run
    simpa [CleansUp] using ⟨rfl, lookup_orphaned discovery pipeline⟩
  · obtain ⟨rfl, _, _⟩ := runs_pure_iff.mp run
    simp

theorem frame_cleanUp {outcome : Except String Unit}
    (run : Runs (Serves faulty) (cleanUp discovery pipeline).run state trace outcome final)
    {kind : Kind} {other : String} (different : (kind, other) ≠ (.pipeline, pipeline.name)) :
    final.find kind other = state.find kind other := by
  apply find_of_untouched run
  intro event member targeted
  rw [(events_cleanUp run event member).2.target, Option.some.injEq] at targeted
  exact different targeted.symm

/-- Nothing alive under the name carries the label. -/
def LetGo (discovery : String) (name : String) (cluster : Cluster) : Prop :=
  ∀ pipeline, cluster.find .pipeline name = some pipeline → Labelled discovery pipeline →
    pipeline.metadata.deleting = true

/-- What is still labelled after its cleanup is being deleted, by the policy. -/
theorem deleted_of_cleanUp
    (run : Runs (Serves faulty) (cleanUp discovery pipeline).run state trace (.ok ()) final)
    {current : DataPrepperPipeline} (present : final.find .pipeline pipeline.name = some current)
    (labelled : Labelled discovery.name current) :
    discoveryCleanupPolicy discovery = .delete ∧ current.metadata.deleting = true ∧
      current.metadata.finalizers ≠ [] := by
  unfold cleanUp at run
  split at run
  · rename_i policy
    obtain ⟨served, _⟩ := runs_request_iff.mp (runs_callApi_ok (runs_wrapError_ok run))
    exact ⟨policy,
      removed_of_delete (served.honest_of_not_fails (by simp [Fails])) current present⟩
  · obtain ⟨reply, served, _, accepted⟩ := runs_orphan run
    obtain ⟨stored, rfl⟩ := accepted rfl
    obtain ⟨content, _⟩ := hasContentOf_of_update served present
    rw [Labelled, content.labels, lookup_orphaned] at labelled
    cases labelled
  · rename_i unset
    exact absurd unset (discoveryCleanupPolicy_ne_unset discovery)

theorem runs_cleanUpAll {active : List String} {items : List DataPrepperPipeline}
    {outcome : Except String Unit}
    (run : Runs (Serves faulty) (cleanUpAll discovery active items).run state trace outcome
      final) :
    ∃ cleaned, Cleans faulty discovery cleaned state trace outcome.isOk final ∧
      cleaned.Sublist (items.filter fun item => item.name ∉ active) ∧
      (outcome.isOk = true → cleaned = items.filter fun item => item.name ∉ active) := by
  induction items generalizing state trace with
  | nil =>
      obtain ⟨rfl, rfl, rfl⟩ := runs_pure_iff.mp run
      exact ⟨[], .stop _, by simp, by simp⟩
  | cons item rest ih =>
      unfold cleanUpAll at run
      split at run
      · rename_i isActive
        rw [List.filter_cons_of_neg (by simpa using isActive)]
        exact ih run
      · rename_i inactive
        rw [List.filter_cons_of_pos (by simpa using inactive)]
        rcases runs_fallible_bind_iff.mp run with
          ⟨failure, rfl, failed⟩ | ⟨first, middle, _, second, rfl, ran, continued⟩
        · exact ⟨[item], .fail failed, List.singleton_sublist.mpr List.mem_cons_self,
            by simp [Except.isOk, Except.toBool]⟩
        · obtain ⟨cleaned, cleans, part, complete⟩ := ih continued
          exact ⟨item :: cleaned, .step ran cleans, part.cons_cons item,
            fun success => by rw [complete success]⟩

/-- Cleanup goes through labelled children outside the active names, through all of
them if it succeeds. -/
theorem runs_cleanupOrphans {sources : List DiscoveredSource} {outcome : Except String Unit}
    (run : Runs (Serves faulty) (cleanupOrphans discovery sources).run state trace outcome
      final) :
    ∃ cleaned, Cleans faulty discovery cleaned state trace outcome.isOk final ∧
      (cleaned.map Object.name).Nodup ∧
      (∀ child ∈ cleaned, state.find .pipeline child.name = some child ∧
        Labelled discovery.name child ∧ child.name ∉ activeNames discovery.name sources) ∧
      (outcome.isOk = true → ∀ name child, state.find .pipeline name = some child →
        Labelled discovery.name child → name ∉ activeNames discovery.name sources →
        child ∈ cleaned) := by
  rcases runs_fallible_bind_iff.mp run with
    ⟨failure, rfl, failed⟩ | ⟨first, middle, items, second, rfl, ran, continued⟩
  · obtain ⟨_, ran, _⟩ := runs_of_wrapError failed
    obtain ⟨reply, called, _⟩ := runs_of_callApi ran
    obtain ⟨served, rfl⟩ := runs_request_iff.mp called
    exact ⟨[], .idle rfl served (.stop _), by simp, by simp, by simp [Except.isOk, Except.toBool]⟩
  · obtain ⟨served, rfl⟩ := runs_request_iff.mp (runs_callApi_ok (runs_wrapError_ok ran))
    obtain ⟨perm, rfl⟩ := served.perm_of_list
    obtain ⟨cleaned, cleans, part, complete⟩ := runs_cleanUpAll continued
    refine ⟨cleaned, .idle rfl served cleans, ?_, ?_, ?_⟩
    · exact ((part.trans List.filter_sublist).map _).nodup (nodup_listed perm)
    · intro child member
      obtain ⟨present, inactive⟩ := List.mem_filter.mp (part.subset member)
      obtain ⟨found, labelled⟩ := (mem_listed perm).mp present
      exact ⟨found, labelled, by simpa using inactive⟩
    · intro success name child found labelled inactive
      have named : child.name = name := Cluster.name_of_find found
      rw [complete success]
      apply List.mem_filter.mpr
      subst named
      exact ⟨(mem_listed perm).mpr ⟨found, labelled⟩, by simpa using inactive⟩

/-- Each child is cleaned up while it still is what the list showed. -/
theorem Cleans.events {cleaned : List DataPrepperPipeline} {completed : Bool}
    (cleans : Cleans faulty discovery cleaned state trace completed final)
    (nodup : (cleaned.map Object.name).Nodup)
    (found : ∀ child ∈ cleaned, state.find .pipeline child.name = some child) :
    ∀ event ∈ trace, event.op.target = none ∨ ∃ child ∈ cleaned,
      event.before.find .pipeline child.name = some child ∧ CleansUp child.name event.op := by
  refine RunsEach.events (fun child cluster => cluster.find .pipeline child.name = some child)
    (fun first second => first.name ≠ second.name) _ ?_ ?_ (List.pairwise_map.mp nodup) found
    cleans
  · intro before op reply after reads served
    rw [served.unchanged reads]
    exact ⟨.inl reads, fun _ same => same⟩
  · intro child before trace outcome after member present _ run
    constructor
    · intro event listed
      obtain ⟨rfl, cleansUp⟩ := events_cleanUp run event listed
      exact .inr ⟨child, member, present, cleansUp⟩
    · intro other different same
      rw [frame_cleanUp run (by simpa using different.symm), same]

/-- What a cleanup leaves under the name of its child stays there. -/
theorem Cleans.establishes {cleaned : List DataPrepperPipeline}
    (reached : Option DataPrepperPipeline → Prop)
    (cleans : Cleans faulty discovery cleaned state trace true final)
    (nodup : (cleaned.map Object.name).Nodup)
    (established : ∀ child ∈ cleaned, ∀ before trace after,
      Runs (Serves faulty) (cleanUp discovery child).run before trace (.ok ()) after →
      reached (after.find .pipeline child.name)) :
    ∀ child ∈ cleaned, reached (final.find .pipeline child.name) := by
  refine RunsEach.establishes
    (fun child cluster => reached (cluster.find .pipeline child.name))
    (fun first second => first.name ≠ second.name) ?_ ?_ (List.pairwise_map.mp nodup) cleans
  · intro child before op reply after reads served holds
    rw [served.unchanged reads]
    exact holds
  · intro child before trace after member run
    refine ⟨established child member before trace after run, ?_⟩
    intro other different holds
    rw [frame_cleanUp run (by simpa using different)]
    exact holds

/-- Nothing labelled outlives a completed cleanup, unless it is being deleted. -/
theorem Cleans.deleted {cleaned : List DataPrepperPipeline}
    (cleans : Cleans faulty discovery cleaned state trace true final)
    (nodup : (cleaned.map Object.name).Nodup) :
    ∀ child ∈ cleaned, ∀ current, final.find .pipeline child.name = some current →
      Labelled discovery.name current →
      discoveryCleanupPolicy discovery = .delete ∧ current.metadata.deleting = true ∧
      current.metadata.finalizers ≠ [] := by
  refine cleans.establishes (fun found => ∀ current, found = some current →
    Labelled discovery.name current →
    discoveryCleanupPolicy discovery = .delete ∧ current.metadata.deleting = true ∧
      current.metadata.finalizers ≠ []) nodup ?_
  intro child _ before trace after run current present labelled
  exact deleted_of_cleanUp run present labelled

theorem Cleans.letGo {cleaned : List DataPrepperPipeline}
    (cleans : Cleans faulty discovery cleaned state trace true final)
    (nodup : (cleaned.map Object.name).Nodup) :
    ∀ child ∈ cleaned, LetGo discovery.name child.name final :=
  fun child member current present labelled =>
    (cleans.deleted nodup child member current present labelled).2.1

theorem Cleans.frame {cleaned : List DataPrepperPipeline} {completed : Bool}
    (cleans : Cleans faulty discovery cleaned state trace completed final)
    {kind : Kind} {name : String}
    (outside : ∀ child ∈ cleaned, (kind, name) ≠ (Kind.pipeline, child.name)) :
    final.find kind name = state.find kind name := by
  refine cleans.invariant (fun cluster => cluster.find kind name = state.find kind name) ?_ ?_ rfl
  · intro before op reply after reads served same
    rw [served.unchanged reads, same]
  · intro child before trace outcome after member _ run same
    rw [frame_cleanUp run (outside child member), same]

/-- What cleaning up a listed child makes of the pipeline that is under its name. -/
inductive CleanedFrom (discovery : DataPrepperSourceDiscovery)
    (child before : DataPrepperPipeline) : Option DataPrepperPipeline → Prop where
  | gone : CleanedFrom discovery child before none
  | marked {after : DataPrepperPipeline} : HasContentOf after before →
      CleanedFrom discovery child before (some after)
  | orphaned {after : DataPrepperPipeline} : HasContentOf after (orphaned discovery child) →
      CleanedFrom discovery child before (some after)

theorem effect_of_orphan {outcome : Except String Unit}
    (run : Runs (Serves faulty) (orphan discovery pipeline).run state trace outcome final) :
    final.find .pipeline pipeline.name = state.find .pipeline pipeline.name ∨
      ∃ before, state.find .pipeline pipeline.name = some before ∧
        CleanedFrom discovery pipeline before (final.find .pipeline pipeline.name) := by
  obtain ⟨reply, served, _, _⟩ := runs_orphan run
  obtain rfl | ⟨stored, found, _, effect⟩ := served.update_cases
  · exact .inl rfl
  have found : state.find .pipeline pipeline.name = some stored := found
  have named : stored.name = pipeline.name := Cluster.name_of_find found
  refine .inr ⟨stored, found, ?_⟩
  obtain rfl | ⟨_, _, rfl⟩ := effect
  · have target : (Cluster.updated stored (orphaned discovery pipeline)).name = pipeline.name :=
      named
    rw [Cluster.find_commit_of_name target]
    exact .orphaned ⟨rfl, rfl, rfl, rfl⟩
  · rw [named, Cluster.find_remove_same]
    exact .gone

theorem effect_of_cleanUp {outcome : Except String Unit}
    (run : Runs (Serves faulty) (cleanUp discovery pipeline).run state trace outcome final) :
    final.find .pipeline pipeline.name = state.find .pipeline pipeline.name ∨
      ∃ before, state.find .pipeline pipeline.name = some before ∧
        CleanedFrom discovery pipeline before (final.find .pipeline pipeline.name) := by
  unfold cleanUp at run
  split at run
  · obtain ⟨_, ran, _⟩ := runs_of_wrapError run
    obtain ⟨reply, called, _⟩ := runs_of_callApi ran
    obtain ⟨served, _⟩ := runs_request_iff.mp called
    obtain rfl | ⟨stored, found, effect⟩ := served.delete_cases
    · exact .inl rfl
    refine .inr ⟨stored, found, ?_⟩
    obtain rfl | rfl := effect
    · rw [Cluster.find_remove_same]
      exact .gone
    · have named : (Cluster.marked stored).name = pipeline.name := (Cluster.name_of_find found :)
      rw [Cluster.find_commit_of_name named]
      exact .marked ⟨rfl, rfl, rfl, rfl⟩
  · exact effect_of_orphan run
  · obtain ⟨_, _, rfl⟩ := runs_pure_iff.mp run
    exact .inl rfl

/-- What holds of the pipeline under a name, and stays so when it is cleaned up, holds
after the loop. -/
theorem Cleans.keeps {cleaned : List DataPrepperPipeline} {completed : Bool}
    (cleans : Cleans faulty discovery cleaned state trace completed final)
    {name : String} {holds : Option DataPrepperPipeline → Prop}
    (stays : ∀ child ∈ cleaned, child.name = name → ∀ before after, holds (some before) →
      CleanedFrom discovery child before after → holds after)
    (initially : holds (state.find .pipeline name)) : holds (final.find .pipeline name) := by
  refine cleans.invariant (fun cluster => holds (cluster.find .pipeline name)) ?_ ?_ initially
  · intro before op reply after reads served held
    rwa [served.unchanged reads]
  · intro child before trace outcome after member _ run held
    by_cases same : name = child.name
    · subst same
      obtain unchanged | ⟨stored, found, cleanedFrom⟩ := effect_of_cleanUp run
      · rwa [unchanged]
      · rw [found] at held
        exact stays child member rfl stored _ held cleanedFrom
    · rwa [frame_cleanUp run (by simpa using same)]

end Cleaning

/-- No call writes a child. -/
def NoChildWrites (trace : List (Event Cluster Op Reply)) : Prop :=
  ∀ event ∈ trace, ∀ child, event.op.target ≠ some (.pipeline, child)

theorem noChildWrites_of_quiet {trace : List (Event Cluster Op Reply)} {name : String}
    (quiet : ∀ event ∈ trace, Quiet name event.op) :
    NoChildWrites trace := by
  intro event member child targeted
  have impossible := quiet event member _ targeted
  simp at impossible

theorem not_cleansUp_of_untargeted {child : String} {op : Op}
    (untargeted : ∀ child, op.target ≠ some (.pipeline, child)) : ¬CleansUp child op :=
  fun cleans => untargeted child cleans.target

/-- The children are written, then cleaned up if all writes succeeded, then the
discovery reports.  `rolled`, `cleaned` and `reported` are the calls of the three. -/
structure Phases (faulty : (op : Op) → Reply op → Prop) (reconciler : DiscoveryReconciler)
    (current : DataPrepperSourceDiscovery) (sources : List DiscoveredSource)
    (start : Cluster) (outcome : Except String ReconcileResult) (final : Cluster)
    (rollout : Except String Rollout) (rolled cleaned reported : List (Event Cluster Op Reply))
    (between afterwards : Cluster) (items : List DataPrepperPipeline) (completed : Bool) :
    Prop where
  rolling : Runs (Serves faulty) (reconcilePipelines reconciler current sources).run start rolled
    rollout between
  cleaning : Cleans faulty current items between cleaned completed afterwards
  quiet : ∀ event ∈ reported, Quiet current.name event.op
  elsewhere : SameElsewhere current.name afterwards final
  ready : rollout.isOk = false → items = [] ∧ cleaned = []
  nodup : (items.map Object.name).Nodup
  inactive : ∀ child ∈ items, between.find .pipeline child.name = some child ∧
    Labelled current.name child ∧ child.name ∉ activeNames current.name sources
  success : outcome.isOk = true → rollout.isOk = true ∧ completed = true ∧
    ∀ name child, between.find .pipeline name = some child → Labelled current.name child →
      name ∉ activeNames current.name sources → child ∈ items
  reporting : outcome.isOk = true → ∃ written, rollout = .ok written ∧
    Runs (Serves faulty) (report reconciler current sources written).run afterwards reported outcome
      final

section Phases

variable {reconciler : DiscoveryReconciler} {current : DataPrepperSourceDiscovery}
  {sources : List DiscoveredSource} {start final : Cluster}
  {outcome : Except String ReconcileResult} {later : List (Event Cluster Op Reply)}

theorem sameElsewhere_refl (name : String) (cluster : Cluster) :
    SameElsewhere name cluster cluster :=
  ⟨fun _ _ _ => rfl, rfl, rfl⟩

/-- Writing and cleaning up children leaves the discovery alone. -/
theorem find_discovery_of_rolled {rolled : List (Event Cluster Op Reply)} {between : Cluster}
    {rollout : Except String Rollout} (name : String)
    (rolling : Runs (Serves faulty) (reconcilePipelines reconciler current sources).run start
      rolled rollout between) :
    between.find .sourceDiscovery name = start.find .sourceDiscovery name := by
  obtain ⟨_, _, _, _, rfl⟩ | ⟨_, _, _, _, _, _, _, _, writes⟩ := runs_reconcilePipelines rolling
  · rfl
  · exact writes.frame (by simp)

theorem phases_of_runs {fetched : DataPrepperSourceDiscovery} (same : SameSource current fetched)
    (stored : StoredAs fetched start)
    (run : Runs (Serves faulty) (do
      let rollout ← reconcilePipelines reconciler current sources
      cleanupOrphans current sources
      report reconciler current sources rollout : Reconciler ReconcileResult).run
      start later outcome final) :
    StoredAs fetched final ∧ ∃ rollout rolled cleaned reported between afterwards items completed,
      later = rolled ++ (cleaned ++ reported) ∧
      Phases faulty reconciler current sources start outcome final rollout rolled cleaned reported
        between afterwards items completed := by
  rcases runs_fallible_bind_iff.mp run with
    ⟨failure, rfl, failed⟩ | ⟨rolled, between, rollout, rest, rfl, rolling, continued⟩
  · refine ⟨?_, _, later, [], [], final, final, [], false, by simp, failed, .stop _, by simp,
      sameElsewhere_refl _ _, fun _ => ⟨rfl, rfl⟩, by simp, by simp, ?_, ?_⟩
    · intro found present
      rw [find_discovery_of_rolled _ failed] at present
      exact stored found present
    · simp [Except.isOk, Except.toBool]
    · simp [Except.isOk, Except.toBool]
  · rcases runs_fallible_bind_iff.mp continued with
      ⟨failure, rfl, failed⟩ | ⟨cleaned, afterwards, _, reported, rfl, cleaning, reporting⟩
    · obtain ⟨items, cleans, nodup, inactive, _⟩ := runs_cleanupOrphans failed
      refine ⟨?_, _, rolled, rest, [], between, final, items, _, by simp, rolling, cleans, by simp,
        sameElsewhere_refl _ _, ?_, nodup, inactive, ?_, ?_⟩
      · intro found present
        rw [cleans.frame (by simp), find_discovery_of_rolled _ rolling] at present
        exact stored found present
      all_goals simp [Except.isOk, Except.toBool]
    · obtain ⟨items, cleans, nodup, inactive, complete⟩ := runs_cleanupOrphans cleaning
      have stillStored : StoredAs fetched afterwards := by
        intro found present
        rw [cleans.frame (by simp), find_discovery_of_rolled _ rolling] at present
        exact stored found present
      obtain ⟨quiet, storedFinally, _⟩ := tends_report reconciler same sources rollout _ _ _ _
        stillStored reporting
      rw [← same.name] at quiet
      refine ⟨storedFinally, _, rolled, cleaned, reported, between, afterwards, items, _, rfl,
        rolling, cleans, quiet, sameElsewhere_of_quiet reporting quiet, ?_, nodup, inactive, ?_, ?_⟩
      · simp [Except.isOk, Except.toBool]
      · exact fun _ => ⟨rfl, rfl, complete rfl⟩
      · exact fun _ => ⟨rollout, rfl, reporting⟩

variable {between afterwards : Cluster}
  {rollout : Except String Rollout} {rolled cleaned reported : List (Event Cluster Op Reply)}
  {items : List DataPrepperPipeline} {completed : Bool}
  (phases : Phases faulty reconciler current sources start outcome final rollout rolled cleaned
    reported between afterwards items completed)

include phases

/-- After the first phase nobody writes the children of active names. -/
theorem Phases.untouched {name : String} (active : name ∈ activeNames current.name sources) :
    final.find .pipeline name = between.find .pipeline name := by
  rw [phases.elsewhere.find .pipeline name (by simp)]
  apply phases.cleaning.frame
  rintro item member ⟨⟩
  exact (phases.inactive item member).2.2 active

/-- The discovery is written by the report only. -/
theorem Phases.find_discovery (name : String) :
    afterwards.find .sourceDiscovery name = start.find .sourceDiscovery name := by
  rw [phases.cleaning.frame (by simp), find_discovery_of_rolled name phases.rolling]

/-- What the first phase calls: nothing if a render fails, else reads and adoptions. -/
theorem Phases.rolled_events :
    ∀ event ∈ rolled, event.op.target = none ∨ ∃ child, Adopts current.name child event.op := by
  obtain ⟨_, _, _, rfl, _⟩ | ⟨_, _, _, _, _, _, _, _, writes⟩ :=
    runs_reconcilePipelines phases.rolling
  · simp
  · intro event member
    exact (writes.events event member).imp_right fun ⟨item, _, adopts⟩ => ⟨item.1, adopts⟩

theorem Phases.cleaned_events :
    ∀ event ∈ cleaned, event.op.target = none ∨ ∃ child ∈ items,
      event.before.find .pipeline child.name = some child ∧ CleansUp child.name event.op :=
  phases.cleaning.events phases.nodup fun child member => (phases.inactive child member).1

/-- An event that cleans up belongs to the second phase. -/
theorem Phases.cleaned_of_cleansUp {event : Event Cluster Op Reply}
    (member : event ∈ rolled ++ (cleaned ++ reported)) {child : String}
    (cleans : CleansUp child event.op) :
    ∃ pipeline ∈ items, event.before.find .pipeline child = some pipeline ∧
      pipeline.name = child := by
  obtain inRolled | inRest := List.mem_append.mp member
  · obtain reads | ⟨other, adopts⟩ := phases.rolled_events event inRolled
    · rw [cleans.target] at reads
      cases reads
    · exact absurd cleans (not_cleansUp_of_adopts adopts)
  obtain inCleaned | inReported := List.mem_append.mp inRest
  · obtain reads | ⟨pipeline, listed, found, cleansToo⟩ := phases.cleaned_events event inCleaned
    · rw [cleans.target] at reads
      cases reads
    · have same : child = pipeline.name := by
        have targets := cleans.target.symm.trans cleansToo.target
        simpa using targets
      subst same
      exact ⟨pipeline, listed, found, rfl⟩
  · exact absurd cleans (not_cleansUp_of_untargeted
      (noChildWrites_of_quiet phases.quiet event inReported))

theorem Phases.accepted (success : rollout.isOk = true) :
    ∀ event ∈ rolled ++ (cleaned ++ reported), ∀ child, Adopts current.name child event.op →
      ¬Fails event.op event.reply := by
  intro event member child adopts
  have targeted := adopts.target
  obtain inRolled | inRest := List.mem_append.mp member
  · obtain ⟨_, _, rfl, _⟩ | ⟨_, _, _, _, _, _, _, _, writes⟩ :=
      runs_reconcilePipelines phases.rolling
    · cases success
    · rw [success] at writes
      exact writes.accepted event inRolled (by simp [targeted])
  obtain inCleaned | inReported := List.mem_append.mp inRest
  · obtain reads | ⟨pipeline, _, _, cleans⟩ := phases.cleaned_events event inCleaned
    · rw [targeted] at reads
      cases reads
    · exact absurd cleans (not_cleansUp_of_adopts adopts)
  · exact absurd targeted (noChildWrites_of_quiet phases.quiet event inReported child)

/-- After a successful cycle only active names are labelled and alive. -/
theorem Phases.active_of_labelled (success : outcome.isOk = true) {child : String}
    {pipeline : DataPrepperPipeline} (found : final.find .pipeline child = some pipeline)
    (labelled : Labelled current.name pipeline)
    (alive : pipeline.metadata.deleting = false) :
    child ∈ activeNames current.name sources := by
  by_contra inactive
  obtain ⟨_, rfl, complete⟩ := phases.success success
  rw [phases.elsewhere.find .pipeline child (by simp)] at found
  by_cases cleanedUp : ∃ item ∈ items, item.name = child
  · obtain ⟨item, member, rfl⟩ := cleanedUp
    have gone := phases.cleaning.letGo phases.nodup item member pipeline found labelled
    rw [alive] at gone
    cases gone
  · have outside : ∀ item ∈ items, (Kind.pipeline, child) ≠ (Kind.pipeline, item.name) := by
      intro item member same
      simp only [Prod.mk.injEq, true_and] at same
      exact cleanedUp ⟨item, member, same.symm⟩
    rw [phases.cleaning.frame outside] at found
    have listed := complete child pipeline found labelled inactive
    exact cleanedUp ⟨pipeline, listed, Cluster.name_of_find found⟩

end Phases

end DataPrepperOperator.Controller.SourceDiscovery
