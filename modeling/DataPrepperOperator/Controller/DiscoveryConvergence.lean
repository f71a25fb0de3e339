import DataPrepperOperator.Controller.ChildSteps

/-!
# Discovery cycles converge

With a fixed discovery and fixed sources, every successful cycle brings at least one
more child to its desired state, as long as one is missing or stale, and takes none
back.  The number of children still to be brought there is the measure.
-/

namespace DataPrepperOperator.Controller.SourceDiscovery

open ServerProgram DataPrepperOperator.Api DataPrepperOperator.Discovery

section Rounds

variable (reconciler : DiscoveryReconciler) (base : DataPrepperSourceDiscovery)
  (sources : List DiscoveredSource)

/-- A cycle starts with the discovery and the sources as they are fixed, and with no
child at its desired hash degraded or in error. -/
structure CycleStarts (cluster : Cluster) : Prop where
  stored : ∃ discovery, cluster.find .sourceDiscovery base.name = some discovery ∧
    SameSource discovery base ∧ discovery.metadata.deleting = false
  discovered : sourcesIn reconciler base.spec cluster = .ok sources
  healthy : ∀ name wanted pipeline,
    wantedChild reconciler.toolkit base sources name = some wanted →
    cluster.find .pipeline name = some pipeline → Labelled base.name pipeline →
    pipeline.metadata.annotations.lookup templateGenerationKey = some wanted.hash →
    pipeline.status.phase ≠ .degraded ∧ pipeline.status.phase ≠ .error

/-- Between two cycles deleted pipelines go, statuses change, and nobody but the
discovery changes the content of its children. -/
structure Settles (discovery : String) (before after : Cluster) : Prop where
  alive : ∀ name pipeline, after.find .pipeline name = some pipeline →
    pipeline.metadata.deleting = false
  kept : ∀ name pipeline, before.find .pipeline name = some pipeline →
    Labelled discovery pipeline → pipeline.metadata.deleting = false →
    ∃ later, after.find .pipeline name = some later ∧ HasContentOf later pipeline
  own : ∀ name later, after.find .pipeline name = some later → Labelled discovery later →
    ∃ pipeline, before.find .pipeline name = some pipeline ∧
      pipeline.metadata.deleting = false ∧ HasContentOf later pipeline

/-- One successful cycle and what happens until the next. -/
def Round (before after : Cluster) : Prop :=
  CycleStarts reconciler base sources before ∧
    ∃ trace result middle,
      Runs Reliable (reconcile reconciler base.name).run before trace (.ok result) middle ∧
      Settles base.name middle after

inductive Rounds : Nat → Cluster → Cluster → Prop where
  | none {cluster} : Rounds 0 cluster cluster
  | next {count start before after} : Rounds count start before →
      Round reconciler base sources before after → Rounds (count + 1) start after

/-- The labelled children are exactly those of the sources, as rendered. -/
structure Converged (cluster : Cluster) : Prop where
  names : ∀ name,
    (∃ pipeline, cluster.find .pipeline name = some pipeline ∧ Labelled base.name pipeline) ↔
      ∃ source ∈ sources, name = childName base.name source.name
  children : ∀ name pipeline, cluster.find .pipeline name = some pipeline →
    Labelled base.name pipeline → ∃ source ∈ sources,
      name = childName base.name source.name ∧
      renderPipelineSpec reconciler.toolkit base source = .ok pipeline.spec ∧
      pipeline.metadata.annotations.lookup templateGenerationKey =
        some (computeSpecHash reconciler.toolkit pipeline.spec)

end Rounds

section Cycle

variable {reconciler : DiscoveryReconciler} {base : DataPrepperSourceDiscovery}
  {sources : List DiscoveredSource} {desired : GoMap Desired} {before middle : Cluster}
  {trace : List (Event Cluster Op Reply)}

theorem notFoundHonest_reliable : NotFoundHonest fun _ _ => False :=
  fun _ _ _ _ => id

/-- The child is alive and as it should be. -/
def InPlace (discovery : String) (wanted : Desired) (name : String) (cluster : Cluster) : Prop :=
  ∃ pipeline, cluster.find .pipeline name = some pipeline ∧ Adopted discovery wanted pipeline ∧
    pipeline.metadata.deleting = false

/-- A child with the desired hash has the desired spec. -/
def HashesTell (discovery : String) (desired : GoMap Desired) (cluster : Cluster) : Prop :=
  ∀ name pipeline wanted, cluster.find .pipeline name = some pipeline →
    Labelled discovery pipeline → desired.lookup name = some wanted →
    (pipeline.metadata.annotations.lookup templateGenerationKey).getD "" = wanted.hash →
    Adopted discovery wanted pipeline

/-- What a successful cycle does to the children. -/
structure Cycled (base : DataPrepperSourceDiscovery) (sources : List DiscoveredSource)
    (desired : GoMap Desired) (before middle : Cluster) (existing : GoMap DataPrepperPipeline)
    (created updated : List (String × Desired)) : Prop where
  children : Children before base.name existing
  rolled : RolledOut desired existing true created updated
  adopted : ∀ item ∈ created ++ updated, ∃ stored,
    middle.find .pipeline item.1 = some stored ∧ Adopted base.name item.2 stored
  keeps : ∀ name ∈ desired, ∀ holds : Option DataPrepperPipeline → Prop,
    (∀ wanted, desired.lookup name = some wanted → ∀ earlier after, holds earlier →
      Adopted base.name wanted after →
      (after.metadata.deleting = true → ∃ present, earlier = some present ∧
        present.metadata.deleting = true) → holds (some after)) →
    holds (before.find .pipeline name) → holds (middle.find .pipeline name)
  active : ∀ name pipeline, middle.find .pipeline name = some pipeline →
    Labelled base.name pipeline → pipeline.metadata.deleting = false →
    name ∈ activeNames base.name sources

theorem cycled_of_runs {result : ReconcileResult}
    (built : desiredPipelines reconciler.toolkit base sources ∅ = .ok desired)
    (starts : CycleStarts reconciler base sources before)
    (run : Runs Reliable (reconcile reconciler base.name).run before trace (.ok result) middle) :
    ∃ existing created updated, Cycled base sources desired before middle existing created
      updated := by
  obtain ⟨discovery, stored, sameBase, live⟩ := starts.stored
  cases course_of_runs stored live run with
  | idle _ _ excused _ _ _ =>
      obtain ⟨_, _, impossible⟩ | failed | nothing := excused.reason
      · exact impossible.elim
      · cases failed
      · rw [sameBase.spec] at nothing
        exact absurd starts.discovered (nothing sources)
  | @found found current start earlier later _ _ discovered same _ storedAs elsewhere children =>
      rw [sameBase.spec, starts.discovered, Except.ok.injEq] at discovered
      subst discovered
      have currentSame := same.trans sameBase
      obtain ⟨rollout, rolled, cleaned, reported, between, afterwards, items, completed, _,
        phases⟩ := (phases_of_runs same storedAs children).2
      obtain ⟨success, _, _⟩ := phases.success rfl
      have pipelines : ∀ name, start.find .pipeline name = before.find .pipeline name :=
        fun name => elsewhere.find .pipeline name (by simp)
      obtain ⟨_, _, rfl, _⟩ | ⟨wanted, existing, created, updated, wantedBuilt, childrenAt,
        rolledOut, _, writes⟩ := runs_reconcilePipelines phases.rolling
      · cases success
      rw [currentSame.desiredPipelines, built, Except.ok.injEq] at wantedBuilt
      subst wantedBuilt
      rw [success] at rolledOut writes
      have untouched : ∀ name ∈ desired,
          middle.find .pipeline name = between.find .pipeline name := by
        intro name wantedName
        apply phases.untouched
        rw [currentSame.name]
        exact (mem_desired_iff_active built).mp wantedName
      refine ⟨existing, created, updated, ?_, rolledOut, ?_, ?_, ?_⟩
      · intro name pipeline
        rw [← pipelines, ← currentSame.name]
        exact childrenAt name pipeline
      · intro item member
        have inDesired := Finmap.mem_iff.mpr ⟨_, rolledOut.consistent item member⟩
        rw [untouched item.1 inDesired, ← currentSame.name]
        exact writes.adopted notFoundHonest_reliable rolledOut.consistent item member
      · intro name wantedName holds preserved initially
        rw [untouched name wantedName]
        rw [← pipelines] at initially
        apply writes.keeps _ initially
        intro wanted member earlier after held written
        have adopted := written.adopted
        rw [currentSame.name] at adopted
        exact preserved wanted (rolledOut.consistent _ member) earlier after held adopted
          written.deleting
      · intro name pipeline
        rw [← currentSame.name]
        exact phases.active_of_labelled rfl

section Effects

variable {existing : GoMap DataPrepperPipeline} {created updated : List (String × Desired)}

theorem Cycled.inPlace
    (cycled : Cycled base sources desired before middle existing created updated)
    {name : String} {wanted : Desired} (found : desired.lookup name = some wanted)
    (inPlace : InPlace base.name wanted name before) : InPlace base.name wanted name middle := by
  refine cycled.keeps name (Finmap.mem_iff.mpr ⟨wanted, found⟩)
    (fun stored => ∃ pipeline, stored = some pipeline ∧ Adopted base.name wanted pipeline ∧
      pipeline.metadata.deleting = false) ?_ inPlace
  rintro other foundOther _ after ⟨pipeline, rfl, _, alive⟩ adopted deleting
  rw [found, Option.some.injEq] at foundOther
  subst foundOther
  refine ⟨after, rfl, adopted, ?_⟩
  by_contra terminating
  obtain ⟨_, ⟨⟩, wasTerminating⟩ := deleting (by simpa using terminating)
  rw [alive] at wasTerminating
  cases wasTerminating

theorem Cycled.hashesTell
    (cycled : Cycled base sources desired before middle existing created updated)
    (tells : HashesTell base.name desired before) : HashesTell base.name desired middle := by
  intro name pipeline wanted found labelled wantedFound hash
  refine cycled.keeps name (Finmap.mem_iff.mpr ⟨wanted, wantedFound⟩)
    (fun stored => ∀ pipeline, stored = some pipeline → Labelled base.name pipeline →
      (pipeline.metadata.annotations.lookup templateGenerationKey).getD "" = wanted.hash →
      Adopted base.name wanted pipeline) ?_ ?_ pipeline found labelled hash
  · rintro other foundOther _ after _ adopted _ _ ⟨⟩ _ _
    rw [wantedFound, Option.some.injEq] at foundOther
    subst foundOther
    exact adopted
  · exact fun pipeline present labelled hash =>
      tells name pipeline wanted present labelled wantedFound hash

/-- A pipeline that is not being deleted before is not being deleted afterwards. -/
theorem Cycled.alive
    (cycled : Cycled base sources desired before middle existing created updated) {name : String}
    (inDesired : name ∈ desired)
    (alive : ∀ pipeline, before.find .pipeline name = some pipeline →
      pipeline.metadata.deleting = false) :
    ∀ pipeline, middle.find .pipeline name = some pipeline →
      pipeline.metadata.deleting = false := by
  refine cycled.keeps name inDesired
    (fun stored => ∀ pipeline, stored = some pipeline → pipeline.metadata.deleting = false)
    ?_ alive
  rintro _ _ earlier after held _ deleting _ ⟨⟩
  by_contra terminating
  obtain ⟨present, rfl, wasTerminating⟩ := deleting (by simpa using terminating)
  rw [held present rfl] at wasTerminating
  cases wasTerminating

/-- Unless everything is in place already, the cycle puts something in place. -/
theorem Cycled.progress
    (cycled : Cycled base sources desired before middle existing created updated)
    (built : desiredPipelines reconciler.toolkit base sources ∅ = .ok desired)
    (starts : CycleStarts reconciler base sources before)
    (tells : HashesTell base.name desired before)
    (alive : ∀ name pipeline, before.find .pipeline name = some pipeline →
      pipeline.metadata.deleting = false)
    {missing : String} {wanted : Desired} (found : desired.lookup missing = some wanted)
    (notYet : ¬InPlace base.name wanted missing before) :
    ∃ name other, desired.lookup name = some other ∧ ¬InPlace base.name other name before ∧
      InPlace base.name other name middle := by
  have someWritten : created ++ updated ≠ [] := by
    intro nothing
    obtain ⟨rfl, rfl⟩ := List.append_eq_nil_iff.mp nothing
    have present := cycled.rolled.noneMissing rfl rfl missing (Finmap.mem_iff.mpr ⟨_, found⟩)
    obtain ⟨child, listed⟩ := Finmap.mem_iff.mp present
    obtain ⟨stored, labelled⟩ := (cycled.children missing child).mp listed
    obtain noneStale | ⟨unhealthyName, unhealthy⟩ := cycled.rolled.noneStale rfl rfl
    · have fresh := noneStale missing
      simp only [isStale, listed, found, decide_eq_false_iff_not, not_not] at fresh
      exact notYet ⟨child, stored, tells missing child wanted stored labelled found fresh,
        alive missing child stored⟩
    · unfold isUnhealthy at unhealthy
      split at unhealthy
      · rename_i sick expected sickListed sickWanted
        obtain ⟨sickStored, sickLabelled⟩ := (cycled.children unhealthyName sick).mp sickListed
        obtain ⟨_, hash, phase⟩ := of_decide_eq_true unhealthy
        have adopted := tells unhealthyName sick expected sickStored sickLabelled sickWanted hash
        obtain ⟨notDegraded, notError⟩ := starts.healthy unhealthyName expected sick
          ((wantedChild_of_built built _).trans sickWanted) sickStored sickLabelled adopted.hash
        exact phase.elim notDegraded notError
      · cases unhealthy
  obtain ⟨item, member⟩ := List.exists_mem_of_ne_nil _ someWritten
  obtain ⟨stored, storedFound, adopted⟩ := cycled.adopted item member
  have wantedItem := cycled.rolled.consistent item member
  have inDesired := Finmap.mem_iff.mpr ⟨_, wantedItem⟩
  refine ⟨item.1, item.2, wantedItem, ?_, stored, storedFound, adopted,
    cycled.alive inDesired (alive item.1) stored storedFound⟩
  rintro ⟨pipeline, present, alreadyAdopted, _⟩
  have listed := (cycled.children item.1 pipeline).mpr ⟨present, alreadyAdopted.label⟩
  obtain inCreated | inUpdated := List.mem_append.mp member
  · rw [(cycled.rolled.missing item inCreated).2] at listed
    cases listed
  · have stale := (cycled.rolled.stale item inUpdated).2
    simp [isStale, listed, wantedItem, alreadyAdopted.hash] at stale

end Effects

end Cycle

section Convergence

variable {reconciler : DiscoveryReconciler} {base : DataPrepperSourceDiscovery}
  {sources : List DiscoveredSource} {desired : GoMap Desired} {before after start final : Cluster}

/-- What holds between any two cycles after the first. -/
structure Steady (base : DataPrepperSourceDiscovery) (sources : List DiscoveredSource)
    (cluster : Cluster) : Prop where
  alive : ∀ name pipeline, cluster.find .pipeline name = some pipeline →
    pipeline.metadata.deleting = false
  active : ∀ name pipeline, cluster.find .pipeline name = some pipeline →
    Labelled base.name pipeline → name ∈ activeNames base.name sources

theorem Settles.inPlace {wanted : Desired} {name : String}
    (settles : Settles base.name before after) (inPlace : InPlace base.name wanted name before) :
    InPlace base.name wanted name after := by
  obtain ⟨pipeline, found, adopted, alive⟩ := inPlace
  obtain ⟨later, present, content⟩ := settles.kept name pipeline found adopted.label alive
  exact ⟨later, present, adopted.of_content content, settles.alive name later present⟩

theorem Settles.hashesTell (settles : Settles base.name before after)
    (tells : HashesTell base.name desired before) : HashesTell base.name desired after := by
  intro name later wanted found labelled wantedFound hash
  obtain ⟨pipeline, present, _, content⟩ := settles.own name later found labelled
  rw [content.annotations] at hash
  exact (tells name pipeline wanted present ((labelled_of_content content).mp labelled)
    wantedFound hash).of_content content

section Round

variable (built : desiredPipelines reconciler.toolkit base sources ∅ = .ok desired)
  (round : Round reconciler base sources before after)

include built round

theorem round_hashesTell (tells : HashesTell base.name desired before) :
    HashesTell base.name desired after := by
  obtain ⟨starts, trace, result, middle, run, settles⟩ := round
  obtain ⟨existing, created, updated, cycled⟩ := cycled_of_runs built starts run
  exact settles.hashesTell (cycled.hashesTell tells)

theorem round_steady : Steady base sources after := by
  obtain ⟨starts, trace, result, middle, run, settles⟩ := round
  obtain ⟨existing, created, updated, cycled⟩ := cycled_of_runs built starts run
  refine ⟨settles.alive, ?_⟩
  intro name later found labelled
  obtain ⟨pipeline, present, alive, content⟩ := settles.own name later found labelled
  exact cycled.active name pipeline present ((labelled_of_content content).mp labelled) alive

theorem round_inPlace {name : String} {wanted : Desired}
    (found : desired.lookup name = some wanted) (inPlace : InPlace base.name wanted name before) :
    InPlace base.name wanted name after := by
  obtain ⟨starts, trace, result, middle, run, settles⟩ := round
  obtain ⟨existing, created, updated, cycled⟩ := cycled_of_runs built starts run
  exact settles.inPlace (cycled.inPlace found inPlace)

theorem round_progress (tells : HashesTell base.name desired before)
    (steady : Steady base sources before) {missing : String} {wanted : Desired}
    (found : desired.lookup missing = some wanted)
    (notYet : ¬InPlace base.name wanted missing before) :
    ∃ name other, desired.lookup name = some other ∧ ¬InPlace base.name other name before ∧
      InPlace base.name other name after := by
  obtain ⟨starts, trace, result, middle, run, settles⟩ := round
  obtain ⟨existing, created, updated, cycled⟩ := cycled_of_runs built starts run
  obtain ⟨name, other, wantedOther, notBefore, nowInPlace⟩ :=
    cycled.progress built starts tells steady.alive found notYet
  exact ⟨name, other, wantedOther, notBefore, settles.inPlace nowInPlace⟩

end Round

open Classical in
/-- The desired names whose child is not in place. -/
noncomputable def remaining (base : DataPrepperSourceDiscovery) (desired : GoMap Desired)
    (cluster : Cluster) : Finset String :=
  desired.keys.filter fun name =>
    ∃ wanted, desired.lookup name = some wanted ∧ ¬InPlace base.name wanted name cluster

open Classical in
theorem mem_remaining {cluster : Cluster} {name : String} :
    name ∈ remaining base desired cluster ↔
      ∃ wanted, desired.lookup name = some wanted ∧ ¬InPlace base.name wanted name cluster := by
  unfold remaining
  rw [Finset.mem_filter]
  constructor
  · exact And.right
  · rintro ⟨wanted, found, notYet⟩
    exact ⟨Finmap.mem_keys.mpr (Finmap.mem_iff.mpr ⟨wanted, found⟩), wanted, found, notYet⟩

theorem remaining_subset (cluster : Cluster) : remaining base desired cluster ⊆ desired.keys := by
  intro name member
  obtain ⟨wanted, found, _⟩ := mem_remaining.mp member
  exact Finmap.mem_keys.mpr (Finmap.mem_iff.mpr ⟨wanted, found⟩)

/-- A round from a steady state decreases the measure, unless it is zero. -/
theorem card_remaining_round
    (built : desiredPipelines reconciler.toolkit base sources ∅ = .ok desired)
    (round : Round reconciler base sources before after)
    (tells : HashesTell base.name desired before) (steady : Steady base sources before) :
    (remaining base desired after).card ≤ (remaining base desired before).card - 1 := by
  have subset : remaining base desired after ⊆ remaining base desired before := by
    intro name member
    obtain ⟨wanted, found, notAfter⟩ := mem_remaining.mp member
    exact mem_remaining.mpr ⟨wanted, found,
      fun inPlace => notAfter (round_inPlace built round found inPlace)⟩
  obtain empty | ⟨missing, member⟩ := (remaining base desired before).eq_empty_or_nonempty
  · rw [empty, Finset.subset_empty] at subset
    rw [subset]
    simp
  · obtain ⟨wanted, found, notYet⟩ := mem_remaining.mp member
    obtain ⟨name, other, wantedOther, notBefore, nowInPlace⟩ :=
      round_progress built round tells steady found notYet
    have strictly : remaining base desired after ⊂ remaining base desired before := by
      refine (Finset.ssubset_iff_of_subset subset).mpr
        ⟨name, mem_remaining.mpr ⟨other, wantedOther, notBefore⟩, ?_⟩
      intro stillMissing
      obtain ⟨again, wantedAgain, notAfter⟩ := mem_remaining.mp stillMissing
      rw [wantedOther, Option.some.injEq] at wantedAgain
      subst wantedAgain
      exact notAfter nowInPlace
    have smaller := Finset.card_lt_card strictly
    omega

theorem rounds_measure {count : Nat}
    (built : desiredPipelines reconciler.toolkit base sources ∅ = .ok desired)
    (tells : HashesTell base.name desired start)
    (rounds : Rounds reconciler base sources count start final) :
    HashesTell base.name desired final ∧ (count ≠ 0 → Steady base sources final ∧
      (remaining base desired final).card ≤ desired.keys.card + 1 - count) := by
  induction rounds with
  | none => exact ⟨tells, by simp⟩
  | @next count _ before after _ round ih =>
      obtain ⟨tellsBefore, measured⟩ := ih tells
      refine ⟨round_hashesTell built round tellsBefore, fun _ => ⟨round_steady built round, ?_⟩⟩
      by_cases first : count = 0
      · have bound : (remaining base desired after).card ≤ desired.keys.card :=
          Finset.card_le_card (remaining_subset after)
        omega
      · obtain ⟨steady, bound⟩ := measured first
        have decrease := card_remaining_round built round tellsBefore steady
        omega

theorem card_keys_le (built : desiredPipelines reconciler.toolkit base sources ∅ = .ok desired) :
    desired.keys.card ≤ sources.length := by
  have subset : desired.keys ⊆ (activeNames base.name sources).toFinset := by
    intro name member
    exact List.mem_toFinset.mpr
      ((mem_desired_iff_active built).mp (Finmap.mem_keys.mp member))
  calc
    desired.keys.card ≤ (activeNames base.name sources).toFinset.card := Finset.card_le_card subset
    _ ≤ (activeNames base.name sources).length := List.toFinset_card_le _
    _ = sources.length := List.length_map _

/-- Everything is in place and nothing else is labelled. -/
structure AllInPlace (base : DataPrepperSourceDiscovery) (sources : List DiscoveredSource)
    (desired : GoMap Desired) (cluster : Cluster) : Prop where
  steady : Steady base sources cluster
  inPlace : ∀ name wanted, desired.lookup name = some wanted →
    InPlace base.name wanted name cluster

theorem AllInPlace.converged
    (built : desiredPipelines reconciler.toolkit base sources ∅ = .ok desired)
    (placed : AllInPlace base sources desired final) :
    Converged reconciler base sources final := by
  constructor
  · intro name
    constructor
    · rintro ⟨pipeline, found, labelled⟩
      obtain ⟨source, member, same⟩ := List.mem_map.mp
        (placed.steady.active name pipeline found labelled)
      exact ⟨source, member, same.symm⟩
    · intro sourced
      have wantedName : name ∈ desired := (mem_desiredPipelines built).mpr (.inr sourced)
      obtain ⟨wanted, found⟩ := Finmap.mem_iff.mp wantedName
      obtain ⟨pipeline, present, adopted, _⟩ := placed.inPlace name wanted found
      exact ⟨pipeline, present, adopted.label⟩
  · intro name pipeline found labelled
    have active := placed.steady.active name pipeline found labelled
    obtain ⟨wanted, wantedFound⟩ := Finmap.mem_iff.mp ((mem_desired_iff_active built).mpr active)
    obtain ⟨stored, present, adopted, _⟩ := placed.inPlace name wanted wantedFound
    rw [found, Option.some.injEq] at present
    subst present
    obtain impossible | ⟨source, member, named, rendered, hash⟩ :=
      source_of_desiredPipelines built wantedFound
    · rw [Finmap.lookup_empty] at impossible
      cases impossible
    · rw [adopted.spec, adopted.hash, hash]
      exact ⟨source, member, named, rendered, rfl⟩

/-- Nothing is written if every desired child is there with its hash. -/
theorem RolledOut.nothing {existing : GoMap DataPrepperPipeline} {completed : Bool}
    {created updated : List (String × Desired)} {discovery : String}
    (rolledOut : RolledOut desired existing completed created updated)
    (present : ∀ name wanted, desired.lookup name = some wanted → ∃ child,
      existing.lookup name = some child ∧ Adopted discovery wanted child) :
    created = [] ∧ updated = [] := by
  constructor <;> apply List.eq_nil_iff_forall_not_mem.mpr <;> intro item member
  · obtain ⟨wanted, absent⟩ := rolledOut.missing item member
    obtain ⟨child, listed, _⟩ := present item.1 item.2 wanted
    rw [absent] at listed
    cases listed
  · obtain ⟨wanted, stale⟩ := rolledOut.stale item member
    obtain ⟨child, listed, adopted⟩ := present item.1 item.2 wanted
    simp [isStale, listed, wanted, adopted.hash] at stale

/-- With everything in place a cycle has no child to write. -/
theorem AllInPlace.quiet {outcome : Except String ReconcileResult}
    {trace : List (Event Cluster Op Reply)} {last : Cluster}
    (built : desiredPipelines reconciler.toolkit base sources ∅ = .ok desired)
    (placed : AllInPlace base sources desired final)
    (starts : CycleStarts reconciler base sources final)
    (run : Runs Reliable (reconcile reconciler base.name).run final trace outcome last) :
    NoChildWrites trace := by
  obtain ⟨discovery, stored, sameBase, live⟩ := starts.stored
  cases course_of_runs stored live run with
  | idle _ _ _ quiet _ _ => exact noChildWrites_of_quiet quiet
  | @found found current start earlier later _ joined discovered same quiet storedAs elsewhere
      children =>
      rw [sameBase.spec, starts.discovered, Except.ok.injEq] at discovered
      subst discovered
      subst joined
      have currentSame := same.trans sameBase
      obtain ⟨rollout, rolled, cleaned, reported, between, afterwards, items, completed, rfl,
        phases⟩ := (phases_of_runs same storedAs children).2
      have pipelines : ∀ name, start.find .pipeline name = final.find .pipeline name :=
        fun name => elsewhere.find .pipeline name (by simp)
      obtain ⟨_, unbuilt, _⟩ | ⟨wanted, existing, created, updated, wantedBuilt, childrenAt,
        rolledOut, _, writes⟩ := runs_reconcilePipelines phases.rolling
      · rw [currentSame.desiredPipelines, built] at unbuilt
        cases unbuilt
      rw [currentSame.desiredPipelines, built, Except.ok.injEq] at wantedBuilt
      subst wantedBuilt
      have present : ∀ name wanted, desired.lookup name = some wanted → ∃ child,
          existing.lookup name = some child ∧ Adopted base.name wanted child := by
        intro name wanted found
        obtain ⟨child, stored, adopted, _⟩ := placed.inPlace name wanted found
        refine ⟨child, (childrenAt name child).mpr ⟨(pipelines name).trans stored, ?_⟩, adopted⟩
        rw [currentSame.name]
        exact adopted.label
      obtain ⟨rfl, rfl⟩ := rolledOut.nothing present
      have noneCleaned : items = [] := by
        apply List.eq_nil_iff_forall_not_mem.mpr
        intro item member
        obtain ⟨found, labelled, inactive⟩ := phases.inactive item member
        rw [writes.frame (by simp), pipelines] at found
        rw [currentSame.name] at labelled inactive
        exact inactive (placed.steady.active item.name item found labelled)
      subst noneCleaned
      intro event member child targeted
      obtain inEarlier | inLater := List.mem_append.mp member
      · exact noChildWrites_of_quiet quiet event inEarlier child targeted
      obtain inRolled | inRest := List.mem_append.mp inLater
      · have reads := writes.events event inRolled
        simp [targeted] at reads
      obtain inCleaned | inReported := List.mem_append.mp inRest
      · have reads := phases.cleaned_events event inCleaned
        simp [targeted] at reads
      · exact noChildWrites_of_quiet phases.quiet event inReported child targeted

/-- From any children that this controller wrote, with the hash telling their specs
from the rendered ones, as many successful cycles as there are sources, and one more,
lead to exactly the children of the sources; from then on a cycle writes no child. -/
theorem discovery_converges {count : Nat}
    (rendered : AllRender reconciler.toolkit base sources)
    (written : ∀ name pipeline, start.find .pipeline name = some pipeline →
      Labelled base.name pipeline →
      pipeline.metadata.annotations.lookup templateGenerationKey =
        some (computeSpecHash reconciler.toolkit pipeline.spec))
    (injective : ∀ name pipeline, start.find .pipeline name = some pipeline →
      Labelled base.name pipeline → ∀ source ∈ sources, ∀ spec,
      renderPipelineSpec reconciler.toolkit base source = .ok spec →
      computeSpecHash reconciler.toolkit pipeline.spec =
        computeSpecHash reconciler.toolkit spec → pipeline.spec = spec)
    (rounds : Rounds reconciler base sources count start final)
    (enough : sources.length < count) :
    Converged reconciler base sources final ∧
      ∀ trace outcome last, CycleStarts reconciler base sources final →
        Runs Reliable (reconcile reconciler base.name).run final trace outcome last →
        NoChildWrites trace := by
  obtain ⟨desired, built⟩ := desiredPipelines_of_rendered rendered ∅
  have tells : HashesTell base.name desired start := by
    intro name pipeline wanted found labelled wantedFound hash
    have annotated := written name pipeline found labelled
    obtain impossible | ⟨source, member, _, success, wantedHash⟩ :=
      source_of_desiredPipelines built wantedFound
    · rw [Finmap.lookup_empty] at impossible
      cases impossible
    · rw [annotated, Option.getD_some] at hash
      have spec := injective name pipeline found labelled source member wanted.spec success
        (hash.trans wantedHash)
      exact ⟨labelled, by rw [annotated, hash], spec⟩
  obtain ⟨_, measured⟩ := rounds_measure built tells rounds
  obtain ⟨steady, bound⟩ := measured (by omega)
  have exhausted : remaining base desired final = ∅ := by
    have few := card_keys_le built
    apply Finset.card_eq_zero.mp
    omega
  have placed : AllInPlace base sources desired final := by
    refine ⟨steady, ?_⟩
    intro name wanted found
    by_contra notYet
    have member := mem_remaining.mpr ⟨wanted, found, notYet⟩
    rw [exhausted] at member
    cases member
  exact ⟨placed.converged built, fun _ _ _ starts run => placed.quiet built starts run⟩

end Convergence

/-- The template changes, one topic goes and another one comes. -/
def changedTemplate : Cluster :=
  withTopics ["logs-b", "logs-c"] (withDiscoverySpec (topicDiscovery "v2" .delete).spec
    (afterCycle (withTopics ["logs-a", "logs-b"]
      (Cluster.empty.create (topicDiscovery "v1" .delete)).2)))

def twoTopics : List DiscoveredSource :=
  [{ name := "logs-b", metadata := [("partitions", .number 1)] },
    { name := "logs-c", metadata := [("partitions", .number 1)] }]

theorem forall_labelled {discovery : String} {cluster : Cluster}
    {holds : DataPrepperPipeline → Prop}
    (each : ∀ pipeline ∈ cluster.matching (.matchingLabels discoveryLabelKey discovery),
      holds pipeline) {name : String} {pipeline : DataPrepperPipeline}
    (found : cluster.find .pipeline name = some pipeline) (labelled : Labelled discovery pipeline) :
    holds pipeline := by
  apply each
  have named : pipeline.name = name := Cluster.name_of_find found
  exact (mem_listed (.refl _)).mpr ⟨by rwa [named], labelled⟩

/-- What the computation of one cycle of the sample discovery shows. -/
abbrev CompletesRound (image : String) (policy : CleanupPolicy) (sources : List DiscoveredSource)
    (cluster : Cluster) : Prop :=
  (cluster.find .sourceDiscovery "topics").map (fun discovery =>
      (discovery.name, discovery.metadata.nameSpace, discovery.spec,
        discovery.metadata.deleting)) =
      some ("topics", "logs", (topicDiscovery image policy).spec, false) ∧
    sourcesIn sampleDiscoveryReconciler (topicDiscovery image policy).spec cluster =
      .ok sources ∧
    (∀ pipeline ∈ cluster.matching (.matchingLabels discoveryLabelKey "topics"),
      pipeline.status.phase = .unset) ∧
    ((reconcile sampleDiscoveryReconciler "topics").run.execute Cluster.answer
      cluster).1.isOk = true ∧
    ∀ pipeline ∈ (afterCycle cluster).matching .everything, pipeline.metadata.deleting = false

/-- A cycle of the sample discovery after which nothing happens. -/
theorem round_of_execution {cluster : Cluster} {image : String} {policy : CleanupPolicy}
    {sources : List DiscoveredSource} (completes : CompletesRound image policy sources cluster) :
    Round sampleDiscoveryReconciler (topicDiscovery image policy) sources cluster
      (afterCycle cluster) := by
  obtain ⟨stored, discovered, healthy, succeeded, alive⟩ := completes
  obtain ⟨discovery, found, same⟩ := Option.map_eq_some_iff.mp stored
  simp only [Prod.mk.injEq] at same
  obtain ⟨sameName, sameSpace, sameSpec, live⟩ := same
  obtain ⟨trace, run⟩ : ∃ trace, Runs Reliable
      (reconcile sampleDiscoveryReconciler "topics").run cluster trace _ _ := runs_execute _ _
  have everyAlive : ∀ name pipeline, (afterCycle cluster).find .pipeline name = some pipeline →
      pipeline.metadata.deleting = false := by
    intro name pipeline present
    have named : pipeline.name = name := Cluster.name_of_find present
    exact alive pipeline (Cluster.mem_matching.mpr ⟨by rwa [named], rfl⟩)
  cases outcome : ((reconcile sampleDiscoveryReconciler "topics").run.execute Cluster.answer
      cluster).1 with
  | error message =>
      rw [outcome] at succeeded
      cases succeeded
  | ok result =>
      rw [outcome] at run
      refine ⟨⟨⟨discovery, found, ⟨sameName, sameSpace, sameSpec⟩, live⟩, discovered, ?_⟩,
        trace, result, afterCycle cluster, run, everyAlive, ?_, ?_⟩
      · intro name wanted pipeline _ present labelled _
        have phase := forall_labelled healthy present labelled
        simp [phase]
      · exact fun name pipeline present _ _ => ⟨pipeline, present, rfl, rfl, rfl, rfl⟩
      · exact fun name pipeline present _ =>
          ⟨pipeline, present, everyAlive name pipeline present, rfl, rfl, rfl, rfl⟩

theorem discovery_converges_after_template_change :
    Converged sampleDiscoveryReconciler (topicDiscovery "v2" .delete) twoTopics
      (afterCycle (afterCycle (afterCycle changedTemplate))) := by
  have rounds : Rounds sampleDiscoveryReconciler (topicDiscovery "v2" .delete) twoTopics 3
      changedTemplate (afterCycle (afterCycle (afterCycle changedTemplate))) :=
    .next (.next (.next .none (round_of_execution (by decide +kernel)))
      (round_of_execution (by decide +kernel))) (round_of_execution (by decide +kernel))
  have written : ∀ pipeline ∈ changedTemplate.matching (.matchingLabels discoveryLabelKey "topics"),
      pipeline.metadata.annotations.lookup templateGenerationKey =
        some (computeSpecHash sampleDiscoveryReconciler.toolkit pipeline.spec) ∧
      computeSpecHash sampleDiscoveryReconciler.toolkit pipeline.spec ≠
        computeSpecHash sampleDiscoveryReconciler.toolkit { image := "v2" } := by
    decide +kernel
  refine (discovery_converges ?_ ?_ ?_ rounds (by decide)).1
  · intro source _
    exact ⟨_, rfl⟩
  · exact fun name pipeline found labelled => (forall_labelled written found labelled).1
  · intro name pipeline found labelled source _ spec rendered same
    cases rendered
    exact absurd same (forall_labelled written found labelled).2

end DataPrepperOperator.Controller.SourceDiscovery
