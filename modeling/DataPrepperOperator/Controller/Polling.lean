import DataPrepperOperator.Controller.Quiescence

/-!
# Polling

A live discovery is looked at again only if its reconcile fails or asks for a positive
delay.  The delays of the operator are positive; the poll interval is the user's.
-/

namespace DataPrepperOperator.Controller.SourceDiscovery

open ServerProgram DataPrepperOperator.Api DataPrepperOperator.Discovery

variable {faulty : (op : Op) → Reply op → Prop}

/-- The client factory for the kind of source is configured. -/
def HasDiscoverer (reconciler : DiscoveryReconciler) (spec : DataPrepperSourceDiscoverySpec) :
    Prop :=
  match spec.kafka with
  | some _ => reconciler.adminClientFactory = true
  | none => reconciler.s3ClientFactory = true

inductive Ends (reconciler : DiscoveryReconciler) (fetched : DataPrepperSourceDiscovery) :
    Except String ReconcileResult → Prop where
  | failed (message : String) : Ends reconciler fetched (.error message)
  | backedOff (failures : Int) :
      Ends reconciler fetched (.ok { requeueAfter := discoveryBackoff failures })
  | reported (rollout : Rollout) (sources : Nat) : HasDiscoverer reconciler fetched.spec →
      Ends reconciler fetched (.ok (requeue reconciler.toolkit fetched rollout sources))

section Ends

variable {reconciler : DiscoveryReconciler} {fetched : DataPrepperSourceDiscovery}
  {state final : Cluster} {trace : List (Event Cluster Op Reply)}
  {outcome : Except String ReconcileResult}

/-- Without a client factory nothing is discovered. -/
theorem hasDiscoverer_of_runs {discover : Reconciler (List DiscoveredSource)}
    {sources : List DiscoveredSource}
    (chosen : discoverSources reconciler fetched.spec = some discover)
    (run : Runs (Serves faulty) discover.run state trace (.ok sources) final) :
    HasDiscoverer reconciler fetched.spec := by
  unfold discoverSources at chosen
  unfold HasDiscoverer
  split at chosen
  next kafka configured =>
    obtain rfl := Option.some.inj chosen
    by_contra unconfigured
    unfold discoverKafka at run
    rw [configured] at unconfigured
    rw [if_pos (by simpa using unconfigured)] at run
    obtain ⟨_, impossible, _⟩ := runs_throw_iff.mp run
    cases impossible
  next s3 absent configured =>
    obtain rfl := Option.some.inj chosen
    by_contra unconfigured
    unfold discoverS3 at run
    rw [absent] at unconfigured
    rw [if_pos (by simpa using unconfigured)] at run
    obtain ⟨_, impossible, _⟩ := runs_throw_iff.mp run
    cases impossible
  next => cases chosen

theorem ends_of_runCycle {discovery : DataPrepperSourceDiscovery}
    {discover : Reconciler (List DiscoveredSource)} (same : SameSource discovery fetched)
    (stored : StoredAs fetched state)
    (chosen : discoverSources reconciler fetched.spec = some discover)
    (run : Runs (Serves faulty) (runCycle reconciler discovery discover).run state trace outcome
      final) :
    Ends reconciler fetched outcome := by
  obtain ⟨tried, between, found, rest, rfl, discovered, continued⟩ := runs_lift_bind run
  obtain ⟨rfl, _, _⟩ := observes_discoverSources chosen _ _ _ _ discovered
  cases found with
  | error message =>
      obtain ⟨result, rfl, reported⟩ := runs_lift_iff.mp continued
      obtain ⟨_, _, rfl⟩ := tends_reportFailure same message _ _ _ _ stored reported
      exact .backedOff _
  | ok sources =>
      obtain ⟨cleared, start, current, children, rfl, clearing, remaining⟩ :=
        runs_lift_bind continued
      obtain ⟨_, stillStored, currentSame⟩ := tends_clearFailures same _ _ _ _ stored clearing
      obtain ⟨_, _, _, _, _, _, afterwards, _, _, _, phases⟩ :=
        phases_of_runs currentSame stillStored remaining
      cases outcome with
      | error message => exact .failed message
      | ok result =>
          obtain ⟨rollout, _, reporting⟩ := phases.reporting rfl
          have storedAfterwards : StoredAs fetched afterwards := by
            intro found present
            rw [phases.find_discovery] at present
            exact stillStored found present
          obtain ⟨_, _, rfl⟩ := tends_report reconciler currentSame sources rollout _ _ _ _
            storedAfterwards reporting
          exact .reported rollout _ (hasDiscoverer_of_runs chosen discovered)

theorem ends_of_runs {name : String} (honest : NotFoundHonest faulty)
    (stored : state.find .sourceDiscovery name = some fetched)
    (live : fetched.metadata.deleting = false)
    (sourced : fetched.spec.kafka.isSome ∨ fetched.spec.s3.isSome)
    (run : Runs (Serves faulty) (reconcile reconciler name).run state trace outcome final) :
    Ends reconciler fetched outcome := by
  obtain ⟨reply, middle, rest, served, rfl, continued⟩ := runs_ask_bind run
  obtain rfl := served.unchanged rfl
  have storedAs := storedAs_of_find stored
  cases reply with
  | error error =>
      cases error with
      | notFound kind missing =>
          have absent := (served.find_of_notFound honest).1
          rw [stored] at absent
          cases absent
      | _ =>
          obtain ⟨_, rfl, _⟩ := runs_throw_iff.mp continued
          exact .failed _
  | ok discovery =>
      have found := served.find_of_get.1
      rw [stored, Option.some.injEq] at found
      subst found
      simp only [live, Bool.false_eq_true, if_false] at continued
      rcases runs_fallible_bind_iff.mp continued with
        ⟨failure, rfl, _⟩ | ⟨finalized, between, discovery, rest, rfl, ensuring, cycling⟩
      · exact .failed failure
      · obtain ⟨_, stillStored, same⟩ :=
          tends_ensureFinalizer ⟨rfl, rfl, rfl⟩ _ _ _ _ storedAs ensuring
        rw [same.spec] at cycling
        cases chosen : discoverSources reconciler fetched.spec with
        | none =>
            unfold discoverSources at chosen
            split at chosen <;> simp_all
        | some discover =>
            simp only [chosen] at cycling
            exact ends_of_runCycle same stillStored chosen cycling

end Ends

theorem discoveryBackoff_pos (failures : Int) : 0 < discoveryBackoff failures := by
  unfold discoveryBackoff
  split
  · decide
  · have power : (0 : Int) < 2 ^ (failures - 1).toNat := by positivity
    exact lt_min (Int.mul_pos (by decide) power) (by decide)

/-- The text of the interval is unset, unreadable or a positive duration. -/
def PositiveInterval (toolkit : Toolkit) (interval : String) : Prop :=
  ∀ duration, interval ≠ "" → toolkit.parseDuration interval = .ok duration → 0 < duration

theorem parsePollInterval_pos_iff {toolkit : Toolkit} {interval : String} :
    0 < parsePollInterval toolkit interval ↔ PositiveInterval toolkit interval := by
  unfold parsePollInterval PositiveInterval
  split
  next empty => simp [empty, defaultPollInterval, second]
  next set =>
    split
    next message unreadable => simp [unreadable, defaultPollInterval, second]
    next duration read => simp [read, set]

theorem Ends.requeueAfter_pos {reconciler : DiscoveryReconciler}
    {fetched : DataPrepperSourceDiscovery} {outcome : Except String ReconcileResult}
    (ends : Ends reconciler fetched outcome)
    (positive : HasDiscoverer reconciler fetched.spec →
      PositiveInterval reconciler.toolkit (discoveryPollInterval fetched)) :
    OnSuccess (fun result => 0 < result.requeueAfter) outcome := by
  cases ends with
  | failed message => trivial
  | backedOff failures => exact discoveryBackoff_pos failures
  | reported rollout sources configured =>
      simp only [OnSuccess, requeue]
      split
      · decide
      · split
        · decide
        · exact parsePollInterval_pos_iff.mpr (positive configured)

section Idle

variable {reconciler : DiscoveryReconciler} {discovery fetched : DataPrepperSourceDiscovery}
  {state final : Cluster} {trace : List (Event Cluster Op Reply)}

/-- Without children there is nothing behind a listing. -/
theorem runs_listing_idle {Result : Type} {context : String}
    {rest : List DataPrepperPipeline → Reconciler Result} {outcome : Except String Result}
    (childless : state.matching (childSelector discovery) = [])
    (run : Runs Reliable (wrapError context
      (callApi (Client.listPipelines (childSelector discovery))) >>= rest).run state trace outcome
      final) :
    ∃ later, Runs Reliable (rest []).run state later outcome final := by
  obtain ⟨_, rfl, failed⟩ | ⟨_, middle, items, later, rfl, ran, continued⟩ :=
    runs_fallible_bind_iff.mp run
  · obtain ⟨_, ran, failure⟩ := runs_of_wrapError failed
    obtain ⟨_, called, rfl⟩ := runs_of_callApi ran
    obtain ⟨⟨_, _, rfl⟩, _⟩ := honest_of_reliable (runs_request_iff.mp called).1
    cases failure
  · obtain ⟨served, _⟩ := runs_request_iff.mp (runs_callApi_ok (runs_wrapError_ok ran))
    obtain ⟨⟨_, listed, same⟩, rfl⟩ := honest_of_reliable served
    cases same
    rw [childless] at listed
    rw [listed.eq_nil] at continued
    exact ⟨later, continued⟩

theorem runs_reconcilePipelines_idle {outcome : Except String Rollout}
    (childless : state.matching (childSelector discovery) = [])
    (run : Runs Reliable (reconcilePipelines reconciler discovery []).run state trace outcome
      final) :
    outcome = .ok {} ∧ final = state := by
  obtain ⟨_, impossible, _⟩ | ⟨_, built, continued⟩ := runs_ofExcept_bind run
  · cases impossible
  · cases built
    obtain ⟨_, rolling⟩ := runs_listing_idle childless continued
    obtain ⟨order, middle, later, served, rfl, creating⟩ := runs_ask_bind rolling
    obtain rfl : middle = state := honest_of_reliable served
    have nothing : order.1 = [] := order.2.eq_nil
    rw [nothing] at creating
    obtain ⟨order, middle, later, served, rfl, updating⟩ := runs_ask_bind creating
    obtain rfl : middle = _ := honest_of_reliable served
    have none : order.1 = [] := order.2.eq_nil
    rw [none] at updating
    obtain ⟨_, rfl, rfl⟩ := runs_pure_iff.mp updating
    exact ⟨rfl, rfl⟩

theorem runs_cleanupOrphans_idle {outcome : Except String Unit}
    (childless : state.matching (childSelector discovery) = [])
    (run : Runs Reliable (cleanupOrphans discovery []).run state trace outcome final) :
    outcome = .ok () ∧ final = state := by
  obtain ⟨_, cleaning⟩ := runs_listing_idle childless run
  obtain ⟨_, rfl, rfl⟩ := runs_pure_iff.mp cleaning
  exact ⟨rfl, rfl⟩

theorem outcome_of_idle {outcome : Except String ReconcileResult}
    (stored : state.find .sourceDiscovery fetched.name = some fetched)
    (live : fetched.metadata.deleting = false)
    (discovered : sourcesIn reconciler fetched.spec state = .ok [])
    (childless : ∀ name, state.find .pipeline name = none)
    (run : Runs Reliable (reconcile reconciler fetched.name).run state trace outcome final) :
    outcome = .ok { requeueAfter :=
      parsePollInterval reconciler.toolkit (discoveryPollInterval fetched) } := by
  obtain ⟨current, start, later, held, _, same, elsewhere, _, _, running⟩ :=
    prepared_of_runs stored live discovered run
  have childlessStart : start.matching (childSelector current) = [] := by
    rw [List.eq_nil_iff_forall_not_mem]
    intro child member
    have present := (Cluster.mem_matching.mp member).1
    rw [elsewhere.find .pipeline _ (by simp), childless] at present
    cases present
  obtain ⟨_, _, failed⟩ | ⟨_, between, rollout, _, rfl, rolling, continued⟩ :=
    runs_fallible_bind_iff.mp running
  · cases (runs_reconcilePipelines_idle childlessStart failed).1
  obtain ⟨succeeded, rfl⟩ := runs_reconcilePipelines_idle childlessStart rolling
  cases succeeded
  obtain ⟨_, _, failed⟩ | ⟨_, between, _, _, rfl, cleaning, reporting⟩ :=
    runs_fallible_bind_iff.mp continued
  · cases (runs_cleanupOrphans_idle childlessStart failed).1
  obtain ⟨_, rfl⟩ := runs_cleanupOrphans_idle childlessStart cleaning
  rw [(runs_report held.stored reporting).1, same.requeue]
  simp [requeue]

end Idle

/-- A namespace with a discovery and a Secret, where there is nothing to discover. -/
def quietCluster (discovery : DataPrepperSourceDiscovery) (secret : String) : Cluster where
  objects := Cluster.insertObject
    (Cluster.insertObject (fun _ => ∅) (Object.named .secret secret "")) discovery
  clock := discovery.metadata.resourceVersion
  fieldIndex _ _ := []
  kafka _ := .ok { partitionCount := fun _ => .ok 0, topics := .ok [] }
  s3 _ := .ok fun _ _ => .ok []
  named := by
    intro kind name object stored
    rcases Cluster.lookup_insertObject stored with ⟨rfl, rfl, rfl⟩ | earlier
    · rfl
    · rcases Cluster.lookup_insertObject earlier with ⟨rfl, rfl, rfl⟩ | earliest
      · rfl
      · cases earliest
  versioned := by
    intro kind name object stored
    rcases Cluster.lookup_insertObject stored with ⟨rfl, rfl, rfl⟩ | earlier
    · exact Nat.le_refl _
    · rcases Cluster.lookup_insertObject earlier with ⟨rfl, rfl, rfl⟩ | earliest
      · exact Nat.zero_le _
      · cases earliest

theorem find_quietCluster (discovery : DataPrepperSourceDiscovery) (secret : String) :
    (quietCluster discovery secret).find .sourceDiscovery discovery.name = some discovery := by
  simp only [quietCluster, Cluster.find, Cluster.insertObject, Function.update_self]
  exact AList.lookup_insert _

theorem find_secret_quietCluster (discovery : DataPrepperSourceDiscovery) (secret : String) :
    (quietCluster discovery secret).find .secret secret =
      some (Object.named .secret secret "") := by
  have other : Kind.secret ≠ Kind.sourceDiscovery := by simp
  simp only [quietCluster, Cluster.find, Cluster.insertObject, Function.update_self,
    Function.update_of_ne other]
  exact AList.lookup_insert _

theorem find_pipeline_quietCluster (discovery : DataPrepperSourceDiscovery)
    (secret name : String) : (quietCluster discovery secret).find .pipeline name = none := by
  simp [quietCluster, Cluster.find, Cluster.insertObject]

theorem kafkaSourcesIn_quietCluster {reconciler : DiscoveryReconciler}
    (discovery : DataPrepperSourceDiscovery) (kafka : KafkaDiscoverySpec)
    (configured : reconciler.adminClientFactory = true) :
    ∃ secret, kafkaSourcesIn reconciler kafka (quietCluster discovery secret) = .ok [] := by
  refine ⟨(kafka.credentialsSecretRef.map SecretReference.name).getD "", ?_⟩
  unfold kafkaSourcesIn kafkaConfigIn
  rw [if_neg (by simp [configured])]
  cases kafka.credentialsSecretRef with
  | none => rfl
  | some reference =>
      simp only [Option.map_some, Option.getD_some, Cluster.read, find_secret_quietCluster]
      rfl

theorem s3SourcesIn_quietCluster {reconciler : DiscoveryReconciler}
    (discovery : DataPrepperSourceDiscovery) (s3 : S3DiscoverySpec)
    (configured : reconciler.s3ClientFactory = true) :
    ∃ secret, s3SourcesIn reconciler s3 (quietCluster discovery secret) = .ok [] := by
  refine ⟨(s3.credentialsSecretRef.map SecretReference.name).getD "", ?_⟩
  have empty : ∀ (discoverer : S3Discoverer) (further : Nat) (pathPrefix : String),
      discoverer.prefixesAt (fun _ _ => .ok []) further pathPrefix = .ok [] := by
    intro discoverer further pathPrefix
    cases further <;> rfl
  unfold s3SourcesIn s3ConfigIn
  rw [if_neg (by simp [configured])]
  cases s3.credentialsSecretRef with
  | none =>
      simp only [Except.bind, quietCluster, Except.map, Except.mapError, S3Discoverer.prefixesIn,
        empty]
      rfl
  | some reference =>
      simp only [Option.map_some, Option.getD_some, Cluster.read, find_secret_quietCluster]
      simp only [Except.bind, quietCluster, Except.map, Except.mapError, S3Discoverer.prefixesIn,
        empty]
      rfl

/-- With a client for it, a quiet namespace shows no sources. -/
theorem sourcesIn_quietCluster {reconciler : DiscoveryReconciler}
    {discovery : DataPrepperSourceDiscovery}
    (sourced : discovery.spec.kafka.isSome ∨ discovery.spec.s3.isSome)
    (configured : HasDiscoverer reconciler discovery.spec) :
    ∃ secret, sourcesIn reconciler discovery.spec (quietCluster discovery secret) = .ok [] := by
  unfold HasDiscoverer at configured
  unfold sourcesIn
  split
  next kafka set =>
    rw [set] at configured
    exact kafkaSourcesIn_quietCluster discovery kafka configured
  next s3 unset set =>
    rw [unset] at configured
    exact s3SourcesIn_quietCluster discovery s3 configured
  next unset unsetToo => simp [unset, unsetToo] at sourced

/-- Every reconcile of the discovery fails or asks for another one after a positive delay,
whatever else fails. -/
def KeepsPolling (reconciler : DiscoveryReconciler) (discovery : DataPrepperSourceDiscovery) :
    Prop :=
  ∀ (faulty : (op : Op) → Reply op → Prop) (state : Cluster)
    (trace : List (Event Cluster Op Reply)) (outcome : Except String ReconcileResult)
    (final : Cluster), NotFoundHonest faulty →
    state.find .sourceDiscovery discovery.name = some discovery →
    Runs (Serves faulty) (reconcile reconciler discovery.name).run state trace outcome final →
    OnSuccess (fun result => 0 < result.requeueAfter) outcome

theorem polling_continues_iff {reconciler : DiscoveryReconciler}
    {discovery : DataPrepperSourceDiscovery} (live : discovery.metadata.deleting = false)
    (sourced : discovery.spec.kafka.isSome ∨ discovery.spec.s3.isSome) :
    KeepsPolling reconciler discovery ↔
      (HasDiscoverer reconciler discovery.spec →
        PositiveInterval reconciler.toolkit (discoveryPollInterval discovery)) := by
  constructor
  · intro polling configured
    obtain ⟨secret, discovered⟩ := sourcesIn_quietCluster sourced configured
    have stored := find_quietCluster discovery secret
    obtain ⟨trace, run⟩ : ∃ trace, Runs Reliable _ _ trace _ _ :=
      runs_execute (reconcile reconciler discovery.name).run (quietCluster discovery secret)
    have polled := polling _ _ _ _ _ notFoundHonest_reliable stored run
    rw [outcome_of_idle stored live discovered (find_pipeline_quietCluster _ _) run] at polled
    exact parsePollInterval_pos_iff.mp polled
  · intro positive faulty state trace outcome final honest stored run
    exact (ends_of_runs honest stored live sourced run).requeueAfter_pos positive

/-- The stand-ins, with the durations of Go. -/
def timedReconciler : DiscoveryReconciler :=
  { sampleDiscoveryReconciler with
    toolkit :=
      { sampleDiscoveryReconciler.toolkit with
        parseDuration := fun text =>
          match GoText.parseDuration text with
          | some duration => .ok duration
          | none => .error ("time: invalid duration " ++ GoText.quote text) } }

/-- A discovery of topics with this poll interval. -/
def polledDiscovery (interval : String) : DataPrepperSourceDiscovery where
  metadata := { name := "topics", nameSpace := "logs" }
  spec :=
    { kafka := some
        { bootstrapServers := ["kafka:9092"], topicSelector := { topicPrefix := "" }
          pollInterval := interval }
      pipelineTemplate := { spec := { image := "data-prepper" } } }
  status := {}

theorem polling_continues_each_minute :
    KeepsPolling timedReconciler (polledDiscovery "1m") := by
  refine (polling_continues_iff rfl (.inl rfl)).mpr fun _ duration _ read => ?_
  have minute : timedReconciler.toolkit.parseDuration "1m" = .ok (60 * second) := by
    decide +kernel
  cases read.symm.trans minute
  decide

/-- An interval of zero ends the polling without an error. -/
theorem polling_stops_at_zero :
    (polledDiscovery "0s").metadata.deleting = false ∧
      (polledDiscovery "0s").spec.kafka.isSome = true ∧
      ((reconcile timedReconciler "topics").run.execute Cluster.answer
        (quietCluster (polledDiscovery "0s") "")).1 = .ok { requeueAfter := 0 } ∧
      ¬KeepsPolling timedReconciler (polledDiscovery "0s") := by
  have ended : ((reconcile timedReconciler "topics").run.execute Cluster.answer
      (quietCluster (polledDiscovery "0s") "")).1 = .ok { requeueAfter := 0 } := by
    decide +kernel
  refine ⟨rfl, rfl, ended, fun polling => ?_⟩
  obtain ⟨trace, run⟩ : ∃ trace, Runs Reliable _ _ trace _ _ :=
    runs_execute (reconcile timedReconciler "topics").run (quietCluster (polledDiscovery "0s") "")
  have polled := polling _ _ _ _ _ notFoundHonest_reliable (find_quietCluster _ _) run
  rw [ended] at polled
  exact absurd polled (by decide)

end DataPrepperOperator.Controller.SourceDiscovery
