import DataPrepperOperator.Controller.Children
import DataPrepperOperator.Controller.SourceDiscovery

/-!
# The course of a discovery cycle

A cycle looks for sources, and then writes and cleans up child pipelines.  What it
finds is a function of the Secrets, the brokers and the buckets.  Before and after
the children it writes nothing but its own discovery.
-/

namespace DataPrepperOperator.Controller.SourceDiscovery

open ServerProgram DataPrepperOperator.Api DataPrepperOperator.Discovery

variable {faulty : (op : Op) → Reply op → Prop}

def kafkaConfigIn (bootstrapServers : List String) (secretRef : Option SecretReference)
    (cluster : Cluster) : Except String KafkaConfig :=
  match secretRef with
  | none => .ok { bootstrapServers := bootstrapServers }
  | some reference =>
      (((cluster.read .secret reference.name).mapError ApiError.message).mapError
        ("read kafka credentials secret: " ++ ·)).bind fun secret =>
          .ok
            { bootstrapServers := bootstrapServers
              username := (secret.spec.lookup "username").getD []
              password := (secret.spec.lookup "password").getD [] }

def s3ConfigIn (spec : S3DiscoverySpec) (cluster : Cluster) : Except String S3Config :=
  match spec.credentialsSecretRef with
  | none =>
      .ok
        { region := spec.region, endpoint := spec.endpoint,
          forcePathStyle := spec.forcePathStyle }
  | some reference =>
      (((cluster.read .secret reference.name).mapError ApiError.message).mapError
        ("read s3 credentials secret: " ++ ·)).bind fun secret =>
          .ok
            { region := spec.region
              endpoint := spec.endpoint
              forcePathStyle := spec.forcePathStyle
              accessKeyID := (secret.spec.lookup "aws_access_key_id").getD []
              secretAccessKey := (secret.spec.lookup "aws_secret_access_key").getD [] }

def kafkaSourcesIn (reconciler : DiscoveryReconciler) (kafka : KafkaDiscoverySpec)
    (cluster : Cluster) : Except String (List DiscoveredSource) :=
  if reconciler.adminClientFactory = false then
    .error "kafka admin client factory not configured"
  else
    (kafkaConfigIn kafka.bootstrapServers kafka.credentialsSecretRef cluster).bind fun config =>
      (((cluster.kafka config).map fun _ => ()).mapError
        ("create kafka admin client: " ++ ·)).bind fun _ =>
        (((cluster.kafka config).bind (·.topics)).mapError
          ("list kafka topics: " ++ ·)).bind fun listed =>
            .ok (KafkaDiscoverer.found
              { client := config
                topicPrefix := kafka.topicSelector.topicPrefix
                excludePatterns := kafka.topicSelector.excludePatterns }
              reconciler.toolkit (GoMap.ofList listed))

def s3SourcesIn (reconciler : DiscoveryReconciler) (s3 : S3DiscoverySpec) (cluster : Cluster) :
    Except String (List DiscoveredSource) :=
  if reconciler.s3ClientFactory = false then
    .error "s3 client factory not configured"
  else
    (s3ConfigIn s3 cluster).bind fun config =>
      let discoverer : S3Discoverer :=
        { client := config
          bucket := s3.bucket
          region := s3.region
          pathPrefix := s3.prefixSelector.pathPrefix
          depth := s3.prefixSelector.depth
          excludePatterns := s3.prefixSelector.excludePatterns
          sqsMapping := s3.sqsQueueMapping }
      (((cluster.s3 config).map fun _ => ()).mapError ("create s3 client: " ++ ·)).bind fun _ =>
        ((discoverer.prefixesIn cluster discoverer.furtherLevels
          discoverer.pathPrefix).mapError ("list s3 prefixes: " ++ ·)).bind fun prefixes =>
            .ok (discoverer.found reconciler.toolkit prefixes)

/-- The sources of a discovery, by what the cluster holds. -/
def sourcesIn (reconciler : DiscoveryReconciler) (spec : DataPrepperSourceDiscoverySpec)
    (cluster : Cluster) : Except String (List DiscoveredSource) :=
  match spec.kafka, spec.s3 with
  | some kafka, _ => kafkaSourcesIn reconciler kafka cluster
  | none, some s3 => s3SourcesIn reconciler s3 cluster
  | none, none => .error ""

theorem observes_kafkaConfigFromSecret (bootstrapServers : List String)
    (secretRef : Option SecretReference) :
    Observes faulty (kafkaConfigFromSecret bootstrapServers secretRef)
      (kafkaConfigIn bootstrapServers secretRef) := by
  cases secretRef with
  | none => exact .pure _
  | some reference => exact (observes_wrapError (observes_callGet _ _)).bind fun _ => .pure _

theorem observes_s3ConfigFromSecret (spec : S3DiscoverySpec) :
    Observes faulty (s3ConfigFromSecret spec) (s3ConfigIn spec) := by
  unfold s3ConfigFromSecret s3ConfigIn
  cases spec.credentialsSecretRef with
  | none => exact .pure _
  | some reference => exact (observes_wrapError (observes_callGet _ _)).bind fun _ => .pure _

theorem observes_discoverKafka (reconciler : DiscoveryReconciler) (kafka : KafkaDiscoverySpec) :
    Observes faulty (discoverKafka reconciler kafka)
      (kafkaSourcesIn reconciler kafka) := by
  unfold discoverKafka kafkaSourcesIn
  split
  · exact .throw _
  · apply (observes_kafkaConfigFromSecret _ _).bind
    intro config
    apply Computes.bind
    · apply observes_wrapError
      exact observes_remote rfl fun _ _ _ _ run =>
        ⟨_, runs_request_iff.mp run, id, And.left⟩
    · exact fun _ => KafkaDiscoverer.observes_discover

theorem observes_discoverS3 (reconciler : DiscoveryReconciler) (s3 : S3DiscoverySpec) :
    Observes faulty (discoverS3 reconciler s3)
      (s3SourcesIn reconciler s3) := by
  unfold discoverS3 s3SourcesIn
  split
  · exact .throw _
  · apply (observes_s3ConfigFromSecret _).bind
    intro config
    apply Computes.bind
    · apply observes_wrapError
      exact observes_remote rfl fun _ _ _ _ run =>
        ⟨_, runs_request_iff.mp run, id, And.left⟩
    · exact fun _ => S3Discoverer.observes_discover

theorem observes_discoverSources {reconciler : DiscoveryReconciler}
    {spec : DataPrepperSourceDiscoverySpec} {discover : Reconciler (List DiscoveredSource)}
    (chosen : discoverSources reconciler spec = some discover) :
    Observes faulty discover (sourcesIn reconciler spec) := by
  unfold discoverSources at chosen
  unfold sourcesIn
  cases kafkaSpec : spec.kafka with
  | some kafka =>
      simp only [kafkaSpec, Option.some.injEq] at chosen
      exact chosen ▸ observes_discoverKafka reconciler kafka
  | none =>
      cases s3Spec : spec.s3 with
      | some s3 =>
          simp only [kafkaSpec, s3Spec, Option.some.injEq] at chosen
          exact chosen ▸ observes_discoverS3 reconciler s3
      | none => simp only [kafkaSpec, s3Spec, reduceCtorEq] at chosen

theorem sourcesIn_of_unconfigured {reconciler : DiscoveryReconciler}
    {spec : DataPrepperSourceDiscoverySpec} (unconfigured : discoverSources reconciler spec = none)
    (cluster : Cluster) (sources : List DiscoveredSource) :
    sourcesIn reconciler spec cluster ≠ .ok sources := by
  unfold discoverSources at unconfigured
  unfold sourcesIn
  cases kafkaSpec : spec.kafka with
  | some kafka => simp only [kafkaSpec, reduceCtorEq] at unconfigured
  | none =>
      cases s3Spec : spec.s3 with
      | some s3 => simp only [kafkaSpec, s3Spec, reduceCtorEq] at unconfigured
      | none => nofun

/-- There is a source, and a client to look for it. -/
def Configured (reconciler : DiscoveryReconciler) (spec : DataPrepperSourceDiscoverySpec) : Prop :=
  match spec.kafka, spec.s3 with
  | some _, _ => reconciler.adminClientFactory = true
  | none, some _ => reconciler.s3ClientFactory = true
  | none, none => False

theorem strict_callGet (kind : Kind) (name : String) :
    Strict (callApi (Client.get kind name)) := by
  intro server state trace outcome final run
  obtain ⟨reply, called, rfl⟩ := runs_of_callApi run
  obtain ⟨_, rfl⟩ := runs_request_iff.mp called
  cases reply <;> simp [Fails, Except.mapError]

theorem strict_kafkaConfigFromSecret (bootstrapServers : List String)
    (secretRef : Option SecretReference) :
    Strict (kafkaConfigFromSecret bootstrapServers secretRef) := by
  cases secretRef with
  | none => exact .pure _
  | some reference => exact (strict_callGet _ _).wrapError.bind fun _ => .pure _

theorem strict_s3ConfigFromSecret (spec : S3DiscoverySpec) : Strict (s3ConfigFromSecret spec) := by
  unfold s3ConfigFromSecret
  cases spec.credentialsSecretRef with
  | none => exact .pure _
  | some reference => exact (strict_callGet _ _).wrapError.bind fun _ => .pure _

theorem strict_kafkaConnect (config : KafkaConfig) :
    Strict (ExceptT.mk (Client.kafkaConnect config)) := by
  intro server state trace outcome final run
  obtain ⟨_, rfl⟩ := runs_request_iff.mp run
  simp [Fails]

theorem strict_s3Connect (config : S3Config) :
    Strict (ExceptT.mk (Client.s3Connect config)) := by
  intro server state trace outcome final run
  obtain ⟨_, rfl⟩ := runs_request_iff.mp run
  simp [Fails]

theorem not_configured {reconciler : DiscoveryReconciler} {spec : DataPrepperSourceDiscoverySpec}
    (unconfigured : discoverSources reconciler spec = none) : ¬Configured reconciler spec := by
  unfold discoverSources at unconfigured
  unfold Configured
  cases kafkaSpec : spec.kafka with
  | some kafka => simp only [kafkaSpec, reduceCtorEq] at unconfigured
  | none =>
      cases s3Spec : spec.s3 with
      | some s3 => simp only [kafkaSpec, s3Spec, reduceCtorEq] at unconfigured
      | none => exact id

/-- With a client, looking for sources fails only if a call does. -/
theorem strict_discoverSources {reconciler : DiscoveryReconciler}
    {spec : DataPrepperSourceDiscoverySpec} {discover : Reconciler (List DiscoveredSource)}
    (configured : Configured reconciler spec)
    (chosen : discoverSources reconciler spec = some discover) : Strict discover := by
  unfold discoverSources at chosen
  unfold Configured at configured
  cases kafkaSpec : spec.kafka with
  | some kafka =>
      simp only [kafkaSpec, Option.some.injEq] at chosen configured
      subst chosen
      unfold discoverKafka
      rw [if_neg (by simp [configured])]
      exact (strict_kafkaConfigFromSecret _ _).bind fun _ =>
        (strict_kafkaConnect _).wrapError.bind fun _ => KafkaDiscoverer.strict_discover _ _
  | none =>
      cases s3Spec : spec.s3 with
      | some s3 =>
          simp only [kafkaSpec, s3Spec, Option.some.injEq] at chosen configured
          subst chosen
          unfold discoverS3
          rw [if_neg (by simp [configured])]
          exact (strict_s3ConfigFromSecret _).bind fun _ =>
            (strict_s3Connect _).wrapError.bind fun _ => S3Discoverer.strict_discover _ _
      | none => simp only [kafkaSpec, s3Spec, reduceCtorEq] at chosen

/-- Two versions of a discovery that differ in bookkeeping only. -/
structure SameSource (first second : DataPrepperSourceDiscovery) : Prop where
  name : first.name = second.name
  nameSpace : first.metadata.nameSpace = second.metadata.nameSpace
  spec : first.spec = second.spec

theorem SameSource.trans {first second third : DataPrepperSourceDiscovery}
    (same : SameSource first second) (other : SameSource second third) :
    SameSource first third :=
  ⟨same.name.trans other.name, same.nameSpace.trans other.nameSpace,
    same.spec.trans other.spec⟩

theorem SameSource.renderPipelineSpec {first second : DataPrepperSourceDiscovery}
    (same : SameSource first second) (toolkit : Toolkit) (source : DiscoveredSource) :
    renderPipelineSpec toolkit first source = renderPipelineSpec toolkit second source := by
  have context : templateContext first source = templateContext second source := by
    unfold templateContext
    rw [same.name, same.nameSpace]
  unfold Discovery.renderPipelineSpec
  rw [context, same.spec]

theorem SameSource.requeue {first second : DataPrepperSourceDiscovery}
    (same : SameSource first second) (toolkit : Toolkit) (rollout : Rollout) (sources : Nat) :
    requeue toolkit first rollout sources = requeue toolkit second rollout sources := by
  unfold SourceDiscovery.requeue discoveryMaxCreationsPerCycle discoveryPollInterval
  rw [same.spec]

theorem SameSource.desiredPipelines {first second : DataPrepperSourceDiscovery}
    (same : SameSource first second) (toolkit : Toolkit) (sources : List DiscoveredSource)
    (initial : GoMap Desired) :
    desiredPipelines toolkit first sources initial =
      desiredPipelines toolkit second sources initial := by
  induction sources generalizing initial with
  | nil => rfl
  | cons source rest ih =>
      unfold Discovery.desiredPipelines
      rw [same.renderPipelineSpec, same.name]
      simp only [ih]

/-- What is stored under the name is a version of this discovery, as much alive. -/
def StoredAs (base : DataPrepperSourceDiscovery) (cluster : Cluster) : Prop :=
  ∀ stored, cluster.find .sourceDiscovery base.name = some stored →
    SameSource stored base ∧ stored.metadata.deleting = base.metadata.deleting

theorem SameSource.symm {first second : DataPrepperSourceDiscovery}
    (same : SameSource first second) : SameSource second first :=
  ⟨same.name.symm, same.nameSpace.symm, same.spec.symm⟩

theorem StoredAs.congr {first second : DataPrepperSourceDiscovery} {cluster : Cluster}
    (stored : StoredAs first cluster) (same : SameSource first second)
    (sameMark : first.metadata.deleting = second.metadata.deleting) :
    StoredAs second cluster := by
  intro found present
  rw [← same.name] at present
  obtain ⟨sameFound, mark⟩ := stored found present
  exact ⟨sameFound.trans same, mark.trans sameMark⟩

/-- Nothing is written but the discovery of this name. -/
abbrev Quiet (name : String) : Op → Prop := WritesTo [(.sourceDiscovery, name)]

/-- The program writes versions of this discovery and nothing else. -/
abbrev Tends {Result : Type} (faulty : (op : Op) → Reply op → Prop)
    (base : DataPrepperSourceDiscovery) (good : Result → Prop)
    (program : Program Op Reply Result) : Prop :=
  Hoare (Serves faulty) (Quiet base.name) (StoredAs base) program
    fun result final => StoredAs base final ∧ good result

section Tends

variable {base : DataPrepperSourceDiscovery}

theorem tends_bind {Result Other : Type} {program : Program Op Reply Result}
    {rest : Result → Program Op Reply Other} {middle : Result → Prop} {good : Other → Prop}
    (first : Tends faulty base middle program)
    (second : ∀ result, middle result → Tends faulty base good (rest result)) :
    Tends faulty base good (program >>= rest) := by
  apply Hoare.bind first
  rintro result state trace value final ⟨stored, holds⟩ run
  exact second result holds _ _ _ _ stored run

theorem tends_read {op : Op} {good : Reply op → Prop} (reads : op.target = none)
    (answered : ∀ before reply, StoredAs base before → Serves faulty before op reply before →
      good reply) :
    Tends faulty base good (Program.request op) := by
  apply Hoare.request (writesTo_of_read _ _ reads)
  intro before reply after stored served
  obtain rfl := served.unchanged reads
  exact ⟨stored, answered _ _ stored served⟩

theorem tends_get :
    Tends faulty base (OnSuccess fun fresh => SameSource fresh base)
      (Client.get .sourceDiscovery base.name) := by
  apply tends_read rfl
  intro before reply stored served
  cases reply with
  | error error => trivial
  | ok fresh => exact (stored fresh served.find_of_get.1).1

theorem tends_update {object : DataPrepperSourceDiscovery} (same : SameSource object base) :
    Tends faulty base (OnSuccess fun stored => SameSource stored base)
      (Client.update object) := by
  apply Hoare.request (writesTo_of_mem rfl (by simp [same.name]))
  intro before reply after stored served
  constructor
  · intro current present
    rw [← same.name] at present
    obtain earlier | ⟨previous, found, rfl⟩ := served.after_update present
    · rw [same.name] at earlier
      exact stored current earlier
    · have named : previous.name = object.name := Cluster.name_of_find found
      rw [same.name] at found
      exact ⟨⟨named.trans same.name, same.nameSpace, same.spec⟩, (stored previous found).2⟩
  · cases reply with
    | error error => trivial
    | ok returned =>
        obtain ⟨named, spec, nameSpace, _⟩ := served.reply_of_update
        exact ⟨named.trans same.name, nameSpace.trans same.nameSpace, spec.trans same.spec⟩

theorem tends_updateStatus {object : DataPrepperSourceDiscovery} (same : SameSource object base) :
    Tends faulty base (OnSuccess fun stored => SameSource stored base)
      (Client.updateStatus object) := by
  apply Hoare.request (writesTo_of_mem rfl (by simp [same.name]))
  intro before reply after stored served
  constructor
  · intro current present
    rw [← same.name] at present
    obtain earlier | ⟨previous, found, rfl⟩ := served.after_updateStatus present
    · rw [same.name] at earlier
      exact stored current earlier
    · rw [same.name] at found
      obtain ⟨version, alive⟩ := stored previous found
      exact ⟨⟨version.name, version.nameSpace, version.spec⟩, alive⟩
  · cases reply with
    | error error => trivial
    | ok returned =>
        obtain ⟨named, previous, found, spec, nameSpace, _⟩ := served.reply_of_updateStatus
        rw [same.name] at found
        have version := (stored previous found).1
        exact ⟨named.trans same.name, nameSpace.trans version.nameSpace, spec.trans version.spec⟩

theorem tends_storeFresh
    {store : DataPrepperSourceDiscovery → Client.Call DataPrepperSourceDiscovery}
    {change : DataPrepperSourceDiscovery → DataPrepperSourceDiscovery}
    (stores : ∀ object, SameSource object base →
      Tends faulty base (OnSuccess fun stored => SameSource stored base) (store object))
    (keeps : ∀ object, SameSource object base → SameSource (change object) base)
    {discovery : DataPrepperSourceDiscovery} (same : SameSource discovery base) :
    Tends faulty base (fun tried => SameSource tried.1 base)
      (storeFresh store change discovery) := by
  unfold storeFresh
  rw [same.name]
  apply tends_bind tends_get
  intro outcome fetched
  cases outcome with
  | error error => exact .pure fun _ stored => ⟨stored, same⟩
  | ok fresh =>
      apply tends_bind (stores _ (keeps fresh fetched))
      intro outcome written
      cases outcome with
      | error error => exact .pure fun _ stored => ⟨stored, keeps fresh fetched⟩
      | ok returned => exact .pure fun _ stored => ⟨stored, written⟩

theorem tends_retryAssigning {attempt : DataPrepperSourceDiscovery → Program Op Reply Attempt}
    (attempts : ∀ discovery, SameSource discovery base →
      Tends faulty base (fun tried => SameSource tried.1 base) (attempt discovery))
    (further : Nat) {discovery : DataPrepperSourceDiscovery} (same : SameSource discovery base) :
    Tends faulty base (fun tried => SameSource tried.1 base)
      (retryAssigning attempt further discovery) := by
  induction further generalizing discovery with
  | zero => exact attempts discovery same
  | succ further ih =>
      apply tends_bind (attempts discovery same)
      intro tried held
      split
      · exact ih held
      · exact .pure fun _ stored => ⟨stored, held⟩

theorem tends_updateDiscoveryStatus {discovery : DataPrepperSourceDiscovery}
    (same : SameSource discovery base) :
    Tends faulty base (fun tried => SameSource tried.1 base) (updateDiscoveryStatus discovery) := by
  have listed : Tends faulty base (fun _ => True)
      (Client.listPipelines (childSelector discovery)) :=
    tends_read rfl fun _ _ _ _ => trivial
  have counted : Tends faulty base (fun _ => True) (countActive discovery) := by
    apply tends_bind listed
    intro outcome _
    cases outcome <;> exact .pure fun _ stored => ⟨stored, trivial⟩
  apply tends_bind counted
  intro status _
  apply tends_retryAssigning _ _ same
  intro current
  apply tends_storeFresh fun _ => tends_updateStatus
  intro object version
  exact ⟨version.name, version.nameSpace, version.spec⟩

theorem sameSource_incrementFailureCount {discovery : DataPrepperSourceDiscovery}
    (same : SameSource discovery base) :
    SameSource (incrementFailureCount discovery).1 base :=
  ⟨same.name, same.nameSpace, same.spec⟩

theorem sameSource_withStatus {discovery : DataPrepperSourceDiscovery}
    (same : SameSource discovery base) (status : DataPrepperSourceDiscoveryStatus) :
    SameSource { discovery with status := status } base :=
  ⟨same.name, same.nameSpace, same.spec⟩

theorem sameSource_withCondition {discovery : DataPrepperSourceDiscovery}
    (same : SameSource discovery base) (type : String) (status : ConditionStatus)
    (reason message : String) :
    SameSource (withCondition discovery type status reason message) base :=
  sameSource_withStatus same _

theorem sameSource_ite {condition : Prop} [Decidable condition]
    {first second : DataPrepperSourceDiscovery} (yes : SameSource first base)
    (no : SameSource second base) : SameSource (if condition then first else second) base := by
  split <;> assumption

theorem sameSource_buildDiscoveryStatus {discovery : DataPrepperSourceDiscovery}
    (same : SameSource discovery base) (phase : DiscoveryPhase) (sources : List DiscoveredSource)
    (message : String) (now : Nat) :
    SameSource (buildDiscoveryStatus discovery phase sources message now) base := by
  unfold buildDiscoveryStatus
  simp only
  split <;> exact sameSource_withCondition (sameSource_withStatus same _) _ _ _ _

theorem sameSource_withRollout {discovery : DataPrepperSourceDiscovery}
    (same : SameSource discovery base) (rollout : Rollout) :
    SameSource (withRollout discovery rollout) base := by
  unfold withRollout
  extract_lets _ counted paused
  have countedSame : SameSource counted base := sameSource_withStatus same _
  have pausedSame : SameSource paused base :=
    sameSource_ite (sameSource_withCondition countedSame _ _ _ _)
      (sameSource_withCondition countedSame _ _ _ _)
  exact sameSource_ite (sameSource_withCondition pausedSame _ _ _ _)
    (sameSource_withCondition pausedSame _ _ _ _)

theorem tends_now : Tends faulty base (fun _ => True) Client.now :=
  tends_read rfl fun _ _ _ _ => trivial

theorem tends_persist {change : DataPrepperSourceDiscovery → DataPrepperSourceDiscovery}
    (keeps : ∀ object, SameSource object base → SameSource (change object) base)
    {discovery : DataPrepperSourceDiscovery} (same : SameSource discovery base) :
    Tends faulty base (fun tried => SameSource tried.1 base)
      (retryAssigning (storeFresh Client.update change) defaultRetries discovery) :=
  tends_retryAssigning (fun _ => tends_storeFresh (fun _ => tends_update) keeps) _ same

theorem tends_reportFailure {discovery : DataPrepperSourceDiscovery}
    (same : SameSource discovery base) (message : String) :
    Tends faulty base
      (fun result => result =
        { requeueAfter := discoveryBackoff (incrementFailureCount discovery).2 })
      (reportFailure discovery message) := by
  apply tends_bind (tends_persist (fun _ => sameSource_incrementFailureCount)
    (sameSource_incrementFailureCount same))
  intro tried held
  apply tends_bind tends_now
  intro now _
  apply tends_bind (tends_updateDiscoveryStatus
    (sameSource_buildDiscoveryStatus held .error [] message now))
  intro stored _
  exact .pure fun _ stored => ⟨stored, rfl⟩

theorem tends_clearFailures {discovery : DataPrepperSourceDiscovery}
    (same : SameSource discovery base) :
    Tends faulty base (fun current => SameSource current base) (clearFailures discovery) := by
  unfold clearFailures
  split
  · exact .pure fun _ stored => ⟨stored, same⟩
  · have keeps : ∀ object, SameSource object base → SameSource (resetFailureCount object) base :=
      fun _ version => ⟨version.name, version.nameSpace, version.spec⟩
    apply tends_bind (tends_persist keeps same)
    intro tried held
    exact .pure fun _ stored => ⟨stored, held⟩

theorem tends_wrapError {Result : Type} {good : Result → Prop} {context : String}
    {action : Reconciler Result} (tended : Tends faulty base (OnSuccess good) action.run) :
    Tends faulty base (OnSuccess good) (wrapError context action).run := by
  apply tends_bind tended
  intro outcome holds
  cases outcome <;> exact .pure fun _ stored => ⟨stored, holds⟩

theorem tends_callApi {Result : Type} {good : Result → Prop} {program : Client.Call Result}
    (tended : Tends faulty base (OnSuccess good) program) :
    Tends faulty base (OnSuccess good) (callApi program).run := by
  apply tends_bind tended
  intro outcome holds
  cases outcome <;> exact .pure fun _ stored => ⟨stored, holds⟩

theorem tends_lift_bind {Result Other : Type} {program : Program Op Reply Result}
    {rest : Result → Reconciler Other} {middle : Result → Prop} {good : Except String Other → Prop}
    (first : Tends faulty base middle program)
    (second : ∀ result, middle result → Tends faulty base good (rest result).run) :
    Tends faulty base good (Fallible.lift program >>= rest).run := by
  intro state trace outcome final stored run
  obtain ⟨_, _, result, _, rfl, ran, ranRest⟩ := runs_lift_bind run
  obtain ⟨quiet, stillStored, holds⟩ := first _ _ _ _ stored ran
  obtain ⟨quietRest, finished⟩ := second result holds _ _ _ _ stillStored ranRest
  exact ⟨List.forall_mem_append.mpr ⟨quiet, quietRest⟩, finished⟩

theorem tends_report (reconciler : DiscoveryReconciler) {discovery : DataPrepperSourceDiscovery}
    (same : SameSource discovery base) (sources : List DiscoveredSource) (rollout : Rollout) :
    Tends faulty base
      (OnSuccess fun result => result = requeue reconciler.toolkit base rollout sources.length)
      (report reconciler discovery sources rollout).run := by
  apply tends_lift_bind tends_now
  intro now _
  apply tends_lift_bind (tends_updateDiscoveryStatus (sameSource_withRollout
    (sameSource_buildDiscoveryStatus same .running sources "" now) rollout))
  intro attempt stored
  split
  · exact .pure fun _ unchanged => ⟨unchanged, trivial⟩
  · exact .pure fun _ unchanged => ⟨unchanged, stored.requeue _ _ _⟩

theorem tends_ensureFinalizer {discovery : DataPrepperSourceDiscovery}
    (same : SameSource discovery base) :
    Tends faulty base (OnSuccess fun current => SameSource current base)
      (ensureFinalizer discovery).run := by
  unfold ensureFinalizer
  split
  · exact .pure fun _ stored => ⟨stored, same⟩
  · apply tends_wrapError
    apply tends_callApi
    apply tends_update
    exact ⟨same.name, same.nameSpace, same.spec⟩

end Tends

/-- Nothing changed but the discovery of this name. -/
structure SameElsewhere (name : String) (before after : Cluster) : Prop where
  find : ∀ kind other, (kind, other) ≠ (Kind.sourceDiscovery, name) →
    after.find kind other = before.find kind other
  kafka : after.kafka = before.kafka
  s3 : after.s3 = before.s3

theorem sameElsewhere_of_quiet {Result : Type} {program : Program Op Reply Result}
    {state final : Cluster} {trace : List (Event Cluster Op Reply)} {result : Result}
    {name : String} (run : Runs (Serves faulty) program state trace result final)
    (quiet : ∀ event ∈ trace, Quiet name event.op) : SameElsewhere name state final := by
  obtain ⟨kafka, s3, _⟩ := runs_externals run
  refine ⟨?_, kafka, s3⟩
  intro kind other elsewhere
  apply find_of_untouched run
  intro event member targeted
  exact elsewhere (List.mem_singleton.mp (quiet event member _ targeted))

theorem SameElsewhere.trans {name : String} {first second third : Cluster}
    (same : SameElsewhere name first second) (other : SameElsewhere name second third) :
    SameElsewhere name first third :=
  ⟨fun kind found elsewhere =>
      (other.find kind found elsewhere).trans (same.find kind found elsewhere),
    other.kafka.trans same.kafka, other.s3.trans same.s3⟩

/-- What discovery reads is the same: the Secrets, the brokers and the buckets. -/
structure SameInputs (before after : Cluster) : Prop where
  secrets : ∀ name, after.find .secret name = before.find .secret name
  kafka : after.kafka = before.kafka
  s3 : after.s3 = before.s3

theorem SameElsewhere.inputs {name : String} {before after : Cluster}
    (same : SameElsewhere name before after) : SameInputs before after :=
  ⟨fun found => same.find .secret found (by simp), same.kafka, same.s3⟩

theorem SameInputs.refl (cluster : Cluster) : SameInputs cluster cluster :=
  ⟨fun _ => rfl, rfl, rfl⟩

theorem SameInputs.trans {first second third : Cluster} (same : SameInputs first second)
    (other : SameInputs second third) : SameInputs first third :=
  ⟨fun name => (other.secrets name).trans (same.secrets name), other.kafka.trans same.kafka,
    other.s3.trans same.s3⟩

theorem SameInputs.sourcesIn {before after : Cluster} (same : SameInputs before after)
    (reconciler : DiscoveryReconciler) (spec : DataPrepperSourceDiscoverySpec) :
    sourcesIn reconciler spec after = sourcesIn reconciler spec before := by
  have secrets : ∀ found, after.read .secret found = before.read .secret found := by
    intro found
    unfold Cluster.read
    rw [same.secrets]
  have kafkaConfig : ∀ servers reference,
      kafkaConfigIn servers reference after = kafkaConfigIn servers reference before := by
    intro servers reference
    unfold kafkaConfigIn
    simp only [secrets]
  have s3Config : ∀ s3, s3ConfigIn s3 after = s3ConfigIn s3 before := by
    intro s3
    unfold s3ConfigIn
    simp only [secrets]
  unfold SourceDiscovery.sourcesIn kafkaSourcesIn s3SourcesIn S3Discoverer.prefixesIn
  simp only [kafkaConfig, s3Config, same.kafka, same.s3]

/-- The calls before the discovery. -/
def Preparing (name : String) (op : Op) : Prop :=
  op = .get .sourceDiscovery name ∨ ∃ object, op = .update .sourceDiscovery object

/-- How far a cycle got with its discovery: it ended before, having read the discovery
and perhaps asked for its finalizer, or the discovery ran with some outcome. -/
inductive Reaches (faulty : (op : Op) → Reply op → Prop) (reconciler : DiscoveryReconciler)
    (fetched : DataPrepperSourceDiscovery) (trace : List (Event Cluster Op Reply)) :
    Option (Except String (List DiscoveredSource)) → Prop where
  | stopped : (∀ event ∈ trace, Preparing fetched.name event.op) →
      Reaches faulty reconciler fetched trace none
  | discovered {discover : Reconciler (List DiscoveredSource)}
      {found : Except String (List DiscoveredSource)} {before : Cluster}
      {earlier tried later : List (Event Cluster Op Reply)} :
      discoverSources reconciler fetched.spec = some discover →
      trace = earlier ++ (tried ++ later) →
      Runs (Serves faulty) discover.run before tried found before →
      Reaches faulty reconciler fetched trace (some found)

/-- Why a cycle finds nothing: a call failed, the cycle failed, or nothing is there.  One
that is configured and ends well has had a failing call. -/
structure Excused (faulty : (op : Op) → Reply op → Prop) (reconciler : DiscoveryReconciler)
    (fetched : DataPrepperSourceDiscovery) (state : Cluster)
    (trace : List (Event Cluster Op Reply)) (outcome : Except String ReconcileResult) :
    Prop where
  reason : Faulty faulty ∨ outcome.isOk = false ∨
    ∀ sources, sourcesIn reconciler fetched.spec state ≠ .ok sources
  failing : outcome.isOk = true → Configured reconciler fetched.spec →
    ∃ event ∈ trace, Fails event.op event.reply

/-- How a cycle of a stored discovery goes: it stops early and leaves all else
alone, or it finds sources and then turns to the children. -/
inductive Course (faulty : (op : Op) → Reply op → Prop) (reconciler : DiscoveryReconciler)
    (fetched : DataPrepperSourceDiscovery) (state : Cluster)
    (trace : List (Event Cluster Op Reply)) (outcome : Except String ReconcileResult)
    (final : Cluster) : Prop where
  | idle {found : Option (Except String (List DiscoveredSource))} :
      Reaches faulty reconciler fetched trace found →
      (∀ sources, found ≠ some (.ok sources)) →
      Excused faulty reconciler fetched state trace outcome →
      (∀ event ∈ trace, Quiet fetched.name event.op) →
      StoredAs fetched final → SameElsewhere fetched.name state final →
      Course faulty reconciler fetched state trace outcome final
  | found {sources : List DiscoveredSource} {current : DataPrepperSourceDiscovery}
      {start : Cluster} {earlier later : List (Event Cluster Op Reply)} :
      Reaches faulty reconciler fetched trace (some (.ok sources)) →
      trace = earlier ++ later →
      sourcesIn reconciler fetched.spec state = .ok sources →
      SameSource current fetched →
      (∀ event ∈ earlier, Quiet fetched.name event.op) →
      StoredAs fetched start →
      SameElsewhere fetched.name state start →
      Runs (Serves faulty) (do
        let rollout ← reconcilePipelines reconciler current sources
        cleanupOrphans current sources
        report reconciler current sources rollout : Reconciler ReconcileResult).run
        start later outcome final →
      Course faulty reconciler fetched state trace outcome final

theorem storedAs_of_find {name : String} {fetched : DataPrepperSourceDiscovery} {state : Cluster}
    (stored : state.find .sourceDiscovery name = some fetched) : StoredAs fetched state := by
  intro other found
  rw [Cluster.name_of_find stored, stored, Option.some.injEq] at found
  subst found
  exact ⟨⟨rfl, rfl, rfl⟩, rfl⟩

section Course

variable {reconciler : DiscoveryReconciler} {fetched : DataPrepperSourceDiscovery}
  {state before final : Cluster} {earlier later trace : List (Event Cluster Op Reply)}
  {outcome : Except String ReconcileResult}

/-- A cycle that goes on with nothing but bookkeeping. -/
theorem course_of_tends {Result : Type} {good : Result → Prop} {result : Result}
    {program : Program Op Reply Result} {found : Option (Except String (List DiscoveredSource))}
    (reaches : Reaches faulty reconciler fetched (earlier ++ later) found)
    (nothing : ∀ sources, found ≠ some (.ok sources))
    (excused : Excused faulty reconciler fetched state (earlier ++ later) outcome)
    (stored : StoredAs fetched before) (quiet : ∀ event ∈ earlier, Quiet fetched.name event.op)
    (elsewhere : SameElsewhere fetched.name state before)
    (tended : Tends faulty fetched good program)
    (run : Runs (Serves faulty) program before later result final) :
    Course faulty reconciler fetched state (earlier ++ later) outcome final := by
  obtain ⟨quietLater, stillStored, _⟩ := tended _ _ _ _ stored run
  exact .idle reaches nothing excused (List.forall_mem_append.mpr ⟨quiet, quietLater⟩) stillStored
    (elsewhere.trans (sameElsewhere_of_quiet run quietLater))

theorem course_of_runCycle {discovery : DataPrepperSourceDiscovery}
    {discover : Reconciler (List DiscoveredSource)} (same : SameSource discovery fetched)
    (stored : StoredAs fetched before) (quiet : ∀ event ∈ earlier, Quiet fetched.name event.op)
    (elsewhere : SameElsewhere fetched.name state before)
    (chosen : discoverSources reconciler fetched.spec = some discover)
    (run : Runs (Serves faulty) (runCycle reconciler discovery discover).run before later outcome
      final) :
    Course faulty reconciler fetched state (earlier ++ later) outcome final := by
  obtain ⟨tried, between, found, rest, rfl, discovered, continued⟩ := runs_lift_bind run
  obtain ⟨rfl, reads, answer⟩ := observes_discoverSources chosen _ _ _ _ discovered
  have reaches : Reaches faulty reconciler fetched (earlier ++ (tried ++ rest)) (some found) :=
    .discovered chosen rfl discovered
  have quietTried : ∀ event ∈ earlier ++ tried, Quiet fetched.name event.op :=
    List.forall_mem_append.mpr
      ⟨quiet, fun event member => writesTo_of_read _ _ (reads event member)⟩
  rw [← List.append_assoc] at reaches ⊢
  cases found with
  | error message =>
      obtain ⟨result, _, reported⟩ := runs_lift_iff.mp continued
      have excused : Excused faulty reconciler fetched state (earlier ++ tried ++ rest)
          outcome := by
        refine ⟨?_, fun _ configured => ?_⟩
        · obtain computed | ⟨fault, _⟩ := answer
          · right
            right
            rw [← elsewhere.inputs.sourcesIn, ← computed]
            simp
          · exact .inl fault
        · obtain ⟨event, member, fails⟩ :=
            (strict_discoverSources configured chosen _ _ _ _ _ discovered).mpr ⟨_, rfl⟩
          exact ⟨event, by simp [member], fails⟩
      exact course_of_tends reaches (by simp) excused stored quietTried elsewhere
        (tends_reportFailure same message) reported
  | ok sources =>
      obtain computed | ⟨_, _, impossible⟩ := answer
      · obtain ⟨cleared, start, current, children, rfl, clearing, remaining⟩ :=
          runs_lift_bind continued
        obtain ⟨quietCleared, stillStored, currentSame⟩ :=
          tends_clearFailures same _ _ _ _ stored clearing
        refine .found reaches (List.append_assoc _ _ _).symm ?_ currentSame
          (List.forall_mem_append.mpr ⟨quietTried, quietCleared⟩) stillStored
          (elsewhere.trans (sameElsewhere_of_quiet clearing quietCleared)) remaining
        rw [← elsewhere.inputs.sourcesIn, computed]
      · cases impossible

theorem preparing_of_ensureFinalizer {discovery : DataPrepperSourceDiscovery} {name : String}
    {ensured : Except String DataPrepperSourceDiscovery}
    (run : Runs (Serves faulty) (ensureFinalizer discovery).run before later ensured final) :
    ∀ event ∈ later, Preparing name event.op := by
  unfold ensureFinalizer at run
  split at run
  · obtain ⟨rfl, _, _⟩ := runs_pure_iff.mp run
    simp
  · obtain ⟨_, ran, _⟩ := runs_of_wrapError run
    obtain ⟨_, called, _⟩ := runs_of_callApi ran
    obtain ⟨_, rfl⟩ := runs_request_iff.mp called
    simp [Preparing]

/-- A cycle that ends without another call. -/
theorem course_of_done {result : Except String ReconcileResult}
    (excused : Excused faulty reconciler fetched state earlier outcome)
    (stored : StoredAs fetched before)
    (prepared : ∀ event ∈ earlier, Preparing fetched.name event.op)
    (quiet : ∀ event ∈ earlier, Quiet fetched.name event.op)
    (elsewhere : SameElsewhere fetched.name state before)
    (run : Runs (Serves faulty) (.done result) before later outcome final) :
    Course faulty reconciler fetched state (earlier ++ later) outcome final := by
  obtain ⟨rfl, _, rfl⟩ := runs_done_iff.mp run
  rw [List.append_nil]
  exact .idle (.stopped prepared) (by simp) excused quiet stored elsewhere

theorem course_of_reconcileLive (stored : StoredAs fetched before)
    (prepared : ∀ event ∈ earlier, Preparing fetched.name event.op)
    (quiet : ∀ event ∈ earlier, Quiet fetched.name event.op)
    (elsewhere : SameElsewhere fetched.name state before)
    (run : Runs (Serves faulty) (reconcileLive reconciler fetched).run before later outcome
      final) :
    Course faulty reconciler fetched state (earlier ++ later) outcome final := by
  have ensured : Tends faulty fetched (OnSuccess fun current => SameSource current fetched)
      (ensureFinalizer fetched).run :=
    tends_ensureFinalizer ⟨rfl, rfl, rfl⟩
  rcases runs_fallible_bind_iff.mp run with
    ⟨failure, rfl, failed⟩ | ⟨finalized, middle, discovery, rest, rfl, ran, continued⟩
  · have preparedBoth := List.forall_mem_append.mpr
      ⟨prepared, preparing_of_ensureFinalizer failed⟩
    exact course_of_tends (.stopped preparedBoth) (by simp) ⟨.inr (.inl rfl), nofun⟩ stored quiet
      elsewhere ensured failed
  · obtain ⟨quietFinalized, stillStored, same⟩ := ensured _ _ _ _ stored ran
    have preparedBoth := List.forall_mem_append.mpr ⟨prepared, preparing_of_ensureFinalizer ran⟩
    have quietBoth := List.forall_mem_append.mpr ⟨quiet, quietFinalized⟩
    have elsewhereBoth := elsewhere.trans (sameElsewhere_of_quiet ran quietFinalized)
    rw [← List.append_assoc]
    rw [same.spec] at continued
    cases chosen : discoverSources reconciler fetched.spec with
    | none =>
        simp only [chosen] at continued
        have excused : Excused faulty reconciler fetched state (earlier ++ finalized) outcome :=
          ⟨.inr (.inr (sourcesIn_of_unconfigured chosen state)),
            fun _ configured => (not_configured chosen configured).elim⟩
        exact course_of_done excused stillStored preparedBoth quietBoth elsewhereBoth continued
    | some discover =>
        simp only [chosen] at continued
        exact course_of_runCycle same stillStored quietBoth elsewhereBoth chosen continued

theorem course_of_runs {name : String}
    (stored : state.find .sourceDiscovery name = some fetched)
    (live : fetched.metadata.deleting = false)
    (run : Runs (Serves faulty) (reconcile reconciler name).run state trace outcome final) :
    Course faulty reconciler fetched state trace outcome final := by
  obtain ⟨reply, middle, rest, served, rfl, continued⟩ := runs_ask_bind run
  obtain rfl := served.unchanged rfl
  have storedAs := storedAs_of_find stored
  have named : fetched.name = name := Cluster.name_of_find stored
  have prepared : ∀ event ∈ [(⟨middle, .get .sourceDiscovery name, reply, middle⟩ :
      Event Cluster Op Reply)], Preparing fetched.name event.op := by
    simp [Preparing, named]
  have quiet : ∀ event ∈ [(⟨middle, .get .sourceDiscovery name, reply, middle⟩ :
      Event Cluster Op Reply)], Quiet fetched.name event.op := by
    simpa using writesTo_of_read _ (Op.get .sourceDiscovery name) rfl
  have unmoved : SameElsewhere fetched.name middle middle := ⟨fun _ _ _ => rfl, rfl, rfl⟩
  rw [← List.singleton_append]
  cases reply with
  | error error =>
      have excused : Excused faulty reconciler fetched middle
          [⟨middle, .get .sourceDiscovery name, .error error, middle⟩] outcome := by
        refine ⟨?_, fun _ _ => ⟨_, List.mem_singleton_self _, error, rfl⟩⟩
        obtain ⟨_, ⟨answered, _⟩ | ⟨fault, _⟩⟩ := served.read_cases rfl
        · simp [Cluster.read, stored] at answered
        · exact .inl fault
      cases error <;> exact course_of_done excused storedAs prepared quiet unmoved continued
  | ok discovery =>
      have same : discovery = fetched := by
        have found := served.find_of_get.1
        rw [stored, Option.some.injEq] at found
        exact found.symm
      subst same
      simp only [live, Bool.false_eq_true, if_false] at continued
      exact course_of_reconcileLive storedAs prepared quiet unmoved continued

end Course

end DataPrepperOperator.Controller.SourceDiscovery
