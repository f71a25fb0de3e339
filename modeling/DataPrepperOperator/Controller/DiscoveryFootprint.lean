import DataPrepperOperator.Controller.Footprint
import DataPrepperOperator.Controller.SourceDiscovery

/-!
# What a discovery calls

The operations of each part of a discovery cycle, against any server: discovering only
reads, and the children are pipelines.
-/

namespace DataPrepperOperator.Controller.SourceDiscovery

open ServerProgram DataPrepperOperator.Api DataPrepperOperator.Discovery

variable {allowed : Op → Prop} {possible : (op : Op) → Reply op → Prop}

section Discovering

variable (reads : ∀ op, op.target = none → allowed op)

include reads

theorem issues_s3ConfigFromSecret (spec : S3DiscoverySpec) :
    Issues allowed possible (OnSuccess fun _ => True) (s3ConfigFromSecret spec).run := by
  unfold s3ConfigFromSecret
  cases spec.credentialsSecretRef with
  | none => trivial
  | some reference =>
      apply Issues.bind_fallible (fun _ => True)
      · apply issues_wrapError
        apply issues_callApi
        exact (issues_read reads (.get .secret reference.name) rfl).weaken
          fun reply _ => onSuccess_true reply
      · exact fun _ _ => trivial

theorem issues_kafkaDiscover (discoverer : KafkaDiscoverer) (toolkit : Toolkit) :
    Issues allowed possible (OnSuccess fun _ => True) (discoverer.discover toolkit).run := by
  apply Issues.bind_fallible _
    (issues_remote (issues_read reads (.kafkaListTopics discoverer.client) rfl))
  intro listed _
  apply Issues.bind_fallible _ (Issues.lift (issues_read reads (.rangeOver _) rfl))
  exact fun _ _ => trivial

omit reads in
theorem issues_concatMapM {action : String → Reconciler (List String)}
    (each : ∀ item, Issues allowed possible (OnSuccess fun _ => True) (action item).run)
    (items : List String) :
    Issues allowed possible (OnSuccess fun _ => True) (concatMapM action items).run := by
  induction items with
  | nil => trivial
  | cons item rest ih =>
      apply Issues.bind_fallible _ (each item)
      intro own _
      apply Issues.bind_fallible _ ih
      exact fun _ _ => trivial

theorem issues_listAtDepth (discoverer : S3Discoverer) (further : Nat) (pathPrefix : String) :
    Issues allowed possible (OnSuccess fun _ => True)
      (discoverer.listAtDepth further pathPrefix).run := by
  have listed : ∀ pathPrefix, Issues allowed possible (OnSuccess fun _ => True)
      (Client.s3ListPrefixes discoverer.client discoverer.bucket pathPrefix) := fun pathPrefix =>
    (issues_read reads (.s3ListPrefixes discoverer.client discoverer.bucket pathPrefix) rfl).weaken
      fun reply _ => onSuccess_true reply
  induction further generalizing pathPrefix with
  | zero => exact listed pathPrefix
  | succ further ih =>
      apply Issues.bind_fallible (fun _ => True) (listed pathPrefix)
      intro prefixes _
      exact issues_concatMapM ih prefixes

theorem issues_s3Discover (discoverer : S3Discoverer) (toolkit : Toolkit) :
    Issues allowed possible (OnSuccess fun _ => True) (discoverer.discover toolkit).run := by
  apply Issues.bind_fallible _ (issues_wrapError (issues_listAtDepth reads discoverer _ _))
  exact fun _ _ => trivial

theorem issues_discoverSources {reconciler : DiscoveryReconciler}
    {spec : DataPrepperSourceDiscoverySpec} {discover : Reconciler (List DiscoveredSource)}
    (chosen : discoverSources reconciler spec = some discover) :
    Issues allowed possible (OnSuccess fun _ => True) discover.run := by
  unfold discoverSources at chosen
  split at chosen
  next kafka _ _ =>
    obtain rfl := Option.some.inj chosen
    unfold discoverKafka
    split
    · trivial
    · apply Issues.bind_fallible _ (issues_kafkaConfigFromSecret _ fun _ _ => reads _ rfl)
      intro config _
      apply Issues.bind_fallible _ (issues_remote (issues_read reads (.kafkaConnect config) rfl))
      exact fun _ _ => issues_kafkaDiscover reads _ _
  next s3 _ _ =>
    obtain rfl := Option.some.inj chosen
    unfold discoverS3
    split
    · trivial
    · apply Issues.bind_fallible _ (issues_s3ConfigFromSecret reads s3)
      intro config _
      apply Issues.bind_fallible _ (issues_remote (issues_read reads (.s3Connect config) rfl))
      exact fun _ _ => issues_s3Discover reads _ _
  next => cases chosen

end Discovering

/-- The writes by which a discovery keeps its children, lets them go and removes them. -/
structure WritesChildren (allowed : Op → Prop) (discovery : DataPrepperSourceDiscovery) :
    Prop where
  adopts : ∀ wanted object claimed, adoptChild discovery wanted object = .ok claimed →
    allowed (.create .pipeline claimed) ∧ allowed (.update .pipeline claimed)
  orphans : ∀ pipeline, allowed (.update .pipeline (orphaned discovery pipeline))
  deletes : ∀ name, allowed (.delete .pipeline name)

theorem writesChildren_of_target
    (children : ∀ op name, op.target = some (.pipeline, name) → allowed op)
    (discovery : DataPrepperSourceDiscovery) : WritesChildren allowed discovery where
  adopts _ _ _ _ := ⟨children _ _ rfl, children _ _ rfl⟩
  orphans _ := children _ _ rfl
  deletes _ := children _ _ rfl

section Children

variable {discovery : DataPrepperSourceDiscovery} (reads : ∀ op, op.target = none → allowed op)
  (expected : ∀ op reply, possible op reply → Expected op reply)
  (children : WritesChildren allowed discovery)

include reads expected children in
theorem issues_writeChild (name : String) (wanted : Desired) :
    Issues allowed possible (OnSuccess fun _ => True) (writeChild discovery name wanted).run :=
  issues_createOrUpdate (reads _ rfl) expected
    fun object claimed _ success => children.adopts wanted object claimed success

include reads expected children in
theorem issues_createMissing (desired : GoMap Desired)
    (existing : GoMap DataPrepperPipeline) (limit : Int) (names : List String) (created : Nat) :
    Issues allowed possible (OnSuccess fun _ => True)
      (createMissing discovery desired existing limit names created).run := by
  induction names generalizing created with
  | nil => trivial
  | cons name rest ih =>
      unfold createMissing
      split
      · split
        · exact ih created
        · apply Issues.bind_fallible _
            (issues_wrapError (issues_writeChild reads expected children name _))
          exact fun _ _ => ih (created + 1)
      · exact ih created

include reads expected children in
theorem issues_updateBatch (desired : GoMap Desired) (limit : Nat) (names : List String)
    (updated : Nat) :
    Issues allowed possible (OnSuccess fun _ => True)
      (updateBatch discovery desired limit names updated).run := by
  induction names generalizing updated with
  | nil => trivial
  | cons name rest ih =>
      unfold updateBatch
      split
      · trivial
      · split
        · exact ih updated
        · apply Issues.bind_fallible _
            (issues_wrapError (issues_writeChild reads expected children name _))
          exact fun _ _ => ih (updated + 1)

include reads expected children in
theorem issues_rollOut (desired : GoMap Desired)
    (existing : GoMap DataPrepperPipeline) :
    Issues allowed possible (OnSuccess fun _ => True)
      (rollOut discovery desired existing).run := by
  apply Issues.bind_fallible _ (Issues.lift (issues_read reads (.rangeOver _) rfl))
  intro creationOrder _
  apply Issues.bind_fallible _ (issues_createMissing reads expected children desired existing _ _ _)
  intro created _
  apply Issues.bind_fallible _ (Issues.lift (issues_read reads (.rangeOver _) rfl))
  intro updateOrder _
  dsimp only
  split
  · trivial
  · apply Issues.bind_fallible _ (Issues.lift (issues_read reads (.rangeOver _) rfl))
    intro order _
    split
    · trivial
    · apply Issues.bind_fallible _ (issues_updateBatch reads expected children desired _ _ _)
      exact fun _ _ => trivial

include reads in
theorem issues_listChildren (discovery : DataPrepperSourceDiscovery) :
    Issues allowed possible (OnSuccess fun _ => True)
      (wrapError "list child pipelines: "
        (callApi (Client.listPipelines (childSelector discovery)))).run := by
  apply issues_wrapError
  apply issues_callApi
  exact (issues_read reads (.listPipelines (childSelector discovery)) rfl).weaken
    fun reply _ => onSuccess_true reply

include reads expected children in
theorem issues_reconcilePipelines (reconciler : DiscoveryReconciler)
    (sources : List DiscoveredSource) :
    Issues allowed possible (OnSuccess fun _ => True)
      (reconcilePipelines reconciler discovery sources).run := by
  apply Issues.bind_fallible (fun _ => True) (Issues.ofExcept fun _ _ => trivial)
  intro desired _
  apply Issues.bind_fallible _ (issues_listChildren reads discovery)
  exact fun _ _ => issues_rollOut reads expected children desired _

include children in
theorem issues_orphan (pipeline : DataPrepperPipeline) :
    Issues allowed possible (OnSuccess fun _ => True) (orphan discovery pipeline).run := by
  apply Issues.bind_fallible (fun _ => True)
  · apply issues_wrapError
    apply issues_callApi
    exact Issues.request _ (children.orphans pipeline) fun reply _ => onSuccess_true reply
  · exact fun _ _ => trivial

include children in
theorem issues_cleanUp (pipeline : DataPrepperPipeline) :
    Issues allowed possible (OnSuccess fun _ => True) (cleanUp discovery pipeline).run := by
  unfold cleanUp
  split
  · apply issues_wrapError
    apply issues_callApi
    exact Issues.request _ (children.deletes pipeline.name) fun reply _ => onSuccess_true reply
  · exact issues_orphan children pipeline
  · trivial

include reads children in
theorem issues_cleanupOrphans (sources : List DiscoveredSource) :
    Issues allowed possible (OnSuccess fun _ => True)
      (cleanupOrphans discovery sources).run := by
  apply Issues.bind_fallible _ (issues_listChildren reads discovery)
  intro items _
  induction items with
  | nil => trivial
  | cons pipeline rest ih =>
      unfold cleanUpAll
      split
      · exact ih
      · apply Issues.bind_fallible _ (issues_cleanUp children pipeline)
        exact fun _ _ => ih

include reads children in
theorem issues_cleanupOnDeletion :
    Issues allowed possible (OnSuccess fun _ => True) (cleanupOnDeletion discovery).run := by
  apply Issues.bind_fallible _ (issues_listChildren reads discovery)
  intro items _
  split
  · induction items with
    | nil => trivial
    | cons pipeline rest ih =>
        apply Issues.bind_fallible _ (issues_orphan children pipeline)
        exact fun _ _ => ih
  · trivial
  · trivial

include reads children in
theorem issues_finalize
    (finalizer : ∀ finalizers, allowed (.update .sourceDiscovery
      { discovery with metadata := { discovery.metadata with finalizers := finalizers } })) :
    Issues allowed possible (OnSuccess fun _ => True) (finalize discovery).run := by
  unfold finalize
  split
  · apply Issues.bind_fallible (fun _ => True)
    · exact issues_wrapError (issues_cleanupOnDeletion reads children)
    · intro _ _
      apply Issues.bind_fallible (fun _ => True)
      · apply issues_wrapError
        apply issues_callApi
        exact Issues.request _ (finalizer _) fun reply _ => onSuccess_true reply
      · exact fun _ _ => trivial
  · trivial

end Children

section Storing

variable (reads : ∀ op, op.target = none → allowed op)

include reads

/-- Reading again and storing, as often as it takes, with something that holds of every
version. -/
theorem issues_retryAssigning {held : DataPrepperSourceDiscovery → Prop}
    {store : DataPrepperSourceDiscovery → Client.Call DataPrepperSourceDiscovery}
    {change : DataPrepperSourceDiscovery → DataPrepperSourceDiscovery}
    (fetches : ∀ discovery, held discovery → ∀ reply,
      possible (.get .sourceDiscovery discovery.name) reply → OnSuccess held reply)
    (changes : ∀ fresh, held fresh → held (change fresh))
    (stores : ∀ fresh, held fresh →
      Issues allowed possible (OnSuccess held) (store (change fresh)))
    (further : Nat) {discovery : DataPrepperSourceDiscovery} (initially : held discovery) :
    Issues allowed possible (fun attempt => held attempt.1)
      (retryAssigning (storeFresh store change) further discovery) := by
  have once : ∀ discovery, held discovery → Issues allowed possible (fun attempt => held attempt.1)
      (storeFresh store change discovery) := by
    intro discovery holds
    apply Issues.bind (Issues.request (.get .sourceDiscovery discovery.name) (reads _ rfl)
      (fetches discovery holds))
    intro outcome fetched
    cases outcome with
    | error error => exact holds
    | ok fresh =>
        apply Issues.bind (stores fresh fetched)
        intro reply stored
        cases reply with
        | error error => exact changes fresh fetched
        | ok object => exact stored
  induction further generalizing discovery with
  | zero => exact once discovery initially
  | succ further ih =>
      apply Issues.bind (once discovery initially)
      intro tried holds
      split
      · exact ih holds
      · exact holds

/-- Up to the number of children, the status that is stored is the one in hand. -/
theorem issues_updateDiscoveryStatus {discovery : DataPrepperSourceDiscovery}
    (expected : ∀ op reply, possible op reply → Expected op reply)
    (status : ∀ object : DataPrepperSourceDiscovery, object.name = discovery.name →
      ({ object.status with activePipelines := discovery.status.activePipelines } :
        DataPrepperSourceDiscoveryStatus) = discovery.status →
      allowed (.updateStatus .sourceDiscovery object)) :
    Issues allowed possible (fun _ => True) (updateDiscoveryStatus discovery) := by
  have counts : Issues allowed possible (fun counted =>
      ({ counted with activePipelines := discovery.status.activePipelines } :
        DataPrepperSourceDiscoveryStatus) = discovery.status) (countActive discovery) := by
    apply Issues.bind (issues_read reads (.listPipelines (childSelector discovery)) rfl)
    intro outcome _
    cases outcome <;> rfl
  apply counts.bind
  intro counted same
  have retried : Issues allowed possible (fun attempt => attempt.1.name = discovery.name)
      (retryAssigning (storeFresh Client.updateStatus fun fresh => { fresh with status := counted })
        defaultRetries discovery) := by
    refine @issues_retryAssigning allowed possible reads (fun tried => tried.name = discovery.name)
      _ _ ?_ ?_ ?_ _ _ ?_
    · intro fresh named reply possibleReply
      cases reply with
      | error error => trivial
      | ok object => exact (expected _ _ possibleReply object rfl).trans named
    · exact fun _ named => named
    · intro fresh named
      have permitted := status { fresh with status := counted } named same
      apply Issues.request _ permitted
      intro reply possibleReply
      cases reply with
      | error error => trivial
      | ok object => exact (expected _ _ possibleReply object rfl).trans named
    · rfl
  exact retried.weaken fun _ _ => trivial

end Storing

end DataPrepperOperator.Controller.SourceDiscovery
