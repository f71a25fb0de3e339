import DataPrepperOperator.Api.Effects

/-!
# Shared controller helpers

`controllerutil` as the reconcilers use it (owner references, create-or-update,
conflict retries), `reconcileOrDelete`, and the client configurations read from
Secrets.
-/

namespace DataPrepperOperator.Controller

open ServerProgram DataPrepperOperator.Api

/-- `fmt.Errorf("context: %w", err)`. -/
def wrapError {Result : Type} (context : String) (action : Reconciler Result) :
    Reconciler Result :=
  ExceptT.mk do
    match ← action.run with
    | .ok result => pure (.ok result)
    | .error message => pure (.error (context ++ message))

/-- An API call whose error is returned as it is. -/
def callApi {Result : Type} (program : Client.Call Result) : Reconciler Result :=
  ExceptT.mk do
    match ← program with
    | .ok result => pure (.ok result)
    | .error error => pure (.error error.message)

/-- Group, version and kind name in the scheme. -/
def groupVersionKind : Kind → String × String × String
  | .configMap => ("", "v1", "ConfigMap")
  | .deployment => ("apps", "v1", "Deployment")
  | .service => ("", "v1", "Service")
  | .horizontalPodAutoscaler => ("autoscaling", "v2", "HorizontalPodAutoscaler")
  | .podDisruptionBudget => ("policy", "v1", "PodDisruptionBudget")
  | .serviceMonitor => ("monitoring.coreos.com", "v1", "ServiceMonitor")
  | .secret => ("", "v1", "Secret")
  | .pipeline => ("dataprepper.kaasops.io", "v1alpha1", "DataPrepperPipeline")
  | .defaults => ("dataprepper.kaasops.io", "v1alpha1", "DataPrepperDefaults")
  | .sourceDiscovery => ("dataprepper.kaasops.io", "v1alpha1", "DataPrepperSourceDiscovery")

def controllerReference {kind : Kind} (owner : Object kind) : OwnerReference :=
  { group := (groupVersionKind kind).1
    version := (groupVersionKind kind).2.1
    kind := (groupVersionKind kind).2.2
    name := owner.name
    uid := owner.metadata.uid
    controller := true
    blockOwnerDeletion := true }

/-- Two references to the same object: the version and the uid are not compared. -/
def referSameObject (first second : OwnerReference) : Bool :=
  decide (first.group = second.group ∧ first.kind = second.kind ∧ first.name = second.name)

/-- Replace the first reference to the same object, or append. -/
def upsertOwnerReference (reference : OwnerReference) :
    List OwnerReference → List OwnerReference
  | [] => [reference]
  | present :: rest =>
      if referSameObject present reference = true then reference :: rest
      else present :: upsertOwnerReference reference rest

/-- `controllerutil.SetControllerReference`: refuses an object that something
else controls. -/
def setControllerReference {kind ownerKind : Kind} (owner : Object ownerKind)
    (object : Object kind) : Except String (Object kind) :=
  let reference := controllerReference owner
  let claim := Except.ok { object with metadata := { object.metadata with
    ownerReferences := upsertOwnerReference reference object.metadata.ownerReferences } }
  match object.controllerOf with
  | none => claim
  | some existing =>
      if referSameObject existing reference = true then claim
      else
        .error ("Object " ++ object.metadata.nameSpace ++ "/" ++ object.name ++
          " is already owned by another " ++ existing.kind ++ " controller " ++ existing.name)

theorem referSameObject_iff {ownerKind : Kind} {owner : Object ownerKind}
    {reference : OwnerReference} :
    referSameObject reference (controllerReference owner) = true ↔
      reference.group = (groupVersionKind ownerKind).1 ∧
        reference.kind = (groupVersionKind ownerKind).2.2 ∧ reference.name = owner.name := by
  unfold referSameObject controllerReference
  exact decide_eq_true_iff

/-- Claiming an object succeeds when no other controller holds it. -/
theorem setControllerReference_ok {kind ownerKind : Kind} {owner : Object ownerKind}
    {object claimed : Object kind} (success : setControllerReference owner object = .ok claimed) :
    claimed = { object with metadata := { object.metadata with
        ownerReferences := upsertOwnerReference (controllerReference owner)
          object.metadata.ownerReferences } } ∧
      ∀ existing, object.controllerOf = some existing →
        referSameObject existing (controllerReference owner) = true := by
  unfold setControllerReference at success
  cases controller : object.controllerOf with
  | none =>
      simp only [controller, Except.ok.injEq] at success
      exact ⟨success.symm, by simp⟩
  | some existing =>
      simp only [controller] at success
      split at success
      · rename_i same
        simp only [Except.ok.injEq] at success
        exact ⟨success.symm, by simpa using same⟩
      · cases success

/-- The new reference becomes the controller unless another object controls. -/
theorem find_upsertOwnerReference {reference : OwnerReference} (controls : reference.controller)
    {references : List OwnerReference}
    (free : ∀ existing, references.find? (·.controller) = some existing →
      referSameObject existing reference = true) :
    (upsertOwnerReference reference references).find? (·.controller) = some reference := by
  induction references with
  | nil => simp [upsertOwnerReference, controls]
  | cons present rest ih =>
      by_cases same : referSameObject present reference = true
      · simp [upsertOwnerReference, same, controls]
      · have uncontrolled : present.controller = false := by
          by_contra controlled
          simp only [Bool.not_eq_false] at controlled
          exact same (free present (by simp [controlled]))
        have freeRest := ih fun existing found =>
          free existing (by simpa [uncontrolled] using found)
        simpa [upsertOwnerReference, same, uncontrolled] using freeRest

theorem controllerOf_of_setControllerReference {kind ownerKind : Kind}
    {owner : Object ownerKind} {object claimed : Object kind}
    (success : setControllerReference owner object = .ok claimed) :
    claimed.controllerOf = some (controllerReference owner) := by
  obtain ⟨rfl, free⟩ := setControllerReference_ok success
  exact find_upsertOwnerReference rfl free

/-- `controllerutil.CreateOrUpdate`: get, mutate, then create, update or leave
alone. -/
def createOrUpdate {kind : Kind} (object : Object kind)
    (mutate : Object kind → Except String (Object kind)) : Reconciler Unit := do
  match ← Fallible.lift (Client.get kind object.name) with
  | .error (.notFound _ _) =>
      let mutated ← Fallible.ofExcept (mutate object)
      let _ ← callApi (Client.create mutated)
  | .error error => throw error.message
  | .ok existing =>
      let mutated ← Fallible.ofExcept (mutate existing)
      if mutated = existing then
        pure ()
      else
        let _ ← callApi (Client.update mutated)

/-- `reconcileOrDelete`.  The delete branch looks at the name only. -/
def reconcileOrDelete {kind : Kind} (object : Object kind) (needed : Bool)
    (mutate : Object kind → Except String (Object kind)) : Reconciler Unit := do
  if needed = false then
    match ← Fallible.lift (Client.get kind object.name) with
    | .error (.notFound _ _) => pure ()
    | .error error => throw error.message
    | .ok found => callApi (Client.delete kind found.name)
  else
    createOrUpdate object mutate

/-- `retry.RetryOnConflict`: repeat while the attempt ends in a conflict. -/
def retryOnConflict {Result : Type} (attempt : Client.Call Result) :
    Nat → Program Op Reply (Except ApiError Result)
  | 0 => attempt
  | further + 1 => do
      match ← attempt with
      | .error (.conflict _ _) => retryOnConflict attempt further
      | outcome => pure outcome

/-- `retry.DefaultRetry` makes five attempts in all. -/
def defaultRetries : Nat := 4

/-- `kafkaConfigFromSecret`. -/
def kafkaConfigFromSecret (bootstrapServers : List String)
    (secretRef : Option SecretReference) : Reconciler KafkaConfig := do
  match secretRef with
  | none => pure { bootstrapServers := bootstrapServers }
  | some reference =>
      let secret ← wrapError "read kafka credentials secret: "
        (callApi (Client.get .secret reference.name))
      pure
        { bootstrapServers := bootstrapServers
          username := (secret.spec.lookup "username").getD []
          password := (secret.spec.lookup "password").getD [] }

/-- `s3ConfigFromSecret`. -/
def s3ConfigFromSecret (spec : S3DiscoverySpec) : Reconciler S3Config := do
  match spec.credentialsSecretRef with
  | none =>
      pure
        { region := spec.region, endpoint := spec.endpoint,
          forcePathStyle := spec.forcePathStyle }
  | some reference =>
      let secret ← wrapError "read s3 credentials secret: "
        (callApi (Client.get .secret reference.name))
      pure
        { region := spec.region
          endpoint := spec.endpoint
          forcePathStyle := spec.forcePathStyle
          accessKeyID := (secret.spec.lookup "aws_access_key_id").getD []
          secretAccessKey := (secret.spec.lookup "aws_secret_access_key").getD [] }

section Runs

variable {Result State : Type} {server : Server State Op Reply} {state final : State}
  {trace : List (Event State Op Reply)} {outcome : Except String Result}

/-- A wrapped action runs as the action itself; only the error text differs. -/
theorem runs_of_wrapError {context : String} {action : Reconciler Result}
    (run : Runs server (wrapError context action).run state trace outcome final) :
    ∃ inner, Runs server action.run state trace inner final ∧
      outcome = inner.mapError (context ++ ·) := by
  obtain ⟨first, middle, inner, second, rfl, ran, finished⟩ := runs_bind_iff.mp run
  refine ⟨inner, ?_⟩
  cases inner with
  | ok | error =>
      obtain ⟨rfl, rfl, rfl⟩ := runs_done_iff.mp finished
      rw [List.append_nil]
      exact ⟨ran, rfl⟩

theorem runs_of_callApi {program : Client.Call Result}
    (run : Runs server (callApi program).run state trace outcome final) :
    ∃ inner, Runs server program state trace inner final ∧
      outcome = inner.mapError ApiError.message := by
  obtain ⟨first, middle, inner, second, rfl, ran, finished⟩ := runs_bind_iff.mp run
  refine ⟨inner, ?_⟩
  cases inner with
  | ok | error =>
      obtain ⟨rfl, rfl, rfl⟩ := runs_done_iff.mp finished
      rw [List.append_nil]
      exact ⟨ran, rfl⟩

theorem runs_wrapError_ok {context : String} {action : Reconciler Result} {result : Result}
    (run : Runs server (wrapError context action).run state trace (.ok result) final) :
    Runs server action.run state trace (.ok result) final := by
  obtain ⟨inner, ran, same⟩ := runs_of_wrapError run
  cases inner with
  | ok returned =>
      cases same
      exact ran
  | error message => cases same

theorem runs_callApi_ok {program : Client.Call Result} {result : Result}
    (run : Runs server (callApi program).run state trace (.ok result) final) :
    Runs server program state trace (.ok result) final := by
  obtain ⟨inner, ran, same⟩ := runs_of_callApi run
  cases inner with
  | ok returned =>
      cases same
      exact ran
  | error error => cases same

end Runs

section Observes

variable {Result : Type} {faulty : (op : Op) → Reply op → Prop}

theorem observes_wrapError {context : String} {action : Reconciler Result}
    {compute : Cluster → Except String Result} (computed : Observes faulty action compute) :
    Observes faulty (wrapError context action)
      fun cluster => (compute cluster).mapError (context ++ ·) := by
  intro state trace outcome final run
  obtain ⟨inner, ran, rfl⟩ := runs_of_wrapError run
  obtain ⟨rfl, quiet, rfl | ⟨excuse, failure, rfl⟩⟩ := computed _ _ _ _ ran
  · exact ⟨rfl, quiet, .inl rfl⟩
  · exact ⟨rfl, quiet, .inr ⟨excuse, _, rfl⟩⟩

/-- A call of another service. -/
theorem observes_remote {op : Op} {program : Client.RemoteCall Result}
    {answer : Cluster → Except String Result} (reads : op.target = none)
    (called : ∀ state trace outcome final, Runs (Serves faulty) program state trace outcome final →
      ∃ reply, (Serves faulty state op reply final ∧ trace = [⟨state, op, reply, final⟩]) ∧
        (Fails op reply → ∃ message, outcome = .error message) ∧
        (Honest state op reply state → outcome = answer state)) :
    Observes faulty (ExceptT.mk program) answer := by
  intro state trace outcome final run
  obtain ⟨reply, ⟨served, rfl⟩, failing, honest⟩ := called _ _ _ _ run
  have quiet : ∀ event ∈ [(⟨state, op, reply, final⟩ : Event Cluster Op Reply)],
      event.op.target = none := by
    simpa using reads
  obtain ⟨rfl, answered | ⟨excuse, fails⟩⟩ := served.read_cases reads
  · exact ⟨rfl, quiet, .inl (honest answered)⟩
  · exact ⟨rfl, quiet, .inr ⟨excuse, failing fails⟩⟩

theorem observes_callGet (kind : Kind) (name : String) :
    Observes faulty (callApi (Client.get kind name))
      fun cluster => (cluster.read kind name).mapError ApiError.message := by
  intro state trace outcome final run
  obtain ⟨reply, called, rfl⟩ := runs_of_callApi run
  obtain ⟨_, quiet⟩ := runs_read rfl called
  obtain ⟨served, rfl⟩ := runs_request_iff.mp called
  obtain ⟨rfl, ⟨rfl, _⟩ | ⟨excuse, error, rfl⟩⟩ := served.read_cases rfl
  · exact ⟨rfl, quiet, .inl rfl⟩
  · exact ⟨rfl, quiet, .inr ⟨excuse, _, rfl⟩⟩

end Observes

section Rules

variable {Result : Type} {State : Type} {server : Server State Op Reply}
  {rely guarantee : State → State → Prop} {fact : State → Prop} {good : Result → Prop}
  {allowed : Op → Prop} {possible : (op : Op) → Reply op → Prop}

theorem ensures_wrapError {context : String} {action : Reconciler Result} {state : State}
    (ensured : Ensures server rely guarantee
      (fun outcome final => fact final ∧ OnSuccess good outcome) action.run state) :
    Ensures server rely guarantee
      (fun outcome final => fact final ∧ OnSuccess good outcome)
      (wrapError context action).run state := by
  apply Ensures.bind ensured
  intro outcome final holds
  cases outcome with
  | ok | error => exact holds

theorem upholds_wrapError {context : String} {action : Reconciler Result}
    {holds : Result → State → Prop}
    (upholds : Upholds server rely guarantee fact holds action) :
    Upholds server rely guarantee fact holds (wrapError context action) := by
  intro state initially
  apply Ensures.bind (upholds state initially)
  intro outcome final ended
  cases outcome with
  | ok result => exact ended
  | error message => trivial

theorem upholds_callApi {call : Client.Call Result} {holds : Result → State → Prop}
    (ensured : ∀ state, fact state → Ensures server rely guarantee
      (fun reply final => OnSuccess (fun result => holds result final) reply) call state) :
    Upholds server rely guarantee fact holds (callApi call) := by
  intro state initially
  apply Ensures.bind (ensured state initially)
  intro reply final ended
  cases reply with
  | ok result => exact ended
  | error error => trivial

theorem issues_wrapError {context : String} {action : Reconciler Result}
    (issued : Issues allowed possible (OnSuccess good) action.run) :
    Issues allowed possible (OnSuccess good) (wrapError context action).run := by
  apply Issues.bind issued
  intro outcome holds
  cases outcome with
  | ok result => exact holds
  | error message => trivial

theorem issues_callApi {program : Client.Call Result}
    (issued : Issues allowed possible (OnSuccess good) program) :
    Issues allowed possible (OnSuccess good) (callApi program).run := by
  apply Issues.bind issued
  intro outcome holds
  cases outcome with
  | ok result => exact holds
  | error error => trivial

theorem issues_retryOnConflict {attempt : Client.Call Result}
    (issued : Issues allowed possible (OnSuccess good) attempt) (further : Nat) :
    Issues allowed possible (OnSuccess good) (retryOnConflict attempt further) := by
  induction further with
  | zero => exact issued
  | succ further ih =>
      apply Issues.bind issued
      intro outcome holds
      cases outcome with
      | ok result => exact holds
      | error error =>
          cases error with
          | conflict kind name => exact ih
          | notFound | alreadyExists | refused => trivial

end Rules

end DataPrepperOperator.Controller
