import DataPrepperOperator.Controller.KafkaStatus
import DataPrepperOperator.Generator.Merging

/-!
# Errors when reading the inputs

A reconcile takes unreadable defaults for missing ones, leaves unreadable Secrets out
of the hash and falls back to one replica when it cannot read the Kafka credentials.
Such an error is harmless if the missing input makes no difference.
-/

namespace DataPrepperOperator.Controller

open ServerProgram DataPrepperOperator.Api DataPrepperOperator.Generator

/-- Besides what may go wrong with child objects, the defaults and Secrets may be
unreadable; what is reported missing is missing. -/
def InputFault : (op : Op) → Reply op → Prop
  | .get _ _, .error (.notFound _ _) => False
  | .get .defaults _, .error _ | .get .secret _, .error _ => True
  | op, reply => ChildFault op reply

def readsInput : Op → Bool
  | .get .defaults _ | .get .secret _ => true
  | _ => false

/-- The input that an event failed to read, other than by finding it missing. -/
def unread (event : Event Cluster Op Reply) : Option (Kind × String) :=
  match event with
  | ⟨_, .get _ _, .error (.notFound _ _), _⟩ => none
  | ⟨_, .get .defaults name, .error _, _⟩ => some (.defaults, name)
  | ⟨_, .get .secret name, .error _, _⟩ => some (.secret, name)
  | _ => none

def unreadInputs (trace : List (Event Cluster Op Reply)) : List (Kind × String) :=
  trace.filterMap unread

theorem unreadInputs_append (earlier later : List (Event Cluster Op Reply)) :
    unreadInputs (earlier ++ later) = unreadInputs earlier ++ unreadInputs later :=
  List.filterMap_append

theorem unread_eq_none {event : Event Cluster Op Reply} (other : readsInput event.op = false) :
    unread event = none := by
  obtain ⟨before, op, reply, after⟩ := event
  cases op with
  | get kind name =>
      cases reply with
      | ok object => rfl
      | error error => cases kind <;> cases error <;> first | rfl | cases other
  | _ => rfl

theorem unreadInputs_eq_nil {trace : List (Event Cluster Op Reply)}
    (others : ∀ event ∈ trace, readsInput event.op = false) : unreadInputs trace = [] :=
  List.filterMap_eq_nil_iff.mpr fun event member => unread_eq_none (others event member)

theorem childFault_of_read {before after : Cluster} {op : Op} {reply : Reply op}
    (faulty : InputFault op reply) (wasRead : unread ⟨before, op, reply, after⟩ = none) :
    ChildFault op reply := by
  cases op with
  | get kind name =>
      cases reply with
      | ok object => cases kind <;> exact faulty
      | error error => cases kind <;> cases error <;> first | exact faulty | cases wasRead
  | _ => exact faulty

theorem disturbed_of_served {before after : Cluster} {op : Op} {reply : Reply op}
    (served : Serves InputFault before op reply after)
    (wasRead : unread ⟨before, op, reply, after⟩ = none) : Disturbed before op reply after := by
  cases served with
  | honest answered => exact Serves.honest answered
  | failed faulty fails => exact Serves.failed (childFault_of_read faulty wasRead) fails
  | lost faulty fails answered =>
      exact Serves.lost (childFault_of_read faulty wasRead) fails answered

section Transport

variable {Result : Type} {program : Program Op Reply Result} {state final : Cluster}
  {trace : List (Event Cluster Op Reply)} {result : Result}

/-- Where every input is read, only child objects are disturbed. -/
theorem disturbed_of_read (run : Runs (Serves InputFault) program state trace result final)
    (allRead : unreadInputs trace = []) : Runs Disturbed program state trace result final := by
  induction run with
  | done => exact .done
  | call served _ ih =>
      obtain ⟨here, later⟩ := List.forall_mem_cons.mp (List.filterMap_eq_nil_iff.mp allRead)
      exact .call (disturbed_of_served served here)
        (ih (List.filterMap_eq_nil_iff.mpr later))

/-- Programs that read no inputs. -/
abbrev InputFree (program : Program Op Reply Result) : Prop :=
  Issues (fun op => readsInput op = false) Expected (fun _ => True) program

theorem InputFree.unread (free : InputFree program)
    (run : Runs (Serves InputFault) program state trace result final) : unreadInputs trace = [] :=
  unreadInputs_eq_nil (free.runs (fun _ _ _ _ served => served.expected) run).2

theorem InputFree.disturbed (free : InputFree program)
    (run : Runs (Serves InputFault) program state trace result final) :
    Runs Disturbed program state trace result final :=
  disturbed_of_read run (free.unread run)

end Transport

section InputFree

variable {Result Failure : Type}

theorem InputFree.of_fallible {program : Program Op Reply (Except Failure Result)}
    (issued : Issues (fun op => readsInput op = false) Expected (OnSuccess fun _ => True) program) :
    InputFree program :=
  issued.weaken fun _ _ => trivial

theorem Child.issues_inputFree (owner : DataPrepperPipeline) {child : Child}
    (isChild : readsInput (.get child.kind child.name) = false) :
    Issues (fun op => readsInput op = false) Expected (OnSuccess fun _ => True)
      (child.deploy owner).run :=
  issues_reconcileOrDelete isChild (fun _ _ expected => expected)
    (fun _ _ _ _ => ⟨rfl, rfl⟩) fun _ => rfl

theorem inputFree_deployChildren (owner : DataPrepperPipeline)
    (mergedSpec : DataPrepperPipelineSpec) (plan : Plan) :
    InputFree (deployChildren owner mergedSpec plan).run := by
  rw [deployChildren_eq]
  apply InputFree.of_fallible
  apply issues_deployAll
  intro step member
  apply Child.issues_inputFree
  simp only [children, List.mem_cons, List.not_mem_nil, or_false] at member
  obtain rfl | rfl | rfl | rfl | rfl | rfl | rfl := member <;> rfl

theorem issues_updateStatus_inputFree (pipeline : DataPrepperPipeline) (errorPhase : Bool)
    (message : String) :
    Issues (fun op => readsInput op = false) Expected (OnSuccess fun _ => True)
      (updateStatus pipeline errorPhase message).run := by
  apply issues_updateStatus (fun _ _ expected => expected)
  · rfl
  · rfl
  · exact fun _ _ _ => rfl

theorem inputFree_finish (reconciler : PipelineReconciler) (pipeline : DataPrepperPipeline)
    (mergedSpec : DataPrepperPipelineSpec) :
    InputFree (finish reconciler pipeline mergedSpec).run := by
  apply InputFree.of_fallible
  apply Issues.bind_fallible (fun _ => True)
  · unfold deployServiceMonitor
    split
    · apply Issues.bind_fallible (fun _ => True)
      · apply Issues.lift
        have monitor := Child.issues_inputFree pipeline
          (rfl : readsInput (.get (monitorChild pipeline mergedSpec).kind _) = false)
        exact monitor.weaken fun _ _ => trivial
      · intro _ _
        trivial
    · trivial
  · intro _ _
    have listed : Issues (fun op => readsInput op = false) Expected (fun _ => True)
        (Program.request (Op.listPipelines .everything)) := Issues.request _ rfl fun _ _ => trivial
    apply Issues.bind_fallible _ (Issues.lift listed)
    intro _ _
    exact issues_updateStatus_inputFree pipeline false ""

end InputFree

section Seeing

variable {state final : Cluster} {trace : List (Event Cluster Op Reply)}

def ranges (event : Event Cluster Op Reply) : Bool :=
  match event.op with
  | .rangeOver _ => true
  | _ => false

theorem events_askPartitions {config : KafkaConfig} {topic : String}
    {outcome : Except String Int}
    (run : Runs (Serves InputFault) (askPartitions config topic).run state trace outcome final) :
    (∀ event ∈ trace, ranges event = false) ∧ unreadInputs trace = [] := by
  have issued : Issues (fun op => readsInput op = false ∧ ∀ keys, op ≠ .rangeOver keys) Expected
      (OnSuccess fun _ => True) (askPartitions config topic).run := by
    apply issues_askPartitions
    · exact ⟨rfl, by simp⟩
    · exact ⟨rfl, by simp⟩
  have events := (issued.runs (fun _ _ _ _ served => served.expected) run).2
  refine ⟨?_, unreadInputs_eq_nil fun event member => (events event member).1⟩
  intro event member
  obtain ⟨before, op, reply, after⟩ := event
  cases op with
  | rangeOver keys => exact absurd rfl ((events _ member).2 keys)
  | _ => rfl

theorem events_kafkaConfigFromSecret {servers : List String} {reference : Option SecretReference}
    {outcome : Except String KafkaConfig}
    (run : Runs (Serves InputFault) (kafkaConfigFromSecret servers reference).run state trace
      outcome final) :
    (∀ event ∈ trace, ranges event = false) ∧
      (unreadInputs trace = [] ∨
        ∃ secret message, unreadInputs trace = [(.secret, secret)] ∧
          outcome = .error message) := by
  cases reference with
  | none =>
      obtain ⟨rfl, _⟩ := runs_pure_iff.mp run
      exact ⟨by simp, .inl rfl⟩
  | some reference =>
      obtain ⟨reply, _, _, _, rfl, rest⟩ := runs_call_iff.mp run
      cases reply with
      | ok secret =>
          obtain ⟨rfl, _⟩ := runs_done_iff.mp rest
          exact ⟨by simp [ranges], .inl rfl⟩
      | error error =>
          obtain ⟨rfl, rfl, _⟩ := runs_done_iff.mp rest
          refine ⟨by simp [ranges], ?_⟩
          cases error with
          | notFound kind missing => exact .inl rfl
          | alreadyExists | conflict | refused => exact .inr ⟨_, _, rfl, rfl⟩

/-- The events of a calculation are a read of the credentials and what is asked of the
brokers. -/
theorem events_calculateKafkaScaling {reconciler : PipelineReconciler} {source : KafkaSourceSpec}
    {minReplicas maxReplicas : Int} {outcome : Except String ScalingDecision}
    (run : Runs (Serves InputFault) (calculateKafkaScaling reconciler source minReplicas
      maxReplicas).run state trace outcome final) :
    (∀ event ∈ trace, ranges event = false) ∧
      (unreadInputs trace = [] ∨
        ∃ secret message, unreadInputs trace = [(.secret, secret)] ∧
          outcome = .error message) := by
  unfold calculateKafkaScaling at run
  split at run
  · obtain ⟨rfl, _⟩ := runs_pure_iff.mp run
    exact ⟨by simp, .inl rfl⟩
  rcases runs_fallible_bind_iff.mp run with
    ⟨failure, rfl, failed⟩ | ⟨front, _, config, rest, rfl, configured, asking⟩
  · obtain ⟨noRange, allRead | ⟨secret, _, missed, _⟩⟩ := events_kafkaConfigFromSecret failed
    · exact ⟨noRange, .inl allRead⟩
    · exact ⟨noRange, .inr ⟨secret, failure, missed, rfl⟩⟩
  obtain ⟨noRange, allRead | ⟨_, _, _, impossible⟩⟩ := events_kafkaConfigFromSecret configured
  · have others : (∀ event ∈ rest, ranges event = false) ∧ unreadInputs rest = [] := by
      rcases runs_fallible_bind_iff.mp asking with
        ⟨_, _, failed⟩ | ⟨_, _, _, _, rfl, asked, decided⟩
      · exact events_askPartitions failed
      · obtain ⟨rfl, _⟩ := runs_ofExcept_iff.mp decided
        rw [List.append_nil]
        exact events_askPartitions asked
    rw [unreadInputs_append, allRead, others.2]
    refine ⟨?_, .inl rfl⟩
    intro event member
    obtain early | late := List.mem_append.mp member
    · exact noRange event early
    · exact others.1 event late
  · cases impossible

theorem events_calculateScaling {reconciler : PipelineReconciler}
    {spec : DataPrepperPipelineSpec} {outcome : Except String ScalingDecision}
    (run : Runs (Serves InputFault) (calculateScaling reconciler spec).run state trace outcome
      final) :
    (∀ event ∈ trace, ranges event = false) ∧
      (unreadInputs trace = [] ∨
        ∃ secret message, unreadInputs trace = [(.secret, secret)] ∧
          outcome = .error message) := by
  unfold calculateScaling at run
  split at run
  · obtain ⟨rfl, _⟩ := runs_pure_iff.mp run
    exact ⟨by simp, .inl rfl⟩
  · exact events_calculateKafkaScaling run

/-- Credentials that cannot be read end the calculation; otherwise it is as if all was
well. -/
theorem runs_calculateScaling_unread {reconciler : PipelineReconciler} {inputs : Inputs}
    {outcome : Except String ScalingDecision} (agree : inputs.AgreeWith state)
    (run : Runs (Serves InputFault) (calculateScaling reconciler inputs.mergedSpec).run state
      trace outcome final) :
    unreadInputs trace = [] ∧ outcome = inputs.scaling reconciler ∨
      ∃ secret message, unreadInputs trace = [(.secret, secret)] ∧ outcome = .error message := by
  obtain ⟨_, allRead | missed⟩ := events_calculateScaling run
  · exact .inl ⟨allRead, (runs_calculateScaling agree (disturbed_of_read run allRead)).1⟩
  · exact .inr missed

theorem runs_secretFields_unread {name : String} {fields : List Bytes}
    (run : Runs (Serves InputFault) (secretFields name) state trace fields final) :
    final = state ∧
      (unreadInputs trace = [] ∧
          fields = Inputs.storedFields ((state.find .secret name).map (·.spec)) ∨
        unreadInputs trace = [(.secret, name)] ∧ fields = []) := by
  obtain ⟨reply, middle, later, served, rfl, rest⟩ := runs_call_iff.mp run
  obtain rfl := served.unchanged rfl
  by_cases failed : unread ⟨middle, .get .secret name, reply, middle⟩ = none
  · have others : unreadInputs later = [] := by
      cases reply with
      | error error =>
          obtain ⟨rfl, _⟩ := runs_done_iff.mp rest
          rfl
      | ok secret =>
          obtain ⟨_, _, _, _, rfl, finished⟩ := runs_call_iff.mp rest
          obtain ⟨rfl, _⟩ := runs_done_iff.mp finished
          rfl
    have allRead : unreadInputs (⟨middle, .get .secret name, reply, middle⟩ :: later) = [] := by
      unfold unreadInputs at others ⊢
      rw [List.filterMap_cons, failed, others]
    obtain ⟨same, rfl⟩ := runs_secretFields (disturbed_of_read run allRead)
    exact ⟨rfl, .inl ⟨allRead, same⟩⟩
  · cases reply with
    | ok secret => exact absurd rfl failed
    | error error =>
        obtain ⟨rfl, rfl, rfl⟩ := runs_done_iff.mp rest
        cases error with
        | notFound kind missing => exact absurd rfl failed
        | alreadyExists | conflict | refused => exact ⟨rfl, .inr ⟨rfl, rfl⟩⟩

/-- What the hash says about a Secret. -/
abbrev Inputs.bytesIn (cluster : Cluster) (secret : String) : Bytes :=
  (storedFields ((cluster.find .secret secret).map (·.spec))).flatten

theorem mem_unreadInputs_cons_iff {names : List (Kind × String)} {secret : String} :
    (∀ name, (Kind.secret, name) ∈ (Kind.secret, secret) :: names →
        Inputs.bytesIn state name = []) ↔
      Inputs.bytesIn state secret = [] ∧
        ∀ name, (Kind.secret, name) ∈ names → Inputs.bytesIn state name = [] := by
  simp [List.mem_cons]

/-- The hashed bytes are shorter if a Secret with data cannot be read. -/
theorem runs_allSecretFields_unread {names : List String} {fields : List Bytes}
    (run : Runs (Serves InputFault) (allSecretFields names) state trace fields final) :
    final = state ∧ (∀ input ∈ unreadInputs trace, ∃ secret ∈ names, input = (.secret, secret)) ∧
      (∃ kept : List String, kept.Sublist names ∧
        fields.flatten = kept.flatMap (Inputs.bytesIn state)) ∧
      fields.flatten.length ≤ (names.flatMap (Inputs.bytesIn state)).length ∧
      (fields.flatten = names.flatMap (Inputs.bytesIn state) ↔
        ∀ secret, (Kind.secret, secret) ∈ unreadInputs trace →
          Inputs.bytesIn state secret = []) := by
  induction names generalizing trace fields with
  | nil =>
      obtain ⟨rfl, rfl, rfl⟩ := runs_done_iff.mp run
      simp [unreadInputs]
  | cons name rest ih =>
      obtain ⟨first, middle, here, second, rfl, ranFirst, continued⟩ := runs_bind_iff.mp run
      obtain ⟨last, _, there, third, rfl, ranRest, finished⟩ := runs_bind_iff.mp continued
      obtain ⟨rfl, rfl, rfl⟩ := runs_done_iff.mp finished
      obtain ⟨rfl, seen⟩ := runs_secretFields_unread ranFirst
      obtain ⟨rfl, secrets, ⟨kept, sublist, keeps⟩, shorter, complete⟩ :=
        ih ranRest
      refine ⟨rfl, ?_⟩
      rw [List.append_nil, unreadInputs_append, List.flatten_append, List.flatMap_cons,
        List.length_append, List.length_append]
      obtain ⟨allRead, rfl⟩ | ⟨missed, rfl⟩ := seen
      · rw [allRead, List.nil_append, ← complete]
        refine ⟨fun input member => ?_, ⟨name :: kept, sublist.cons_cons name, ?_⟩,
          Nat.add_le_add_left shorter _, ?_⟩
        · obtain ⟨secret, referenced, same⟩ := secrets input member
          exact ⟨secret, List.mem_cons_of_mem _ referenced, same⟩
        · rw [List.flatMap_cons, keeps]
        exact ⟨fun same => List.append_cancel_left same, fun same => congrArg _ same⟩
      · rw [missed, List.singleton_append, mem_unreadInputs_cons_iff, ← complete]
        rw [List.flatten_nil, List.nil_append, List.length_nil, Nat.zero_add]
        refine ⟨List.forall_mem_cons.mpr ⟨⟨name, List.mem_cons_self, rfl⟩, fun input member => ?_⟩,
          ⟨kept, sublist.cons name, keeps⟩, Nat.le_trans shorter (Nat.le_add_left _ _), ?_⟩
        · obtain ⟨secret, referenced, same⟩ := secrets input member
          exact ⟨secret, List.mem_cons_of_mem _ referenced, same⟩
        constructor
        · intro same
          rw [same, List.length_append] at shorter
          have empty : Inputs.bytesIn final name = [] := List.length_eq_zero_iff.mp (by omega)
          rw [empty, List.nil_append] at same
          exact ⟨empty, same⟩
        · rintro ⟨empty, same⟩
          rw [empty, same]
          rfl

theorem secrets_of_secretHash {toolkit : Toolkit} {spec : DataPrepperPipelineSpec} {hash : String}
    (run : Runs (Serves InputFault) (secretHash toolkit spec) state trace hash final) :
    ∀ input ∈ unreadInputs trace, ∃ secret ∈ referencedSecrets spec, input = (.secret, secret) := by
  unfold secretHash at run
  split at run
  · obtain ⟨rfl, _⟩ := runs_done_iff.mp run
    simp [unreadInputs]
  · obtain ⟨_, _, _, _, rfl, collected, finished⟩ := runs_bind_iff.mp run
    obtain ⟨rfl, _⟩ := runs_done_iff.mp finished
    rw [List.append_nil]
    exact (runs_allSecretFields_unread collected).2.1

/-- What a Secret writes to the hash, as one piece. -/
def Inputs.hashedBytes (inputs : Inputs) (secret : String) : Bytes :=
  (storedFields (inputs.secrets secret)).flatten

/-- Leaving out some of the Secrets is no collision of the hash. -/
def Inputs.SecretsApart (inputs : Inputs) (toolkit : Toolkit) : Prop :=
  ∀ kept : List String, kept.Sublist (referencedSecrets inputs.mergedSpec) →
    toolkit.Distinguishes (kept.flatMap inputs.hashedBytes) inputs.secretStream.flatten

/-- The hash is the same exactly if the Secrets that cannot be read have no data. -/
theorem runs_secretHash_unread {toolkit : Toolkit} {inputs : Inputs}
    {spec : DataPrepperPipelineSpec} {hash : String} (agree : inputs.AgreeWith state)
    (sameSecrets : referencedSecrets spec = referencedSecrets inputs.mergedSpec)
    (run : Runs (Serves InputFault) (secretHash toolkit spec) state trace hash final) :
    (hash = inputs.secretHash toolkit →
        inputs.SecretsApart toolkit →
        ∀ secret, (Kind.secret, secret) ∈ unreadInputs trace → inputs.hashedBytes secret = []) ∧
      ((∀ secret, (Kind.secret, secret) ∈ unreadInputs trace → inputs.hashedBytes secret = []) →
        hash = inputs.secretHash toolkit) := by
  have known : ∀ secret ∈ referencedSecrets inputs.mergedSpec,
      Inputs.bytesIn state secret = inputs.hashedBytes secret := by
    intro secret referenced
    unfold Inputs.bytesIn Inputs.hashedBytes
    rw [agree.secrets secret referenced]
  have empty : (∀ secret, (Kind.secret, secret) ∈ unreadInputs trace →
        inputs.hashedBytes secret = []) ↔
      ∀ secret, (Kind.secret, secret) ∈ unreadInputs trace → Inputs.bytesIn state secret = [] := by
    apply forall₂_congr
    intro secret missed
    obtain ⟨_, referenced, same⟩ := secrets_of_secretHash run _ missed
    cases same
    rw [known secret (sameSecrets ▸ referenced)]
  have stream : inputs.secretStream.flatten =
      (referencedSecrets inputs.mergedSpec).flatMap (Inputs.bytesIn state) := by
    unfold Inputs.secretStream
    rw [← List.flatMap_id, List.flatMap_assoc]
    apply List.flatMap_congr
    intro secret referenced
    rw [known secret referenced, List.flatMap_id]
    rfl
  unfold secretHash at run
  unfold Inputs.secretHash Inputs.SecretsApart
  rw [sameSecrets] at run
  rw [empty, stream]
  generalize referencedSecrets inputs.mergedSpec = names at run known ⊢
  cases names with
  | nil =>
      obtain ⟨rfl, rfl, rfl⟩ := runs_done_iff.mp run
      exact ⟨by simp [unreadInputs], fun _ => rfl⟩
  | cons first rest =>
      obtain ⟨_, _, fields, _, rfl, collected, finished⟩ := runs_bind_iff.mp run
      obtain ⟨rfl, rfl, rfl⟩ := runs_done_iff.mp finished
      obtain ⟨rfl, _, ⟨kept, sublist, keeps⟩, _, complete⟩ := runs_allSecretFields_unread collected
      have stored : fields.flatten = kept.flatMap inputs.hashedBytes := by
        rw [keeps]
        exact List.flatMap_congr fun secret member => known secret (sublist.subset member)
      rw [List.append_nil, ← complete]
      refine ⟨fun same apart => ?_, fun same => ?_⟩
      · rw [stored] at same ⊢
        exact apart kept sublist same
      dsimp only
      rw [same]

end Seeing

/-- A plan follows from the merged spec, the outcome of the scaling and the hash of the
Secrets. -/
structure PlannedFrom (toolkit : Toolkit) (owner : DataPrepperPipeline)
    (mergedSpec : DataPrepperPipelineSpec) (calculated : Except String ScalingDecision)
    (secrets : String) (plan : Plan) : Prop where
  scaling : plan.scaling = effectiveScaling calculated
  forwarding : ∃ processorMaps, extractProcessorMaps mergedSpec.pipelines = .ok processorMaps ∧
    plan.needsPeerForwarder =
      (PeerForwarder.needsForwarding processorMaps && decide (1 < plan.scaling.replicas))
  configs : generateConfigs toolkit owner mergedSpec plan.scaling.topicWorkers
    plan.needsPeerForwarder = .ok (plan.pipelinesData, plan.configData)
  hash : plan.configHash = toolkit.truncatedHash (dataFields plan.pipelinesData).flatten ++
    toolkit.truncatedHash (dataFields plan.configData).flatten ++ secrets

theorem Inputs.plannedFrom {inputs : Inputs} {reconciler : PipelineReconciler} {name : String}
    {plan : Plan} (planned : inputs.plan reconciler name = .ok plan) :
    PlannedFrom reconciler.toolkit (inputs.owner name) inputs.mergedSpec
      (inputs.scaling reconciler) (inputs.secretHash reconciler.toolkit) plan := by
  obtain ⟨maps, extracted, scaling, needed, generated, hash⟩ := Inputs.plan_ok planned
  exact ⟨scaling, ⟨maps, extracted, needed⟩, generated, hash⟩

/-- The part of a trace up to the hashing, and the rest. -/
def scalingPhase (trace : List (Event Cluster Op Reply)) : List (Event Cluster Op Reply) :=
  trace.takeWhile fun event => !ranges event

def hashingPhase (trace : List (Event Cluster Op Reply)) : List (Event Cluster Op Reply) :=
  trace.dropWhile fun event => !ranges event

theorem phases_of_split {earlier later : List (Event Cluster Op Reply)}
    {first : Event Cluster Op Reply} (noRange : ∀ event ∈ earlier, ranges event = false)
    (range : ranges first = true) :
    scalingPhase (earlier ++ first :: later) = earlier ∧
      hashingPhase (earlier ++ first :: later) = first :: later := by
  have passes : ∀ event ∈ earlier, (!ranges event) = true := by simpa using noRange
  constructor
  · unfold scalingPhase
    rw [List.takeWhile_append_of_pos passes, List.takeWhile_cons_of_neg (by simp [range]),
      List.append_nil]
  · unfold hashingPhase
    rw [List.dropWhile_append_of_pos passes, List.dropWhile_cons_of_neg (by simp [range])]

/-- The calculation of the scaling comes before the hashing of the Secrets, and nothing
else reads them. -/
theorem planning_of_runs {reconciler : PipelineReconciler} {pipeline : DataPrepperPipeline}
    {mergedSpec : DataPrepperPipelineSpec} {state final : Cluster}
    {trace : List (Event Cluster Op Reply)} {planned : Plan × DataPrepperPipeline}
    (run : Runs (Serves InputFault) (makePlan reconciler pipeline mergedSpec).run state trace
      (.ok planned) final) :
    ∃ scaling first hashing secretReads calculated secrets middle after,
      trace = scaling ++ first :: hashing ∧ ranges first = true ∧
      unreadInputs (first :: hashing) = unreadInputs secretReads ∧
      Runs (Serves InputFault) (calculateScaling reconciler mergedSpec).run state scaling
        calculated middle ∧
      Runs (Serves InputFault) (secretHash reconciler.toolkit mergedSpec) middle secretReads
        secrets after ∧
      PlannedFrom reconciler.toolkit pipeline mergedSpec calculated secrets planned.1 := by
  obtain ⟨_, _, impossible, _⟩ | ⟨processorMaps, extracted, rest⟩ := runs_ofExcept_bind run
  · cases impossible
  obtain ⟨scaling, middle, calculated, _, rfl, scaled, configuring⟩ := runs_lift_bind rest
  obtain ⟨_, _, impossible, _⟩ | ⟨configs, generated, hashing⟩ := runs_ofExcept_bind configuring
  · cases impossible
  obtain ⟨_, _, _, _, rfl, pipelinesHashed, hashingConfig⟩ := runs_lift_bind hashing
  obtain ⟨rfl, ⟨order, rfl⟩, rfl⟩ := runs_dataHash pipelinesHashed
  obtain ⟨_, _, _, _, rfl, configHashed, hashingSecrets⟩ := runs_lift_bind hashingConfig
  obtain ⟨rfl, ⟨other, rfl⟩, rfl⟩ := runs_dataHash configHashed
  obtain ⟨secretReads, after, secrets, _, rfl, hashed, finished⟩ := runs_lift_bind hashingSecrets
  obtain ⟨rfl, same, _⟩ := runs_pure_iff.mp finished
  cases same
  refine ⟨scaling, _, _, secretReads, calculated, secrets, _, after, rfl, rfl, ?_, scaled, hashed,
    ⟨rfl, ⟨processorMaps, ?_, rfl⟩, generated, rfl⟩⟩
  · rw [List.append_nil]
    rfl
  · cases maps : extractProcessorMaps mergedSpec.pipelines with
    | error message => simp [maps, Except.mapError] at extracted
    | ok found => simpa [maps, Except.mapError] using extracted

/-- A reconcile that gets to its child objects: which defaults it saw, what it made of
the credentials and Secrets that it could read, and the plan that it deploys. -/
structure Attempt (reconciler : PipelineReconciler) (name : String) (inputs : Inputs)
    (state : Cluster) (trace : List (Event Cluster Op Reply))
    (outcome : Except String ReconcileResult) (final : Cluster)
    (mergedSpec : DataPrepperPipelineSpec) (calculated : Except String ScalingDecision)
    (secrets : String) (plan : Plan) : Prop where
  merged : mergedSpec = inputs.mergedSpec ∧ (Kind.defaults, "default") ∉ unreadInputs trace ∨
    mergedSpec = inputs.spec ∧ (Kind.defaults, "default") ∈ unreadInputs trace
  scaled : ∃ ready reads after, inputs.AgreeWith ready ∧
    Runs (Serves InputFault) (calculateScaling reconciler mergedSpec).run ready reads calculated
      after ∧
    ∀ secret, (Kind.secret, secret) ∈ unreadInputs (scalingPhase trace) ↔
      (Kind.secret, secret) ∈ unreadInputs reads
  hashed : ∃ ready reads after, inputs.AgreeWith ready ∧
    Runs (Serves InputFault) (secretHash reconciler.toolkit mergedSpec) ready reads secrets
      after ∧
    ∀ secret, (Kind.secret, secret) ∈ unreadInputs (hashingPhase trace) ↔
      (Kind.secret, secret) ∈ unreadInputs reads
  planned : PlannedFrom reconciler.toolkit (inputs.owner name) mergedSpec calculated secrets plan
  deployed : ∃ middle after steps deployed, SameDerived name state middle ∧
    Runs Disturbed (deployChildren (inputs.owner name) mergedSpec plan).run middle steps deployed
      after ∧
    SameDerived name after final ∧ ∀ result, outcome = .ok result → deployed = .ok ()

section Reconcile

variable {reconciler : PipelineReconciler} {name : String} {inputs : Inputs}
  {state final : Cluster} {trace : List (Event Cluster Op Reply)}
  {outcome : Except String ReconcileResult}

/-- The defaults as they are, or none if they cannot be read. -/
theorem runs_fetchDefaults_unread {seen : Except String (Option DataPrepperDefaultsSpec)}
    (run : Runs (Serves InputFault) fetchDefaults.run state trace seen final) :
    final = state ∧ (∀ event ∈ trace, ranges event = false) ∧
      (seen = .ok ((state.find .defaults "default").map (·.spec)) ∧ unreadInputs trace = [] ∨
        seen = .ok none ∧ unreadInputs trace = [(.defaults, "default")]) := by
  obtain ⟨reply, middle, later, served, rfl, rest⟩ := runs_ask_bind run
  obtain rfl := served.unchanged rfl
  have noLater : later = [] := by
    cases reply <;> exact (runs_pure_iff.mp rest).1
  subst noLater
  refine ⟨?_, by simp [ranges], ?_⟩
  · cases reply <;> exact (runs_pure_iff.mp rest).2.2
  by_cases failed : unread ⟨middle, .get .defaults "default", reply, middle⟩ = none
  · have allRead : unreadInputs [⟨middle, .get .defaults "default", reply, middle⟩] = [] := by
      simp [unreadInputs, failed]
    exact .inl ⟨(runs_fetchDefaults (disturbed_of_read run allRead)).1, allRead⟩
  · right
    cases reply with
    | ok defaults => exact absurd rfl failed
    | error error =>
        obtain ⟨_, rfl, _⟩ := runs_pure_iff.mp rest
        cases error with
        | notFound kind missing => exact absurd rfl failed
        | alreadyExists | conflict | refused => exact ⟨rfl, rfl⟩

theorem PreparesPipeline.plain {event : Event Cluster Op Reply}
    (prepares : PreparesPipeline event.op) :
    ranges event = false ∧ readsInput event.op = false := by
  obtain ⟨before, op, reply, after⟩ := event
  cases op with
  | get kind other => cases kind <;> first | exact ⟨rfl, rfl⟩ | cases prepares
  | rangeOver keys => cases prepares
  | _ => exact ⟨rfl, rfl⟩

/-- Up to the validation no child object is written. -/
theorem runs_reconcileMerged_unread (known : inputsOf state name = some inputs)
    (run : Runs (Serves InputFault) (reconcile reconciler name).run state trace outcome final) :
    (∃ message, outcome = .error message) ∧ SameDerived name state final ∨
      ∃ earlier later ready current mergedSpec, trace = earlier ++ later ∧
        (∀ event ∈ earlier, ranges event = false) ∧
        (mergedSpec = inputs.mergedSpec ∧ unreadInputs earlier = [] ∨
          mergedSpec = inputs.spec ∧ unreadInputs earlier = [(.defaults, "default")]) ∧
        SameDerived name state ready ∧ inputs.AgreeWith ready ∧ current.name = name ∧
        current.metadata.nameSpace = inputs.nameSpace ∧ current.metadata.uid = inputs.uid ∧
        Runs (Serves InputFault) (reconcileMerged reconciler current mergedSpec).run ready later
          outcome final := by
  have genuine : ∀ reply, ¬InputFault (.get .pipeline name) reply := by
    intro reply fault
    have wasRead : unread ⟨state, .get .pipeline name, reply, state⟩ = none := unread_eq_none rfl
    exact genuine_of_input id (childFault_of_read fault wasRead)
  obtain failed | ⟨preparing, continuing, ready, current, rfl, prepares, prepared, agree,
    sameDefaults, named, sameSpace, sameUid, sameSpec, _, continued⟩ :=
      runs_reconcileLive genuine known run
  · exact .inl failed
  right
  have noneUnread : unreadInputs preparing = [] :=
    unreadInputs_eq_nil fun event member => (prepares event member).plain.2
  rcases runs_fallible_bind_iff.mp continued with
    ⟨_, _, failed⟩ | ⟨reading, between, defaults, later, rfl, fetched, validating⟩
  · obtain ⟨_, _, ⟨impossible, _⟩ | ⟨impossible, _⟩⟩ := runs_fetchDefaults_unread failed <;>
      cases impossible
  obtain ⟨rfl, noRange, seen⟩ := runs_fetchDefaults_unread fetched
  refine ⟨preparing ++ reading, later, between, current, _, (List.append_assoc _ _ _).symm, ?_, ?_,
    prepared, agree, named, sameSpace, sameUid, validating⟩
  · intro event member
    obtain early | late := List.mem_append.mp member
    · exact (prepares event early).plain.1
    · exact noRange event late
  · rw [unreadInputs_append, noneUnread, List.nil_append]
    obtain ⟨same, allRead⟩ | ⟨same, missed⟩ := seen
    · cases same
      refine .inl ⟨?_, allRead⟩
      unfold Inputs.mergedSpec
      rw [sameDefaults, sameSpec]
    · cases same
      exact .inr ⟨sameSpec, missed⟩

/-- Planning only reads. -/
theorem unchanged_of_makePlan {pipeline : DataPrepperPipeline}
    {mergedSpec : DataPrepperPipelineSpec} {planned : Except String (Plan × DataPrepperPipeline)}
    (run : Runs (Serves InputFault) (makePlan reconciler pipeline mergedSpec).run state trace
      planned final) : final = state :=
  state_of_reads ((issues_makePlan (fun _ reads => reads) reconciler pipeline mergedSpec).weaken
    fun _ _ => trivial) run

/-- After the planning no input is read. -/
theorem deployed_of_runs {pipeline : DataPrepperPipeline} {mergedSpec : DataPrepperPipelineSpec}
    {plan : Plan}
    (run : Runs (Serves InputFault) (do
      deployChildren pipeline mergedSpec plan
      finish reconciler pipeline mergedSpec : Reconciler ReconcileResult).run state trace outcome
      final) :
    unreadInputs trace = [] ∧ ∃ after steps deployed,
      Runs Disturbed (deployChildren pipeline mergedSpec plan).run state steps deployed after ∧
      SameDerived name after final ∧ ∀ result, outcome = .ok result → deployed = .ok () := by
  have free := inputFree_deployChildren pipeline mergedSpec plan
  rcases runs_fallible_bind_iff.mp run with
    ⟨message, rfl, failed⟩ | ⟨deploying, after, _, finishing, rfl, deployed, finished⟩
  · exact ⟨free.unread failed, final, _, _, free.disturbed failed, fun _ _ _ => rfl, by simp⟩
  · rw [unreadInputs_append, free.unread deployed,
      (inputFree_finish reconciler pipeline mergedSpec).unread finished]
    refine ⟨rfl, after, _, _, free.disturbed deployed, ?_, fun _ _ => rfl⟩
    apply sameDerived_of_touches (touches_finish reconciler pipeline mergedSpec) ?_ finished
    simp [derivedObjects]

theorem attempt_of_reconcileValid {earlier later : List (Event Cluster Op Reply)}
    {ready : Cluster} {current : DataPrepperPipeline} {mergedSpec : DataPrepperPipelineSpec}
    (noRange : ∀ event ∈ earlier, ranges event = false)
    (merged : mergedSpec = inputs.mergedSpec ∧ unreadInputs earlier = [] ∨
      mergedSpec = inputs.spec ∧ unreadInputs earlier = [(.defaults, "default")])
    (prepared : SameDerived name state ready) (agree : inputs.AgreeWith ready)
    (named : current.name = name) (sameSpace : current.metadata.nameSpace = inputs.nameSpace)
    (sameUid : current.metadata.uid = inputs.uid)
    (run : Runs (Serves InputFault) (reconcileValid reconciler current mergedSpec).run ready later
      outcome final) :
    SameDerived name state final ∧ ¬(∃ result, outcome = .ok result) ∨
      ∃ mergedSpec calculated secrets plan, Attempt reconciler name inputs state
        (earlier ++ later) outcome final mergedSpec calculated secrets plan := by
  rcases runs_fallible_bind_iff.mp run with
    ⟨message, rfl, failed⟩ | ⟨planning, middle, planned, executing, rfl, planning', continued⟩
  · obtain rfl := unchanged_of_makePlan failed
    exact .inl ⟨prepared, by simp⟩
  obtain rfl := unchanged_of_makePlan planning'
  obtain ⟨scaling, first, hashing, secretReads, calculated, secrets, between, after, rfl, range,
    sameReads, scaled, hashed, plannedFrom⟩ := planning_of_runs planning'
  obtain rfl : between = middle := state_of_reads
    ((issues_calculateScaling (.of_reads fun _ reads => reads) reconciler).weaken
      fun _ _ => trivial) scaled
  obtain ⟨noRangeScaling, unreadScaling⟩ := events_calculateScaling scaled
  have sameMeta : planned.2.metadata = current.metadata := (plannedFor_of_runs planning').metadata
  obtain ⟨noneUnread, after, steps, deployed, ran, finished, succeeded⟩ :=
    deployed_of_runs continued
  have split : earlier ++ (scaling ++ first :: hashing ++ executing) =
      earlier ++ scaling ++ first :: (hashing ++ executing) := by simp
  have noRangeEarlier : ∀ event ∈ earlier ++ scaling, ranges event = false :=
    List.forall_mem_append.mpr ⟨noRange, noRangeScaling⟩
  obtain ⟨beforeHashing, fromHashing⟩ :
      scalingPhase (earlier ++ scaling ++ first :: (hashing ++ executing)) = earlier ++ scaling ∧
        hashingPhase (earlier ++ scaling ++ first :: (hashing ++ executing)) =
          first :: (hashing ++ executing) := phases_of_split noRangeEarlier range
  have hashingReads :
      unreadInputs (first :: (hashing ++ executing)) = unreadInputs secretReads := by
    rw [← List.cons_append, unreadInputs_append, noneUnread, sameReads, List.append_nil]
  right
  rw [split]
  refine ⟨mergedSpec, calculated, secrets, planned.1, ?_, ⟨between, scaling, between, agree, scaled,
    ?_⟩, ⟨between, secretReads, _, agree, hashed, ?_⟩, ?_, between, after, steps, deployed,
    prepared, ?_, finished, succeeded⟩
  · have noDefaults :
        (Kind.defaults, "default") ∉ unreadInputs scaling ++ unreadInputs secretReads := by
      rw [List.mem_append, not_or]
      constructor
      · obtain allRead | ⟨_, _, missed, _⟩ := unreadScaling
        · simp [allRead]
        · simp [missed]
      · intro member
        obtain ⟨_, _, impossible⟩ := secrets_of_secretHash hashed _ member
        cases impossible
    rw [unreadInputs_append, unreadInputs_append, hashingReads, List.append_assoc]
    obtain ⟨same, allRead⟩ | ⟨same, missed⟩ := merged
    · exact .inl ⟨same, by rwa [allRead, List.nil_append]⟩
    · exact .inr ⟨same, by simp [missed]⟩
  · intro secret
    have noSecret : (Kind.secret, secret) ∉ unreadInputs earlier := by
      obtain ⟨_, allRead⟩ | ⟨_, missed⟩ := merged
      · simp [allRead]
      · simp [missed]
    rw [beforeHashing, unreadInputs_append, List.mem_append, or_iff_right noSecret]
  · intro secret
    rw [fromHashing, hashingReads]
  · obtain ⟨scalingIs, forwarding, configs, hash⟩ := plannedFrom
    refine ⟨scalingIs, forwarding, ?_, hash⟩
    have sameOwner : (inputs.owner name).name = current.name := named.symm
    exact (generateConfigs_congr sameOwner sameSpace.symm _ _ _).trans configs
  · have sameOwner : planned.2.name = (inputs.owner name).name :=
      (congrArg ObjectMeta.name sameMeta).trans named
    have ownerSpace : planned.2.metadata.nameSpace = (inputs.owner name).metadata.nameSpace :=
      (congrArg ObjectMeta.nameSpace sameMeta).trans sameSpace
    have ownerUid : planned.2.metadata.uid = (inputs.owner name).metadata.uid :=
      (congrArg ObjectMeta.uid sameMeta).trans sameUid
    rwa [deployChildren_congr sameOwner ownerSpace ownerUid] at ran

/-- What a reconcile of a live pipeline does when it cannot read all inputs. -/
theorem attempt_of_reconcile (known : inputsOf state name = some inputs)
    (run : Runs (Serves InputFault) (reconcile reconciler name).run state trace outcome final) :
    SameDerived name state final ∧ ((∃ result, outcome = .ok result) →
        Validation.validateGraph (graphDefs inputs.mergedSpec.pipelines) ≠ .ok ()) ∨
      Validation.validateGraph (graphDefs inputs.mergedSpec.pipelines) = .ok () ∧
        ∃ mergedSpec calculated secrets plan, Attempt reconciler name inputs state trace outcome
          final mergedSpec calculated secrets plan := by
  obtain ⟨⟨message, rfl⟩, same⟩ | ⟨earlier, later, ready, current, mergedSpec, rfl, noRange, merged,
    prepared, agree, named, sameSpace, sameUid, ran⟩ := runs_reconcileMerged_unread known run
  · exact .inl ⟨same, by simp⟩
  have sameGraph : graphDefs mergedSpec.pipelines = graphDefs inputs.mergedSpec.pipelines := by
    obtain ⟨rfl, _⟩ | ⟨rfl, _⟩ := merged
    · rfl
    · exact (graphDefs_mergeSpec inputs.defaults inputs.spec).symm
  cases verdict : Validation.validateGraph (graphDefs mergedSpec.pipelines) with
  | error error =>
      left
      simp only [reconcileMerged, verdict] at ran
      refine ⟨prepared.trans (sameDerived_of_touches
        (touches_updateStatus List.mem_cons_self true error.message) pipeline_not_derived ran), ?_⟩
      rw [← sameGraph, verdict]
      simp
  | ok _ =>
      simp only [reconcileMerged, verdict] at ran
      rw [← sameGraph]
      exact (attempt_of_reconcileValid noRange merged prepared agree named sameSpace sameUid
        ran).imp (fun failed => ⟨failed.1, fun success => absurd success failed.2⟩)
          fun attempt => ⟨verdict, attempt⟩

end Reconcile

end DataPrepperOperator.Controller
