import Mathlib.Data.List.AList
import DataPrepperOperator.Api.Objects
import DataPrepperOperator.Library.GoText
import DataPrepperOperator.Library.Interleaving

/-!
# The API server of one namespace

The operator is a client of the Kubernetes API server, of Kafka and of S3.  `Op`
lists everything it asks for, `Cluster` is the state behind the answers, and
`Serves` is the server relation: honest answers, and failures for the operations
that a context declares faulty.  A failed write may or may not have been applied.

Updates carry a resource version and are refused when it is stale.  Deleting an
object with finalizers only marks it.
-/

namespace DataPrepperOperator.Api

open ServerProgram

inductive ApiError where
  | notFound (kind : Kind) (name : String)
  | alreadyExists (kind : Kind) (name : String)
  | conflict (kind : Kind) (name : String)
  | refused (message : String)
  deriving DecidableEq, Repr

def Kind.resource : Kind → String
  | .configMap => "configmaps"
  | .deployment => "deployments.apps"
  | .service => "services"
  | .horizontalPodAutoscaler => "horizontalpodautoscalers.autoscaling"
  | .podDisruptionBudget => "poddisruptionbudgets.policy"
  | .serviceMonitor => "servicemonitors.monitoring.coreos.com"
  | .secret => "secrets"
  | .pipeline => "dataprepperpipelines.dataprepper.kaasops.io"
  | .defaults => "dataprepperdefaults.dataprepper.kaasops.io"
  | .sourceDiscovery => "datapreppersourcediscoveries.dataprepper.kaasops.io"

def ApiError.message : ApiError → String
  | .notFound kind name => kind.resource ++ " " ++ GoText.quote name ++ " not found"
  | .alreadyExists kind name => kind.resource ++ " " ++ GoText.quote name ++ " already exists"
  | .conflict kind name =>
      "Operation cannot be fulfilled on " ++ kind.resource ++ " " ++ GoText.quote name ++
        ": the object has been modified; please apply your changes to the latest version" ++
        " and try again"
  | .refused message => message

/-- `kafka.Config`; credentials are the raw bytes of the Secret. -/
structure KafkaConfig where
  bootstrapServers : List String
  username : Bytes := []
  password : Bytes := []
  deriving DecidableEq

/-- `s3client.Config`. -/
structure S3Config where
  region : String
  endpoint : String
  forcePathStyle : Bool
  accessKeyID : Bytes := []
  secretAccessKey : Bytes := []
  deriving DecidableEq

/-- The options of a list call; every list is limited to the namespace. -/
inductive Selector where
  | everything
  | matchingLabels (key value : String)
  | matchingFields (field value : String)
  deriving DecidableEq, Repr

inductive Op where
  | get (kind : Kind) (name : String)
  | listPipelines (selector : Selector)
  | create (kind : Kind) (object : Object kind)
  | update (kind : Kind) (object : Object kind)
  | updateStatus (kind : Kind) (object : Object kind)
  | delete (kind : Kind) (name : String)
  | kafkaConnect (config : KafkaConfig)
  | kafkaPartitionCount (config : KafkaConfig) (topic : String)
  | kafkaListTopics (config : KafkaConfig)
  | s3Connect (config : S3Config)
  | s3ListPrefixes (config : S3Config) (bucket pathPrefix : String)
  /-- The wall clock. -/
  | now
  /-- Ranging over a Go map with these keys, in an order of the runtime's choice. -/
  | rangeOver (keys : List String)

@[reducible]
def Reply : Op → Type
  | .get kind _ => Except ApiError (Object kind)
  | .listPipelines _ => Except ApiError (List DataPrepperPipeline)
  | .create kind _ => Except ApiError (Object kind)
  | .update kind _ => Except ApiError (Object kind)
  | .updateStatus kind _ => Except ApiError (Object kind)
  | .delete _ _ => Except ApiError Unit
  | .kafkaConnect _ => Except String Unit
  | .kafkaPartitionCount _ _ => Except String Int
  | .kafkaListTopics _ => Except String (List (String × Int))
  | .s3Connect _ => Except String Unit
  | .s3ListPrefixes _ _ _ => Except String (List String)
  | .now => Nat
  | .rangeOver keys => { order : List String // order.Perm keys }

/-- A reconciler function: it calls the server and stops at its first error. -/
abbrev Reconciler := Fallible String Op Reply

namespace Client

/-- A call of the API server. -/
abbrev Call (Result : Type) := Program Op Reply (Except ApiError Result)

def get (kind : Kind) (name : String) : Call (Object kind) :=
  Program.request (Op.get kind name)

def listPipelines (selector : Selector) : Call (List DataPrepperPipeline) :=
  Program.request (Op.listPipelines selector)

def create {kind : Kind} (object : Object kind) : Call (Object kind) :=
  Program.request (Op.create kind object)

def update {kind : Kind} (object : Object kind) : Call (Object kind) :=
  Program.request (Op.update kind object)

def updateStatus {kind : Kind} (object : Object kind) : Call (Object kind) :=
  Program.request (Op.updateStatus kind object)

def delete (kind : Kind) (name : String) : Call Unit :=
  Program.request (Op.delete kind name)

/-- A call of another service, with its error text. -/
abbrev RemoteCall (Result : Type) := Program Op Reply (Except String Result)

def kafkaConnect (config : KafkaConfig) : RemoteCall Unit :=
  Program.request (Op.kafkaConnect config)

def kafkaPartitionCount (config : KafkaConfig) (topic : String) : RemoteCall Int :=
  Program.request (Op.kafkaPartitionCount config topic)

def kafkaListTopics (config : KafkaConfig) : RemoteCall (List (String × Int)) :=
  Program.request (Op.kafkaListTopics config)

def s3Connect (config : S3Config) : RemoteCall Unit :=
  Program.request (Op.s3Connect config)

def s3ListPrefixes (config : S3Config) (bucket pathPrefix : String) :
    RemoteCall (List String) :=
  Program.request (Op.s3ListPrefixes config bucket pathPrefix)

def now : Program Op Reply Nat := Program.request Op.now

def rangeOver (keys : List String) : Program Op Reply { order : List String // order.Perm keys } :=
  Program.request (Op.rangeOver keys)

end Client

structure KafkaBrokers where
  partitionCount : String → Except String Int
  topics : Except String (List (String × Int))

/-- The stored objects, by kind and name, and the services behind the other
clients.  Objects are stored under their own name and never carry a resource
version from the future. -/
structure Cluster where
  objects : (kind : Kind) → AList fun _ : String => Object kind
  /-- The last resource version that was handed out. -/
  clock : Nat
  /-- The field indexes registered with the manager. -/
  fieldIndex : String → DataPrepperPipelineSpec → List String
  kafka : KafkaConfig → Except String KafkaBrokers
  s3 : S3Config → Except String (String → String → Except String (List String))
  named : ∀ kind name object, (objects kind).lookup name = some object → object.name = name
  versioned : ∀ kind name object, (objects kind).lookup name = some object →
    object.metadata.resourceVersion ≤ clock

namespace Cluster

variable {kind : Kind}

/-- A namespace with no objects, no brokers and no buckets. -/
def empty : Cluster where
  objects _ := ∅
  clock := 0
  fieldIndex _ _ := []
  kafka _ := .error "no brokers"
  s3 _ := .error "no buckets"
  named := by simp
  versioned := by simp

def find (cluster : Cluster) (kind : Kind) (name : String) : Option (Object kind) :=
  (cluster.objects kind).lookup name

theorem name_of_find {cluster : Cluster} {name : String} {object : Object kind}
    (found : cluster.find kind name = some object) : object.name = name :=
  cluster.named kind name object found

theorem version_le_clock {cluster : Cluster} {name : String} {object : Object kind}
    (found : cluster.find kind name = some object) :
    object.metadata.resourceVersion ≤ cluster.clock :=
  cluster.versioned kind name object found

/-- What a commit leaves behind under the object's name. -/
def stamped (cluster : Cluster) (object : Object kind) : Object kind :=
  { object with metadata := { object.metadata with resourceVersion := cluster.clock + 1 } }

/-- The objects after one of them is stored under its name. -/
def insertObject (objects : (kind : Kind) → AList fun _ : String => Object kind)
    (object : Object kind) : (kind : Kind) → AList fun _ : String => Object kind :=
  Function.update objects kind ((objects kind).insert object.name object)

/-- A stored object is the new one under its own key, or was there before. -/
theorem lookup_insertObject
    {objects : (kind : Kind) → AList fun _ : String => Object kind} {object : Object kind}
    {other : Kind} {name : String} {found : Object other}
    (stored : (insertObject objects object other).lookup name = some found) :
    (∃ same : other = kind, name = object.name ∧ found = same ▸ object) ∨
      (objects other).lookup name = some found := by
  by_cases sameKind : other = kind
  · subst other
    by_cases sameName : name = object.name
    · subst name
      simp only [insertObject, Function.update_self, AList.lookup_insert,
        Option.some.injEq] at stored
      exact .inl ⟨rfl, rfl, stored.symm⟩
    · simp only [insertObject, Function.update_self, AList.lookup_insert_ne sameName] at stored
      exact .inr stored
  · simp only [insertObject, Function.update_of_ne sameKind] at stored
    exact .inr stored

/-- Store an object under its name with a fresh resource version. -/
def commit (cluster : Cluster) (object : Object kind) : Cluster :=
  { cluster with
    objects := insertObject cluster.objects (cluster.stamped object)
    clock := cluster.clock + 1
    named := by
      intro other name found stored
      rcases lookup_insertObject stored with ⟨rfl, rfl, rfl⟩ | earlier
      · rfl
      · exact cluster.named other name found earlier
    versioned := by
      intro other name found stored
      rcases lookup_insertObject stored with ⟨rfl, rfl, rfl⟩ | earlier
      · exact Nat.le_refl _
      · exact Nat.le_succ_of_le (cluster.versioned other name found earlier) }

def eraseObject (objects : (kind : Kind) → AList fun _ : String => Object kind)
    (kind : Kind) (name : String) : (kind : Kind) → AList fun _ : String => Object kind :=
  Function.update objects kind ((objects kind).erase name)

theorem lookup_eraseObject
    {objects : (kind : Kind) → AList fun _ : String => Object kind} {kind other : Kind}
    {erased name : String} {found : Object other}
    (stored : (eraseObject objects kind erased other).lookup name = some found) :
    (objects other).lookup name = some found := by
  by_cases sameKind : other = kind
  · subst other
    by_cases sameName : name = erased
    · subst name
      simp [eraseObject] at stored
    · simpa [eraseObject, AList.lookup_erase_ne sameName] using stored
  · simpa [eraseObject, Function.update_of_ne sameKind] using stored

def remove (cluster : Cluster) (kind : Kind) (name : String) : Cluster :=
  { cluster with
    objects := eraseObject cluster.objects kind name
    clock := cluster.clock + 1
    named := fun other found object stored =>
      cluster.named other found object (lookup_eraseObject stored)
    versioned := fun other found object stored =>
      Nat.le_succ_of_le (cluster.versioned other found object (lookup_eraseObject stored)) }

@[simp]
theorem find_commit_same (cluster : Cluster) (object : Object kind) :
    (cluster.commit object).find kind object.name = some (cluster.stamped object) := by
  simp [find, commit, insertObject, stamped, Object.name]

theorem find_commit_of_name {cluster : Cluster} {object : Object kind} {name : String}
    (named : object.name = name) :
    (cluster.commit object).find kind name = some (cluster.stamped object) := by
  rw [← named, find_commit_same]

theorem eq_of_find_commit {cluster : Cluster} {object current : Object kind} {name : String}
    (present : (cluster.commit object).find kind name = some current)
    (named : object.name = name) : current = cluster.stamped object := by
  rw [← named, find_commit_same, Option.some.injEq] at present
  exact present.symm

theorem find_commit_of_name_ne (cluster : Cluster) (object : Object kind) {name : String}
    (different : name ≠ object.name) :
    (cluster.commit object).find kind name = cluster.find kind name := by
  have differentStamped : name ≠ (cluster.stamped object).name := different
  simp [find, commit, insertObject, AList.lookup_insert_ne differentStamped]

theorem find_commit_of_kind_ne (cluster : Cluster) (object : Object kind) {other : Kind}
    (different : other ≠ kind) (name : String) :
    (cluster.commit object).find other name = cluster.find other name := by
  simp [find, commit, insertObject, Function.update_of_ne different]

@[simp]
theorem find_remove_same (cluster : Cluster) (kind : Kind) (name : String) :
    (cluster.remove kind name).find kind name = none := by
  simp [find, remove, eraseObject]

theorem find_remove_of_name_ne (cluster : Cluster) (kind : Kind) {name other : String}
    (different : other ≠ name) :
    (cluster.remove kind name).find kind other = cluster.find kind other := by
  simp [find, remove, eraseObject, AList.lookup_erase_ne different]

theorem find_remove_of_kind_ne (cluster : Cluster) {kind other : Kind}
    (different : other ≠ kind) (name found : String) :
    (cluster.remove kind name).find other found = cluster.find other found := by
  simp [find, remove, eraseObject, Function.update_of_ne different]

/-- What the server makes of an object it is asked to create. -/
def newborn (cluster : Cluster) (object : Object kind) : Object kind :=
  { metadata := { object.metadata with
      uid := "uid-" ++ toString (cluster.clock + 1), generation := 1, deleting := false }
    spec := object.spec
    status := kind.emptyStatus }

def create (cluster : Cluster) (object : Object kind) :
    Except ApiError (Object kind) × Cluster :=
  match cluster.find kind object.name with
  | some _ => (.error (.alreadyExists kind object.name), cluster)
  | none =>
      (.ok (cluster.stamped (cluster.newborn object)), cluster.commit (cluster.newborn object))

/-- Write a successor of a stored object; writing what is already there changes
nothing, and an object being deleted goes with its last finalizer. -/
def replace (cluster : Cluster) (stored candidate : Object kind) :
    Except ApiError (Object kind) × Cluster :=
  if stored.metadata.deleting = true ∧ stored.metadata.finalizers ≠ [] ∧
      candidate.metadata.finalizers = [] then
    (.ok candidate, cluster.remove kind stored.name)
  else if candidate = stored then
    (.ok stored, cluster)
  else
    (.ok (cluster.stamped candidate), cluster.commit candidate)

/-- The object that an update stores: identity, deletion mark and status stay
with the server, and a changed spec raises the generation. -/
def updated (stored object : Object kind) : Object kind :=
  { metadata := { object.metadata with
      name := stored.name
      uid := stored.metadata.uid
      resourceVersion := stored.metadata.resourceVersion
      generation :=
        if object.spec = stored.spec then stored.metadata.generation
        else stored.metadata.generation + 1
      deleting := stored.metadata.deleting }
    spec := object.spec
    status := stored.status }

/-- A write replaces the version that it was made from by its successor. -/
def overwrite (cluster : Cluster) (object : Object kind)
    (successor : Object kind → Object kind) : Except ApiError (Object kind) × Cluster :=
  match cluster.find kind object.name with
  | none => (.error (.notFound kind object.name), cluster)
  | some stored =>
      if object.metadata.resourceVersion ≠ stored.metadata.resourceVersion then
        (.error (.conflict kind object.name), cluster)
      else
        cluster.replace stored (successor stored)

def update (cluster : Cluster) (object : Object kind) :
    Except ApiError (Object kind) × Cluster :=
  cluster.overwrite object (updated · object)

/-- The status subresource: everything but the status is ignored. -/
def updateStatus (cluster : Cluster) (object : Object kind) :
    Except ApiError (Object kind) × Cluster :=
  cluster.overwrite object fun stored => { stored with status := object.status }

/-- A stored object whose deletion has been asked for. -/
def marked (stored : Object kind) : Object kind :=
  { stored with metadata := { stored.metadata with
    deleting := true, generation := stored.metadata.generation + 1 } }

def delete (cluster : Cluster) (kind : Kind) (name : String) :
    Except ApiError Unit × Cluster :=
  match cluster.find kind name with
  | none => (.error (.notFound kind name), cluster)
  | some stored =>
      if stored.metadata.finalizers = [] then
        (.ok (), cluster.remove kind name)
      else if stored.metadata.deleting = true then
        (.ok (), cluster)
      else
        (.ok (), cluster.commit (marked stored))

def read (cluster : Cluster) (kind : Kind) (name : String) : Except ApiError (Object kind) :=
  match cluster.find kind name with
  | some object => .ok object
  | none => .error (.notFound kind name)

def selects (cluster : Cluster) (selector : Selector) (pipeline : DataPrepperPipeline) : Bool :=
  match selector with
  | .everything => true
  | .matchingLabels key value => decide (pipeline.metadata.labels.lookup key = some value)
  | .matchingFields field value => (cluster.fieldIndex field pipeline.spec).contains value

def matching (cluster : Cluster) (selector : Selector) : List DataPrepperPipeline :=
  ((cluster.objects .pipeline).entries.map Sigma.snd).filter (cluster.selects selector)

theorem mem_matching {cluster : Cluster} {selector : Selector} {pipeline : DataPrepperPipeline} :
    pipeline ∈ cluster.matching selector ↔
      cluster.find .pipeline pipeline.name = some pipeline ∧
        cluster.selects selector pipeline = true := by
  unfold matching
  rw [List.mem_filter, List.mem_map]
  refine and_congr_left fun _ => ?_
  constructor
  · rintro ⟨⟨name, stored⟩, listed, rfl⟩
    have found : cluster.find .pipeline name = some stored := AList.mem_lookup_iff.mpr listed
    rw [name_of_find found]
    exact found
  · intro found
    exact ⟨⟨pipeline.name, pipeline⟩, AList.mem_lookup_iff.mp found, rfl⟩

theorem nodup_matching (cluster : Cluster) (selector : Selector) :
    ((cluster.matching selector).map Object.name).Nodup := by
  have listed : ((cluster.matching selector).map Object.name).Sublist
      (((cluster.objects .pipeline).entries.map Sigma.snd).map Object.name) :=
    List.filter_sublist.map _
  have named : ((cluster.objects .pipeline).entries.map Sigma.snd).map Object.name =
      (cluster.objects .pipeline).keys := by
    rw [List.map_map]
    apply List.map_congr_left
    rintro ⟨name, stored⟩ member
    exact cluster.named .pipeline name stored (AList.mem_lookup_iff.mpr member)
  rw [named] at listed
  exact listed.nodup (AList.keys_nodup _)

end Cluster

/-- The answer of a server that works, and its next state. -/
def Honest (before : Cluster) : (op : Op) → Reply op → Cluster → Prop
  | .get kind name, reply, after => reply = before.read kind name ∧ after = before
  | .listPipelines selector, reply, after =>
      (∃ items, items.Perm (before.matching selector) ∧ reply = .ok items) ∧ after = before
  | .create _ object, reply, after => (reply, after) = before.create object
  | .update _ object, reply, after => (reply, after) = before.update object
  | .updateStatus _ object, reply, after => (reply, after) = before.updateStatus object
  | .delete kind name, reply, after => (reply, after) = before.delete kind name
  | .kafkaConnect config, reply, after =>
      reply = (before.kafka config).map (fun _ => ()) ∧ after = before
  | .kafkaPartitionCount config topic, reply, after =>
      reply = (before.kafka config).bind (fun brokers => brokers.partitionCount topic) ∧
        after = before
  | .kafkaListTopics config, reply, after =>
      reply = (before.kafka config).bind (fun brokers => brokers.topics) ∧ after = before
  | .s3Connect config, reply, after =>
      reply = (before.s3 config).map (fun _ => ()) ∧ after = before
  | .s3ListPrefixes config bucket pathPrefix, reply, after =>
      reply = (before.s3 config).bind (fun buckets => buckets bucket pathPrefix) ∧
        after = before
  | .now, _, after => after = before
  | .rangeOver _, _, after => after = before

/-- The replies by which an operation reports a failure; reading the clock and
ranging over a map cannot fail. -/
def Fails : (op : Op) → Reply op → Prop
  | .get _ _, reply => ∃ error, reply = .error error
  | .listPipelines _, reply => ∃ error, reply = .error error
  | .create _ _, reply => ∃ error, reply = .error error
  | .update _ _, reply => ∃ error, reply = .error error
  | .updateStatus _ _, reply => ∃ error, reply = .error error
  | .delete _ _, reply => ∃ error, reply = .error error
  | .kafkaConnect _, reply => ∃ error, reply = .error error
  | .kafkaPartitionCount _ _, reply => ∃ error, reply = .error error
  | .kafkaListTopics _, reply => ∃ error, reply = .error error
  | .s3Connect _, reply => ∃ error, reply = .error error
  | .s3ListPrefixes _ _ _, reply => ∃ error, reply = .error error
  | .now, _ => False
  | .rangeOver _, _ => False

/-- Whether a reply is an error. -/
def decidableError {Error Result : Type} :
    (reply : Except Error Result) → Decidable (∃ error, reply = .error error)
  | .error error => isTrue ⟨error, rfl⟩
  | .ok _ => isFalse nofun

instance (op : Op) (reply : Reply op) : Decidable (Fails op reply) := by
  cases op <;> first | exact decidableError reply | exact inferInstanceAs (Decidable False)

/-- A server that may report a failure whenever `faulty` allows the reply, either
before the operation takes effect or after. -/
inductive Serves (faulty : (op : Op) → Reply op → Prop) : Server Cluster Op Reply where
  | honest {before op reply after} : Honest before op reply after →
      Serves faulty before op reply after
  | failed {before op reply} : faulty op reply → Fails op reply →
      Serves faulty before op reply before
  | lost {before op reply answer after} : faulty op reply → Fails op reply →
      Honest before op answer after → Serves faulty before op reply after

/-- One honest answer to each operation: lists in storage order, maps in key
order, and a clock that stands still. -/
def Cluster.answer (cluster : Cluster) : (op : Op) → Reply op × Cluster
  | .get kind name => (cluster.read kind name, cluster)
  | .listPipelines selector => (.ok (cluster.matching selector), cluster)
  | .create _ object => cluster.create object
  | .update _ object => cluster.update object
  | .updateStatus _ object => cluster.updateStatus object
  | .delete kind name => cluster.delete kind name
  | .kafkaConnect config => ((cluster.kafka config).map fun _ => (), cluster)
  | .kafkaPartitionCount config topic =>
      ((cluster.kafka config).bind fun brokers => brokers.partitionCount topic, cluster)
  | .kafkaListTopics config =>
      ((cluster.kafka config).bind fun brokers => brokers.topics, cluster)
  | .s3Connect config => ((cluster.s3 config).map fun _ => (), cluster)
  | .s3ListPrefixes config bucket pathPrefix =>
      ((cluster.s3 config).bind fun buckets => buckets bucket pathPrefix, cluster)
  | .now => (0, cluster)
  | .rangeOver keys => (⟨keys, .refl keys⟩, cluster)

theorem Cluster.answer_honest (cluster : Cluster) (op : Op) :
    Honest cluster op (cluster.answer op).1 (cluster.answer op).2 := by
  cases op with
  | listPipelines selector => exact ⟨⟨_, .refl _, rfl⟩, rfl⟩
  | create | update | updateStatus | delete | now | rangeOver => exact rfl
  | get | kafkaConnect | kafkaPartitionCount | kafkaListTopics | s3Connect
  | s3ListPrefixes => exact ⟨rfl, rfl⟩

/-- A server on which nothing fails. -/
abbrev Reliable : Server Cluster Op Reply := Serves fun _ _ => False

/-- A server on which anything may fail. -/
abbrev Unreliable : Server Cluster Op Reply := Serves fun _ _ => True

theorem unreliable_stalls (state : Cluster) (op : Op) :
    ∃ reply, Unreliable state op reply state := by
  cases op with
  | now => exact ⟨0, .honest rfl⟩
  | rangeOver keys => exact ⟨⟨keys, .refl keys⟩, .honest rfl⟩
  | get | listPipelines | create | update | updateStatus | delete =>
      exact ⟨.error (.refused ""), .failed trivial ⟨_, rfl⟩⟩
  | kafkaConnect | kafkaPartitionCount | kafkaListTopics | s3Connect | s3ListPrefixes =>
      exact ⟨.error "", .failed trivial ⟨_, rfl⟩⟩

/-- Some run of the program in which nothing fails. -/
theorem runs_execute {Result : Type} {faulty : (op : Op) → Reply op → Prop}
    (program : Program Op Reply Result) (cluster : Cluster) :
    ∃ trace, Runs (Serves faulty) program cluster trace
      (program.execute Cluster.answer cluster).1 (program.execute Cluster.answer cluster).2 :=
  program.execute_runs (fun state op => .honest (state.answer_honest op)) cluster

end DataPrepperOperator.Api
