import DataPrepperOperator.Library.Value

/-!
# The custom resources of the operator

Field for field the types of `api/v1alpha1`.  Optional pointers are `Option`,
omitted strings and numbers are their zero values.  The `corev1` structures that
the operator only copies (tolerations, affinity, security contexts) are kept as
document trees.
-/

namespace DataPrepperOperator.Api

structure SecretReference where
  name : String
  key : String := ""
  deriving DecidableEq

/-- `corev1.ResourceList`: resource names to quantities. -/
abbrev ResourceList := GoMap String

structure ResourceRequirements where
  requests : ResourceList := ∅
  limits : ResourceList := ∅
  deriving DecidableEq

structure PerReplicaResources where
  perReplica : ResourceRequirements := {}
  deriving DecidableEq

structure ServiceMonitorSpec where
  enabled : Bool := false
  interval : String := ""
  deriving DecidableEq

structure OpenSearchSinkSpec where
  hosts : List String := []
  index : String := ""
  indexType : String := ""
  credentialsSecretRef : Option SecretReference := none
  dlqSecretRef : Option SecretReference := none
  routes : List String := []
  deriving DecidableEq

structure PipelineConnectorSinkSpec where
  name : String
  deriving DecidableEq

structure S3SinkSpec where
  bucket : String
  region : String
  keyPathPrefix : String := ""
  codec : String := ""
  compression : String := ""
  credentialsSecretRef : Option SecretReference := none
  deriving DecidableEq

structure KafkaSinkSpec where
  bootstrapServers : List String := []
  topic : String
  serdeFormat : String := ""
  credentialsSecretRef : Option SecretReference := none
  deriving DecidableEq

structure StdoutSinkSpec where
  deriving DecidableEq

/-- A union by presence; the API type does not exclude several members. -/
structure SinkSpec where
  openSearch : Option OpenSearchSinkSpec := none
  pipeline : Option PipelineConnectorSinkSpec := none
  s3 : Option S3SinkSpec := none
  kafka : Option KafkaSinkSpec := none
  stdout : Option StdoutSinkSpec := none
  deriving DecidableEq

/-- The CRD enumeration `none;ssl`, with the empty string for an omitted field. -/
inductive EncryptionType where
  | unset
  | none
  | ssl
  deriving DecidableEq, Repr

def EncryptionType.text : EncryptionType → String
  | .unset => ""
  | .none => "none"
  | .ssl => "ssl"

structure KafkaSourceSpec where
  bootstrapServers : List String := []
  topic : String
  groupId : String
  credentialsSecretRef : Option SecretReference := none
  consumerConfig : GoMap String := ∅
  encryptionType : EncryptionType := .unset
  deriving DecidableEq

structure HTTPSourceSpec where
  port : Int
  path : String := ""
  deriving DecidableEq

/-- The CRD enumeration of OTel protocols. -/
inductive OTelProtocol where
  | traces
  | metrics
  | logs
  deriving DecidableEq, Repr

structure OTelSourceSpec where
  port : Int
  protocols : List OTelProtocol := []
  deriving DecidableEq

structure CSVCodecSpec where
  delimiter : String := ""
  headerRow : Bool := false
  deriving DecidableEq

structure AvroCodecSpec where
  schema : String := ""
  deriving DecidableEq

/-- The JSON, newline and Parquet codecs are markers without fields. -/
structure CodecSpec where
  json : Option Unit := none
  csv : Option CSVCodecSpec := none
  newline : Option Unit := none
  parquet : Option Unit := none
  avro : Option AvroCodecSpec := none
  deriving DecidableEq

structure S3SourceSpec where
  bucket : String
  pathPrefix : String := ""
  region : String
  sqsQueueUrl : String := ""
  credentialsSecretRef : Option SecretReference := none
  codec : Option CodecSpec := none
  compression : String := ""
  deriving DecidableEq

structure PipelineConnectorSourceSpec where
  name : String
  deriving DecidableEq

structure SourceSpec where
  kafka : Option KafkaSourceSpec := none
  http : Option HTTPSourceSpec := none
  otel : Option OTelSourceSpec := none
  s3 : Option S3SourceSpec := none
  pipeline : Option PipelineConnectorSourceSpec := none
  deriving DecidableEq

structure BoundedBlockingBufferSpec where
  bufferSize : Int := 0
  batchSize : Int := 0
  deriving DecidableEq

structure BufferSpec where
  boundedBlocking : Option BoundedBlockingBufferSpec := none
  deriving DecidableEq

structure PipelineDefinition where
  name : String
  workers : Int := 0
  delay : Int := 0
  source : SourceSpec
  buffer : Option BufferSpec := none
  processors : List RawJSON := []
  routes : List (GoMap String) := []
  sink : List SinkSpec := []
  deriving DecidableEq

/-- The CRD enumeration `auto;manual`, with the empty string for an omitted
field. -/
inductive ScalingMode where
  | unset
  | auto
  | manual
  deriving DecidableEq, Repr

structure ScalingSpec where
  mode : ScalingMode := .unset
  maxReplicas : Option Int := none
  minReplicas : Option Int := none
  fixedReplicas : Option Int := none
  deriving DecidableEq

structure HeapCircuitBreakerSpec where
  usage : String
  deriving DecidableEq

structure CircuitBreakerSpec where
  heap : Option HeapCircuitBreakerSpec := none
  deriving DecidableEq

structure DataPrepperConfigSpec where
  circuitBreakers : Option CircuitBreakerSpec := none
  raw : Option RawJSON := none
  deriving DecidableEq

structure DataPrepperPipelineSpec where
  image : String := ""
  imagePullPolicy : String := ""
  pipelines : List PipelineDefinition := []
  scaling : Option ScalingSpec := none
  resources : Option PerReplicaResources := none
  dataPrepperConfig : Option DataPrepperConfigSpec := none
  serviceMonitor : Option ServiceMonitorSpec := none
  podAnnotations : GoMap String := ∅
  podLabels : GoMap String := ∅
  nodeSelector : GoMap String := ∅
  tolerations : List Value := []
  affinity : Option Value := none
  podSecurityContext : Option Value := none
  securityContext : Option Value := none
  serviceAccountName : String := ""
  deriving DecidableEq

inductive PipelinePhase where
  | unset
  | pending
  | running
  | degraded
  | error
  deriving DecidableEq, Repr

inductive ConditionStatus where
  | true
  | false
  deriving DecidableEq, Repr

/-- `metav1.Condition`; transition times are not read by the operator. -/
structure Condition where
  type : String
  status : ConditionStatus
  observedGeneration : Nat := 0
  reason : String
  message : String
  deriving DecidableEq

structure KafkaStatus where
  topicPartitions : Int
  workersPerPod : Int
  totalConsumers : Int
  deriving DecidableEq

structure DataPrepperPipelineStatus where
  phase : PipelinePhase := .unset
  replicas : Int := 0
  readyReplicas : Int := 0
  observedGeneration : Nat := 0
  conditions : List Condition := []
  kafka : Option KafkaStatus := none
  deriving DecidableEq

structure DefaultKafkaSpec where
  bootstrapServers : List String := []
  credentialsSecretRef : Option SecretReference := none
  deriving DecidableEq

structure DefaultSinkSpec where
  openSearch : Option OpenSearchSinkSpec := none
  deriving DecidableEq

structure DataPrepperDefaultsSpec where
  image : String := ""
  sink : Option DefaultSinkSpec := none
  kafka : Option DefaultKafkaSpec := none
  resources : Option PerReplicaResources := none
  dataPrepperConfig : Option DataPrepperConfigSpec := none
  serviceMonitor : Option ServiceMonitorSpec := none
  deriving DecidableEq

/-- The CRD enumeration `Delete;Orphan`, with the empty string for an omitted
field. -/
inductive CleanupPolicy where
  | unset
  | delete
  | orphan
  deriving DecidableEq, Repr

structure KafkaTopicSelectorSpec where
  topicPrefix : String
  excludePatterns : List String := []
  deriving DecidableEq

structure KafkaDiscoverySpec where
  bootstrapServers : List String := []
  credentialsSecretRef : Option SecretReference := none
  encryptionType : EncryptionType := .unset
  topicSelector : KafkaTopicSelectorSpec
  pollInterval : String := ""
  cleanupPolicy : CleanupPolicy := .unset
  deriving DecidableEq

structure S3PrefixSelectorSpec where
  pathPrefix : String := ""
  depth : Int := 0
  excludePatterns : List String := []
  deriving DecidableEq

structure SQSQueueMappingSpec where
  queueUrlTemplate : String := ""
  overrides : GoMap String := ∅
  deriving DecidableEq

structure S3DiscoverySpec where
  region : String
  bucket : String
  prefixSelector : S3PrefixSelectorSpec
  endpoint : String := ""
  forcePathStyle : Bool := false
  credentialsSecretRef : Option SecretReference := none
  sqsQueueMapping : Option SQSQueueMappingSpec := none
  pollInterval : String := ""
  cleanupPolicy : CleanupPolicy := .unset
  deriving DecidableEq

structure PipelineTemplateSpec where
  spec : DataPrepperPipelineSpec
  deriving DecidableEq

structure DiscoveryOverrideSpec where
  pattern : String
  spec : DataPrepperPipelineSpec
  deriving DecidableEq

structure DataPrepperSourceDiscoverySpec where
  kafka : Option KafkaDiscoverySpec := none
  s3 : Option S3DiscoverySpec := none
  pipelineTemplate : PipelineTemplateSpec
  overrides : List DiscoveryOverrideSpec := []
  maxCreationsPerCycle : Option Int := none
  deriving DecidableEq

structure DiscoveredSourceStatus where
  name : String
  partitions : Int := 0
  pipelineRef : String := ""
  status : String := ""
  deriving DecidableEq

inductive DiscoveryPhase where
  | unset
  | running
  | error
  | idle
  deriving DecidableEq, Repr

structure DataPrepperSourceDiscoveryStatus where
  phase : DiscoveryPhase := .unset
  observedGeneration : Nat := 0
  discoveredSources : Int := 0
  activePipelines : Int := 0
  orphanedPipelines : Int := 0
  updatingPipelines : Int := 0
  lastPollTime : Option Nat := none
  conditions : List Condition := []
  sources : List DiscoveredSourceStatus := []
  deriving DecidableEq

/-- The members of a union that are set. -/
def setMembers {Member : Type} (members : List (Bool × Member)) : List Member :=
  (members.filter (·.1)).map (·.2)

inductive SourceType where
  | kafka
  | http
  | otel
  | s3
  | pipeline
  deriving DecidableEq, Repr

def declaredSources (source : SourceSpec) : List SourceType :=
  setMembers [(source.kafka.isSome, .kafka), (source.http.isSome, .http),
    (source.otel.isSome, .otel), (source.s3.isSome, .s3), (source.pipeline.isSome, .pipeline)]

inductive SinkType where
  | openSearch
  | pipeline
  | s3
  | kafka
  | stdout
  deriving DecidableEq, Repr

def declaredSinks (sink : SinkSpec) : List SinkType :=
  setMembers [(sink.openSearch.isSome, .openSearch), (sink.pipeline.isSome, .pipeline),
    (sink.s3.isSome, .s3), (sink.kafka.isSome, .kafka), (sink.stdout.isSome, .stdout)]

end DataPrepperOperator.Api
