import DataPrepperOperator.Api.Types
import DataPrepperOperator.Library.JsonCodec

/-!
# The JSON encoding of pipeline specs

Every structure with the names and the `omitempty` marks of its tags.  The
enumerations of the CRD admit their own texts only.  Beside each codec stands what
rewriting the strings of a value means.
-/

namespace DataPrepperOperator.Api

open Codec

def SecretReference.mapStrings (change : String → String)
    (value : SecretReference) : SecretReference :=
  { name := change value.name
    key := change value.key }

def secretReference : Codec SecretReference :=
  .struct { name := "" }
    [.required "name" .string (·.name) (fun data value => { value with name := data }),
      .omittingString "key" (·.key) (fun data value => { value with key := data })]
    SecretReference.mapStrings

def secretPointer : Codec (Option SecretReference) :=
  .pointer secretReference struct_solid

def ResourceRequirements.mapStrings (change : String → String)
    (value : ResourceRequirements) : ResourceRequirements :=
  { requests := rewriteMap change value.requests
    limits := rewriteMap change value.limits }

def resourceRequirements : Codec ResourceRequirements :=
  .struct {}
    [.omitting "requests" .stringMap (·.requests)
        (fun data value => { value with requests := data }),
      .omitting "limits" .stringMap (·.limits) (fun data value => { value with limits := data })]
    ResourceRequirements.mapStrings

def PerReplicaResources.mapStrings (change : String → String)
    (value : PerReplicaResources) : PerReplicaResources :=
  { perReplica := value.perReplica.mapStrings change }

def perReplicaResources : Codec PerReplicaResources :=
  .struct {}
    [.required "perReplica" resourceRequirements (·.perReplica)
        (fun data value => { value with perReplica := data })]
    PerReplicaResources.mapStrings

def ServiceMonitorSpec.mapStrings (change : String → String)
    (value : ServiceMonitorSpec) : ServiceMonitorSpec :=
  { value with
    interval := change value.interval }

def serviceMonitor : Codec ServiceMonitorSpec :=
  .struct {}
    [.omitting "enabled" .bool (·.enabled) (fun data value => { value with enabled := data }),
      .omittingString "interval" (·.interval) (fun data value => { value with interval := data })]
    ServiceMonitorSpec.mapStrings

def OpenSearchSinkSpec.mapStrings (change : String → String)
    (value : OpenSearchSinkSpec) : OpenSearchSinkSpec :=
  { hosts := value.hosts.map change
    index := change value.index
    indexType := change value.indexType
    credentialsSecretRef := value.credentialsSecretRef.map (SecretReference.mapStrings change)
    dlqSecretRef := value.dlqSecretRef.map (SecretReference.mapStrings change)
    routes := value.routes.map change }

def openSearchSink : Codec OpenSearchSinkSpec :=
  .struct {}
    [.required "hosts" (.list .string) (·.hosts) (fun data value => { value with hosts := data }),
      .omittingString "index" (·.index) (fun data value => { value with index := data }),
      .omittingString "indexType" (·.indexType)
        (fun data value => { value with indexType := data }),
      .omitting "credentialsSecretRef" secretPointer (·.credentialsSecretRef)
        (fun data value => { value with credentialsSecretRef := data }),
      .omitting "dlqSecretRef" secretPointer (·.dlqSecretRef)
        (fun data value => { value with dlqSecretRef := data }),
      .omitting "routes" (.list .string) (·.routes)
        (fun data value => { value with routes := data })]
    OpenSearchSinkSpec.mapStrings

def PipelineConnectorSinkSpec.mapStrings (change : String → String)
    (value : PipelineConnectorSinkSpec) : PipelineConnectorSinkSpec :=
  { name := change value.name }

def pipelineConnectorSink : Codec PipelineConnectorSinkSpec :=
  .struct { name := "" }
    [.required "name" .string (·.name) (fun data value => { value with name := data })]
    PipelineConnectorSinkSpec.mapStrings

def S3SinkSpec.mapStrings (change : String → String) (value : S3SinkSpec) : S3SinkSpec :=
  { bucket := change value.bucket
    region := change value.region
    keyPathPrefix := change value.keyPathPrefix
    codec := change value.codec
    compression := change value.compression
    credentialsSecretRef := value.credentialsSecretRef.map (SecretReference.mapStrings change) }

def s3Sink : Codec S3SinkSpec :=
  .struct { bucket := "", region := "" }
    [.required "bucket" .string (·.bucket) (fun data value => { value with bucket := data }),
      .required "region" .string (·.region) (fun data value => { value with region := data }),
      .omittingString "keyPathPrefix" (·.keyPathPrefix)
        (fun data value => { value with keyPathPrefix := data }),
      .omittingString "codec" (·.codec) (fun data value => { value with codec := data }),
      .omittingString "compression" (·.compression)
        (fun data value => { value with compression := data }),
      .omitting "credentialsSecretRef" secretPointer (·.credentialsSecretRef)
        (fun data value => { value with credentialsSecretRef := data })]
    S3SinkSpec.mapStrings

def KafkaSinkSpec.mapStrings (change : String → String) (value : KafkaSinkSpec) : KafkaSinkSpec :=
  { bootstrapServers := value.bootstrapServers.map change
    topic := change value.topic
    serdeFormat := change value.serdeFormat
    credentialsSecretRef := value.credentialsSecretRef.map (SecretReference.mapStrings change) }

def kafkaSink : Codec KafkaSinkSpec :=
  .struct { topic := "" }
    [.required "bootstrapServers" (.list .string) (·.bootstrapServers)
        (fun data value => { value with bootstrapServers := data }),
      .required "topic" .string (·.topic) (fun data value => { value with topic := data }),
      .omittingString "serdeFormat" (·.serdeFormat)
        (fun data value => { value with serdeFormat := data }),
      .omitting "credentialsSecretRef" secretPointer (·.credentialsSecretRef)
        (fun data value => { value with credentialsSecretRef := data })]
    KafkaSinkSpec.mapStrings

def StdoutSinkSpec.mapStrings (_ : String → String) (value : StdoutSinkSpec) : StdoutSinkSpec :=
  value

def stdoutSink : Codec StdoutSinkSpec :=
  .struct {}
    []
    StdoutSinkSpec.mapStrings

def SinkSpec.mapStrings (change : String → String) (value : SinkSpec) : SinkSpec :=
  { openSearch := value.openSearch.map (OpenSearchSinkSpec.mapStrings change)
    pipeline := value.pipeline.map (PipelineConnectorSinkSpec.mapStrings change)
    s3 := value.s3.map (S3SinkSpec.mapStrings change)
    kafka := value.kafka.map (KafkaSinkSpec.mapStrings change)
    stdout := value.stdout.map (StdoutSinkSpec.mapStrings change) }

def sink : Codec SinkSpec :=
  .struct {}
    [.omitting "opensearch" (.pointer openSearchSink struct_solid) (·.openSearch)
        (fun data value => { value with openSearch := data }),
      .omitting "pipeline" (.pointer pipelineConnectorSink struct_solid) (·.pipeline)
        (fun data value => { value with pipeline := data }),
      .omitting "s3" (.pointer s3Sink struct_solid) (·.s3)
        (fun data value => { value with s3 := data }),
      .omitting "kafka" (.pointer kafkaSink struct_solid) (·.kafka)
        (fun data value => { value with kafka := data }),
      .omitting "stdout" (.pointer stdoutSink struct_solid) (·.stdout)
        (fun data value => { value with stdout := data })]
    SinkSpec.mapStrings

def encryptionType : Codec EncryptionType :=
  .enumeration .unset EncryptionType.text
    (fun
      | "" => some .unset
      | "none" => some .none
      | "ssl" => some .ssl
      | _ => Option.none)
    (by intro value; cases value <;> rfl) (by intro value; cases value <;> decide)

def KafkaSourceSpec.mapStrings (change : String → String)
    (value : KafkaSourceSpec) : KafkaSourceSpec :=
  { value with
    bootstrapServers := value.bootstrapServers.map change
    topic := change value.topic
    groupId := change value.groupId
    credentialsSecretRef := value.credentialsSecretRef.map (SecretReference.mapStrings change)
    consumerConfig := rewriteMap change value.consumerConfig }

def kafkaSource : Codec KafkaSourceSpec :=
  .struct { topic := "", groupId := "" }
    [.required "bootstrapServers" (.list .string) (·.bootstrapServers)
        (fun data value => { value with bootstrapServers := data }),
      .required "topic" .string (·.topic) (fun data value => { value with topic := data }),
      .required "groupId" .string (·.groupId) (fun data value => { value with groupId := data }),
      .omitting "credentialsSecretRef" secretPointer (·.credentialsSecretRef)
        (fun data value => { value with credentialsSecretRef := data }),
      .omitting "consumerConfig" .stringMap (·.consumerConfig)
        (fun data value => { value with consumerConfig := data }),
      .omitting "encryptionType" encryptionType (·.encryptionType)
        (fun data value => { value with encryptionType := data })]
    KafkaSourceSpec.mapStrings

def HTTPSourceSpec.mapStrings (change : String → String)
    (value : HTTPSourceSpec) : HTTPSourceSpec :=
  { value with
    path := change value.path }

def httpSource : Codec HTTPSourceSpec :=
  .struct { port := 0 }
    [.required "port" (.integer 64) (·.port) (fun data value => { value with port := data }),
      .omittingString "path" (·.path) (fun data value => { value with path := data })]
    HTTPSourceSpec.mapStrings

def OTelProtocol.text : OTelProtocol → String
  | .traces => "traces"
  | .metrics => "metrics"
  | .logs => "logs"

def otelProtocol : Codec OTelProtocol :=
  .enumeration .traces OTelProtocol.text
    (fun
      | "traces" => some .traces
      | "metrics" => some .metrics
      | "logs" => some .logs
      | _ => none)
    (by intro value; cases value <;> rfl) (by intro value; cases value <;> decide)

def otelProtocols : Codec (List OTelProtocol) :=
  (Codec.list otelProtocol).restate (fun _ protocols => protocols) (fun _ => List.map_id)

def OTelSourceSpec.mapStrings (_ : String → String)
    (value : OTelSourceSpec) : OTelSourceSpec :=
  value

def otelSource : Codec OTelSourceSpec :=
  .struct { port := 0 }
    [.required "port" (.integer 64) (·.port) (fun data value => { value with port := data }),
      .omitting "protocols" otelProtocols (·.protocols)
        (fun data value => { value with protocols := data })]
    OTelSourceSpec.mapStrings

def CSVCodecSpec.mapStrings (change : String → String) (value : CSVCodecSpec) : CSVCodecSpec :=
  { value with
    delimiter := change value.delimiter }

def csvCodec : Codec CSVCodecSpec :=
  .struct {}
    [.omittingString "delimiter" (·.delimiter)
        (fun data value => { value with delimiter := data }),
      .omitting "headerRow" .bool (·.headerRow)
        (fun data value => { value with headerRow := data })]
    CSVCodecSpec.mapStrings

def AvroCodecSpec.mapStrings (change : String → String) (value : AvroCodecSpec) : AvroCodecSpec :=
  { schema := change value.schema }

def avroCodec : Codec AvroCodecSpec :=
  .struct {}
    [.omittingString "schema" (·.schema) (fun data value => { value with schema := data })]
    AvroCodecSpec.mapStrings

/-- The marker structures without fields. -/
def marker : Codec (Option Unit) :=
  (Codec.pointer (.struct () [] fun _ value => value) struct_solid).restate
    (fun _ value => value) (fun _ _ => Option.map_id')

def CodecSpec.mapStrings (change : String → String) (value : CodecSpec) : CodecSpec :=
  { value with
    csv := value.csv.map (CSVCodecSpec.mapStrings change)
    avro := value.avro.map (AvroCodecSpec.mapStrings change) }

def codec : Codec CodecSpec :=
  .struct {}
    [.omitting "json" marker (·.json) (fun data value => { value with json := data }),
      .omitting "csv" (.pointer csvCodec struct_solid) (·.csv)
        (fun data value => { value with csv := data }),
      .omitting "newline" marker (·.newline) (fun data value => { value with newline := data }),
      .omitting "parquet" marker (·.parquet) (fun data value => { value with parquet := data }),
      .omitting "avro" (.pointer avroCodec struct_solid) (·.avro)
        (fun data value => { value with avro := data })]
    CodecSpec.mapStrings

def S3SourceSpec.mapStrings (change : String → String) (value : S3SourceSpec) : S3SourceSpec :=
  { bucket := change value.bucket
    pathPrefix := change value.pathPrefix
    region := change value.region
    sqsQueueUrl := change value.sqsQueueUrl
    credentialsSecretRef := value.credentialsSecretRef.map (SecretReference.mapStrings change)
    codec := value.codec.map (CodecSpec.mapStrings change)
    compression := change value.compression }

def s3Source : Codec S3SourceSpec :=
  .struct { bucket := "", region := "" }
    [.required "bucket" .string (·.bucket) (fun data value => { value with bucket := data }),
      .omittingString "prefix" (·.pathPrefix)
        (fun data value => { value with pathPrefix := data }),
      .required "region" .string (·.region) (fun data value => { value with region := data }),
      .omittingString "sqsQueueUrl" (·.sqsQueueUrl)
        (fun data value => { value with sqsQueueUrl := data }),
      .omitting "credentialsSecretRef" secretPointer (·.credentialsSecretRef)
        (fun data value => { value with credentialsSecretRef := data }),
      .omitting "codec" (.pointer codec struct_solid) (·.codec)
        (fun data value => { value with codec := data }),
      .omittingString "compression" (·.compression)
        (fun data value => { value with compression := data })]
    S3SourceSpec.mapStrings

def PipelineConnectorSourceSpec.mapStrings (change : String → String)
    (value : PipelineConnectorSourceSpec) : PipelineConnectorSourceSpec :=
  { name := change value.name }

def pipelineConnectorSource : Codec PipelineConnectorSourceSpec :=
  .struct { name := "" }
    [.required "name" .string (·.name) (fun data value => { value with name := data })]
    PipelineConnectorSourceSpec.mapStrings

def SourceSpec.mapStrings (change : String → String) (value : SourceSpec) : SourceSpec :=
  { kafka := value.kafka.map (KafkaSourceSpec.mapStrings change)
    http := value.http.map (HTTPSourceSpec.mapStrings change)
    otel := value.otel.map (OTelSourceSpec.mapStrings change)
    s3 := value.s3.map (S3SourceSpec.mapStrings change)
    pipeline := value.pipeline.map (PipelineConnectorSourceSpec.mapStrings change) }

def source : Codec SourceSpec :=
  .struct {}
    [.omitting "kafka" (.pointer kafkaSource struct_solid) (·.kafka)
        (fun data value => { value with kafka := data }),
      .omitting "http" (.pointer httpSource struct_solid) (·.http)
        (fun data value => { value with http := data }),
      .omitting "otel" (.pointer otelSource struct_solid) (·.otel)
        (fun data value => { value with otel := data }),
      .omitting "s3" (.pointer s3Source struct_solid) (·.s3)
        (fun data value => { value with s3 := data }),
      .omitting "pipeline" (.pointer pipelineConnectorSource struct_solid) (·.pipeline)
        (fun data value => { value with pipeline := data })]
    SourceSpec.mapStrings

def BoundedBlockingBufferSpec.mapStrings (_ : String → String)
    (value : BoundedBlockingBufferSpec) : BoundedBlockingBufferSpec :=
  value

def boundedBlockingBuffer : Codec BoundedBlockingBufferSpec :=
  .struct {}
    [.omitting "bufferSize" (.integer 64) (·.bufferSize)
        (fun data value => { value with bufferSize := data }),
      .omitting "batchSize" (.integer 64) (·.batchSize)
        (fun data value => { value with batchSize := data })]
    BoundedBlockingBufferSpec.mapStrings

def BufferSpec.mapStrings (change : String → String) (value : BufferSpec) : BufferSpec :=
  { boundedBlocking := value.boundedBlocking.map (BoundedBlockingBufferSpec.mapStrings change) }

def buffer : Codec BufferSpec :=
  .struct {}
    [.omitting "boundedBlocking" (.pointer boundedBlockingBuffer struct_solid) (·.boundedBlocking)
        (fun data value => { value with boundedBlocking := data })]
    BufferSpec.mapStrings

def PipelineDefinition.mapStrings (change : String → String)
    (value : PipelineDefinition) : PipelineDefinition :=
  { value with
    name := change value.name
    source := value.source.mapStrings change
    buffer := value.buffer.map (BufferSpec.mapStrings change)
    processors := value.processors.map (RawJSON.mapStrings change)
    routes := value.routes.map (rewriteMap change)
    sink := value.sink.map (SinkSpec.mapStrings change) }

def pipelineDefinition : Codec PipelineDefinition :=
  .struct { name := "", source := {} }
    [.required "name" .string (·.name) (fun data value => { value with name := data }),
      .omitting "workers" (.integer 64) (·.workers)
        (fun data value => { value with workers := data }),
      .omitting "delay" (.integer 64) (·.delay) (fun data value => { value with delay := data }),
      .required "source" source (·.source) (fun data value => { value with source := data }),
      .omitting "buffer" (.pointer buffer struct_solid) (·.buffer)
        (fun data value => { value with buffer := data }),
      .omitting "processors" (.list .raw) (·.processors)
        (fun data value => { value with processors := data }),
      .omitting "routes" (.list .stringMap) (·.routes)
        (fun data value => { value with routes := data }),
      .required "sink" (.list sink) (·.sink) (fun data value => { value with sink := data })]
    PipelineDefinition.mapStrings

def ScalingMode.text : ScalingMode → String
  | .unset => ""
  | .auto => "auto"
  | .manual => "manual"

def scalingMode : Codec ScalingMode :=
  .enumeration .unset ScalingMode.text
    (fun
      | "" => some .unset
      | "auto" => some .auto
      | "manual" => some .manual
      | _ => none)
    (by intro value; cases value <;> rfl) (by intro value; cases value <;> decide)

def replicaCount : Codec (Option Int) :=
  (Codec.pointer (.integer 32) integer_solid).restate (fun _ count => count)
    (fun _ _ => Option.map_id')

def rawPointer : Codec (Option RawJSON) :=
  .documentPointer .raw encodeRaw_eq_null

def valuePointer : Codec (Option Value) :=
  .documentPointer .value Value.toJson_eq_null

def ScalingSpec.mapStrings (_ : String → String)
    (value : ScalingSpec) : ScalingSpec :=
  value

def scaling : Codec ScalingSpec :=
  .struct {}
    [.omitting "mode" scalingMode (·.mode) (fun data value => { value with mode := data }),
      .omitting "maxReplicas" replicaCount (·.maxReplicas)
        (fun data value => { value with maxReplicas := data }),
      .omitting "minReplicas" replicaCount (·.minReplicas)
        (fun data value => { value with minReplicas := data }),
      .omitting "fixedReplicas" replicaCount (·.fixedReplicas)
        (fun data value => { value with fixedReplicas := data })]
    ScalingSpec.mapStrings

def HeapCircuitBreakerSpec.mapStrings (change : String → String)
    (value : HeapCircuitBreakerSpec) : HeapCircuitBreakerSpec :=
  { usage := change value.usage }

def heapCircuitBreaker : Codec HeapCircuitBreakerSpec :=
  .struct { usage := "" }
    [.required "usage" .string (·.usage) (fun data value => { value with usage := data })]
    HeapCircuitBreakerSpec.mapStrings

def CircuitBreakerSpec.mapStrings (change : String → String)
    (value : CircuitBreakerSpec) : CircuitBreakerSpec :=
  { heap := value.heap.map (HeapCircuitBreakerSpec.mapStrings change) }

def circuitBreaker : Codec CircuitBreakerSpec :=
  .struct {}
    [.omitting "heap" (.pointer heapCircuitBreaker struct_solid) (·.heap)
        (fun data value => { value with heap := data })]
    CircuitBreakerSpec.mapStrings

def DataPrepperConfigSpec.mapStrings (change : String → String)
    (value : DataPrepperConfigSpec) : DataPrepperConfigSpec :=
  { circuitBreakers := value.circuitBreakers.map (CircuitBreakerSpec.mapStrings change)
    raw := (value.raw.filter (· ≠ .document .null)).map (RawJSON.mapStrings change) }

def dataPrepperConfig : Codec DataPrepperConfigSpec :=
  .struct {}
    [.omitting "circuitBreakers" (.pointer circuitBreaker struct_solid) (·.circuitBreakers)
        (fun data value => { value with circuitBreakers := data }),
      .omitting "raw" rawPointer (·.raw) (fun data value => { value with raw := data })]
    DataPrepperConfigSpec.mapStrings

def DataPrepperPipelineSpec.mapStrings (change : String → String)
    (value : DataPrepperPipelineSpec) : DataPrepperPipelineSpec :=
  { image := change value.image
    imagePullPolicy := change value.imagePullPolicy
    pipelines := value.pipelines.map (PipelineDefinition.mapStrings change)
    scaling := value.scaling.map (ScalingSpec.mapStrings change)
    resources := value.resources.map (PerReplicaResources.mapStrings change)
    dataPrepperConfig := value.dataPrepperConfig.map (DataPrepperConfigSpec.mapStrings change)
    serviceMonitor := value.serviceMonitor.map (ServiceMonitorSpec.mapStrings change)
    podAnnotations := rewriteMap change value.podAnnotations
    podLabels := rewriteMap change value.podLabels
    nodeSelector := rewriteMap change value.nodeSelector
    tolerations := value.tolerations.map (Value.mapStrings change)
    affinity := (value.affinity.filter (· ≠ .null)).map (Value.mapStrings change)
    podSecurityContext :=
      (value.podSecurityContext.filter (· ≠ .null)).map (Value.mapStrings change)
    securityContext := (value.securityContext.filter (· ≠ .null)).map (Value.mapStrings change)
    serviceAccountName := change value.serviceAccountName }

def pipelineSpec : Codec DataPrepperPipelineSpec :=
  .struct {}
    [.omittingString "image" (·.image) (fun data value => { value with image := data }),
      .omittingString "imagePullPolicy" (·.imagePullPolicy)
        (fun data value => { value with imagePullPolicy := data }),
      .required "pipelines" (.list pipelineDefinition) (·.pipelines)
        (fun data value => { value with pipelines := data }),
      .omitting "scaling" (.pointer scaling struct_solid) (·.scaling)
        (fun data value => { value with scaling := data }),
      .omitting "resources" (.pointer perReplicaResources struct_solid) (·.resources)
        (fun data value => { value with resources := data }),
      .omitting "dataPrepperConfig" (.pointer dataPrepperConfig struct_solid) (·.dataPrepperConfig)
        (fun data value => { value with dataPrepperConfig := data }),
      .omitting "serviceMonitor" (.pointer serviceMonitor struct_solid) (·.serviceMonitor)
        (fun data value => { value with serviceMonitor := data }),
      .omitting "podAnnotations" .stringMap (·.podAnnotations)
        (fun data value => { value with podAnnotations := data }),
      .omitting "podLabels" .stringMap (·.podLabels)
        (fun data value => { value with podLabels := data }),
      .omitting "nodeSelector" .stringMap (·.nodeSelector)
        (fun data value => { value with nodeSelector := data }),
      .omitting "tolerations" (.list .value) (·.tolerations)
        (fun data value => { value with tolerations := data }),
      .omitting "affinity" valuePointer (·.affinity)
        (fun data value => { value with affinity := data }),
      .omitting "podSecurityContext" valuePointer (·.podSecurityContext)
        (fun data value => { value with podSecurityContext := data }),
      .omitting "securityContext" valuePointer (·.securityContext)
        (fun data value => { value with securityContext := data }),
      .omittingString "serviceAccountName" (·.serviceAccountName)
        (fun data value => { value with serviceAccountName := data })]
    DataPrepperPipelineSpec.mapStrings

end DataPrepperOperator.Api
