import DataPrepperOperator.Library.GoText
import DataPrepperOperator.Scaling.Scaler

/-!
# Configuration files

`pipelines.yaml` and `data-prepper-config.yaml` as document trees, before they
are written out as YAML.
-/

namespace DataPrepperOperator.Generator

open DataPrepperOperator.Api
open Value (Fields setField copyFields)

/-- A loop that stops at its first error succeeds if every step does. -/
theorem exists_mapM_ok_iff {Item Result Failure : Type} {f : Item → Except Failure Result}
    {items : List Item} :
    (∃ results, items.mapM f = .ok results) ↔ ∀ item ∈ items, ∃ result, f item = .ok result := by
  induction items with
  | nil => simp [pure, Except.pure]
  | cons item rest ih =>
      rw [List.forall_mem_cons, ← ih, List.mapM_cons]
      cases f item with
      | error failure => simp [bind, Except.bind]
      | ok result =>
          cases rest.mapM f <;> simp [bind, Except.bind, pure, Except.pure]

theorem ok_of_map {Failure Item Result : Type} {f : Item → Result}
    {computed : Except Failure Item} {result : Result} (mapped : computed.map f = .ok result) :
    ∃ item, computed = .ok item ∧ f item = result := by
  cases computed with
  | error failure => cases mapped
  | ok item => exact ⟨item, rfl, Except.ok.inj mapped⟩

theorem mapM_ok_iff_forall₂ {Item Result Failure : Type} {f : Item → Except Failure Result}
    {items : List Item} {results : List Result} :
    items.mapM f = .ok results ↔
      List.Forall₂ (fun item result => f item = .ok result) items results := by
  induction items generalizing results with
  | nil => simp [pure, Except.pure, eq_comm]
  | cons item rest ih =>
      rw [List.mapM_cons, List.forall₂_cons_left_iff]
      simp only [← ih]
      cases f item with
      | error failure => simp [bind, Except.bind]
      | ok result =>
          cases rest.mapM f <;> simp [bind, Except.bind, pure, Except.pure, eq_comm]

theorem exists_of_forall₂ {Item Result : Type} {related : Item → Result → Prop}
    {items : List Item} {results : List Result} (each : List.Forall₂ related items results)
    {result : Result} (member : result ∈ results) : ∃ item ∈ items, related item result := by
  induction each with
  | nil => cases member
  | cons head _ ih =>
      obtain rfl | later := List.mem_cons.mp member
      · exact ⟨_, List.mem_cons_self, head⟩
      · obtain ⟨item, listed, holds⟩ := ih later
        exact ⟨item, List.mem_cons_of_mem _ listed, holds⟩

def stringList (items : List String) : Value := .list (items.map Value.string)

/-- A field that is left out when its string is empty. -/
def optionalText (key text : String) : Fields :=
  if text = "" then [] else [(key, .string text)]

/-- A field that is left out unless its number is positive. -/
def positiveNumber (key : String) (number : Int) : Fields :=
  if 0 < number then [(key, .number number)] else []

/-- The SASL section with the placeholders of the Kafka credentials. -/
def kafkaAuthentication : Value :=
  .object [("sasl", .object [("plain", .object
    [("username", .string "$\x7bKAFKA_USERNAME\x7d"),
      ("password", .string "$\x7bKAFKA_PASSWORD\x7d")])])]

def kafkaAuthenticationFor (reference : Option SecretReference) : Fields :=
  match reference with
  | none => []
  | some _ => [("authentication", kafkaAuthentication)]

def buildKafkaSource (kafka : KafkaSourceSpec) (topicWorkers : Int) : Fields :=
  let topic : Fields :=
    [("name", .string kafka.topic), ("group_id", .string kafka.groupId)] ++
      positiveNumber "workers" topicWorkers
  let config : Fields :=
    [("bootstrap_servers", stringList kafka.bootstrapServers),
      ("topics", .list [.object topic])] ++
      kafkaAuthenticationFor kafka.credentialsSecretRef ++
      (if kafka.encryptionType = .unset then []
        else [("encryption", .object [("type", .string kafka.encryptionType.text)])]) ++
      (if kafka.consumerConfig = ∅ then []
        else [("consumer_config", Value.ofStrings kafka.consumerConfig)])
  [("kafka", .object config)]

def buildHTTPSource (http : HTTPSourceSpec) : Fields :=
  [("http", .object ([("port", .number http.port)] ++ optionalText "path" http.path))]

/-- Only the first protocol selects the source plugin. -/
def buildOTelSource (otel : OTelSourceSpec) : Fields :=
  let sourceName := match otel.protocols with
    | .metrics :: _ => "otel_metrics_source"
    | .logs :: _ => "otel_logs_source"
    | .traces :: _ | [] => "otel_trace_source"
  [(sourceName, .object [("port", .number otel.port)])]

def buildCodec (codec : CodecSpec) : Fields :=
  match codec.json, codec.csv, codec.newline, codec.parquet, codec.avro with
  | some _, _, _, _, _ => [("json", .object [])]
  | none, some csv, _, _, _ =>
      [("csv", .object (optionalText "delimiter" csv.delimiter ++
        if csv.headerRow then [("header", .bool true)] else []))]
  | none, none, some _, _, _ => [("newline", .object [])]
  | none, none, none, some _, _ => [("parquet", .object [])]
  | none, none, none, none, some avro => [("avro", .object (optionalText "schema" avro.schema))]
  | none, none, none, none, none => []

def buildS3Source (s3 : S3SourceSpec) : Fields :=
  let sqs : Fields :=
    if s3.sqsQueueUrl = "" then []
    else [("notification_type", .string "sqs"),
      ("sqs", .object [("queue_url", .string s3.sqsQueueUrl)])]
  let codec : Fields := match s3.codec with
    | none => []
    | some codec => [("codec", .object (buildCodec codec))]
  [("s3", .object ([("bucket", .string s3.bucket), ("region", .string s3.region)] ++
    optionalText "key_path_prefix" s3.pathPrefix ++ sqs ++ codec ++
    optionalText "compression" s3.compression))]

def pipelineConnector (name : String) : Fields :=
  [("pipeline", .object [("name", .string name)])]

def buildSource (spec : SourceSpec) (topicWorkers : Int) : Except String Fields :=
  match spec.kafka, spec.http, spec.otel, spec.s3, spec.pipeline with
  | some kafka, _, _, _, _ => .ok (buildKafkaSource kafka topicWorkers)
  | none, some http, _, _, _ => .ok (buildHTTPSource http)
  | none, none, some otel, _, _ => .ok (buildOTelSource otel)
  | none, none, none, some s3, _ => .ok (buildS3Source s3)
  | none, none, none, none, some pipeline => .ok (pipelineConnector pipeline.name)
  | none, none, none, none, none => .error "no source specified"

def buildOpenSearchSink (openSearch : OpenSearchSinkSpec) : Fields :=
  let credentials : Fields := match openSearch.credentialsSecretRef with
    | none => []
    | some _ =>
        [("username", .string "$\x7bOPENSEARCH_USERNAME\x7d"),
          ("password", .string "$\x7bOPENSEARCH_PASSWORD\x7d")]
  [("opensearch", .object ([("hosts", stringList openSearch.hosts)] ++
    optionalText "index" openSearch.index ++ optionalText "index_type" openSearch.indexType ++
    credentials ++
    (if openSearch.routes = [] then [] else [("routes", stringList openSearch.routes)])))]

def buildS3Sink (s3 : S3SinkSpec) : Fields :=
  [("s3", .object ([("bucket", .string s3.bucket), ("region", .string s3.region)] ++
    optionalText "key_path_prefix" s3.keyPathPrefix ++ optionalText "codec" s3.codec ++
    optionalText "compression" s3.compression ++
    [("aws", .object [("region", .string s3.region)])]))]

def buildKafkaSink (kafka : KafkaSinkSpec) : Fields :=
  [("kafka", .object ([("bootstrap_servers", stringList kafka.bootstrapServers),
      ("topic", .string kafka.topic)] ++
    optionalText "serde_format" kafka.serdeFormat ++
    kafkaAuthenticationFor kafka.credentialsSecretRef))]

def buildSink (sink : SinkSpec) : Except String Fields :=
  match sink.openSearch, sink.pipeline, sink.s3, sink.kafka, sink.stdout with
  | some openSearch, _, _, _, _ => .ok (buildOpenSearchSink openSearch)
  | none, some pipeline, _, _, _ => .ok (pipelineConnector pipeline.name)
  | none, none, some s3, _, _ => .ok (buildS3Sink s3)
  | none, none, none, some kafka, _ => .ok (buildKafkaSink kafka)
  | none, none, none, none, some _ => .ok [("stdout", .object [])]
  | none, none, none, none, none => .error "no sink type specified"

def buildSinks (sinks : List SinkSpec) : Except String (List Value) :=
  sinks.mapM fun sink => (buildSink sink).map Value.object

/-- `buildBuffer`; nothing is rendered without a bounded blocking buffer. -/
def buildBuffer (buffer : BufferSpec) : Option Fields :=
  buffer.boundedBlocking.map fun bounded =>
    [("bounded_blocking", .object (positiveNumber "buffer_size" bounded.bufferSize ++
      positiveNumber "batch_size" bounded.batchSize))]

def buildProcessors (processors : List RawJSON) : Except String (List Value) :=
  processors.mapM fun processor =>
    processor.unmarshalAny.mapError ("unmarshal processor: " ++ ·)

/-- The `workers` field: the user's count, or the topic workers of a Kafka source. -/
def buildWorkers (pipeline : PipelineDefinition) (topicWorkers : Int) : Fields :=
  if 0 < pipeline.workers then [("workers", .number pipeline.workers)]
  else if pipeline.source.kafka.isSome ∧ 0 < topicWorkers then
    [("workers", .number topicWorkers)]
  else []

/-- Later route maps overwrite earlier ones. -/
def buildRoutes (routes : List (GoMap String)) : Fields :=
  if routes = [] then []
  else [("route", Value.ofStrings (routes.foldl GoMap.copy ∅))]

/-- The loop body of `GeneratePipelineConfig`. -/
def buildPipeline (pipeline : PipelineDefinition) (topicWorkers : Int) :
    Except String Fields := do
  let context := "pipeline " ++ GoText.quote pipeline.name
  let source ← (buildSource pipeline.source topicWorkers).mapError (context ++ " source: " ++ ·)
  let buffer : Fields := match pipeline.buffer.bind buildBuffer with
    | none => []
    | some buffer => [("buffer", .object buffer)]
  let processors : Fields ←
    if pipeline.processors = [] then pure []
    else
      let built ← (buildProcessors pipeline.processors).mapError
        (context ++ " processors: " ++ ·)
      pure [("processor", .list built)]
  let sinks ← (buildSinks pipeline.sink).mapError (context ++ " sinks: " ++ ·)
  pure (buildWorkers pipeline topicWorkers ++ positiveNumber "delay" pipeline.delay ++
    [("source", .object source)] ++ buffer ++ processors ++ buildRoutes pipeline.routes ++
    [("sink", .list sinks)])

/-- `GeneratePipelineConfig`. -/
def generatePipelineConfig (pipelines : List PipelineDefinition) (topicWorkers : Int) :
    Except String Fields :=
  pipelines.foldlM (fun config pipeline => do
    let built ← buildPipeline pipeline topicWorkers
    pure (setField config pipeline.name (.object built))) []

/-- The circuit breakers and the raw section of the user. -/
def userConfig (spec : DataPrepperPipelineSpec) (config : Fields) : Except String Fields :=
  match spec.dataPrepperConfig with
  | none => .ok config
  | some section_ =>
      let config := match section_.circuitBreakers.bind (·.heap) with
        | none => config
        | some heap => setField config "circuit_breakers"
            (.object [("heap", .object [("usage", .string heap.usage)])])
      match section_.raw with
      | none => .ok config
      | some raw =>
          (raw.unmarshalMap.mapError ("unmarshal raw data-prepper config: " ++ ·)).map
            (copyFields config)

/-- `GenerateDPConfig`: the peer forwarder section is written last and wins. -/
def generateDPConfig (spec : DataPrepperPipelineSpec) (needsPeerForwarder : Bool)
    (name nameSpace : String) : Except String Fields :=
  (userConfig spec [("ssl", .bool false)]).map fun config =>
    if needsPeerForwarder then copyFields config (PeerForwarder.generateConfig name nameSpace)
    else config

/-- A peer forwarder that is asked for is in the configuration. -/
theorem generateDPConfig_peerForwarder {spec : DataPrepperPipelineSpec} {name nameSpace : String}
    {config : Fields} (generated : generateDPConfig spec true name nameSpace = .ok config) :
    config.lookup "peer_forwarder" = some (PeerForwarder.peerForwarderSection name nameSpace) := by
  unfold generateDPConfig at generated
  cases user : userConfig spec [("ssl", .bool false)] with
  | error message => simp [user, Except.map] at generated
  | ok base =>
      simp only [user, Except.map, if_true, Except.ok.injEq] at generated
      subst generated
      exact Value.lookup_setField_same base _ _

end DataPrepperOperator.Generator
