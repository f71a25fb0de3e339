import DataPrepperOperator.Api.Toolkit
import DataPrepperOperator.Generator.Config

/-!
# Kubernetes resources of a pipeline

The objects that `internal/generator` builds from a merged spec, and the hash
that forces a rolling restart.
-/

namespace DataPrepperOperator.Generator

open DataPrepperOperator.Api

def managedByLabel : String := "app.kubernetes.io/managed-by"

def managedByValue : String := "dataprepper-operator"

def nameLabel : String := "app.kubernetes.io/name"

def instanceLabel : String := "app.kubernetes.io/instance"

def configHashAnnotation : String := "dataprepper.kaasops.io/config-hash"

/-- `CommonLabels`. -/
def commonLabels (name : String) : GoMap String :=
  GoMap.ofList
    [(managedByLabel, managedByValue), (nameLabel, "data-prepper"), (instanceLabel, name)]

/-- `SelectorLabels`. -/
def selectorLabels (name : String) : GoMap String :=
  GoMap.ofList [(nameLabel, "data-prepper"), (instanceLabel, name)]

/-- `jsonToMap`. -/
def jsonToMap (json : RawJSON) : Except String Value.Fields :=
  json.unmarshalMap.mapError ("unmarshal JSON: " ++ ·)

/-- `ExtractProcessorMaps`. -/
def extractProcessorMaps (pipelines : List PipelineDefinition) :
    Except String (List (List Value.Fields)) :=
  pipelines.mapM fun pipeline =>
    pipeline.processors.mapM fun processor =>
      (jsonToMap processor).mapError
        ("pipeline " ++ GoText.quote pipeline.name ++ " processor: " ++ ·)

theorem mem_of_mapM_ok {Item Result Failure : Type} {f : Item → Except Failure Result}
    {items : List Item} {results : List Result} (success : items.mapM f = .ok results)
    {item : Item} (member : item ∈ items) : ∃ result ∈ results, f item = .ok result := by
  induction items generalizing results with
  | nil => cases member
  | cons head rest ih =>
      rw [List.mapM_cons] at success
      cases first : f head with
      | error failure => simp [first, bind, Except.bind] at success
      | ok result =>
          cases later : rest.mapM f with
          | error failure => simp [first, later, bind, Except.bind] at success
          | ok others =>
              simp only [first, later, bind, Except.bind, pure, Except.pure,
                Except.ok.injEq] at success
              subst success
              obtain rfl | member := List.mem_cons.mp member
              · exact ⟨result, List.mem_cons_self, first⟩
              · obtain ⟨found, listed, returned⟩ := ih later member
                exact ⟨found, List.mem_cons_of_mem _ listed, returned⟩

/-- Some processor of some pipeline is stateful. -/
def HasStatefulProcessor (pipelines : List PipelineDefinition) : Prop :=
  ∃ pipeline ∈ pipelines, ∃ processor ∈ pipeline.processors, ∃ fields,
    jsonToMap processor = .ok fields ∧
      ∃ field ∈ fields, field.1 ∈ PeerForwarder.statefulProcessors

theorem needsForwarding_of_stateful {pipelines : List PipelineDefinition}
    {processorMaps : List (List Value.Fields)}
    (extracted : extractProcessorMaps pipelines = .ok processorMaps)
    (stateful : HasStatefulProcessor pipelines) :
    PeerForwarder.needsForwarding processorMaps = true := by
  obtain ⟨pipeline, member, processor, processorMember, fields, decoded, field, fieldMember,
    listed⟩ := stateful
  obtain ⟨maps, mapsMember, mapped⟩ := mem_of_mapM_ok extracted member
  obtain ⟨found, foundMember, decodedAgain⟩ := mem_of_mapM_ok mapped processorMember
  rw [decoded, Except.mapError, Except.ok.injEq] at decodedAgain
  subst decodedAgain
  unfold PeerForwarder.needsForwarding
  rw [List.any_eq_true]
  refine ⟨maps, mapsMember, ?_⟩
  rw [List.any_eq_true]
  refine ⟨fields, foundMember, ?_⟩
  rw [List.any_eq_true]
  exact ⟨field, fieldMember, by simpa using listed⟩

/-- `NeedsService`. -/
def needsService (pipelines : List PipelineDefinition)
    (serviceMonitor : Option ServiceMonitorSpec) : Bool :=
  serviceMonitor.any (·.enabled) ||
    pipelines.any fun pipeline => pipeline.source.http.isSome || pipeline.source.otel.isSome

/-- The port of an HTTP or OTel source, zero for the others. -/
def sourcePort (source : SourceSpec) : Int :=
  match source.http, source.otel with
  | some http, _ => Scaling.toInt32 http.port
  | none, some otel => Scaling.toInt32 otel.port
  | none, none => 0

/-- `SourcePorts`: no port twice, in increasing order. -/
def sourcePorts (pipelines : List PipelineDefinition) : List Int :=
  (pipelines.foldl (fun ports pipeline =>
    let port := sourcePort pipeline.source
    if port ≠ 0 ∧ port ∉ ports then ports ++ [port] else ports) []).insertionSort (· ≤ ·)

/-- What is written to the hash for a map whose keys are visited in this order. -/
def hashedFields (keys : List String) (value : String → Bytes) : List Bytes :=
  keys.flatMap fun key => [utf8 key, value key]

/-- The fields of ConfigMap data, in key order. -/
def dataFields (data : GoMap String) : List Bytes :=
  hashedFields (GoMap.sortedKeys data) fun key => utf8 ((data.lookup key).getD "")

/-- `HashOfData` when the runtime ranges over the map in the given order: the
keys are collected, sorted, and written with their values. -/
def hashOfData (toolkit : Toolkit) (order : List String) (data : GoMap String) : String :=
  toolkit.truncatedHash
    (hashedFields (GoMap.sortStrings order) fun key =>
      utf8 ((data.lookup key).getD "")).flatten

/-- The order in which the map is ranged over does not matter. -/
theorem hashOfData_eq (toolkit : Toolkit) {order : List String} {data : GoMap String}
    (permuted : order.Perm (GoMap.sortedKeys data)) :
    hashOfData toolkit order data = toolkit.truncatedHash (dataFields data).flatten := by
  unfold hashOfData dataFields
  rw [GoMap.sortStrings_of_perm_sortedKeys permuted]

/-- The credentials that share one set of environment variables. -/
inductive CredentialFamily where
  | kafka
  | openSearch
  | s3
  deriving DecidableEq, Repr

/-- `secretEnvVar`. -/
def secretEnvVar (envName secretName key : String) : EnvVar :=
  { name := envName, secretName := secretName, secretKey := key }

def CredentialFamily.envVars : CredentialFamily → String → List EnvVar
  | .kafka, secretName =>
      [secretEnvVar "KAFKA_USERNAME" secretName "username",
        secretEnvVar "KAFKA_PASSWORD" secretName "password"]
  | .openSearch, secretName =>
      [secretEnvVar "OPENSEARCH_USERNAME" secretName "username",
        secretEnvVar "OPENSEARCH_PASSWORD" secretName "password"]
  | .s3, secretName =>
      [secretEnvVar "AWS_ACCESS_KEY_ID" secretName "aws_access_key_id",
        secretEnvVar "AWS_SECRET_ACCESS_KEY" secretName "aws_secret_access_key"]

/-- The variables collected so far and the families already found. -/
structure CredentialScan where
  envs : List EnvVar := []
  kafkaFound : Bool := false
  openSearchFound : Bool := false
  s3Found : Bool := false

namespace CredentialScan

def found (scan : CredentialScan) : CredentialFamily → Bool
  | .kafka => scan.kafkaFound
  | .openSearch => scan.openSearchFound
  | .s3 => scan.s3Found

def mark (scan : CredentialScan) : CredentialFamily → CredentialScan
  | .kafka => { scan with kafkaFound := true }
  | .openSearch => { scan with openSearchFound := true }
  | .s3 => { scan with s3Found := true }

def complete (scan : CredentialScan) : Bool :=
  scan.kafkaFound && scan.openSearchFound && scan.s3Found

/-- Use a secret for its family unless the family was found before. -/
def use (scan : CredentialScan) (family : CredentialFamily)
    (reference : Option SecretReference) : CredentialScan :=
  match reference with
  | none => scan
  | some reference =>
      if scan.found family then scan
      else { scan.mark family with envs := scan.envs ++ family.envVars reference.name }

end CredentialScan

def scanSinks : List SinkSpec → CredentialScan → CredentialScan
  | [], scan => scan
  | sink :: rest, scan =>
      let scan := scan.use .kafka (sink.kafka.bind (·.credentialsSecretRef))
      let scan := scan.use .openSearch (sink.openSearch.bind (·.credentialsSecretRef))
      let scan := scan.use .s3 (sink.s3.bind (·.credentialsSecretRef))
      if scan.complete then scan else scanSinks rest scan

def scanPipelines : List PipelineDefinition → CredentialScan → CredentialScan
  | [], scan => scan
  | pipeline :: rest, scan =>
      let scan := scan.use .kafka (pipeline.source.kafka.bind (·.credentialsSecretRef))
      let scan := scan.use .s3 (pipeline.source.s3.bind (·.credentialsSecretRef))
      let scan := scanSinks pipeline.sink scan
      if scan.complete then scan else scanPipelines rest scan

/-- `credentialEnvVars`: one secret per family, the first one found. -/
def credentialEnvVars (pipelines : List PipelineDefinition) : List EnvVar :=
  (scanPipelines pipelines {}).envs

/-- A generated object: name, namespace, labels and spec. -/
def generated (kind : Kind) (name nameSpace : String) (labels : GoMap String)
    (spec : kind.Spec) : Object kind :=
  { metadata := { name := name, nameSpace := nameSpace, labels := labels }
    spec := spec
    status := kind.emptyStatus }

def healthProbe (periodSeconds failureThreshold : Int) : Probe :=
  { port := 4900, periodSeconds := periodSeconds, failureThreshold := failureThreshold }

def containerPorts (pipelines : List PipelineDefinition) (needsPeerForwarder : Bool) :
    List ContainerPort :=
  [{ name := "health", containerPort := 4900 }] ++
    (if needsPeerForwarder then [{ name := "peer-fwd", containerPort := 4994 }] else []) ++
    (sourcePorts pipelines).map fun port =>
      { name := "source-" ++ toString port, containerPort := port }

theorem peerForwarderPort_mem_containerPorts {pipelines : List PipelineDefinition}
    {needsPeerForwarder : Bool} :
    { name := "peer-fwd", containerPort := 4994 } ∈ containerPorts pipelines needsPeerForwarder ↔
      needsPeerForwarder = true := by
  have sourceName : ∀ port : Int, "source-" ++ toString port ≠ "peer-fwd" := by
    intro port same
    have letters := congrArg String.toList same
    simp [String.toList_append] at letters
  cases needsPeerForwarder with
  | true => simp [containerPorts]
  | false =>
      simp only [containerPorts, Bool.false_eq_true, if_false, iff_false, List.mem_append,
        List.mem_singleton, List.not_mem_nil, or_false, List.mem_map]
      rintro (health | ⟨port, _, same⟩)
      · exact absurd health (by decide)
      · exact sourceName port (congrArg ContainerPort.name same)

/-- `GenerateDeployment`.  User annotations and labels are copied over the
operator's own. -/
def generateDeployment (pipeline : DataPrepperPipeline) (mergedSpec : DataPrepperPipelineSpec)
    (replicas : Int) (needsPeerForwarder : Bool) (configHash : String) : Object .deployment :=
  generated .deployment pipeline.name pipeline.metadata.nameSpace (commonLabels pipeline.name)
    { replicas := replicas
      selector := selectorLabels pipeline.name
      template :=
        { labels := GoMap.copy (selectorLabels pipeline.name) mergedSpec.podLabels
          annotations := GoMap.copy (GoMap.ofList [( configHashAnnotation, configHash)])
            mergedSpec.podAnnotations
          terminationGracePeriodSeconds := 60
          securityContext := mergedSpec.podSecurityContext
          serviceAccountName := mergedSpec.serviceAccountName
          containers :=
            [{ name := "data-prepper"
               image := mergedSpec.image
               imagePullPolicy :=
                 if mergedSpec.imagePullPolicy = "" then "IfNotPresent"
                 else mergedSpec.imagePullPolicy
               ports := containerPorts mergedSpec.pipelines needsPeerForwarder
               volumeMounts :=
                 [{ name := "pipelines-config"
                    mountPath := "/usr/share/data-prepper/pipelines/"
                    readOnly := true },
                  { name := "dp-config"
                    mountPath := "/usr/share/data-prepper/config/data-prepper-config.yaml"
                    subPath := "data-prepper-config.yaml"
                    readOnly := true }]
               env := credentialEnvVars mergedSpec.pipelines
               -- a JVM may take five minutes to start
               startupProbe := healthProbe 10 30
               readinessProbe := healthProbe 10 3
               livenessProbe := healthProbe 20 3
               resources := match mergedSpec.resources with
                 | none => {}
                 | some resources => resources.perReplica
               securityContext := mergedSpec.securityContext }]
          volumes :=
            [{ name := "pipelines-config", configMap := pipeline.name ++ "-pipelines" },
              { name := "dp-config", configMap := pipeline.name ++ "-config" }]
          nodeSelector := mergedSpec.nodeSelector
          tolerations := mergedSpec.tolerations
          affinity := mergedSpec.affinity } }

def servicePort (name : String) (port : Int) : ServicePort :=
  { name := name, port := port, targetPort := port }

/-- `GenerateService`. -/
def generateService (pipeline : DataPrepperPipeline) (spec : DataPrepperPipelineSpec) :
    Object .service :=
  generated .service pipeline.name pipeline.metadata.nameSpace (commonLabels pipeline.name)
    { type := "ClusterIP"
      selector := selectorLabels pipeline.name
      ports := servicePort "metrics" 4900 ::
        (sourcePorts spec.pipelines).map fun port =>
          servicePort ("source-" ++ toString port) port }

/-- `GenerateHeadlessService`. -/
def generateHeadlessService (pipeline : DataPrepperPipeline) : Object .service :=
  generated .service (pipeline.name ++ "-headless") pipeline.metadata.nameSpace
    (commonLabels pipeline.name)
    { type := "ClusterIP"
      clusterIP := "None"
      selector := selectorLabels pipeline.name
      ports := [servicePort "peer-fwd" 4994] }

/-- `GenerateServiceMonitor`. -/
def generateServiceMonitor (pipeline : DataPrepperPipeline) (spec : DataPrepperPipelineSpec) :
    Object .serviceMonitor :=
  let interval := match spec.serviceMonitor with
    | none => "30s"
    | some monitor => if monitor.interval = "" then "30s" else monitor.interval
  generated .serviceMonitor pipeline.name pipeline.metadata.nameSpace
    (commonLabels pipeline.name)
    { selector := selectorLabels pipeline.name
      endpoints := [{ port := "metrics", path := "/metrics/prometheus", interval := interval }] }

/-- `GenerateHPA`. -/
def generateHPA (pipeline : DataPrepperPipeline) (minReplicas maxReplicas targetCPU : Int) :
    Object .horizontalPodAutoscaler :=
  generated .horizontalPodAutoscaler pipeline.name pipeline.metadata.nameSpace
    (commonLabels pipeline.name)
    { scaleTargetRef :=
        { apiVersion := "apps/v1", kind := "Deployment", name := pipeline.name }
      minReplicas := minReplicas
      maxReplicas := maxReplicas
      metrics := [{ resource := "cpu", averageUtilization := targetCPU }] }

/-- `GeneratePDB`: at most one pod may be disrupted at a time. -/
def generatePDB (pipeline : DataPrepperPipeline) (replicas : Int) :
    Object .podDisruptionBudget :=
  generated .podDisruptionBudget pipeline.name pipeline.metadata.nameSpace
    (commonLabels pipeline.name)
    { minAvailable := max 1 (replicas - 1)
      selector := selectorLabels pipeline.name }

end DataPrepperOperator.Generator
