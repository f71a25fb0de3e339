import DataPrepperOperator.Api.Types

/-!
# Kubernetes objects

One typed `Object` per kind that the operator reads or writes.  Specs hold the
fields that the generators fill in; a deployment also has the two status counts
that the pipeline phase is read from.
-/

namespace DataPrepperOperator.Api

structure ContainerPort where
  name : String
  containerPort : Int
  protocol : String := "TCP"
  deriving DecidableEq

/-- A volume that mounts a ConfigMap. -/
structure Volume where
  name : String
  configMap : String
  deriving DecidableEq

structure VolumeMount where
  name : String
  mountPath : String
  subPath : String := ""
  readOnly : Bool
  deriving DecidableEq

/-- An environment variable read from a key of a Secret. -/
structure EnvVar where
  name : String
  secretName : String
  secretKey : String
  deriving DecidableEq

/-- A TCP probe. -/
structure Probe where
  port : Int
  periodSeconds : Int
  failureThreshold : Int
  deriving DecidableEq

structure Container where
  name : String
  image : String
  imagePullPolicy : String
  ports : List ContainerPort
  volumeMounts : List VolumeMount
  env : List EnvVar
  startupProbe : Probe
  readinessProbe : Probe
  livenessProbe : Probe
  resources : ResourceRequirements
  securityContext : Option Value
  deriving DecidableEq

structure PodTemplateSpec where
  labels : GoMap String
  annotations : GoMap String
  terminationGracePeriodSeconds : Int
  securityContext : Option Value
  serviceAccountName : String
  containers : List Container
  volumes : List Volume
  nodeSelector : GoMap String
  tolerations : List Value
  affinity : Option Value
  deriving DecidableEq

/-- `replicas` is a pointer in the source; every writer sets it. -/
structure DeploymentSpec where
  replicas : Int
  selector : GoMap String
  template : PodTemplateSpec
  deriving DecidableEq

structure DeploymentStatus where
  replicas : Int := 0
  readyReplicas : Int := 0
  deriving DecidableEq

structure ServicePort where
  name : String
  port : Int
  targetPort : Int
  protocol : String := "TCP"
  deriving DecidableEq

/-- `remainder` stands for the fields of a Service spec that the operator never
touches. -/
structure ServiceSpec where
  type : String := ""
  clusterIP : String := ""
  selector : GoMap String := ∅
  ports : List ServicePort := []
  remainder : Value := .null
  deriving DecidableEq

structure CrossVersionObjectReference where
  apiVersion : String
  kind : String
  name : String
  deriving DecidableEq

/-- A resource metric with a utilization target. -/
structure MetricSpec where
  resource : String
  averageUtilization : Int
  deriving DecidableEq

structure HorizontalPodAutoscalerSpec where
  scaleTargetRef : CrossVersionObjectReference
  minReplicas : Int
  maxReplicas : Int
  metrics : List MetricSpec
  deriving DecidableEq

structure PodDisruptionBudgetSpec where
  minAvailable : Int
  selector : GoMap String
  deriving DecidableEq

structure MonitorEndpoint where
  port : String
  path : String
  interval : String
  deriving DecidableEq

structure MonitorSpec where
  selector : GoMap String
  endpoints : List MonitorEndpoint
  deriving DecidableEq

/-- An owner reference; `apiVersion` is split into group and version. -/
structure OwnerReference where
  group : String
  version : String
  kind : String
  name : String
  uid : String
  controller : Bool
  blockOwnerDeletion : Bool
  deriving DecidableEq

structure ObjectMeta where
  name : String
  nameSpace : String
  uid : String := ""
  resourceVersion : Nat := 0
  generation : Nat := 0
  labels : GoMap String := ∅
  annotations : GoMap String := ∅
  finalizers : List String := []
  ownerReferences : List OwnerReference := []
  /-- Whether `deletionTimestamp` is set. -/
  deleting : Bool := false
  deriving DecidableEq

inductive Kind where
  | configMap
  | deployment
  | service
  | horizontalPodAutoscaler
  | podDisruptionBudget
  | serviceMonitor
  | secret
  | pipeline
  | defaults
  | sourceDiscovery
  deriving DecidableEq, Repr

abbrev Bytes := List UInt8

/-- The desired state stored in an object; for ConfigMaps and Secrets its data. -/
@[reducible]
def Kind.Spec : Kind → Type
  | .configMap => GoMap String
  | .deployment => DeploymentSpec
  | .service => ServiceSpec
  | .horizontalPodAutoscaler => HorizontalPodAutoscalerSpec
  | .podDisruptionBudget => PodDisruptionBudgetSpec
  | .serviceMonitor => MonitorSpec
  | .secret => GoMap Bytes
  | .pipeline => DataPrepperPipelineSpec
  | .defaults => DataPrepperDefaultsSpec
  | .sourceDiscovery => DataPrepperSourceDiscoverySpec

/-- The status subresource, where the operator reads or writes one. -/
@[reducible]
def Kind.Status : Kind → Type
  | .deployment => DeploymentStatus
  | .pipeline => DataPrepperPipelineStatus
  | .sourceDiscovery => DataPrepperSourceDiscoveryStatus
  | _ => Unit

instance (kind : Kind) : DecidableEq kind.Spec :=
  match kind with
  | .configMap => inferInstanceAs (DecidableEq (GoMap String))
  | .deployment => inferInstanceAs (DecidableEq DeploymentSpec)
  | .service => inferInstanceAs (DecidableEq ServiceSpec)
  | .horizontalPodAutoscaler => inferInstanceAs (DecidableEq HorizontalPodAutoscalerSpec)
  | .podDisruptionBudget => inferInstanceAs (DecidableEq PodDisruptionBudgetSpec)
  | .serviceMonitor => inferInstanceAs (DecidableEq MonitorSpec)
  | .secret => inferInstanceAs (DecidableEq (GoMap Bytes))
  | .pipeline => inferInstanceAs (DecidableEq DataPrepperPipelineSpec)
  | .defaults => inferInstanceAs (DecidableEq DataPrepperDefaultsSpec)
  | .sourceDiscovery => inferInstanceAs (DecidableEq DataPrepperSourceDiscoverySpec)

instance (kind : Kind) : DecidableEq kind.Status :=
  match kind with
  | .deployment => inferInstanceAs (DecidableEq DeploymentStatus)
  | .pipeline => inferInstanceAs (DecidableEq DataPrepperPipelineStatus)
  | .sourceDiscovery => inferInstanceAs (DecidableEq DataPrepperSourceDiscoveryStatus)
  | .configMap | .service | .horizontalPodAutoscaler | .podDisruptionBudget
  | .serviceMonitor | .secret | .defaults => inferInstanceAs (DecidableEq Unit)

/-- The status of a freshly created object. -/
def Kind.emptyStatus : (kind : Kind) → kind.Status
  | .deployment => {}
  | .pipeline => {}
  | .sourceDiscovery => {}
  | .configMap | .service | .horizontalPodAutoscaler | .podDisruptionBudget
  | .serviceMonitor | .secret | .defaults => ()

/-- The zero value that an object is declared with before it is filled in. -/
def Kind.zeroSpec : (kind : Kind) → kind.Spec
  | .configMap => ∅
  | .deployment =>
      { replicas := 0
        selector := ∅
        template :=
          { labels := ∅, annotations := ∅, terminationGracePeriodSeconds := 0,
            securityContext := none, serviceAccountName := "", containers := [], volumes := [],
            nodeSelector := ∅, tolerations := [], affinity := none } }
  | .service => {}
  | .horizontalPodAutoscaler =>
      { scaleTargetRef := { apiVersion := "", kind := "", name := "" }, minReplicas := 0,
        maxReplicas := 0, metrics := [] }
  | .podDisruptionBudget => { minAvailable := 0, selector := ∅ }
  | .serviceMonitor => { selector := ∅, endpoints := [] }
  | .secret => ∅
  | .pipeline => {}
  | .defaults => {}
  | .sourceDiscovery => { pipelineTemplate := { spec := {} } }

structure Object (kind : Kind) where
  metadata : ObjectMeta
  spec : kind.Spec
  status : kind.Status
  deriving DecidableEq

namespace Object

variable {kind : Kind}

def name (object : Object kind) : String := object.metadata.name

/-- A declared object with only its name and namespace set. -/
def named (kind : Kind) (name nameSpace : String) : Object kind :=
  { metadata := { name := name, nameSpace := nameSpace }
    spec := kind.zeroSpec
    status := kind.emptyStatus }

/-- `metav1.GetControllerOf`. -/
def controllerOf (object : Object kind) : Option OwnerReference :=
  object.metadata.ownerReferences.find? fun reference => reference.controller

end Object

/-- The custom resources of the operator as they are stored. -/
abbrev DataPrepperPipeline := Object .pipeline
abbrev DataPrepperDefaults := Object .defaults
abbrev DataPrepperSourceDiscovery := Object .sourceDiscovery

end DataPrepperOperator.Api
