import DataPrepperOperator.Controller.Credentials
import DataPrepperOperator.Controller.DefaultsPropagation
import DataPrepperOperator.Controller.DiscoveryCleanup
import DataPrepperOperator.Controller.FailedGeneration
import DataPrepperOperator.Controller.FailureCount
import DataPrepperOperator.Controller.KafkaScaling
import DataPrepperOperator.Controller.OrphanedDeletion
import DataPrepperOperator.Controller.PeerForwarding
import DataPrepperOperator.Controller.ProcessorParsing
import DataPrepperOperator.Controller.StagedRollout
import DataPrepperOperator.Controller.TransientErrors
import DataPrepperOperator.Controller.Watches
import DataPrepperOperator.Defaults.Fill
import DataPrepperOperator.Discovery.Encryption
import DataPrepperOperator.Discovery.Prefixes
import DataPrepperOperator.Webhook.Admission
import DataPrepperOperator.Webhook.ChildNames
import DataPrepperOperator.Webhook.DataFlow
import DataPrepperOperator.Webhook.NameLimits
import DataPrepperOperator.Webhook.PodMetadata
import DataPrepperOperator.Webhook.ScalingBounds
import DataPrepperOperator.Webhook.ServicePorts
