import Kubedal.Services.NodeState
import Kubedal.Services.NodeMonitor
import Kubedal.Services.NodeMounts
import Kubedal.Services.NodeTargets
import Kubedal.Services.NodePublish
import Kubedal.Services.NodeAccess
import Kubedal.Services.WriteAccess
import Kubedal.Services.NodeIsolation
import Kubedal.Services.Controller
import Kubedal.Services.VolumeStore
import Kubedal.Resource.DataNodeController
import Kubedal.Resource.DataPodController
import Kubedal.Resource.DataReplicaSetController
import Kubedal.Kube.ApiServer
import Kubedal.Cluster
import Kubedal.Resource.ReplicaObjects
import Kubedal.Resource.ReplicaRetry
import Kubedal.Resource.ReplicaBounds
import Kubedal.Resource.DataPodUpdates
import Kubedal.Resource.ReplicaCollection
import Kubedal.Services.VolumeMap
import Kubedal.Services.Provisioning
import Kubedal.Resource.ControllerPanics
import Kubedal.Services.NodeRestart
import Kubedal.Resource.References
import Kubedal.Resource.ReplicaSteady
import Kubedal.Resource.ReplicaStages
import Kubedal.Resource.ReplicaPlacement
import Kubedal.Resource.ReplicaPaths
import Kubedal.Resource.SyncPod
import Kubedal.Resource.ReplicaPass
import Kubedal.Resource.ReplicaGaps
import Kubedal.Resource.ReplicaLabels
import Kubedal.Resource.SourceNode
import Kubedal.Resource.DataPodBinding
import Kubedal.Services.NodeRetry
import Kubedal.Services.CacheFiles
import Kubedal.Services.CacheCopy
import Kubedal.Services.CacheStale
import Kubedal.Services.CacheConfinement
import Kubedal.Services.CacheDamage
import Kubedal.Services.OperatorConfig
import Kubedal.Services.CreateVolume
import Kubedal.Services.VolumeCapacity
import Kubedal.Services.PublishPanics
import Kubedal.Services.PublishedNode
import Kubedal.Resource.GeneratedPath
import Kubedal.Resource.SyncPodPaths
import Kubedal.Resource.SelectorRendering
import Kubedal.Utils.LabelSelector
import Kubedal.Utils.Schedule
import Kubedal.Utils.Lockstep
import Kubedal.Utils.Component
import Kubedal.Utils.Ledger
import Kubedal.Utils.Erasure
import Kubedal.Utils.Commit
import Kubedal.Utils.Identity
import Kubedal.Utils.Utf8
import Kubedal.Services.Progress
import Kubedal.Services.SecretFlow
import Kubedal.Services.VolumeOrigin
import Kubedal.Services.NodeHandles
import Kubedal.Services.NodeFailures
import Kubedal.Services.VolumeOrder
import Kubedal.Resource.ClaimOrigin
import Kubedal.Resource.Namespaces
import Kubedal.Resource.NodeStatus
import Kubedal.Driver
import Kubedal.Delivery
import Kubedal.VolumeNames
import Kubedal.Replication
import Kubedal.Resource.ReplicaLife
