import Kubedal.Kube.Objects

/-!
# The custom resources

`DataNode` is a storage backend, `DataPod` a directory on one, and `DataReplicaSet` asks
for copies of a `DataPod` on other `DataNode`s.
-/

namespace Kubedal.Resource

open Kubedal.Kube

inductive MountAccess where
  | cacheReadWrite
  | cacheReadOnly
  | fuseReadWrite
  | fuseReadOnly
deriving DecidableEq

instance : ToString MountAccess where
  toString
    | .cacheReadWrite => "cache-read-write"
    | .cacheReadOnly => "cache-read-only"
    | .fuseReadWrite => "fuse-read-write"
    | .fuseReadOnly => "fuse-read-only"

/-- Storage backend scheme. -/
inductive Backend where
  /-- S3 compatible storage -/
  | s3
  /-- HTTP storage, read-only -/
  | http
deriving DecidableEq

/-- Reference to a Kubernetes resource; the namespace defaults to that of the resource. -/
structure Ref where
  name : String
  ns : Option String
deriving DecidableEq

structure DataNodeSpec where
  backend : Backend
  /-- Is the resource read-only -/
  readOnly : Bool
  secretRef : Option Ref
  config : StringMap String
deriving DecidableEq

structure DataNodeStatus where
  available : Bool
  used : Quantity
deriving DecidableEq

structure DataNode where
  metadata : ObjectMeta
  spec : DataNodeSpec
  status : Option DataNodeStatus
deriving DecidableEq

structure DataPodSpec where
  path : Option String
  dataNodeRef : Option Ref
  dataNodeSelector : Option (StringMap String)
  request : Option Quantity
deriving DecidableEq

structure DataPodStatus where
  available : Bool
  generatedPath : Bool
deriving DecidableEq

structure DataPod where
  metadata : ObjectMeta
  spec : DataPodSpec
  status : Option DataPodStatus
deriving DecidableEq

structure LabelsMetadata where
  labels : StringMap String
deriving DecidableEq

structure DataReplicaSetSpecTemplate where
  metadata : LabelsMetadata
  spec : DataPodSpec
deriving DecidableEq

structure MatchLabels where
  labels : StringMap String
deriving DecidableEq

structure DataReplicaSetSpec where
  replicas : ℕ
  selector : MatchLabels
  sourcePod : Ref
  template : DataReplicaSetSpecTemplate
deriving DecidableEq

structure DataReplicaSetStatus where
  available : Bool
deriving DecidableEq

structure DataReplicaSet where
  metadata : ObjectMeta
  spec : DataReplicaSetSpec
  status : Option DataReplicaSetStatus
deriving DecidableEq

instance : Kube.Resource DataNode :=
  ⟨DataNode.metadata, "kubedal.arunaengine.org/v1alpha1", "DataNode"⟩

instance : Kube.Resource DataPod :=
  ⟨DataPod.metadata, "kubedal.arunaengine.org/v1alpha1", "DataPod"⟩

instance : Kube.Resource DataReplicaSet :=
  ⟨DataReplicaSet.metadata, "kubedal.arunaengine.org/v1alpha1", "DataReplicaSet"⟩

end Kubedal.Resource
