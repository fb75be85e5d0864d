import Kubedal.Resource.DataNodeController

/-!
# The controller of `DataReplicaSet`s

`reconcile` counts the `DataPod`s that the selector matches. If there are fewer than asked
for, it creates a replica `DataPod` with a claim on each other `DataNode` until there are
enough or no node is left, a claim for the source `DataPod`, and a `Pod` that mounts the
claims and copies from the source to the replicas.
-/

namespace Kubedal

open Interaction Kube Resource

/-! ## The objects -/

/-- The name of a replica `DataPod`. -/
def replicaName (drsUid : String) (index : ℕ) : String := drsUid ++ "-replica-" ++ toString index

def createReplicaDataPod (index : ℕ) (dataReplicaSet : DataReplicaSet) (dataNode : DataNode)
    (ns : String) : Reconcile DataPod := do
  let drsName := nameAny dataReplicaSet
  let drsUid ← orReturn (okOr (.reconcilerError ("DataReplicaSet " ++ drsName ++ " is missing uid"))
    dataReplicaSet.metadata.uid)
  let drsNs ← orReturn (okOr
    (.reconcilerError ("DataReplicaSet " ++ drsName ++ " is missing namespace"))
    (namespaceOf dataReplicaSet))
  let drsOwner ← orReturn (okOr
    (.reconcilerError ("Failed to create owner ref from DataNode: " ++ drsName))
    (ownerRef dataReplicaSet))
  request (.createDataPod ns
    { metadata :=
        { name := some (replicaName drsUid index)
          ns := some drsNs
          ownerReferences := some [drsOwner] }
      spec :=
        { path := some ("/replica-" ++ toString index)
          dataNodeRef := some ⟨nameAny dataNode, namespaceOf dataNode⟩
          dataNodeSelector := none
          request := none }
      status := none })

/-- `str::to_lowercase`, for ASCII. -/
def toLowercase (s : String) : String := String.ofList (s.toList.map Char.toLower)

/-- Eight random alphanumeric characters in lower case. -/
def randSuffix : Reconcile String := do
  let sampled : String ← perform (.sampleAlphanumeric 8)
  return toLowercase sampled

/-- The owner reference to the `DataReplicaSet`, for claims and pods. -/
def replicaOwner (dataReplicaSet : DataReplicaSet) : Reconcile OwnerReference :=
  orReturn (okOr (.reconcilerError
    ("Failed to create owner ref from DataReplicaSet: " ++ nameAny dataReplicaSet))
    (ownerRef dataReplicaSet))

/-- The claim that mounts `dataPod`, which is on `dataNode`. -/
def replicaPvc (dataPod : DataPod) (dataNode : DataNode) (dataReplicaSet : DataReplicaSet)
    (mountAccess : MountAccess) (suffix : String) (owner : OwnerReference) :
    PersistentVolumeClaim where
  metadata :=
    { name := some ("pvc-" ++ dataReplicaSet.metadata.uid.getD (nameAny dataReplicaSet) ++ "-" ++
        suffix)
      ns := namespaceOf dataReplicaSet
      ownerReferences := some [owner]
      annotations := some (.ofList
        [("kubedal.arunaengine.org/data-node-name", nameAny dataNode),
          ("kubedal.arunaengine.org/data-node-namespace", dataNode.metadata.ns.getD ""),
          ("kubedal.arunaengine.org/data-pod-name", nameAny dataPod),
          ("kubedal.arunaengine.org/data-pod-namespace", dataPod.metadata.ns.getD ""),
          ("kubedal.arunaengine.org/mount", toString mountAccess)]) }
  spec := some
    { accessModes := some ["ReadWriteOnce"]
      requests := some (.ofList [("storage", ⟨"1Gi"⟩)])
      storageClassName := some "kubedal" }

def createReplicaPvc (dataPod : DataPod) (dataNode : DataNode) (dataReplicaSet : DataReplicaSet)
    (mountAccess : MountAccess) (ns : String) : Reconcile PersistentVolumeClaim := do
  let suffix ← randSuffix
  let owner ← replicaOwner dataReplicaSet
  request (.createPvc ns (replicaPvc dataPod dataNode dataReplicaSet mountAccess suffix owner))

/-- What the loop over the replicas collects, besides the volumes of the source. -/
structure SyncVolumes where
  volumes : List Volume
  volumeMounts : List VolumeMount
  replicaPaths : List String
deriving DecidableEq

/-- The volume of the source and where it is mounted. -/
def sourceVolumes (sourcePodPath : String) (sourcePvc : PersistentVolumeClaim) : SyncVolumes where
  volumes := [⟨"source", some ⟨nameAny sourcePvc, some false⟩⟩]
  volumeMounts := [⟨"source", sourcePodPath⟩]
  replicaPaths := []

/-- Adds the volume of the replica with number `i`. -/
def SyncVolumes.push (mounted : SyncVolumes) (i : ℕ) (replicaPath : String)
    (replicaPvc : PersistentVolumeClaim) : SyncVolumes where
  volumes :=
    mounted.volumes ++ [⟨"replica-" ++ toString i, some ⟨nameAny replicaPvc, some false⟩⟩]
  volumeMounts := mounted.volumeMounts ++ [⟨"replica-" ++ toString i, replicaPath⟩]
  replicaPaths := mounted.replicaPaths ++ [replicaPath]

/-- The loop over the replicas, from the one with number `i` on. -/
def mountReplicas (sourceDataPod : DataPod) : ℕ → List (DataPod × PersistentVolumeClaim) →
    SyncVolumes → Except Error SyncVolumes
  | _, [], mounted => .ok mounted
  | i, (replicaPod, replicaPvc) :: rest, mounted => do
    let replicaPath ← okOr
      (.reconcilerError ("Replica DataPod " ++ nameAny sourceDataPod ++ " is missing path."))
      replicaPod.spec.path
    mountReplicas sourceDataPod (i + 1) rest (mounted.push i replicaPath replicaPvc)

/-- The pod that copies from `sourcePodPath` to the replicas. -/
def syncPod (dataReplicaSet : DataReplicaSet) (suffix : String) (owner : OwnerReference)
    (sourcePodPath : String) (mounted : SyncVolumes) : Pod where
  metadata :=
    { name := some (nameAny dataReplicaSet ++ "-" ++ suffix)
      ns := namespaceOf dataReplicaSet
      ownerReferences := some [owner] }
  spec := some
    { containers :=
        [{ name := "sync-replica"
           image := some "harbor.computational.bio.uni-giessen.de/aruna/kd-replicator"
           imagePullPolicy := some "Always"
           env := some
             [⟨"source", some sourcePodPath⟩, ⟨"sleep_duration", some "1"⟩,
               ⟨"replicas", some (String.intercalate ";" mounted.replicaPaths)⟩]
           volumeMounts := some mounted.volumeMounts }]
      volumes := some mounted.volumes }

def createReplicaPod (dataReplicaSet : DataReplicaSet) (sourceDataPod : DataPod)
    (sourcePvc : PersistentVolumeClaim)
    (replicaResources : List (DataPod × PersistentVolumeClaim)) (ns : String) : Reconcile Pod := do
  let suffix ← randSuffix
  let owner ← replicaOwner dataReplicaSet
  let sourcePodPath ← orReturn (okOr
    (.reconcilerError ("Source DataPod " ++ nameAny sourceDataPod ++ " is missing path."))
    sourceDataPod.spec.path)
  let mounted ← orReturn
    (mountReplicas sourceDataPod 0 replicaResources (sourceVolumes sourcePodPath sourcePvc))
  request (.createPod ns (syncPod dataReplicaSet suffix owner sourcePodPath mounted))

/-! ## The reconciler -/

/-- The loop over the missing indices: each takes the last of the nodes that are left, until
there are none. -/
def createReplicas (dataReplicaSet : DataReplicaSet) (ns : String) :
    List ℕ → List DataNode → List (DataPod × PersistentVolumeClaim) →
      Reconcile (List (DataPod × PersistentVolumeClaim))
  | [], _, replicaResources => return replicaResources
  | index :: rest, availableDataNodes, replicaResources =>
    match availableDataNodes.getLast? with
    | some replicaDataNode => do
      let replicaDataPod ← createReplicaDataPod index dataReplicaSet replicaDataNode ns
      let replicaPvc ←
        createReplicaPvc replicaDataPod replicaDataNode dataReplicaSet .fuseReadWrite ns
      createReplicas dataReplicaSet ns rest availableDataNodes.dropLast
        (replicaResources ++ [(replicaDataPod, replicaPvc)])
    | none => return replicaResources

namespace Resource.DataReplicaSet

/-- The source `DataPod` and its `DataNode`, which is the first of its owners. -/
def fetchSource (self : DataReplicaSet) (ns : String) : Reconcile (DataPod × DataNode) := do
  let sourceDataPod : DataPod ← request (.getDataPod ns self.spec.sourcePod.name)
  let owner ← orReturn (okOr
    (.reconcilerError ("DataPod " ++ nameAny sourceDataPod ++ " is missing owner ref"))
    (ownerReferences sourceDataPod).head?)
  let sourceDataNode : DataNode ← request (.getDataNode ns owner.name)
  return (sourceDataPod, sourceDataNode)

/-- The branch of `reconcile` for a set with `count` replicas, which are too few. -/
def createMissing (self : DataReplicaSet) (ns : String) (count : ℕ) : Reconcile Unit := do
  let (sourceDataPod, sourceDataNode) ← self.fetchSource ns
  let dataNodes : List DataNode ← request (.listDataNodes ns {})
  let availableDataNodes :=
    dataNodes.filter fun node => node.metadata.uid ≠ sourceDataNode.metadata.uid
  let replicaResources ← createReplicas self ns
    (List.range' count (self.spec.replicas - count)) availableDataNodes []
  let sourcePvc ← createReplicaPvc sourceDataPod sourceDataNode self .fuseReadWrite ns
  let _ ← createReplicaPod self sourceDataPod sourcePvc replicaResources ns
  return ()

/-- The part of `reconcile` that compares the number of replicas with the one asked for. -/
def compareCount (self : DataReplicaSet) (ns : String) (count : ℕ) : Reconcile Action :=
  if count = self.spec.replicas then return .requeue (5 * 60)
  else if count < self.spec.replicas then do
    self.createMissing ns count
    return .requeue (5 * 60)
  else return .requeue (5 * 60)

/-- The part of `reconcile` for a set without a status. -/
def reconcileReplicas (self : DataReplicaSet) : Reconcile Action := do
  let drsNs ← orReturn (okOr
    (.reconcilerError ("DataReplicaSet " ++ nameAny self ++ " is missing namespace"))
    (namespaceOf self))
  let drsDataPods : List DataPod ←
    request (.listDataPods drsNs ⟨some (renderSelector self.spec.selector.labels)⟩)
  self.compareCount drsNs drsDataPods.length

def reconcile (self : DataReplicaSet) : Reconcile Action :=
  if self.status.isSome then return .requeue (30 * 60) else self.reconcileReplicas

def cleanup (self : DataReplicaSet) : Reconcile Action := deleteRequested self

end Resource.DataReplicaSet

end Kubedal
