import Kubedal.Util.MountHelper
import Kubedal.Util.Opendal

/-!
# The node service

`node_publish_volume` resolves the volume context to a `DataNode`, checks that the pod may
read it and its secret, builds the operator, mounts, and records the mount under the volume
id. `node_unpublish_volume` takes the record out and unmounts it.
-/

namespace Kubedal

open Interaction Kube Resource

structure FullDataSource where
  source : DataNode
  pod : DataPod
  secret : Option Secret

structure PodInfo where
  name : String
  ns : String
  serviceAccount : String
  uid : String
deriving DecidableEq

/-! ## Reading the volume context -/

def getPodInfo (volumeContext : StringMap String) : Handler PodInfo := do
  let podName ← expect "Pod name not provided"
    (volumeContext.lookup "csi.storage.k8s.io/pod.name")
  let podNamespace ← expect "Pod namespace not provided"
    (volumeContext.lookup "csi.storage.k8s.io/pod.namespace")
  let podServiceAccount ← expect "Pod service account not provided"
    (volumeContext.lookup "csi.storage.k8s.io/serviceAccount.name")
  let podUid ← expect "Pod UID not provided"
    (volumeContext.lookup "csi.storage.k8s.io/pod.uid")
  return ⟨podName, podNamespace, podServiceAccount, podUid⟩

/-- The words of the mount annotation. -/
def parseMountAccess (word : String) : Except Status MountAccess :=
  match word with
  | "cache" => .ok .cacheReadOnly
  | "cache-read-only" => .ok .cacheReadOnly
  | "cache-read-write" => .ok .cacheReadWrite
  | "fuse" => .ok .fuseReadOnly
  | "fuse-read-only" => .ok .fuseReadOnly
  | "fuse-read-write" => .ok .fuseReadWrite
  | _ => .error (.invalidArgument "Unsupported mount type")

/-- The objects a volume context names, and the mount it asks for. -/
structure DataMountKeys where
  dataNodeName : String
  dataNodeNamespace : String
  dataPodName : String
  dataPodNamespace : String
  mountMode : MountAccess
deriving DecidableEq

/-- The lookups at the start of `get_full_data_mount`. -/
def dataMountKeys (volumeContext : StringMap String) : Except Status DataMountKeys := do
  let dataNodeName ← okOr (.invalidArgument "DataNode name not provided")
    (volumeContext.lookup "kubedal.arunaengine.org/data-node-name")
  let dataNodeNamespace ← okOr (.invalidArgument "DataNode namespace not provided")
    (volumeContext.lookup "kubedal.arunaengine.org/data-node-namespace")
  let dataPodName ← okOr (.invalidArgument "DataNode name not provided")
    (volumeContext.lookup "kubedal.arunaengine.org/data-pod-name")
  let dataPodNamespace ← okOr (.invalidArgument "DataNode namespace not provided")
    (volumeContext.lookup "kubedal.arunaengine.org/data-pod-namespace")
  let word ← okOr (.invalidArgument "Resource namespace not provided")
    (volumeContext.lookup "kubedal.arunaengine.org/mount")
  let mountMode ← parseMountAccess word
  return ⟨dataNodeName, dataNodeNamespace, dataPodName, dataPodNamespace, mountMode⟩

def getFullDataMount (volumeContext : StringMap String) :
    Handler (FullDataSource × MountAccess) := do
  let keys ← orReturn (dataMountKeys volumeContext)
  let nodeReply ← kube (.getDataNode keys.dataNodeNamespace keys.dataNodeName)
  let dataNode ← orReturn (nodeReply.mapError fun _ => Status.internal "Error getting DataNode")
  let podReply ← kube (.getDataPod keys.dataPodNamespace keys.dataPodName)
  let dataPod ← orReturn (podReply.mapError fun _ => Status.internal "Error getting DataPod")
  match dataNode.spec.secretRef with
  | none => return (⟨dataNode, dataPod, none⟩, keys.mountMode)
  | some secretRef =>
    let secretNs ← orReturn (okOr (Status.invalidArgument "Secret namespace not provided")
      (secretRef.ns.or dataNode.metadata.ns))
    let secretReply ← kube (.getSecret secretNs secretRef.name)
    let secret ← orReturn (secretReply.mapError fun _ => Status.notFound "Secret not found")
    return (⟨dataNode, dataPod, some secret⟩, keys.mountMode)

/-! ## Access control -/

/-- The user that a pod's service account is. -/
def serviceAccountUser (podInfo : PodInfo) : String :=
  "system:serviceaccount:" ++ podInfo.ns ++ ":" ++ podInfo.serviceAccount

/-- May `user` get this object? -/
def accessReview (user : String) (attributes : ResourceAttributes) : SubjectAccessReview :=
  ⟨⟨some { attributes with verb := some "get" }, some user⟩, none⟩

/-- A character as `{:?}` prints it in a string; those beyond ASCII are printed as they are. -/
def debugChar (c : Char) : String :=
  match c.toNat with
  | 0x00 => "\\0"
  | 0x09 => "\\t"
  | 0x0A => "\\n"
  | 0x0D => "\\r"
  | 0x22 => "\\\""
  | 0x5C => "\\\\"
  | n =>
    if n < 0x20 ∨ n = 0x7F then
      "\\u\x7b" ++ String.ofList (Nat.toDigits 16 n) ++ "\x7d"
    else c.toString

/-- `format!("{:?}", text)`. -/
def debugText (text : String) : String :=
  "\"" ++ String.join (text.toList.map debugChar) ++ "\""

/-- Asks one review and fails unless it is answered with a status that allows. -/
def requireAccess (podInfo : PodInfo) (attributes : ResourceAttributes) (object : String)
    (metadata : ObjectMeta) : Handler Unit := do
  let reply ← kube (.createAccessReview (accessReview (serviceAccountUser podInfo) attributes))
  let response ← orReturn (reply.mapError fun _ => Status.internal "SubjectAccessReview failed")
  match response.status with
  | some status =>
    if status.allowed then return ()
    else throw (.error (.permissionDenied
      (serviceAccountUser podInfo ++ ", has unsufficient permission to GET " ++ object ++ " " ++
        debugText (metadata.name.getD "") ++ " in namespace " ++
        debugText (metadata.ns.getD ""))))
  | none =>
    throw (.error (.permissionDenied "SubjectAccessReview did not return status"))

/-- What is asked about a `DataNode`. -/
def dataNodeAttributes (metadata : ObjectMeta) : ResourceAttributes :=
  { group := some "kubedal.arunaengine.org", name := metadata.name, ns := metadata.ns,
    resource := some "datanodes" }

/-- What is asked about a secret. -/
def secretAttributes (metadata : ObjectMeta) : ResourceAttributes :=
  { name := metadata.name, ns := metadata.ns, resource := some "secrets" }

def checkAccess (fullDataSource : FullDataSource) (podInfo : PodInfo) : Handler Unit := do
  let node := fullDataSource.source.metadata
  requireAccess podInfo (dataNodeAttributes node) "datanode.kubedal.arunaengine.org" node
  match fullDataSource.secret with
  | some secret =>
    requireAccess podInfo (secretAttributes secret.metadata) "secret.kubernetes.io/secret"
      secret.metadata
  | none => return ()

/-! ## Publishing -/

/-- The mount mode and the access mode that a mount access stands for. -/
def modes : MountAccess → MountMode × AccessMode
  | .cacheReadWrite => (.cached, .readWrite)
  | .cacheReadOnly => (.cached, .readOnly)
  | .fuseReadWrite => (.fuse, .readWrite)
  | .fuseReadOnly => (.fuse, .readOnly)

def FullDataSource.intoParts (self : FullDataSource) (mountMode : MountAccess) :
    Handler (Operator × MountMode × AccessMode) := do
  let operator ← getOperator self.source
  return (operator, modes mountMode)

/-- The checks both handlers start with. -/
def checkPath (volumeId targetPath : String) : Except Status Unit :=
  if volumeId = "" then .error (.invalidArgument "Volume ID cannot be empty")
  else if targetPath = "" then .error (.invalidArgument "Target path cannot be empty")
  else .ok ()

/-- The part of `node_publish_volume` before the mount is known. -/
def prepareMount (request : NodePublishVolumeRequest) : Handler Mount := do
  let (fullDataSource, mountAccess) ← getFullDataMount request.volumeContext
  let podInfo ← getPodInfo request.volumeContext
  checkAccess fullDataSource podInfo
  let (operator, mountMode, accessMode) ← fullDataSource.intoParts mountAccess
  return .new request.volumeId request.targetPath operator mountMode accessMode

def nodePublishVolume (request : NodePublishVolumeRequest) : Handler Unit := do
  orReturn (checkPath request.volumeId request.targetPath)
  let mount ← prepareMount request
  let mount ← mount.mount
  mounts (.insert request.volumeId mount)

/-- The body of the `if let` of `node_unpublish_volume`. -/
def unmountRemoved : Option Mount → Handler Unit
  | some mount => mount.unmount
  | none => return ()

def nodeUnpublishVolume (request : NodeUnpublishVolumeRequest) : Handler Unit := do
  orReturn (checkPath request.volumeId request.targetPath)
  let removed ← mounts (.remove request.volumeId)
  -- the guard of the mutex is dropped on every way out
  let result ← (unmountRemoved removed).attempt
  mounts .unlock
  Prog.ofExcept result

end Kubedal
