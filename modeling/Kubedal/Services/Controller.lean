import Kubedal.Calls

/-!
# The controller service

`create_volume` looks the name of the volume up in the map of volumes, and if it is not there
reads the volume context off the annotations of the `PersistentVolumeClaim` with that uid,
and puts a new volume into the map. `delete_volume` removes by id, `list_volumes` lists.
-/

namespace Kubedal

open Interaction Kube Resource

/-- `str::strip_prefix`. -/
def stripPrefix (s pre : String) : Option String :=
  if pre.toList <+: s.toList then some (String.ofList (s.toList.drop pre.toList.length))
  else none

/-! ## The claim behind a volume -/

/-- The metadata of the claim that a volume name stands for. -/
def getPvc (ns uid : String) : Handler ObjectMeta := do
  let uid ← orReturn (okOr (Status.invalidArgument "PVC name not provided in request")
    (stripPrefix uid "pvc-"))
  let reply ← kube (.listPvcMetadata ns {})
  let allPvc ← orReturn (reply.mapError fun _ => Status.internal "Error listing PVCs")
  orReturn (okOr (Status.notFound "PVC not found")
    (allPvc.find? fun pvcMeta => pvcMeta.uid = some uid))

/-- The volume context that the annotations of a claim ask for. -/
def getConfigFromPvcMeta (pvcMeta : ObjectMeta) : Except Status (StringMap String) := do
  let annotations := pvcMeta.annotations.getD ∅
  let dataNodeName ← okOr (.invalidArgument "DataNode name annotation not found")
    (annotations.lookup "kubedal.arunaengine.org/data-node-name")
  let dataNodeNamespace := (annotations.lookup "kubedal.arunaengine.org/data-node-namespace").getD
    (pvcMeta.ns.getD "")
  let dataPodName ← okOr (.invalidArgument "DataPod name annotation not found")
    (annotations.lookup "kubedal.arunaengine.org/data-pod-name")
  let dataPodNamespace := (annotations.lookup "kubedal.arunaengine.org/data-pod-namespace").getD
    (pvcMeta.ns.getD "")
  let dataMount ← okOr (.invalidArgument "Mount mode annotation not found")
    (annotations.lookup "kubedal.arunaengine.org/mount")
  return .ofList
    [("kubedal.arunaengine.org/data-node-name", dataNodeName),
      ("kubedal.arunaengine.org/data-node-namespace", dataNodeNamespace),
      ("kubedal.arunaengine.org/data-pod-name", dataPodName),
      ("kubedal.arunaengine.org/data-pod-namespace", dataPodNamespace),
      ("kubedal.arunaengine.org/mount", dataMount)]

/-! ## The handlers -/

/-- The capacity of a volume whose request does not say: 5 GiB. -/
def capacityBytes (range : Option CapacityRange) : ℤ :=
  match range with
  | some range => range.requiredBytes
  | none => 5 * 1024 * 1024 * 1024

/-- The part of `create_volume` for a name that is not in the map. -/
def createNewVolume (request : CreateVolumeRequest) : Handler CsiVolume := do
  let ns ← orReturn (okOr
    (Status.invalidArgument "Resource namespace not provided in parameters")
    (request.parameters.lookup "resourceNamespace"))
  let pvcMeta ← getPvc ns request.name
  let context ← orReturn (getConfigFromPvcMeta pvcMeta)
  let uuid : String ← perform .newUuid
  let volume := ⟨"kubedal-" ++ uuid, capacityBytes request.capacityRange, context⟩
  volumes (.insert request.name volume)
  return volume

def createVolume (request : CreateVolumeRequest) : Handler CsiVolume := do
  if request.name = "" then
    throw (.error (.invalidArgument "Volume name cannot be empty"))
  let existing : Option CsiVolume ← volumes (.lookup request.name)
  match existing with
  | some existingVolume => return existingVolume
  | none => createNewVolume request

def deleteVolume (request : DeleteVolumeRequest) : Handler Unit := do
  if request.volumeId = "" then
    throw (.error (.invalidArgument "Volume ID cannot be empty"))
  volumes (.removeById request.volumeId)

def listVolumes : Handler (List CsiVolume) := volumes .values

end Kubedal
