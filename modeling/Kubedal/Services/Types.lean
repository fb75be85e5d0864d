import Kubedal.Resource.Crd

/-!
# Data of the CSI services

gRPC statuses, the CSI messages the handlers read, and the `Mount` record that the node
service keeps for every volume it has published.
-/

namespace Kubedal

open Kubedal.Kube

/-! ## Statuses and faults -/

/-- The `tonic` status codes the driver uses. -/
inductive Code where
  | unknown
  | invalidArgument
  | notFound
  | permissionDenied
  | internal
deriving DecidableEq

structure Status where
  code : Code
  message : String
deriving DecidableEq

namespace Status

def unknown (message : String) : Status := ⟨.unknown, message⟩
def invalidArgument (message : String) : Status := ⟨.invalidArgument, message⟩
def notFound (message : String) : Status := ⟨.notFound, message⟩
def permissionDenied (message : String) : Status := ⟨.permissionDenied, message⟩
def internal (message : String) : Status := ⟨.internal, message⟩

end Status

/-- An `io::Error`, as `tonic` classifies it when it becomes a status. -/
structure IoError where
  code : Code
  message : String
deriving DecidableEq

/-- `impl From<io::Error> for Status`. -/
def Status.ofIoError (e : IoError) : Status := ⟨e.code, e.message⟩

/-- How a function fails: it returns an error, or it panics. -/
inductive Fault (ε : Type) where
  | error (e : ε)
  | panic (message : String)
deriving DecidableEq

/-- `enum Error` of the reconcilers. -/
inductive Error where
  | kubeError (e : KubeError)
  | reconcilerError (message : String)
  | tonicError (status : Status)
deriving DecidableEq

/-- When the controller runtime looks at an object again. -/
inductive Action where
  | requeue (seconds : ℕ)
  | awaitChange
deriving DecidableEq

/-! ## Mounts -/

inductive MountMode where
  | cached
  | fuse
deriving DecidableEq

inductive AccessMode where
  | readOnly
  | readWrite
deriving DecidableEq

/-- An `opendal::Operator`, known by the arguments it is built from. -/
structure Operator where
  backend : Resource.Backend
  config : StringMap String
deriving DecidableEq

/-- `fuse3::raw::MountHandle`: stands for one mount. -/
structure MountHandle where
  id : ℕ
deriving DecidableEq

structure Mount where
  volumeId : String
  targetPath : String
  fuseMount : Option MountHandle
  operator : Operator
  mountMode : MountMode
  accessMode : AccessMode
deriving DecidableEq

inductive EntryMode where
  | file
  | dir
  | unknown
deriving DecidableEq

/-- An entry of an OpenDAL listing. -/
structure Entry where
  path : String
  mode : EntryMode
deriving DecidableEq

/-- What reading a byte stream yields: chunks, and then an error or the end. -/
structure ByteStream where
  chunks : List ByteArray
  failure : Option IoError

/-! ## CSI messages -/

/-- `VolumeCapability.AccessMode.Mode`. -/
inductive CapabilityMode where
  | unknown
  | singleNodeWriter
  | singleNodeReaderOnly
  | multiNodeReaderOnly
  | multiNodeSingleWriter
  | multiNodeMultiWriter
  | singleNodeSingleWriter
  | singleNodeMultiWriter
deriving DecidableEq

/-- The volume is to be read only, by the capability alone. -/
def CapabilityMode.ReaderOnly : CapabilityMode → Prop
  | .singleNodeReaderOnly => True
  | .multiNodeReaderOnly => True
  | _ => False

instance : DecidablePred CapabilityMode.ReaderOnly
  | .unknown => .isFalse id
  | .singleNodeWriter => .isFalse id
  | .singleNodeReaderOnly => .isTrue trivial
  | .multiNodeReaderOnly => .isTrue trivial
  | .multiNodeSingleWriter => .isFalse id
  | .multiNodeMultiWriter => .isFalse id
  | .singleNodeSingleWriter => .isFalse id
  | .singleNodeMultiWriter => .isFalse id

structure NodePublishVolumeRequest where
  volumeId : String
  targetPath : String
  volumeCapability : Option CapabilityMode
  readonly : Bool
  volumeContext : StringMap String
deriving DecidableEq

structure NodeUnpublishVolumeRequest where
  volumeId : String
  targetPath : String
deriving DecidableEq

structure CapacityRange where
  requiredBytes : ℤ
  limitBytes : ℤ
deriving DecidableEq

/-- `csi::Volume` without the fields this driver always leaves empty. -/
structure CsiVolume where
  volumeId : String
  capacityBytes : ℤ
  volumeContext : StringMap String
deriving DecidableEq

structure CreateVolumeRequest where
  name : String
  capacityRange : Option CapacityRange
  parameters : StringMap String
deriving DecidableEq

structure DeleteVolumeRequest where
  volumeId : String
deriving DecidableEq

end Kubedal
