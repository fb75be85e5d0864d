import Mathlib.Data.List.AList

/-!
# Kubernetes objects

The part of the Kubernetes API types that the driver reads or writes. Field names are
those of `k8s_openapi`; `ns` stands for the field `namespace`, which is a keyword here.
-/

namespace Kubedal.Kube

/-- `HashMap<String, _>` and `BTreeMap<String, _>`; the order of the entries is the order
in which the map is iterated. -/
abbrev StringMap (β : Type) := AList fun _ : String => β

/-- Collects pairs into a map, a later pair replacing an earlier one. -/
def StringMap.ofList {β : Type} (pairs : List (String × β)) : StringMap β :=
  pairs.foldl (fun m p => m.insert p.1 p.2) ∅

structure Quantity where
  value : String
deriving DecidableEq

structure OwnerReference where
  apiVersion : String
  kind : String
  name : String
  uid : String
deriving DecidableEq

/-- The entries of `ownerReferences` that a field manager has set, by their uids. -/
structure ManagedFieldsEntry where
  manager : String
  ownerReferences : List String
deriving DecidableEq

structure ObjectMeta where
  name : Option String := none
  ns : Option String := none
  uid : Option String := none
  resourceVersion : Option String := none
  labels : Option (StringMap String) := none
  annotations : Option (StringMap String) := none
  ownerReferences : Option (List OwnerReference) := none
  managedFields : List ManagedFieldsEntry := []
deriving DecidableEq

/-! ## Core objects -/

structure Secret where
  metadata : ObjectMeta
  data : Option (StringMap ByteArray)

structure PersistentVolumeClaimSpec where
  accessModes : Option (List String)
  requests : Option (StringMap Quantity)
  storageClassName : Option String
deriving DecidableEq

structure PersistentVolumeClaim where
  metadata : ObjectMeta
  spec : Option PersistentVolumeClaimSpec
deriving DecidableEq

structure PersistentVolumeClaimVolumeSource where
  claimName : String
  readOnly : Option Bool
deriving DecidableEq

structure Volume where
  name : String
  persistentVolumeClaim : Option PersistentVolumeClaimVolumeSource
deriving DecidableEq

structure VolumeMount where
  name : String
  mountPath : String
deriving DecidableEq

structure EnvVar where
  name : String
  value : Option String
deriving DecidableEq

structure Container where
  name : String
  image : Option String
  imagePullPolicy : Option String
  env : Option (List EnvVar)
  volumeMounts : Option (List VolumeMount)
deriving DecidableEq

structure PodSpec where
  containers : List Container
  volumes : Option (List Volume)
deriving DecidableEq

structure Pod where
  metadata : ObjectMeta
  spec : Option PodSpec
deriving DecidableEq

/-! ## Access reviews -/

structure ResourceAttributes where
  group : Option String := none
  name : Option String := none
  ns : Option String := none
  resource : Option String := none
  verb : Option String := none
deriving DecidableEq

structure SubjectAccessReviewSpec where
  resourceAttributes : Option ResourceAttributes
  user : Option String
deriving DecidableEq

structure SubjectAccessReviewStatus where
  allowed : Bool
deriving DecidableEq

structure SubjectAccessReview where
  spec : SubjectAccessReviewSpec
  status : Option SubjectAccessReviewStatus
deriving DecidableEq

/-! ## Requests and errors -/

structure ListParams where
  labelSelector : Option String := none
deriving DecidableEq

/-- The equality based selector for a map of labels, as the controllers render it. -/
def renderSelector (labels : StringMap String) : String :=
  String.intercalate "," (labels.entries.map fun e => e.1 ++ "=" ++ e.2)

/-- Why the API server refuses a request. -/
inductive KubeError where
  | notFound
  | conflict
  | failed
deriving DecidableEq

/-- What `kube::Resource` says about a kind of object. -/
class Resource (K : Type) where
  metadata : K → ObjectMeta
  apiVersion : String
  kind : String

instance : Resource Secret := ⟨Secret.metadata, "v1", "Secret"⟩

instance : Resource PersistentVolumeClaim :=
  ⟨PersistentVolumeClaim.metadata, "v1", "PersistentVolumeClaim"⟩

instance : Resource Pod := ⟨Pod.metadata, "v1", "Pod"⟩

section
variable {K : Type} [Resource K]

/-- `ResourceExt::name_any` of an object that has no `generateName`. -/
def nameAny (k : K) : String := (Resource.metadata k).name.getD ""

/-- `ResourceExt::namespace`. -/
def namespaceOf (k : K) : Option String := (Resource.metadata k).ns

/-- `ResourceExt::uid`. -/
def uidOf (k : K) : Option String := (Resource.metadata k).uid

/-- `ResourceExt::owner_references`. -/
def ownerReferences (k : K) : List OwnerReference :=
  (Resource.metadata k).ownerReferences.getD []

/-- `Resource::owner_ref`: there is one when both the name and the uid are set. -/
def ownerRef (k : K) : Option OwnerReference := do
  let name ← (Resource.metadata k).name
  let uid ← (Resource.metadata k).uid
  return ⟨Resource.apiVersion K, Resource.kind K, name, uid⟩

/-- What `Resource::object_ref` points an event at. -/
structure ObjectReference where
  kind : String
  name : Option String
  ns : Option String
  uid : Option String
deriving DecidableEq

def objectRef (k : K) : ObjectReference :=
  ⟨Resource.kind K, (Resource.metadata k).name, namespaceOf k, uidOf k⟩

end

end Kubedal.Kube
