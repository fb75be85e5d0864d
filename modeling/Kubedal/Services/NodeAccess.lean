import Kubedal.Services.NodeMounts
import Kubedal.Services.NodePublish

/-!
# Who may mount

Nothing is mounted before the pod's service account was allowed to get the `DataNode`, and the
secret whose data went into the operator.
-/

namespace Kubedal

open Interaction Kube Resource

/-! ## Authorisation -/

/-- A successful get returns an object with the name and the namespace that were asked for. -/
def NamedAs {K : Type} [Kube.Resource K] (ns name : String) : Except KubeError K → Prop
  | .ok k => (Resource.metadata k).name = some name ∧ (Resource.metadata k).ns = some ns
  | .error _ => True

def Call.Named : (c : Call) → c.Reply → Prop
  | .kube (.getDataNode ns name), a => NamedAs (K := DataNode) ns name a
  | .kube (.getDataPod ns name), a => NamedAs (K := DataPod) ns name a
  | .kube (.getSecret ns name), a => NamedAs (K := Secret) ns name a
  | _, _ => True

/-- The `DataNode` `name` in the namespace `ns`, as a review names it. -/
def reviewedDataNode (ns name : String) : ResourceAttributes :=
  ⟨some "kubedal.arunaengine.org", some name, some ns, some "datanodes", none⟩

/-- The secret `name` in the namespace `ns`, as a review names it. -/
def reviewedSecret (ns name : String) : ResourceAttributes :=
  ⟨none, some name, some ns, some "secrets", none⟩

/-- The mount gives access to the storage through `operator` only. -/
def MountsWith (past : List (Event signature)) (operator : Operator) : Call → Prop
  | .host (.fuseMount op _ _) => op = operator
  | .host (.bindMount _ _ _) => ∀ x ∈ reads past, x.1 = operator
  | _ => False

/-- The request was given `node`, has built `operator` from it, and was allowed to get it and
the secret that is part of the operator, each by its exact name and namespace. -/
structure Authorized (request : NodePublishVolumeRequest) (past : List (Event signature))
    (node : DataNode) (operator : Operator) : Prop where
  resolved : ∃ keys, dataMountKeys request.volumeContext = .ok keys ∧
    Saw past (.kube (.getDataNode keys.dataNodeNamespace keys.dataNodeName)) (Except.ok node) ∧
    node.metadata.name = some keys.dataNodeName ∧
    node.metadata.ns = some keys.dataNodeNamespace ∧
    Reviewed request past (reviewedDataNode keys.dataNodeNamespace keys.dataNodeName)
  built : builds past = [operator]
  backend : operator.backend = node.spec.backend
  config : node.spec.secretRef = none → operator.config = node.spec.config
  secret : ∀ ref, node.spec.secretRef = some ref → ∃ ns secret,
    secretNamespace node ref = .ok ns ∧
    Saw past (.kube (.getSecret ns ref.name)) (Except.ok secret) ∧
    withSecretData node.spec.config (some secret) = .ok operator.config ∧
    Reviewed request past (reviewedSecret ns ref.name)

lemma mountsWith_of_prepared {past : List (Event signature)} {mount : Mount} {c : Call}
    (h : MountsPrepared past mount c) (hc : c.Mounts) : MountsWith past mount.operator c := by
  rcases c with c | c | c | c | c | _ | _
  case host =>
    rcases c with _ | _ | _ | _ | _ | _ | _ | _
    case bindMount =>
      obtain ⟨_, _, _, _, entries, _, hreads⟩ := h
      intro x hx
      rw [hreads] at hx
      obtain ⟨entry, _, rfl⟩ := List.mem_map.mp hx
      rfl
    case fuseMount => exact h.2.1
    all_goals exact hc.elim
  all_goals exact hc.elim

section
variable {σ : Type} {R : σ → (c : Call) → c.Reply → σ → Prop}

/-- No mount without authorisation, whatever the API server answers. -/
theorem mount_authorized (named : ∀ s c a s', R s c a s' → c.Named a)
    {request : NodePublishVolumeRequest} {s s' : σ} {past later : List (Event signature)}
    {e : Event signature} {q : Handler Unit}
    (run : Prog.Exec (S := signature) R (nodePublishVolume request) s (past ++ e :: later) q s')
    (mounts : e.call.Mounts) :
    ∃ node operator, MountsWith past operator e.call ∧ Authorized request past node operator := by
  have allowed : PublishAllows request past e.call := by
    have := Prog.wp_event nodePublishVolume_past run fun _ _ _ _ _ _ => trivial
    rw [publishMonitor, Monitor.history_after] at this
    exact this
  obtain ⟨node, mount, prepared, hmounts⟩ := allowed.mounts mounts
  -- objects are what they were asked for by name
  have hnamed : ∀ (c : Call) (a : c.Reply), Saw past c a → c.Named a :=
    fun c a h => run.events named ⟨c, a⟩ (Saw.append h)
  refine ⟨node, mount.operator, mountsWith_of_prepared hmounts mounts, ?_, prepared.builds,
    prepared.backend, prepared.config, fun ref href => ?_⟩
  · obtain ⟨keys, pod, hkeys, hsaw, _, _⟩ := prepared.resolved
    obtain ⟨hname, hns⟩ := hnamed _ _ hsaw
    have hreviewed := prepared.reviewed
    rw [dataNodeAttributes, show node.metadata.name = _ from hname,
      show node.metadata.ns = _ from hns] at hreviewed
    exact ⟨keys, hkeys, hsaw, hname, hns, hreviewed⟩
  · -- the secret that was reviewed is the one with the name that the operator is built with
    obtain ⟨ns, reviewed, secret, hns, hfirst, hreviewed, hsecond, hconfig⟩ :=
      prepared.secret ref href
    obtain ⟨hname, hnamespace⟩ := hnamed _ _ hfirst
    rw [secretAttributes, show reviewed.metadata.name = _ from hname,
      show reviewed.metadata.ns = _ from hnamespace] at hreviewed
    exact ⟨ns, secret, hns, hsecond, hconfig, hreviewed⟩

end

/-- Published over FUSE by the pod `p`. -/
def publishFuse (volumeId target : String) : NodePublishVolumeRequest :=
  ⟨volumeId, target, none, false, sampleContext "p" "fuse-read-write"⟩

/-- A cluster whose `DataNode`s reference the secret `credentials`. -/
def serveWithSecret : NodeState → (c : Call) → Option (c.Reply × NodeState) :=
  NodeState.serve (sampleApi ⟨.s3, false, some ⟨"credentials", none⟩, ∅⟩) (sampleStorage [])

lemma serve_named {spec : DataNodeSpec} {storage : (c : OpendalCall) → c.Reply}
    {s s' : NodeState} {c : Call} {a : c.Reply}
    (h : s.serve (sampleApi spec) storage c = some (a, s')) : c.Named a := by
  rcases c with c | c | c | c | c | _ | _
  case kube =>
    rcases c with _ | _ | _ | _ | _ | _ | _ | _ | _ | _ | _ | _ | _
    case getDataNode =>
      cases h
      exact ⟨rfl, rfl⟩
    case getDataPod =>
      cases h
      exact ⟨rfl, rfl⟩
    case getSecret =>
      cases h
      exact ⟨rfl, rfl⟩
    all_goals trivial
  all_goals trivial

/-- A FUSE mount of a `DataNode` with a secret. -/
theorem mount_authorized_with_secret :
    ∃ (past : List (Event signature)) (e : Event signature) (secret : Secret),
      Saw past (.kube (.getSecret "default" "credentials")) (Except.ok secret) ∧
      e.call.Mounts ∧ ∃ node operator, MountsWith past operator e.call ∧
        Authorized (publishFuse "v" "/t") past node operator := by
  -- the nine calls before the mount, and the mount
  obtain ⟨past, operator, target, readOnly, k, s, secret, hfollow, hsaw⟩ :
      ∃ past operator target readOnly k s secret,
        (nodePublishVolume (publishFuse "v" "/t")).follow serveWithSecret 9 .init =
          some (past, .call (.host (.fuseMount operator target readOnly)) k, s) ∧
        Saw past (.kube (.getSecret "default" "credentials")) (Except.ok secret) :=
    ⟨_, _, _, _, _, _, _, rfl, .tail _ (.tail _ (.head _))⟩
  have before := Prog.exec_of_follow
    (R := fun s c a s' => serveWithSecret s c = some (a, s')) (fun _ _ _ _ h => h) hfollow
  have hmount : serveWithSecret s (.host (.fuseMount operator target readOnly)) =
      some (Except.ok ⟨s.nextId⟩, s.attach target (.fuse operator) readOnly) := rfl
  exact ⟨past, ⟨.host (.fuseMount operator target readOnly), Except.ok ⟨s.nextId⟩⟩, secret, hsaw,
    trivial, mount_authorized (fun _ _ _ _ => serve_named)
      (before.trans (.step hmount (.refl _ _))) trivial⟩

end Kubedal
