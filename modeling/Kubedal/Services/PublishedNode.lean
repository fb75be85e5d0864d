import Kubedal.Resource.References
import Kubedal.Services.NodeAccess

/-!
# The `DataNode` of a published `DataPod`

A volume context names a `DataNode` and a `DataPod`, each with its namespace. The `DataPod` is
fetched, but its reference to a `DataNode` is not looked at.

* `ReferencedBy` is the `DataNode` that the reference of a `DataPod` names;
* `published_node_iff` says for every successful request whether it was published from that one.
-/

namespace Kubedal

open Interaction Kube Resource

/-- `DataNode`s and `DataPod`s are read from the cluster, and all other calls may be answered in
any way. -/
def publishEnv {σ : Type} (cluster : Cluster) (_ : σ) : (c : Call) → c.Reply → σ → Prop
  | .kube (.getDataNode ns name), a, _ => a = getFrom cluster.dataNodes ns name
  | .kube (.getDataPod ns name), a, _ => a = getFrom cluster.dataPods ns name
  | _, _, _ => True

/-- The context names a `DataPod`, which has a reference to a `DataNode`. -/
structure NamesBoundPod (cluster : Cluster) (request : NodePublishVolumeRequest)
    (keys : DataMountKeys) (pod : DataPod) (ref : Ref) : Prop where
  parsed : dataMountKeys request.volumeContext = .ok keys
  fetched : getFrom cluster.dataPods keys.dataPodNamespace keys.dataPodName = .ok pod
  refers : pod.spec.dataNodeRef = some ref

/-- The `DataNode` is the one that the reference of the `DataPod` names. -/
def ReferencedBy (cluster : Cluster) (pod : DataPod) (ref : Ref) (node : DataNode) : Prop :=
  ∃ ns name, (Reconciled.dp pod).Names ref ns name ∧ getFrom cluster.dataNodes ns name = .ok node

/-- The access was checked, and the mount made, for the `DataNode` that the `DataPod` of the
context refers to. -/
structure PublishesReferenced (cluster : Cluster) (request : NodePublishVolumeRequest)
    (τ : List (Event signature)) : Prop where
  published : ∃ node mount, Published request τ node mount
  referenced : ∀ keys pod ref node mount, NamesBoundPod cluster request keys pod ref →
    Published request τ node mount → ReferencedBy cluster pod ref node

/-- The context names the `DataNode` that its `DataPod` refers to. -/
def NamesReferenced (cluster : Cluster) (request : NodePublishVolumeRequest) : Prop :=
  ∀ keys pod ref, NamesBoundPod cluster request keys pod ref →
    (Reconciled.dp pod).Names ref keys.dataNodeNamespace keys.dataNodeName

section
variable {σ : Type} {cluster : Cluster} {request : NodePublishVolumeRequest} {s s' : σ}
  {τ : List (Event signature)} {q : Handler Unit} {keys : DataMountKeys}

/-- An object is found under one name only. -/
lemma getFrom_place {K : Type} [Kube.Resource K] {objects : List K} {k : K}
    {ns name ns' name' : String} (h : getFrom objects ns name = .ok k)
    (h' : getFrom objects ns' name' = .ok k) : ns' = ns ∧ name' = name := by
  obtain ⟨_, hns, hname⟩ := getFrom_ok h
  obtain ⟨_, hns', hname'⟩ := getFrom_ok h'
  exact ⟨Option.some.inj (hns'.symm.trans hns), Option.some.inj (hname'.symm.trans hname)⟩

/-- A request is published from the `DataNode` that its context names. -/
lemma getFrom_of_published
    (run : Prog.Exec (publishEnv cluster) (nodePublishVolume request) s τ q s')
    (hkeys : dataMountKeys request.volumeContext = .ok keys) {node : DataNode} {mount : Mount}
    (published : Published request τ node mount) :
    getFrom cluster.dataNodes keys.dataNodeNamespace keys.dataNodeName = .ok node := by
  have answered : ∀ (s : σ) (c : Call) (a : c.Reply) (s' : σ), publishEnv cluster s c a s' →
      ∀ ns name, c = .kube (.getDataNode ns name) →
        HEq a (getFrom cluster.dataNodes ns name) := by
    rintro s c a s' h ns name rfl
    exact heq_of_eq h
  obtain ⟨keys', pod, hkeys', hsaw, _⟩ := published.prepared.resolved
  rw [hkeys] at hkeys'
  cases hkeys'
  have hreply := run.events answered _ hsaw _ _ rfl
  exact (eq_of_heq hreply).symm

lemma namesReferenced_of_published
    (run : Prog.Exec (publishEnv cluster) (nodePublishVolume request) s τ q s')
    (h : PublishesReferenced cluster request τ) : NamesReferenced cluster request := by
  intro keys pod ref named
  obtain ⟨node, mount, published⟩ := h.published
  obtain ⟨ns, name, names, hget⟩ := h.referenced keys pod ref node mount named published
  obtain ⟨rfl, rfl⟩ := getFrom_place (getFrom_of_published run named.parsed published) hget
  exact names

/-- A successful request was published from the `DataNode` that its `DataPod` refers to exactly
when this is the one that its context names. -/
theorem published_node_iff
    (run : Prog.Exec (publishEnv cluster) (nodePublishVolume request) s τ q s')
    (ends : q.outcome = some (.ok ())) :
    PublishesReferenced cluster request τ ↔ NamesReferenced cluster request := by
  have past := Prog.wp_outcome (Prog.wp_exec nodePublishVolume_past run
    fun _ _ _ _ _ _ => trivial) ends
  rw [publishMonitor, Monitor.history_after] at past
  have published : ∃ node mount, Published request τ node mount := past rfl
  refine ⟨namesReferenced_of_published run, fun names => ⟨published, ?_⟩⟩
  intro keys pod ref node mount named hnode
  exact ⟨_, _, names keys pod ref named, getFrom_of_published run named.parsed hnode⟩

end

/-! ## Two `DataNode`s -/

/-- The `DataNode`s `data` and `other`, and a `DataPod` `p` that refers to `name`. -/
def twoNodes (name : String) : Cluster where
  dataNodes :=
    [⟨{ name := some "data", ns := some "default" }, ⟨.s3, false, none, ∅⟩, none⟩,
      ⟨{ name := some "other", ns := some "default" }, ⟨.s3, false, none, ∅⟩, none⟩]
  dataPods := [⟨{ name := some "p", ns := some "default" },
    ⟨some "/p", some ⟨name, some "default"⟩, none, none⟩, none⟩]
  replicaSets := []
  pvcs := []
  pods := []
  uids := []

/-- The API server has the cluster, and every review allows. -/
def clusterApi (cluster : Cluster) : (c : KubeCall) → Except KubeError c.Object
  | .getDataNode ns name => getFrom (K := DataNode) cluster.dataNodes ns name
  | .getDataPod ns name => getFrom (K := DataPod) cluster.dataPods ns name
  | c => sampleApi ⟨.s3, false, none, ∅⟩ c

def serveCluster (cluster : Cluster) : NodeState → (c : Call) → Option (c.Reply × NodeState) :=
  NodeState.serve (clusterApi cluster) (sampleStorage [])

lemma publishEnv_of_serve {cluster : Cluster} (s : NodeState) (c : Call) (a : c.Reply)
    (s' : NodeState) (h : serveCluster cluster s c = some (a, s')) :
    publishEnv cluster s c a s' := by
  rcases c with c | c | c | c | c | _ | _
  case kube =>
    rcases c with _ | _ | _ | _ | _ | _ | _ | _ | _ | _ | _ | _ | _
    case getDataNode =>
      cases h
      rfl
    case getDataPod =>
      cases h
      rfl
    all_goals trivial
  all_goals trivial

/-- The volume of a `DataPod` that refers to `other` is published from `data`. -/
theorem published_other_node : ∃ τ s,
    Prog.Exec (publishEnv (twoNodes "other")) (nodePublishVolume (publishFuse "v" "/t"))
      NodeState.init τ (.pure ()) s ∧
    ¬ PublishesReferenced (twoNodes "other") (publishFuse "v" "/t") τ := by
  obtain ⟨τ, s, hfollow⟩ : ∃ τ s,
      (nodePublishVolume (publishFuse "v" "/t")).follow (serveCluster (twoNodes "other")) 40
        .init = some (τ, .pure (), s) := ⟨_, _, rfl⟩
  have run := Prog.exec_of_follow publishEnv_of_serve hfollow
  refine ⟨τ, s, run, fun referenced => ?_⟩
  have names := namesReferenced_of_published run referenced _ _ _ ⟨rfl, rfl, rfl⟩
  have hname : "other" = "data" := names.2
  exact absurd hname (by decide)

/-- The volume of a `DataPod` that refers to `data`. -/
theorem published_node_referenced : ∃ τ s,
    Prog.Exec (publishEnv (twoNodes "data")) (nodePublishVolume (publishFuse "v" "/t"))
      NodeState.init τ (.pure ()) s ∧
    PublishesReferenced (twoNodes "data") (publishFuse "v" "/t") τ := by
  obtain ⟨τ, s, hfollow⟩ : ∃ τ s,
      (nodePublishVolume (publishFuse "v" "/t")).follow (serveCluster (twoNodes "data")) 40 .init =
        some (τ, .pure (), s) := ⟨_, _, rfl⟩
  have run := Prog.exec_of_follow publishEnv_of_serve hfollow
  refine ⟨τ, s, run, (published_node_iff run rfl).mpr ?_⟩
  rintro keys pod ref ⟨hkeys, hpod, href⟩
  cases hkeys
  cases hpod
  cases href
  exact ⟨rfl, rfl⟩

end Kubedal
