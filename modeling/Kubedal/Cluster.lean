import Kubedal.Calls
import Kubedal.Kube.ApiServer

/-!
# The cluster

The objects that the reconcilers read and write, and how the API server answers them.

* `Cluster.Replies` are the answers the API server gives to a request that gets through;
* `Cluster.next` is the cluster after a call and its answer;
* `clusterEnv` is the environment of a reconciler, in which requests may also fail.
-/

namespace Kubedal

open Interaction Kube Resource

structure Cluster where
  dataNodes : List DataNode
  dataPods : List DataPod
  replicaSets : List DataReplicaSet
  pvcs : List PersistentVolumeClaim
  pods : List Pod
  /-- The uids that were given out. -/
  uids : List String

namespace Cluster

/-! ## The answers of the API server -/

/-- The field manager of the controllers. -/
def manager : String := "cntrlr"

/-- An apply merges maps by key. -/
def mergeMaps (patch old : Option (StringMap String)) : Option (StringMap String) :=
  match patch, old with
  | some patch, some old => some (patch ∪ old)
  | some patch, none => some patch
  | none, old => old

/-- A `DataPod` after a forced apply: what the patch has is overwritten, and owner references
and the selector are merged. The status is a subresource, which is not written this way. -/
def applied (old : DataPod) (patch : DataPodPatch) (version : String) : DataPod where
  metadata :=
    { old.metadata.applyOwners manager (patch.metadata.ownerReferences.getD []) with
      resourceVersion := some version }
  spec :=
    { path := patch.spec.path.or old.spec.path
      dataNodeRef := patch.spec.dataNodeRef.or old.spec.dataNodeRef
      dataNodeSelector := mergeMaps patch.spec.dataNodeSelector old.spec.dataNodeSelector
      request := patch.spec.request.or old.spec.request }
  status := old.status

/-- The `DataPod` that an apply creates when there is none of that name. -/
def appliedNew (ns name uid : String) (patch : DataPodPatch) (version : String) : DataPod where
  metadata :=
    { ObjectMeta.applyOwners { name := some name, ns := some ns, uid := some uid } manager
        (patch.metadata.ownerReferences.getD []) with
      resourceVersion := some version }
  spec := patch.spec
  status := none

lemma kunion_self (entries : List (Sigma fun _ : String => String)) :
    entries.kunion entries = entries := by
  induction entries with
  | nil => rfl
  | cons entry rest ih => rw [List.kunion_cons, List.kerase_cons_eq rfl, ih]

/-- A map is merged with itself. -/
lemma mergeMaps_self (map : Option (StringMap String)) : mergeMaps map map = map := by
  cases map with
  | none => rfl
  | some map => exact congrArg some (AList.ext (kunion_self map.entries))

/-- The answers to a request that gets through. -/
def Replies (selects : Selects) (s : Cluster) : (c : KubeCall) → Except KubeError c.Object → Prop
  | .getDataNode ns name, r => r = getFrom s.dataNodes ns name
  | .getDataPod ns name, r => r = getFrom s.dataPods ns name
  | .getSecret _ _, _ => True
  | .listDataNodes ns params, r => r = listFrom selects s.dataNodes ns params
  | .listDataPods ns params, r => r = listFrom selects s.dataPods ns params
  | .listPvcMetadata ns params, r =>
    r = (listFrom selects s.pvcs ns params).map (List.map PersistentVolumeClaim.metadata)
  | .createDataPod ns pod, r =>
    Creates s.dataPods s.uids ns pod.metadata (fun m => { pod with metadata := m }) r
  | .createPvc ns pvc, r =>
    Creates s.pvcs s.uids ns pvc.metadata (fun m => { pvc with metadata := m }) r
  | .createPod ns pod, r =>
    Creates s.pods s.uids ns pod.metadata (fun m => { pod with metadata := m }) r
  | .createAccessReview _, _ => True
  | .applyDataPod ns name patch, r =>
    match getFrom s.dataPods ns name with
    | .ok old => ∃ version, r = .ok (applied old patch version)
    | .error _ => ∃ uid version, uid ∉ s.uids ∧ r = .ok (appliedNew ns name uid patch version)
  | .applyDataNodeStatus ns name status, r =>
    r = (getFrom s.dataNodes ns name).map fun node => { node with status := some status }
  | .publishEvent _ _, r => r = .ok ()

/-! ## The cluster after a call -/

def addDataPod (s : Cluster) (pod : DataPod) : Cluster :=
  { s with dataPods := s.dataPods ++ [pod], uids := pod.metadata.uid.toList ++ s.uids }

def addPvc (s : Cluster) (pvc : PersistentVolumeClaim) : Cluster :=
  { s with pvcs := s.pvcs ++ [pvc], uids := pvc.metadata.uid.toList ++ s.uids }

def addPod (s : Cluster) (pod : Pod) : Cluster :=
  { s with pods := s.pods ++ [pod], uids := pod.metadata.uid.toList ++ s.uids }

/-- Puts an applied `DataPod` in the place of the one of its name, or adds it. -/
def putDataPod (s : Cluster) (ns name : String) (pod : DataPod) : Cluster :=
  if ∃ d ∈ s.dataPods, At ns name d then
    { s with dataPods := s.dataPods.map fun d => if At ns name d then pod else d }
  else s.addDataPod pod

def putDataNode (s : Cluster) (ns name : String) (node : DataNode) : Cluster :=
  { s with dataNodes := s.dataNodes.map fun d => if At ns name d then node else d }

/-- The cluster after a request that got through. -/
def nextKube (s : Cluster) : (c : KubeCall) → c.Object → Cluster
  | .createDataPod _ _, pod => s.addDataPod pod
  | .createPvc _ _, pvc => s.addPvc pvc
  | .createPod _ _, pod => s.addPod pod
  | .applyDataPod ns name _, pod => s.putDataPod ns name pod
  | .applyDataNodeStatus ns name _, node => s.putDataNode ns name node
  | _, _ => s

/-- The cluster after a call and its answer; a request that fails leaves it as it is. -/
def next (s : Cluster) : (c : Call) → c.Reply → Cluster
  | .kube c, Except.ok object => s.nextKube c object
  | _, _ => s

/-- The answers a call of a reconciler may get. With `faults`, any request may fail. -/
def Answers (selects : Selects) (faults : Prop) (s : Cluster) : (c : Call) → c.Reply → Prop
  | .kube c, r => s.Replies selects c r ∨ faults ∧ ∃ e, r = Except.error e
  | _, _ => True

/-- One of the possible answers to a request. -/
def reply (selects : Selects) (s : Cluster) : (c : KubeCall) → Except KubeError c.Object
  | .getDataNode ns name => getFrom (K := DataNode) s.dataNodes ns name
  | .getDataPod ns name => getFrom (K := DataPod) s.dataPods ns name
  | .getSecret _ _ => .error .notFound
  | .listDataNodes ns params => listFrom (K := DataNode) selects s.dataNodes ns params
  | .listDataPods ns params => listFrom (K := DataPod) selects s.dataPods ns params
  | .listPvcMetadata ns params =>
    (listFrom selects s.pvcs ns params).map (List.map PersistentVolumeClaim.metadata)
  | .createDataPod ns pod =>
    create (K := DataPod) s.dataPods s.uids ns pod.metadata fun m => { pod with metadata := m }
  | .createPvc ns pvc =>
    create (K := PersistentVolumeClaim) s.pvcs s.uids ns pvc.metadata fun m =>
      { pvc with metadata := m }
  | .createPod ns pod =>
    create (K := Pod) s.pods s.uids ns pod.metadata fun m => { pod with metadata := m }
  | .createAccessReview _ => .error .failed
  | .applyDataPod ns name patch =>
    match getFrom s.dataPods ns name with
    | .ok old => Except.ok (applied old patch "")
    | .error _ => Except.ok (appliedNew ns name (freshUid s.uids) patch "")
  | .applyDataNodeStatus ns name status =>
    (getFrom s.dataNodes ns name).map fun node => { node with status := some status }
  | .publishEvent _ _ => Except.ok ()

lemma replies_reply (selects : Selects) (s : Cluster) (c : KubeCall) :
    s.Replies selects c (s.reply selects c) := by
  rcases c with _ | _ | _ | _ | _ | _ | _ | _ | _ | _ | _ | _ | _
  case createDataPod ns pod =>
    exact creates_create s.dataPods s.uids ns pod.metadata fun m => { pod with metadata := m }
  case createPvc ns pvc =>
    exact creates_create s.pvcs s.uids ns pvc.metadata fun m => { pvc with metadata := m }
  case createPod ns pod =>
    exact creates_create s.pods s.uids ns pod.metadata fun m => { pod with metadata := m }
  case applyDataPod ns name patch =>
    simp only [Replies, reply]
    split
    · exact ⟨"", rfl⟩
    · exact ⟨_, "", freshUid_notMem _, rfl⟩
  case getSecret => trivial
  case createAccessReview => trivial
  all_goals rfl

/-- Answers every request, and draws a suffix that depends on the number of objects. -/
def serve (selects : Selects) (s : Cluster) : (c : Call) → Option (c.Reply × Cluster)
  | .kube c => some (s.reply selects c, s.next (.kube c) (s.reply selects c))
  | .sampleAlphanumeric count =>
    some (String.ofList (((freshUid s.uids).toList ++ List.replicate count 'x').take count), s)
  | _ => none

end Cluster

/-- The environment of a reconciler as a monitor whose ghost state is the cluster, and that
allows calls in the clusters of `Inv`. -/
def clusterMonitor (selects : Selects) (faults : Prop) (Inv : Cluster → Prop) :
    Monitor signature Cluster where
  allows := fun s _ => Inv s
  assumes := fun s c a => s.Answers selects faults c a
  next := Cluster.next

/-- How a call of a reconciler is answered, and what it does to the cluster. -/
def clusterEnv (selects : Selects) (faults : Prop) (s : Cluster) (c : Call) (a : c.Reply)
    (s' : Cluster) : Prop :=
  s.Answers selects faults c a ∧ s' = s.next c a

/-- What is proved with the monitor holds of runs in the environment. -/
lemma of_clusterMonitor {α : Type} {selects : Selects} {faults : Prop} {Inv : Cluster → Prop}
    {p q : Reconcile α} {s s' : Cluster} {τ : List (Event signature)}
    {Q : Cluster → Except (Fault Error) α → Prop}
    (h : p.wp (clusterMonitor selects faults Inv) s Q)
    (run : Prog.Exec (clusterEnv selects faults) p s τ q s') :
    q.wp (clusterMonitor selects faults Inv) s' Q :=
  Prog.wp_exec_self (fun _ _ _ _ h => h) h run

lemma clusterEnv_of_serve {selects : Selects} {s : Cluster} {c : Call} {a : c.Reply} {s' : Cluster}
    (h : s.serve selects c = some (a, s')) : clusterEnv selects False s c a s' := by
  rcases c with c | c | c | c | c | _ | _
  case kube =>
    cases h
    exact ⟨.inl (s.replies_reply selects c), rfl⟩
  case sampleAlphanumeric =>
    cases h
    exact ⟨trivial, rfl⟩
  all_goals cases h

/-- A request that got through was answered from the objects. -/
lemma replies_of_answers {selects : Selects} {faults : Prop} {s : Cluster} {c : KubeCall}
    {object : c.Object} (h : s.Answers selects faults (.kube c) (Except.ok object)) :
    s.Replies selects c (.ok object) := by
  rcases h with replied | ⟨_, e, he⟩
  · exact replied
  · cases he

/-- A successful apply: the API server looks the name up and makes a `DataPod` if none has it. -/
lemma applied_of_replies {selects : Selects} {s : Cluster} {ns name : String} {patch : DataPodPatch}
    {pod : DataPod} (h : s.Replies selects (.applyDataPod ns name patch) (.ok pod)) :
    (∃ old version, getFrom s.dataPods ns name = .ok old ∧
      pod = Cluster.applied old patch version) ∨
    ∃ e uid version, getFrom s.dataPods ns name = .error e ∧ uid ∉ s.uids ∧
      pod = Cluster.appliedNew ns name uid patch version := by
  simp only [Cluster.Replies] at h
  cases hget : getFrom s.dataPods ns name with
  | ok old =>
    rw [hget] at h
    obtain ⟨version, hpod⟩ := h
    exact .inl ⟨old, version, rfl, Except.ok.inj hpod⟩
  | error e =>
    rw [hget] at h
    obtain ⟨uid, version, fresh, hpod⟩ := h
    exact .inr ⟨e, uid, version, rfl, fresh, Except.ok.inj hpod⟩

/-- A successful apply creates a `DataPod`, or replaces the one of that name. -/
lemma of_applyDataPod {selects : Selects} {faults : Prop} {s : Cluster} {ns name : String}
    {patch : DataPodPatch} {pod : DataPod}
    (h : s.Answers selects faults (.kube (.applyDataPod ns name patch)) (Except.ok pod)) :
    (∃ uid, uidOf pod = some uid ∧ uid ∉ s.uids ∧
      s.putDataPod ns name pod = s.addDataPod pod) ∨
    ∃ old version, old ∈ s.dataPods ∧ At ns name old ∧ pod = Cluster.applied old patch version ∧
      s.putDataPod ns name pod =
        { s with dataPods := s.dataPods.map fun d => if At ns name d then pod else d } := by
  rcases applied_of_replies (replies_of_answers h) with
    ⟨old, version, hget, hpod⟩ | ⟨e, uid, version, hget, fresh, hpod⟩
  · obtain ⟨hmem, hat⟩ := getFrom_ok hget
    refine .inr ⟨old, version, hmem, hat, hpod, ?_⟩
    unfold Cluster.putDataPod
    rw [if_pos ⟨old, hmem, hat⟩]
  · refine .inl ⟨uid, ?_, fresh, ?_⟩
    · rw [hpod]
      rfl
    · unfold Cluster.putDataPod
      rw [if_neg]
      rintro ⟨d, hd, hat⟩
      unfold getFrom at hget
      split at hget
      · cases hget
      · rename_i hfind
        exact absurd (by simpa using hat) (List.find?_eq_none.mp hfind d hd)

/-- Requests that do not fail are answered as if they could. -/
lemma clusterEnv_of_reliable {selects : Selects} {s s' : Cluster} {c : Call} {a : c.Reply}
    (h : clusterEnv selects False s c a s') : clusterEnv selects True s c a s' := by
  obtain ⟨answered, hs'⟩ := h
  refine ⟨?_, hs'⟩
  rcases c with c | c | c | c | c | _ | _
  case kube =>
    rcases answered with replied | ⟨h, _⟩
    · exact .inl replied
    · exact h.elim
  all_goals trivial

/-- Every call can be answered. -/
lemma clusterEnv_total (selects : Selects) (faults : Prop) (s : Cluster) (c : Call) :
    ∃ a s', clusterEnv selects faults s c a s' := by
  rcases c with c | c | c | c | c | uuid | count
  case kube => exact ⟨_, _, .inl (s.replies_reply selects c), rfl⟩
  case opendal =>
    obtain ⟨a⟩ := c.exists_reply
    exact ⟨a, _, trivial, rfl⟩
  case host =>
    obtain ⟨a⟩ := c.exists_reply
    exact ⟨a, _, trivial, rfl⟩
  case mounts =>
    obtain ⟨a⟩ := Call.exists_reply (.mounts c)
    exact ⟨a, _, trivial, rfl⟩
  case volumes =>
    obtain ⟨a⟩ := Call.exists_reply (.volumes c)
    exact ⟨a, _, trivial, rfl⟩
  all_goals exact ⟨"", _, trivial, rfl⟩

/-! ## What a call leaves as it is -/

/-- The call changes no `DataPod`. -/
def Call.KeepsDataPods : Call → Prop
  | .kube (.createDataPod _ _) => False
  | .kube (.applyDataPod _ _ _) => False
  | _ => True

/-- The call changes no `Pod`. -/
def Call.KeepsPods : Call → Prop
  | .kube (.createPod _ _) => False
  | _ => True

namespace Cluster

lemma next_dataPods {c : Call} (h : c.KeepsDataPods) (s : Cluster) (a : c.Reply) :
    (s.next c a).dataPods = s.dataPods := by
  rcases c with c | c | c | c | c | _ | _
  case kube =>
    rcases a with e | object
    · rfl
    · rcases c with _ | _ | _ | _ | _ | _ | _ | _ | _ | _ | _ | _ | _
      case createDataPod => exact h.elim
      case applyDataPod => exact h.elim
      all_goals rfl
  all_goals rfl

lemma putDataPod_pods (s : Cluster) (ns name : String) (pod : DataPod) :
    (s.putDataPod ns name pod).pods = s.pods := by
  unfold putDataPod
  split <;> rfl

lemma putDataPod_pvcs (s : Cluster) (ns name : String) (pod : DataPod) :
    (s.putDataPod ns name pod).pvcs = s.pvcs := by
  unfold putDataPod
  split <;> rfl

lemma next_pods {c : Call} (h : c.KeepsPods) (s : Cluster) (a : c.Reply) :
    (s.next c a).pods = s.pods := by
  rcases c with c | c | c | c | c | _ | _
  case kube =>
    rcases a with e | object
    · rfl
    · rcases c with _ | _ | _ | _ | _ | _ | _ | _ | _ | _ | _ | _ | _
      case createPod => exact h.elim
      case applyDataPod => exact putDataPod_pods ..
      all_goals rfl
  all_goals rfl

/-- No call removes a claim. -/
lemma next_pvcs (s : Cluster) (c : Call) (a : c.Reply) : s.pvcs <+: (s.next c a).pvcs := by
  rcases c with c | c | c | c | c | _ | _
  case kube =>
    rcases a with e | object
    · exact List.prefix_rfl
    · rcases c with _ | _ | _ | _ | _ | _ | _ | _ | _ | _ | _ | _ | _
      case createPvc => exact List.prefix_append ..
      case applyDataPod ns name patch =>
        exact ⟨[], by rw [List.append_nil]; exact (putDataPod_pvcs s ns name object).symm⟩
      all_goals exact List.prefix_rfl
  all_goals exact List.prefix_rfl

end Cluster

end Kubedal
