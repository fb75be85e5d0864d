import Kubedal.Resource.ReplicaCollection
import Kubedal.Utils.Component

/-!
# Namespaces apart

A reconciler that is handed an object of a namespace asks for objects of this namespace only, and
writes to no other. So the controllers at work on the whole cluster are, seen from one namespace,
the controllers at work on this namespace alone. Secrets are apart: a `secretRef` may name another
namespace, and what is read of a secret is left open.

* `Cluster.within` is the part of the cluster in a namespace;
* `Pass.stays`: the requests of a pass are for its own namespace, secrets apart;
* `namespace_isolated`: every run on the cluster is, for each namespace, a run on its part.
-/

namespace Kubedal

open Interaction Kube Resource

/-! ## Where a pass is at work -/

/-- The namespace of the object that the pass is over. -/
def Pass.place : Pass → Option String
  | .reconcileSet self => namespaceOf self
  | .cleanupSet self => namespaceOf self
  | .reconcilePod self => namespaceOf self
  | .cleanupPod self => namespaceOf self
  | .reconcileNode self => namespaceOf self
  | .cleanupNode self => namespaceOf self

/-- The namespace of the objects that the request is about. Secrets are not part of the cluster, in
whichever namespace a `secretRef` looks for them. -/
def KubeCall.place : KubeCall → Option String
  | .getDataNode ns _ => some ns
  | .getDataPod ns _ => some ns
  | .listDataNodes ns _ => some ns
  | .listDataPods ns _ => some ns
  | .listPvcMetadata ns _ => some ns
  | .createDataPod ns _ => some ns
  | .createPvc ns _ => some ns
  | .createPod ns _ => some ns
  | .applyDataPod ns _ _ => some ns
  | .applyDataNodeStatus ns _ _ => some ns
  | .getSecret _ _ => none
  | .createAccessReview _ => none
  | .publishEvent _ _ => none

/-- The call is at most about objects of this namespace. -/
def Call.Within (place : Option String) : Call → Prop
  | .kube c => ∀ ns, c.place = some ns → place = some ns
  | _ => True

/-- A pass stays in its namespace. -/
theorem Pass.stays (r : Pass) : r.program.Uses (Call.Within r.place) := by
  have here : ∀ {c : KubeCall} {ns : String}, c.place = some ns → r.place = some ns →
      Call.Within r.place (.kube c) := by
    intro c ns hc hr ns' hns'
    rw [hr, ← hns', hc]
  have nowhere : ∀ {c : KubeCall}, c.place = none → Call.Within r.place (.kube c) := by
    intro c hc ns hns
    rw [hc] at hns
    cases hns
  cases r with
  | reconcileSet self =>
    apply uses_reconcileSet_within
    case hp => exact fun ns hns _ _ => here rfl hns
    case hl => exact fun ns hns => here rfl hns
    case hn => exact fun ns _ hns => here rfl hns
    case hm => exact fun ns hns => here rfl hns
    case hs => trivial
    case hd => exact fun ns _ hns _ => here rfl hns
    case hc => exact fun ns _ hns _ => here rfl hns
    case hj => exact fun ns _ hns _ => here rfl hns
  | reconcilePod self =>
    apply uses_reconcilePod_within
    case hn => exact fun ns _ hns _ => here rfl hns
    case hl => exact fun ns _ hns _ => here rfl hns
    case hg => exact fun ns _ hns => here rfl hns
    case ha => exact fun ns _ _ _ hns _ => here rfl hns
    case he => exact fun _ _ => nowhere rfl
  | reconcileNode self =>
    apply uses_reconcileNode_within
    case h => exact fun _ _ _ _ => nowhere rfl
    case ho => exact fun _ => trivial
    case hs => exact fun ns _ _ hns => here rfl hns
    case he => exact fun _ _ => nowhere rfl
  | cleanupSet self => exact uses_deleteRequested self fun _ _ => nowhere rfl
  | cleanupPod self => exact uses_deleteRequested self fun _ _ => nowhere rfl
  | cleanupNode self => exact uses_deleteRequested self fun _ _ => nowhere rfl

/-! ## The objects of one kind -/

section
variable {K : Type} [Kube.Resource K] {objects : List K} {ns name : String}

/-- Those of a namespace. -/
def inside (ns : String) (objects : List K) : List K := objects.filter fun k => InNamespace ns k

lemma mem_inside {k : K} : k ∈ inside ns objects ↔ k ∈ objects ∧ InNamespace ns k := by
  simp [inside]

lemma inside_append (objects more : List K) :
    inside ns (objects ++ more) = inside ns objects ++ inside ns more := List.filter_append ..

lemma inside_singleton {k : K} (h : InNamespace ns k) : inside ns [k] = [k] :=
  List.filter_cons_of_pos (decide_eq_true h)

lemma inside_singleton_of_not {k : K} (h : ¬ InNamespace ns k) : inside ns [k] = [] :=
  List.filter_cons_of_neg (by simpa using h)

lemma getFrom_inside : getFrom (inside ns objects) ns name = getFrom objects ns name := by
  unfold getFrom inside
  rw [List.find?_filter]
  have same : (fun k : K => decide (decide (InNamespace ns k) = true ∧
      decide (At ns name k) = true)) = fun k => decide (At ns name k) := by
    funext k
    simp only [decide_eq_true_eq]
    exact decide_eq_decide.mpr ⟨fun h => h.2, fun h => ⟨h.1, h⟩⟩
  rw [same]

lemma listFrom_inside {selects : Selects} {params : ListParams} :
    listFrom selects (inside ns objects) ns params = listFrom selects objects ns params := by
  unfold listFrom inside
  cases params.labelSelector with
  | none =>
    dsimp only
    rw [List.filter_filter]
    simp
  | some text =>
    dsimp only
    cases selects text with
    | none => rfl
    | some matched =>
      dsimp only
      rw [List.filter_filter]
      refine congrArg _ (List.filter_congr fun k _ => ?_)
      by_cases h : InNamespace ns k <;> simp [h]

lemma creates_inside {uids : List String} {m : ObjectMeta} {put : ObjectMeta → K}
    {r : Except KubeError K} (h : Creates objects uids ns m put r) :
    Creates (inside ns objects) uids ns m put r := by
  rcases r with e | k
  · rcases h with h | ⟨name, hname, ⟨k, hk, hat⟩, he⟩
    · exact .inl h
    · exact .inr ⟨name, hname, ⟨k, mem_inside.mpr ⟨hk, hat.1⟩, hat⟩, he⟩
  · obtain ⟨name, uid, version, hname, free, fresh, heq⟩ := h
    exact ⟨name, uid, version, hname, fun k hk => free k (mem_inside.mp hk).1, fresh, heq⟩

/-- An object in the place of another one of its namespace. -/
lemma inside_map {new : K} (hnew : InNamespace ns new) :
    inside ns (objects.map fun k => if At ns name k then new else k) =
      (inside ns objects).map fun k => if At ns name k then new else k := by
  unfold inside
  rw [List.filter_map]
  congr 1
  refine List.filter_congr fun k _ => ?_
  show decide (InNamespace ns (if At ns name k then new else k)) = _
  split
  · rename_i hat
    exact decide_eq_decide.mpr ⟨fun _ => hat.1, fun _ => hnew⟩
  · rfl

/-- A change in another namespace. -/
lemma inside_map_of_ne {ns' : String} {new : K} (hne : ns' ≠ ns) (hnew : InNamespace ns' new) :
    inside ns (objects.map fun k => if At ns' name k then new else k) = inside ns objects := by
  have apart : ∀ k : K, InNamespace ns' k → ¬ InNamespace ns k := by
    intro k h' h
    exact hne (Option.some.inj (h'.symm.trans h))
  induction objects with
  | nil => rfl
  | cons k rest ih =>
    have hcons : ∀ (x : K) (l : List K), inside ns (x :: l) = inside ns [x] ++ inside ns l :=
      fun x l => inside_append [x] l
    rw [List.map_cons, hcons, hcons k, ih]
    split
    · rename_i hat
      rw [inside_singleton_of_not (apart _ hnew), inside_singleton_of_not (apart _ hat.1)]
    · rfl

end

/-! ## The part of the cluster in a namespace -/

namespace Cluster

/-- The objects of the namespace. All uids that were given out are kept. -/
def within (s : Cluster) (ns : String) : Cluster where
  dataNodes := inside ns s.dataNodes
  dataPods := inside ns s.dataPods
  replicaSets := inside ns s.replicaSets
  pvcs := inside ns s.pvcs
  pods := inside ns s.pods
  uids := s.uids

variable {selects : Selects} {s : Cluster} {ns : String}

/-- The namespace answers requests about its objects as the cluster does. -/
lemma Replies.within {c : KubeCall} {r : Except KubeError c.Object}
    (h : s.Replies selects c r) (hc : ∀ ns', c.place = some ns' → ns' = ns) :
    (s.within ns).Replies selects c r := by
  rcases c with _ | _ | _ | _ | _ | _ | ⟨ns', sent⟩ | ⟨ns', sent⟩ | ⟨ns', sent⟩ | _ |
    ⟨ns', name, patch⟩ | _ | _
  case getDataNode =>
    obtain rfl := hc _ rfl
    exact h.trans getFrom_inside.symm
  case getDataPod =>
    obtain rfl := hc _ rfl
    exact h.trans getFrom_inside.symm
  case listDataNodes =>
    obtain rfl := hc _ rfl
    exact h.trans listFrom_inside.symm
  case listDataPods =>
    obtain rfl := hc _ rfl
    exact h.trans listFrom_inside.symm
  case listPvcMetadata =>
    obtain rfl := hc _ rfl
    exact h.trans (congrArg _ listFrom_inside.symm)
  case createDataPod =>
    obtain rfl := hc _ rfl
    have created : Creates s.dataPods s.uids ns' sent.metadata
      (fun m => { sent with metadata := m }) r := h
    exact creates_inside created
  case createPvc =>
    obtain rfl := hc _ rfl
    have created : Creates s.pvcs s.uids ns' sent.metadata (fun m => { sent with metadata := m })
      r := h
    exact creates_inside created
  case createPod =>
    obtain rfl := hc _ rfl
    have created : Creates s.pods s.uids ns' sent.metadata (fun m => { sent with metadata := m })
      r := h
    exact creates_inside created
  case applyDataPod =>
    obtain rfl := hc _ rfl
    simp only [Replies] at h ⊢
    rw [show getFrom (s.within ns').dataPods ns' name = _ from getFrom_inside]
    exact h
  case applyDataNodeStatus =>
    obtain rfl := hc _ rfl
    exact h.trans (congrArg _ getFrom_inside.symm)
  all_goals exact h

/-- The namespace has only seen uids given out. -/
def Draws (s s' : Cluster) : Prop := ∃ uids, s.uids ⊆ uids ∧ s' = { s with uids := uids }

lemma within_addDataPod {pod : DataPod} (h : InNamespace ns pod) :
    (s.addDataPod pod).within ns = (s.within ns).addDataPod pod := by
  simp only [within, addDataPod, inside_append, inside_singleton h]

lemma within_addDataPod_of_not {pod : DataPod} (h : ¬ InNamespace ns pod) :
    (s.within ns).Draws ((s.addDataPod pod).within ns) := by
  refine ⟨_, List.subset_append_right pod.metadata.uid.toList s.uids, ?_⟩
  simp only [within, addDataPod, inside_append, inside_singleton_of_not h, List.append_nil]

lemma within_addPvc {pvc : PersistentVolumeClaim} (h : InNamespace ns pvc) :
    (s.addPvc pvc).within ns = (s.within ns).addPvc pvc := by
  simp only [within, addPvc, inside_append, inside_singleton h]

lemma within_addPvc_of_not {pvc : PersistentVolumeClaim} (h : ¬ InNamespace ns pvc) :
    (s.within ns).Draws ((s.addPvc pvc).within ns) := by
  refine ⟨_, List.subset_append_right pvc.metadata.uid.toList s.uids, ?_⟩
  simp only [within, addPvc, inside_append, inside_singleton_of_not h, List.append_nil]

lemma within_addPod {pod : Pod} (h : InNamespace ns pod) :
    (s.addPod pod).within ns = (s.within ns).addPod pod := by
  simp only [within, addPod, inside_append, inside_singleton h]

lemma within_addPod_of_not {pod : Pod} (h : ¬ InNamespace ns pod) :
    (s.within ns).Draws ((s.addPod pod).within ns) := by
  refine ⟨_, List.subset_append_right pod.metadata.uid.toList s.uids, ?_⟩
  simp only [within, addPod, inside_append, inside_singleton_of_not h, List.append_nil]

lemma within_putDataNode {name : String} {node : DataNode} (h : InNamespace ns node) :
    (s.putDataNode ns name node).within ns = (s.within ns).putDataNode ns name node := by
  simp only [within, putDataNode, inside_map h]

lemma within_putDataNode_of_ne {ns' name : String} {node : DataNode} (h : InNamespace ns' node)
    (hne : ns' ≠ ns) : (s.within ns).Draws ((s.putDataNode ns' name node).within ns) := by
  refine ⟨s.uids, List.Subset.refl _, ?_⟩
  simp only [within, putDataNode, inside_map_of_ne hne h]

lemma exists_at_within {name : String} :
    (∃ d ∈ (s.within ns).dataPods, At ns name d) ↔ ∃ d ∈ s.dataPods, At ns name d := by
  constructor
  · rintro ⟨d, hd, hat⟩
    exact ⟨d, (mem_inside.mp hd).1, hat⟩
  · rintro ⟨d, hd, hat⟩
    exact ⟨d, mem_inside.mpr ⟨hd, hat.1⟩, hat⟩

lemma within_putDataPod {name : String} {pod : DataPod} (h : InNamespace ns pod) :
    (s.putDataPod ns name pod).within ns = (s.within ns).putDataPod ns name pod := by
  unfold putDataPod
  by_cases there : ∃ d ∈ s.dataPods, At ns name d
  · rw [if_pos there, if_pos (exists_at_within.mpr there)]
    simp only [within, inside_map h]
  · rw [if_neg there, if_neg (fun h => there (exists_at_within.mp h))]
    exact within_addDataPod h

lemma within_putDataPod_of_ne {ns' name : String} {pod : DataPod} (h : InNamespace ns' pod)
    (hne : ns' ≠ ns) : (s.within ns).Draws ((s.putDataPod ns' name pod).within ns) := by
  have other : ¬ InNamespace ns pod := fun h' => hne (Option.some.inj (h.symm.trans h'))
  unfold putDataPod
  by_cases there : ∃ d ∈ s.dataPods, At ns' name d
  · rw [if_pos there]
    refine ⟨s.uids, List.Subset.refl _, ?_⟩
    simp only [within, inside_map_of_ne hne h]
  · rw [if_neg there]
    exact within_addDataPod_of_not other

/-- An applied `DataPod` is in the namespace of the request. -/
lemma inNamespace_of_applied {name : String} {patch : DataPodPatch} {pod : DataPod}
    (h : s.Replies selects (.applyDataPod ns name patch) (.ok pod)) : InNamespace ns pod := by
  rcases applied_of_replies h with ⟨old, version, hget, rfl⟩ | ⟨_, uid, version, _, _, rfl⟩
  · exact (getFrom_ok hget).2.1
  · rfl

lemma inNamespace_of_status {name : String} {status : DataNodeStatus} {node : DataNode}
    (h : s.Replies selects (.applyDataNodeStatus ns name status) (.ok node)) :
    InNamespace ns node := by
  have h' : .ok node = (getFrom s.dataNodes ns name).map fun node =>
    { node with status := some status } := h
  cases hget : getFrom s.dataNodes ns name with
  | error e =>
    rw [hget] at h'
    cases h'
  | ok old =>
    rw [hget] at h'
    cases h'
    exact (getFrom_ok hget).2.1

/-- A request about the namespace is answered by this part of the cluster. -/
lemma answers_within {c : Call} {a : c.Reply} (answered : s.Answers selects True c a)
    (hc : ∀ k, c = .kube k → ∀ ns', k.place = some ns' → ns' = ns) :
    (s.within ns).Answers selects True c a := by
  cases c with
  | kube c =>
    rcases answered with replied | failed
    · exact .inl (Replies.within replied (hc c rfl))
    · exact .inr failed
  | _ => trivial

/-- What a request about the namespace does, it does to this part of the cluster. -/
lemma next_within {c : Call} {a : c.Reply} (answered : s.Answers selects True c a)
    (hc : ∀ k, c = .kube k → ∀ ns', k.place = some ns' → ns' = ns) :
    (s.next c a).within ns = (s.within ns).next c a := by
  rcases c with c | c | c | c | c | _ | _
  case kube =>
    have hc' := hc c rfl
    rcases a with e | object
    · rfl
    rcases c with _ | _ | _ | _ | _ | _ | ⟨ns', sent⟩ | ⟨ns', sent⟩ | ⟨ns', sent⟩ | _ |
      ⟨ns', name, patch⟩ | ⟨ns', name, status⟩ | _
    case createDataPod =>
      obtain rfl := hc' _ rfl
      obtain ⟨uid, version, _, _, hmetadata⟩ := of_createDataPod answered
      exact within_addDataPod (congrArg ObjectMeta.ns hmetadata)
    case createPvc =>
      obtain rfl := hc' _ rfl
      obtain ⟨uid, version, _, _, hmetadata⟩ := of_createPvc answered
      exact within_addPvc (congrArg ObjectMeta.ns hmetadata)
    case createPod =>
      obtain rfl := hc' _ rfl
      obtain ⟨uid, version, _, _, hmetadata⟩ := of_createPod answered
      exact within_addPod (congrArg ObjectMeta.ns hmetadata)
    case applyDataPod =>
      obtain rfl := hc' _ rfl
      exact within_putDataPod (inNamespace_of_applied (replies_of_answers answered))
    case applyDataNodeStatus =>
      obtain rfl := hc' _ rfl
      exact within_putDataNode (inNamespace_of_status (replies_of_answers answered))
    all_goals rfl
  all_goals rfl

/-- A request about another namespace does nothing to this one but take a uid. -/
lemma next_within_of_other {c : Call} {a : c.Reply} (answered : s.Answers selects True c a)
    (hc : ∀ k, c = .kube k → k.place ≠ some ns) :
    (s.within ns).Draws ((s.next c a).within ns) := by
  have unchanged : (s.within ns).Draws (s.within ns) := ⟨s.uids, List.Subset.refl _, rfl⟩
  rcases c with c | c | c | c | c | _ | _
  case kube =>
    have hc' := hc c rfl
    rcases a with e | object
    · exact unchanged
    rcases c with _ | _ | _ | _ | _ | _ | ⟨ns', sent⟩ | ⟨ns', sent⟩ | ⟨ns', sent⟩ | _ |
      ⟨ns', name, patch⟩ | ⟨ns', name, status⟩ | _
    case createDataPod =>
      obtain ⟨uid, version, _, _, hmetadata⟩ := of_createDataPod answered
      have there : (object : DataPod).metadata.ns = some ns' := congrArg ObjectMeta.ns hmetadata
      exact within_addDataPod_of_not fun h => hc' (there.symm.trans h)
    case createPvc =>
      obtain ⟨uid, version, _, _, hmetadata⟩ := of_createPvc answered
      have there : (object : PersistentVolumeClaim).metadata.ns = some ns' :=
        congrArg ObjectMeta.ns hmetadata
      exact within_addPvc_of_not fun h => hc' (there.symm.trans h)
    case createPod =>
      obtain ⟨uid, version, _, _, hmetadata⟩ := of_createPod answered
      have there : (object : Pod).metadata.ns = some ns' := congrArg ObjectMeta.ns hmetadata
      exact within_addPod_of_not fun h => hc' (there.symm.trans h)
    case applyDataPod =>
      exact within_putDataPod_of_ne (inNamespace_of_applied (replies_of_answers answered))
        fun heq => hc' (congrArg some heq)
    case applyDataNodeStatus =>
      exact within_putDataNode_of_ne (inNamespace_of_status (replies_of_answers answered))
        fun heq => hc' (congrArg some heq)
    all_goals exact unchanged
  all_goals exact unchanged

/-- What the namespace makes of a change in the cluster. -/
def LocalChanges (s s' : Cluster) : Prop := s.Changes s' ∨ s.Draws s'

lemma Collectable.within {m : ObjectMeta} (h : s.Collectable m) : (s.within ns).Collectable m := by
  refine ⟨h.1, fun ref href there => h.2 ref href ?_⟩
  obtain ⟨m', hm', huid⟩ := there
  refine ⟨m', ?_, huid⟩
  simp only [metadatas, List.mem_append, List.mem_map] at hm' ⊢
  rcases hm' with (((⟨k, hk, rfl⟩ | ⟨k, hk, rfl⟩) | ⟨k, hk, rfl⟩) | ⟨k, hk, rfl⟩) | ⟨k, hk, rfl⟩
  · exact .inl (.inl (.inl (.inl ⟨k, (mem_inside.mp hk).1, rfl⟩)))
  · exact .inl (.inl (.inl (.inr ⟨k, (mem_inside.mp hk).1, rfl⟩)))
  · exact .inl (.inl (.inr ⟨k, (mem_inside.mp hk).1, rfl⟩))
  · exact .inl (.inr ⟨k, (mem_inside.mp hk).1, rfl⟩)
  · exact .inr ⟨k, (mem_inside.mp hk).1, rfl⟩

lemma Collects.within {K : Type} [Kube.Resource K] {objects objects' : List K}
    (h : s.Collects objects objects') :
    (s.within ns).Collects (inside ns objects) (inside ns objects') := by
  refine ⟨h.1.filter _, fun k hk hnot => (h.2 k (mem_inside.mp hk).1 fun hk' => hnot ?_).within⟩
  exact mem_inside.mpr ⟨hk', (mem_inside.mp hk).2⟩

lemma Changes.within {s' : Cluster} (h : s.Changes s') :
    (s.within ns).LocalChanges (s'.within ns) := by
  have drawn : ∀ uid : String, s.uids ⊆ uid :: s.uids := fun uid => List.subset_cons_self _ _
  cases h with
  | @addNode node uid named fresh =>
    by_cases here : InNamespace ns node
    · have change := Changes.addNode (s := s.within ns) named fresh
      refine .inl ?_
      simp only [Cluster.within, inside_append, inside_singleton here]
      exact change
    · refine .inr ⟨uid :: s.uids, drawn uid, ?_⟩
      simp only [Cluster.within, inside_append, inside_singleton_of_not here, List.append_nil]
  | removeNode uid =>
    refine .inl ?_
    have same : (s.withoutNode uid).within ns = (s.within ns).withoutNode uid := by
      simp only [Cluster.within, withoutNode, inside, List.filter_comm]
    rw [same]
    exact .removeNode uid
  | @addDataPod pod uid named fresh =>
    by_cases here : InNamespace ns pod
    · rw [within_addDataPod here]
      exact .inl (.addDataPod named fresh)
    · exact .inr (within_addDataPod_of_not here)
  | @addSet drs uid named fresh =>
    by_cases here : InNamespace ns drs
    · have change := Changes.addSet (s := s.within ns) named fresh
      refine .inl ?_
      simp only [Cluster.within, inside_append, inside_singleton here]
      exact change
    · refine .inr ⟨uid :: s.uids, drawn uid, ?_⟩
      simp only [Cluster.within, inside_append, inside_singleton_of_not here, List.append_nil]
  | removeSet uid =>
    refine .inl ?_
    have same : (s.withoutSet uid).within ns = (s.within ns).withoutSet uid := by
      simp only [Cluster.within, withoutSet, inside, List.filter_comm]
    rw [same]
    exact .removeSet uid
  | collect ofDataPods ofPvcs ofPods =>
    exact .inl (.collect ofDataPods.within ofPvcs.within ofPods.within)

end Cluster

/-! ## The controllers of one namespace -/

/-- A pass over an object of the namespace. -/
abbrev LocalPass (ns : String) := { r : Pass // r.place = some ns }

/-- The reconcilers when all there is, is one namespace. -/
def localReconcilers (selects : Selects) (ns : String) :
    Service signature Cluster (LocalPass ns) (Fault Error) Action where
  program := fun r => r.val.program
  admits := fun _ _ => True
  answers := clusterEnv selects True
  disturbs := Cluster.LocalChanges

/-- The passes over objects of other namespaces only use up uids. -/
def namespaceComponent (selects : Selects) (ns : String) :
    Component (clusterService selects) (localReconcilers selects ns) where
  request := Subtype.val
  error := id
  result := id
  view := fun s => s.within ns
  own := fun r => if h : r.place = some ns then some ⟨r, h⟩ else none
  own_iff := by
    rintro r ⟨r', hr'⟩
    constructor
    · intro h
      split at h
      · exact congrArg Subtype.val (Option.some.inj h)
      · cases h
    · rintro rfl
      exact dif_pos hr'
  program := fun r => (Prog.rename_id r.val.program).symm
  admits := fun _ _ _ _ => trivial
  answers := by
    rintro ⟨r, hr⟩
    refine r.stays.mono fun c within s a s' h => ?_
    obtain ⟨answered, rfl⟩ := h
    have here : ∀ k, c = .kube k → ∀ ns', k.place = some ns' → ns' = ns := by
      rintro k rfl ns' hk
      exact Option.some.inj ((within ns' hk).symm.trans hr)
    exact ⟨Cluster.answers_within answered here, Cluster.next_within answered here⟩
  others := by
    intro r hr
    have elsewhere : r.place ≠ some ns := by
      intro h
      rw [dif_pos h] at hr
      cases hr
    refine r.stays.mono fun c within s a s' h => ?_
    obtain ⟨answered, rfl⟩ := h
    refine .inr (.inr (Cluster.next_within_of_other answered ?_))
    rintro k rfl there
    exact elsewhere (within ns there)
  disturbs := fun _ _ h => .inr h.within

section
variable {selects : Selects} {s₀ : Cluster} {steps : List ClusterTransition} {P : ClusterPool}

/-- Secrets apart, a run on the cluster is, seen from a namespace, a run on this namespace, with the
same passes over its objects and the same answers to them. -/
theorem namespace_isolated (run : (clusterService selects).Run s₀ steps P) (ns : String) :
    ∃ steps' P', (localReconcilers selects ns).Run (s₀.within ns) steps' P' ∧
      (namespaceComponent selects ns).Projects P P' ∧
      requestLabels steps' = (namespaceComponent selects ns).labels steps :=
  (namespaceComponent selects ns).project run

end

/-! ## A set and a namespace next to it -/

/-- A `DataPod` that another namespace has. -/
def sampleStranger : DataPod where
  metadata := { name := some "stranger", ns := some "other", uid := some "4" }
  spec := ⟨some "/data", some ⟨"n", none⟩, none, none⟩
  status := none

/-- The set creates its replica, of which the other namespace sees nothing. -/
theorem namespace_isolated_stranger : ∃ steps P steps' P',
    (clusterService sampleSelects).Run
      (sampleCluster 1 [sampleNode "m" "3"] [sampleStranger]) steps P ∧
    P.state.dataPods.length = 3 ∧ P'.state.dataPods = [sampleStranger] ∧
    P'.finished.length = 1 ∧
    (localReconcilers sampleSelects "other").Run
      ((sampleCluster 1 [sampleNode "m" "3"] [sampleStranger]).within "other") steps' P' ∧
    (namespaceComponent sampleSelects "other").Projects P P' ∧
    requestLabels steps' = (namespaceComponent sampleSelects "other").labels steps := by
  obtain ⟨done, s, y₁, y₂, hserial, hdone, hlength, hother, hplace⟩ : ∃ done s y₁ y₂,
      (clusterService sampleSelects).serial (fun _ => Cluster.serve sampleSelects) 20
        [.reconcileSet (sampleSet 1), .reconcilePod sampleStranger]
        (sampleCluster 1 [sampleNode "m" "3"] [sampleStranger]) = some (done, s) ∧
      done = [y₁, y₂] ∧ s.dataPods.length = 3 ∧ inside "other" s.dataPods = [sampleStranger] ∧
      (y₁.request.place = some "default" ∧ y₂.request.place = some "other") :=
    ⟨_, _, _, _, rfl, rfl, rfl, rfl, rfl, rfl⟩
  obtain ⟨steps, run, _, _⟩ := Service.Run.serial
    (fun _ _ _ _ _ h => clusterEnv_of_reliable (clusterEnv_of_serve h))
    (fun _ _ _ => trivial) .start hserial
  rw [List.nil_append, List.nil_append] at run
  obtain ⟨steps', P', run', projects, hlabels⟩ := namespace_isolated run "other"
  refine ⟨_, _, steps', P', run, hlength, ?_, ?_, run', projects, hlabels⟩
  · rw [projects.state]
    exact hother
  · have count := congrArg List.length projects.finished
    rw [List.length_map, hdone] at count
    rw [← count]
    simp [Component.responses, namespaceComponent, hplace]

end Kubedal
