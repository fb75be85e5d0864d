import Kubedal.Cluster
import Kubedal.Kube.Ownership
import Kubedal.Resource.DataReplicaSetController

/-!
# What the controller of `DataReplicaSet`s creates

For each function of the controller, what it adds to the cluster when it returns, and that it
adds nothing when it fails; for `reconcile`, by which pods a successful pass can be told.
-/

namespace Kubedal

open Interaction Kube Resource

/-- The object has an owner reference to the set. -/
def OwnedBy (drs : DataReplicaSet) (m : ObjectMeta) : Prop :=
  ∃ ref ∈ m.ownerReferences.getD [], drs.metadata.uid = some ref.uid

instance (drs : DataReplicaSet) : DecidablePred (OwnedBy drs) :=
  fun m => inferInstanceAs
    (Decidable (∃ ref ∈ m.ownerReferences.getD [], drs.metadata.uid = some ref.uid))

namespace Cluster

def ownedDataPods (s : Cluster) (drs : DataReplicaSet) : List DataPod :=
  s.dataPods.filter fun pod => OwnedBy drs pod.metadata

def ownedPvcs (s : Cluster) (drs : DataReplicaSet) : List PersistentVolumeClaim :=
  s.pvcs.filter fun pvc => OwnedBy drs pvc.metadata

def ownedPods (s : Cluster) (drs : DataReplicaSet) : List Pod :=
  s.pods.filter fun pod => OwnedBy drs pod.metadata

end Cluster

/-- The annotation of a claim that says which `DataPod` it mounts. -/
def podAnnotation (m : ObjectMeta) : Option String :=
  (m.annotations.getD ∅).lookup "kubedal.arunaengine.org/data-pod-name"

/-- A replica `DataPod` that was created in `s`. -/
structure NewReplica (drs : DataReplicaSet) (index : ℕ) (ns : String) (s : Cluster)
    (pod : DataPod) : Prop where
  named : ∃ uid, drs.metadata.uid = some uid ∧ At ns (replicaName uid index) pod
  owned : OwnedBy drs pod.metadata
  new : ∀ d ∈ s.dataPods, InNamespace ns d → d.metadata.name ≠ pod.metadata.name
  path : pod.spec.path = some ("/replica-" ++ toString index)

/-- A claim that was created for `dataPod`. -/
structure NewClaim (drs : DataReplicaSet) (dataPod : DataPod) (pvc : PersistentVolumeClaim) :
    Prop where
  owned : OwnedBy drs pvc.metadata
  forPod : podAnnotation pvc.metadata = some (nameAny dataPod)

lemma toString_injective {m n : ℕ} (h : toString m = toString n) : m = n := by
  have hdigits : Nat.toDigits 10 m = Nat.toDigits 10 n := by
    have hlist := congrArg String.toList h
    rw [Nat.toString_eq_repr, Nat.toString_eq_repr, Nat.toList_repr, Nat.toList_repr] at hlist
    exact hlist
  have hvalue := congrArg (fun digits => Nat.ofDigitChars 10 digits 0) hdigits
  simp only [Nat.ofDigitChars_toDigits (by decide : 1 < 10) (Nat.le_refl 10)] at hvalue
  exact hvalue

lemma ownerRef_uid {drs : DataReplicaSet} {owner : OwnerReference}
    (h : ownerRef drs = some owner) : drs.metadata.uid = some owner.uid := by
  simp only [ownerRef, Option.bind_eq_bind, Option.pure_def, Option.bind_eq_some_iff] at h
  obtain ⟨name, _, uid, huid, heq⟩ := h
  cases heq
  exact huid

lemma ownedBy_of_ownerRef {drs : DataReplicaSet} {owner : OwnerReference} {m : ObjectMeta}
    (h : ownerRef drs = some owner) (hm : m.ownerReferences = some [owner]) : OwnedBy drs m := by
  refine ⟨owner, ?_, ownerRef_uid h⟩
  rw [hm]
  exact List.mem_singleton_self _

/-! ## The calls of the functions -/

/-- The set is the only owner. -/
def OwnedOnlyBy (drs : DataReplicaSet) (m : ObjectMeta) : Prop :=
  ∃ uid, drs.metadata.uid = some uid ∧ SoleOwner uid m

lemma ownedOnlyBy_of_ownerRef {drs : DataReplicaSet} {owner : OwnerReference} {m : ObjectMeta}
    (h : ownerRef drs = some owner) (hm : m.ownerReferences = some [owner]) :
    OwnedOnlyBy drs m := ⟨owner.uid, ownerRef_uid h, owner, hm, rfl⟩

/-- A `DataPod` as the controller sends it: no labels are set. -/
structure SentReplica (drs : DataReplicaSet) (pod : DataPod) : Prop where
  owned : OwnedOnlyBy drs pod.metadata
  unlabelled : pod.metadata.labels = none

section
variable {C : Call → Prop} {drs : DataReplicaSet} {ns : String}

lemma uses_randSuffix (h : C (.sampleAlphanumeric 8)) : randSuffix.Uses C :=
  (uses_perform h).bind fun _ => trivial

lemma uses_createReplicaDataPod {index : ℕ} {node : DataNode}
    (h : ∀ pod, SentReplica drs pod → C (.kube (.createDataPod ns pod))) :
    (createReplicaDataPod index drs node ns).Uses C := by
  apply uses_orReturn_bind
  intro uid _
  apply uses_orReturn_bind
  intro drsNs _
  apply uses_orReturn_bind
  intro owner howner
  exact uses_request _ (h _ ⟨ownedOnlyBy_of_ownerRef (eq_some_of_okOr howner) rfl, rfl⟩)

lemma uses_createReplicaPvc {pod : DataPod} {node : DataNode} {access : MountAccess}
    (hs : C (.sampleAlphanumeric 8))
    (h : ∀ pvc, OwnedOnlyBy drs pvc.metadata → C (.kube (.createPvc ns pvc))) :
    (createReplicaPvc pod node drs access ns).Uses C := by
  apply (uses_randSuffix hs).bind
  intro suffix
  apply uses_orReturn_bind
  intro owner howner
  exact uses_request _ (h _ (ownedOnlyBy_of_ownerRef (eq_some_of_okOr howner) rfl))

lemma uses_createReplicaPod {source : DataPod} {sourcePvc : PersistentVolumeClaim}
    {replicas : List (DataPod × PersistentVolumeClaim)} (hs : C (.sampleAlphanumeric 8))
    (h : ∀ pod, OwnedOnlyBy drs pod.metadata → C (.kube (.createPod ns pod))) :
    (createReplicaPod drs source sourcePvc replicas ns).Uses C := by
  apply (uses_randSuffix hs).bind
  intro suffix
  apply uses_orReturn_bind
  intro owner howner
  apply uses_orReturn_bind
  intro path _
  apply uses_orReturn_bind
  intro mounted _
  exact uses_request _ (h _ (ownedOnlyBy_of_ownerRef (eq_some_of_okOr howner) rfl))

lemma uses_fetchSource (hp : C (.kube (.getDataPod ns drs.spec.sourcePod.name)))
    (hn : ∀ name, C (.kube (.getDataNode ns name))) : (drs.fetchSource ns).Uses C := by
  apply (uses_request _ hp).bind
  intro source
  apply (uses_orReturn _).bind
  intro owner
  exact (uses_request _ (hn _)).bind fun node => trivial

lemma uses_createReplicas (hs : C (.sampleAlphanumeric 8))
    (hd : ∀ pod, SentReplica drs pod → C (.kube (.createDataPod ns pod)))
    (hc : ∀ pvc, OwnedOnlyBy drs pvc.metadata → C (.kube (.createPvc ns pvc)))
    (indices : List ℕ) (nodes : List DataNode) (acc : List (DataPod × PersistentVolumeClaim)) :
    (createReplicas drs ns indices nodes acc).Uses C := by
  induction indices generalizing nodes acc with
  | nil => trivial
  | cons index rest ih =>
    unfold createReplicas
    split
    · apply (uses_createReplicaDataPod hd).bind
      intro pod
      apply (uses_createReplicaPvc hs hc).bind
      intro pvc
      exact ih _ _
    · trivial

/-- A pass stays in the namespace of the set, and what it creates is owned by the set. -/
lemma uses_reconcileSet_within (hp : ∀ ns, namespaceOf drs = some ns → drs.status = none →
      drs.spec.replicas ≠ 0 → C (.kube (.getDataPod ns drs.spec.sourcePod.name)))
    (hl : ∀ ns, namespaceOf drs = some ns →
      C (.kube (.listDataPods ns ⟨some (renderSelector drs.spec.selector.labels)⟩)))
    (hn : ∀ ns name, namespaceOf drs = some ns → C (.kube (.getDataNode ns name)))
    (hm : ∀ ns, namespaceOf drs = some ns → C (.kube (.listDataNodes ns {})))
    (hs : C (.sampleAlphanumeric 8))
    (hd : ∀ ns pod, namespaceOf drs = some ns → SentReplica drs pod →
      C (.kube (.createDataPod ns pod)))
    (hc : ∀ ns pvc, namespaceOf drs = some ns → OwnedOnlyBy drs pvc.metadata →
      C (.kube (.createPvc ns pvc)))
    (hj : ∀ ns pod, namespaceOf drs = some ns → OwnedOnlyBy drs pod.metadata →
      C (.kube (.createPod ns pod))) :
    drs.reconcile.Uses C := by
  unfold DataReplicaSet.reconcile
  split
  · trivial
  rename_i hstatus
  apply uses_orReturn_bind
  intro ns hns
  have here : namespaceOf drs = some ns := eq_some_of_okOr hns
  apply (uses_request _ (hl _ here)).bind
  intro dataPods
  unfold DataReplicaSet.compareCount
  split
  · trivial
  split
  · rename_i hlt
    have hnone : drs.status = none := by simpa using hstatus
    have source : C (.kube (.getDataPod ns drs.spec.sourcePod.name)) := hp ns here hnone (by omega)
    refine Prog.Uses.bind ?_ fun _ => trivial
    refine (uses_fetchSource source fun name => hn ns name here).bind fun source => ?_
    apply (uses_request _ (hm _ here)).bind
    intro nodes
    have claims : ∀ pvc, OwnedOnlyBy drs pvc.metadata → C (.kube (.createPvc ns pvc)) :=
      fun pvc => hc ns pvc here
    apply (uses_createReplicas hs (fun pod => hd ns pod here) claims _ _ _).bind
    intro replicas
    refine (uses_createReplicaPvc hs claims).bind fun pvc => ?_
    exact (uses_createReplicaPod hs fun pod => hj ns pod here).bind fun _ => trivial
  · trivial

/-- A pass looks for the source in the namespace of the set, if it has to create replicas, and
what it creates is owned by the set. -/
lemma uses_reconcileSet (hp : ∀ ns, namespaceOf drs = some ns → drs.status = none →
      drs.spec.replicas ≠ 0 → C (.kube (.getDataPod ns drs.spec.sourcePod.name)))
    (hl : ∀ ns, C (.kube (.listDataPods ns ⟨some (renderSelector drs.spec.selector.labels)⟩)))
    (hn : ∀ ns name, C (.kube (.getDataNode ns name)))
    (hm : ∀ ns, C (.kube (.listDataNodes ns {})))
    (hs : C (.sampleAlphanumeric 8))
    (hd : ∀ ns pod, namespaceOf drs = some ns → SentReplica drs pod →
      C (.kube (.createDataPod ns pod)))
    (hc : ∀ ns pvc, OwnedOnlyBy drs pvc.metadata → C (.kube (.createPvc ns pvc)))
    (hj : ∀ ns pod, OwnedOnlyBy drs pod.metadata → C (.kube (.createPod ns pod))) :
    drs.reconcile.Uses C :=
  uses_reconcileSet_within hp (fun ns _ => hl ns) (fun ns name _ => hn ns name) (fun ns _ => hm ns)
    hs hd (fun ns pvc _ => hc ns pvc) fun ns pod _ => hj ns pod

end

/-! ## The functions one by one -/

section
variable {selects : Selects} {faults : Prop} {Inv : Cluster → Prop} {s : Cluster}
  {drs : DataReplicaSet} {ns : String}

lemma randSuffix_meets {Q : Cluster → Except (Fault Error) String → Prop} (inv : Inv s)
    (h : ∀ suffix, Q s (.ok suffix)) : randSuffix.wp (clusterMonitor selects faults Inv) s Q :=
  Prog.wp_bind (wp_perform inv fun _ _ => h _)

lemma replicaOwner_meets {Q : Cluster → Except (Fault Error) OwnerReference → Prop}
    (ok : ∀ owner, ownerRef drs = some owner → Q s (.ok owner))
    (error : ∀ e, Q s (.error e)) :
    (replicaOwner drs).wp (clusterMonitor selects faults Inv) s Q :=
  wp_orReturn (fun _ h => ok _ (eq_some_of_okOr h)) fun _ _ => error _

/-- A request that is refused or fails changes nothing. -/
lemma wp_cluster_request {c : KubeCall} {Q : Cluster → Except (Fault Error) c.Object → Prop}
    (inv : Inv s) (ok : ∀ object, s.Replies selects c (.ok object) →
      Q (s.nextKube c object) (.ok object))
    (error : ∀ e, Q s (.error e)) :
    (request c).wp (clusterMonitor selects faults Inv) s Q := by
  refine wp_request inv (fun object assumed => ?_) fun e _ => error _
  rcases assumed with replied | ⟨_, e, he⟩
  · exact ok object replied
  · cases he

lemma createReplicaDataPod_meets {index : ℕ} {dataNode : DataNode}
    {Q : Cluster → Except (Fault Error) DataPod → Prop} (inv : Inv s)
    (ok : ∀ pod, NewReplica drs index ns s pod → Q (s.addDataPod pod) (.ok pod))
    (error : ∀ e, Q s (.error e)) :
    (createReplicaDataPod index drs dataNode ns).wp (clusterMonitor selects faults Inv) s Q := by
  unfold createReplicaDataPod
  refine Prog.wp_bind (wp_orReturn (fun uid huid => ?_) fun _ _ => error _)
  refine Prog.wp_bind (wp_orReturn (fun drsNs _ => ?_) fun _ _ => error _)
  refine Prog.wp_bind (wp_orReturn (fun owner howner => ?_) fun _ _ => error _)
  refine wp_cluster_request inv (fun pod created => ok pod ?_) error
  obtain ⟨name, podUid, version, hname, free, _, rfl⟩ := created
  cases hname
  refine ⟨⟨uid, eq_some_of_okOr huid, rfl, rfl⟩, ownedBy_of_ownerRef (eq_some_of_okOr howner) rfl,
    fun d hd hns heq => free d hd ⟨hns, heq⟩, rfl⟩

lemma createReplicaPvc_meets {dataPod : DataPod} {dataNode : DataNode} {access : MountAccess}
    {Q : Cluster → Except (Fault Error) PersistentVolumeClaim → Prop} (inv : Inv s)
    (ok : ∀ pvc, NewClaim drs dataPod pvc → Q (s.addPvc pvc) (.ok pvc))
    (error : ∀ e, Q s (.error e)) :
    (createReplicaPvc dataPod dataNode drs access ns).wp (clusterMonitor selects faults Inv) s
      Q := by
  unfold createReplicaPvc
  refine Prog.wp_bind (randSuffix_meets inv fun suffix => ?_)
  refine Prog.wp_bind (replicaOwner_meets (fun owner howner => ?_) error)
  refine wp_cluster_request inv (fun pvc created => ok pvc ?_) error
  obtain ⟨name, podUid, version, _, _, _, rfl⟩ := created
  refine ⟨ownedBy_of_ownerRef howner rfl, ?_⟩
  show ((StringMap.ofList _).lookup _ : Option String) = _
  simp [StringMap.ofList, AList.lookup_insert, AList.lookup_insert_ne]

lemma createReplicaPod_meets {source : DataPod} {sourcePvc : PersistentVolumeClaim}
    {replicas : List (DataPod × PersistentVolumeClaim)}
    {Q : Cluster → Except (Fault Error) Pod → Prop} (inv : Inv s)
    (ok : ∀ pod, OwnedBy drs pod.metadata → Q (s.addPod pod) (.ok pod))
    (error : ∀ e, Q s (.error e)) :
    (createReplicaPod drs source sourcePvc replicas ns).wp (clusterMonitor selects faults Inv) s
      Q := by
  unfold createReplicaPod
  refine Prog.wp_bind (randSuffix_meets inv fun suffix => ?_)
  refine Prog.wp_bind (replicaOwner_meets (fun owner howner => ?_) error)
  refine Prog.wp_bind (wp_orReturn (fun path _ => ?_) fun _ _ => error _)
  refine Prog.wp_bind (wp_orReturn (fun mounted _ => ?_) fun _ _ => error _)
  refine wp_cluster_request inv (fun pod created => ok pod ?_) error
  obtain ⟨name, podUid, version, _, _, _, rfl⟩ := created
  exact ownedBy_of_ownerRef howner rfl

end

/-! ## The number of replicas -/

/-- The `DataPod`s that the selector of the set matches. -/
def Cluster.matched (s : Cluster) (selects : Selects) (drs : DataReplicaSet) (ns : String) :
    Except KubeError (List DataPod) :=
  listFrom selects s.dataPods ns ⟨some (renderSelector drs.spec.selector.labels)⟩

/-- The number of `DataPod`s that the selector of the set matches. -/
def Cluster.counted (s : Cluster) (selects : Selects) (drs : DataReplicaSet) (ns : String) : ℕ :=
  match s.matched selects drs ns with
  | .ok pods => pods.length
  | .error _ => 0

/-- A pass over the set creates nothing: it has a status, or enough replicas. -/
def Idle (selects : Selects) (drs : DataReplicaSet) (ns : String) (s : Cluster) : Prop :=
  drs.status.isSome ∨ drs.spec.replicas ≤ s.counted selects drs ns

instance (selects : Selects) (drs : DataReplicaSet) (ns : String) :
    DecidablePred (Idle selects drs ns) :=
  fun s => inferInstanceAs
    (Decidable (drs.status.isSome ∨ drs.spec.replicas ≤ s.counted selects drs ns))

/-- Only the `DataPod`s count. -/
lemma Cluster.counted_congr {s s' : Cluster} (h : s'.dataPods = s.dataPods) (selects : Selects)
    (drs : DataReplicaSet) (ns : String) :
    s'.counted selects drs ns = s.counted selects drs ns := by
  unfold Cluster.counted Cluster.matched
  rw [h]

lemma Idle.congr {selects : Selects} {drs : DataReplicaSet} {ns : String} {s s' : Cluster}
    (h : Idle selects drs ns s) (heq : s'.dataPods = s.dataPods) : Idle selects drs ns s' := by
  rcases h with h | h
  · exact .inl h
  · right
    rw [Cluster.counted_congr heq]
    exact h

lemma Cluster.counted_of_matched {s : Cluster} {selects : Selects} {drs : DataReplicaSet}
    {ns : String} {pods : List DataPod} (h : .ok pods = s.matched selects drs ns) :
    s.counted selects drs ns = pods.length := by
  unfold Cluster.counted
  rw [← h]

/-- The `DataNode` of the source `DataPod`: the first of its owners. -/
def Cluster.sourceNode (s : Cluster) (drs : DataReplicaSet) (ns : String) : Option DataNode := do
  let source ← (getFrom s.dataPods ns drs.spec.sourcePod.name).toOption
  let owner ← (ownerReferences source).head?
  (getFrom s.dataNodes ns owner.name).toOption

/-- The `DataNode`s that replicas can be placed on. -/
def Cluster.otherNodes (s : Cluster) (drs : DataReplicaSet) (ns : String) : List DataNode :=
  match s.sourceNode drs ns with
  | some source =>
    (s.dataNodes.filter fun node => InNamespace ns node).filter fun node =>
      node.metadata.uid ≠ source.metadata.uid
  | none => []

section
variable {selects : Selects} {faults : Prop} {Inv : Cluster → Prop} {s : Cluster}
  {drs : DataReplicaSet} {ns : String}

/-- The nodes that are listed, without that of the source. -/
lemma otherNodes_of_listed {nodes : List DataNode} {node : DataNode}
    (hnode : s.sourceNode drs ns = some node)
    (listed : s.Replies selects (.listDataNodes ns {}) (.ok nodes)) :
    nodes.filter (fun n => n.metadata.uid ≠ node.metadata.uid) = s.otherNodes drs ns := by
  have listed' : Except.ok nodes = Except.ok (s.dataNodes.filter fun n => InNamespace ns n) :=
    listed
  cases listed'
  unfold Cluster.otherNodes
  rw [hnode]

lemma fetchSource_meets {Q : Cluster → Except (Fault Error) (DataPod × DataNode) → Prop}
    (inv : Inv s)
    (ok : ∀ source node, getFrom s.dataPods ns drs.spec.sourcePod.name = .ok source →
      s.sourceNode drs ns = some node → Q s (.ok (source, node)))
    (error : ∀ e, Q s (.error e)) :
    (drs.fetchSource ns).wp (clusterMonitor selects faults Inv) s Q := by
  unfold DataReplicaSet.fetchSource
  refine Prog.wp_bind (wp_cluster_request inv (fun (source : DataPod) hsource => ?_) error)
  refine Prog.wp_bind (wp_orReturn (fun owner howner => ?_) fun _ _ => error _)
  refine Prog.wp_bind (wp_cluster_request inv (fun (node : DataNode) hnode => ?_) error)
  have hget : getFrom s.dataPods ns drs.spec.sourcePod.name = .ok source := hsource.symm
  have hgetNode : getFrom s.dataNodes ns owner.name = .ok node := hnode.symm
  apply ok source node hget
  unfold Cluster.sourceNode
  rw [hget]
  show (ownerReferences source).head?.bind _ = some node
  rw [eq_some_of_okOr howner]
  show (getFrom s.dataNodes ns owner.name).toOption = some node
  rw [hgetNode]
  rfl

/-- The comparison of the count with the number asked for. -/
lemma compareCount_meets {count : ℕ} {Q : Cluster → Except (Fault Error) Action → Prop}
    (enough : drs.spec.replicas ≤ count → ∀ action, Q s (.ok action))
    (missing : count < drs.spec.replicas →
      (drs.createMissing ns count).wp (clusterMonitor selects faults Inv) s
        fun s' result => match result with
          | .ok _ => ∀ action, Q s' (.ok action)
          | .error e => Q s' (.error e)) :
    (drs.compareCount ns count).wp (clusterMonitor selects faults Inv) s Q := by
  unfold DataReplicaSet.compareCount
  -- the three branches of the comparison
  by_cases heq : count = drs.spec.replicas
  · rw [if_pos heq]
    exact enough (Nat.le_of_eq heq.symm) _
  · rw [if_neg heq]
    by_cases hlt : count < drs.spec.replicas
    · rw [if_pos hlt]
      refine Prog.wp_bind (Prog.wp_mono (missing hlt) fun s' result h => ?_)
      rcases result with e | _
      · exact h
      · exact h _
    · rw [if_neg hlt]
      exact enough (Nat.not_lt.mp hlt) _

/-- A pass: either it is idle, or it gets to the branch for too few replicas with the cluster as
it was. -/
lemma reconcile_meets {Q : Cluster → Except (Fault Error) Action → Prop}
    (hns : drs.metadata.ns = some ns) (inv : Inv s)
    (idle : Idle selects drs ns s → ∀ action, Q s (.ok action))
    (missing : ¬ Idle selects drs ns s →
      (drs.createMissing ns (s.counted selects drs ns)).wp (clusterMonitor selects faults Inv) s
        fun s' result => match result with
          | .ok _ => ∀ action, Q s' (.ok action)
          | .error e => Q s' (.error e))
    (error : (faults ∨ ∃ e, s.matched selects drs ns = .error e) → ∀ e, Q s (.error e)) :
    drs.reconcile.wp (clusterMonitor selects faults Inv) s Q := by
  unfold DataReplicaSet.reconcile
  -- a set with a status is left alone
  by_cases hstatus : drs.status.isSome
  · rw [if_pos hstatus]
    exact idle (.inl hstatus) _
  · rw [if_neg hstatus]
    have hdrsNs : namespaceOf drs = some ns := hns
    unfold DataReplicaSet.reconcileReplicas
    rw [hdrsNs]
    apply Prog.wp_bind
    refine Prog.wp_bind (wp_request inv (fun pods assumed => ?_) fun e assumed => ?_)
    · have hpods : .ok pods = s.matched selects drs ns := by
        rcases assumed with replied | ⟨_, e, he⟩
        · exact replied
        · cases he
      refine compareCount_meets (fun enough => ?_) fun few => ?_
      all_goals rw [← Cluster.counted_of_matched hpods] at *
      · exact idle (.inr enough)
      · exact missing fun h => h.elim hstatus fun h => absurd few (Nat.not_lt.mpr h)
    · refine error ?_ _
      rcases assumed with replied | ⟨h, _⟩
      · exact .inr ⟨e, replied.symm⟩
      · exact .inl h

end

/-! ## A small cluster -/

def sampleNode (name uid : String) : DataNode where
  metadata := { name := some name, ns := some "default", uid := some uid }
  spec := ⟨.http, false, none, ∅⟩
  status := none

/-- A `DataPod` on the node `n` with the uid `1`. -/
def samplePod (name uid : String) (labels : StringMap String) : DataPod where
  metadata :=
    { name := some name
      ns := some "default"
      uid := some uid
      labels := some labels
      ownerReferences := some [⟨"kubedal.arunaengine.org/v1alpha1", "DataNode", "n", "1"⟩] }
  spec := ⟨some "/data", some ⟨"n", some "default"⟩, none, none⟩
  status := some ⟨true, false⟩

/-- A set for the `DataPod` `source` whose replicas are labelled `app=replica`. -/
def sampleSet (replicas : ℕ) : DataReplicaSet where
  metadata := { name := some "set", ns := some "default", uid := some "0" }
  spec :=
    { replicas
      selector := ⟨.ofList [("app", "replica")]⟩
      sourcePod := ⟨"source", none⟩
      template := ⟨⟨.ofList [("app", "replica")]⟩, ⟨none, none, none, none⟩⟩ }
  status := none

/-- The selector `app=replica`. -/
def sampleSelects : Selects := fun text =>
  if text = "app=replica" then some fun labels => labels.lookup "app" = some "replica" else none

/-- The source on the node `n`, besides other nodes and `DataPod`s. -/
def sampleCluster (replicas : ℕ) (others : List DataNode) (pods : List DataPod) : Cluster where
  dataNodes := sampleNode "n" "1" :: others
  dataPods := samplePod "source" "2" ∅ :: pods
  replicaSets := [sampleSet replicas]
  pvcs := []
  pods := []
  uids := ["0", "1", "2", "3", "4"]

end Kubedal
