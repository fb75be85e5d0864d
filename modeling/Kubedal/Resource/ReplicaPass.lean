import Kubedal.Resource.ReplicaStages
import Kubedal.Resource.SyncPod

/-!
# What a pass creates

A pass over a `DataReplicaSet` is told by its trace: the objects it has created, in order.

* `Cluster.after` is the cluster after a trace, `newObjects` what the trace has created;
* `traceMonitor` is the environment as a monitor whose ghost state is the trace;
* `createReplicas_traced` is the loop: it makes the placements one by one, each a `DataPod` and
  its claim;
* `placement_exact` is a pass in which every request succeeds.
-/

namespace Kubedal

open Interaction Kube Resource

/-! ## Traces -/

/-- An object that was created. -/
inductive NewObject where
  | dataPod (pod : DataPod)
  | pvc (pvc : PersistentVolumeClaim)
  | pod (pod : Pod)

/-- What a call and its answer have created. -/
def newObject : (c : Call) → c.Reply → List NewObject
  | .kube (.createDataPod _ _), Except.ok (pod : DataPod) => [.dataPod pod]
  | .kube (.createPvc _ _), Except.ok (pvc : PersistentVolumeClaim) => [.pvc pvc]
  | .kube (.createPod _ _), Except.ok (pod : Pod) => [.pod pod]
  | _, _ => []

/-- The objects that a trace has created, in order. -/
def newObjects (τ : List (Event signature)) : List NewObject :=
  τ.flatMap fun e => newObject e.call e.reply

@[simp] lemma newObjects_append (τ τ' : List (Event signature)) :
    newObjects (τ ++ τ') = newObjects τ ++ newObjects τ' := List.flatMap_append

namespace Cluster

/-- The cluster after a trace. -/
def after (s : Cluster) (τ : List (Event signature)) : Cluster :=
  τ.foldl (fun s e => s.next e.call e.reply) s

@[simp] lemma after_append (s : Cluster) (τ τ' : List (Event signature)) :
    s.after (τ ++ τ') = (s.after τ).after τ' := List.foldl_append

@[simp] lemma after_singleton (s : Cluster) (c : Call) (a : c.Reply) :
    s.after [⟨c, a⟩] = s.next c a := rfl

/-- Where a run gets to is told by its trace. -/
lemma eq_after {α : Type} {selects : Selects} {faults : Prop} {p q : Reconcile α} {s s' : Cluster}
    {τ : List (Event signature)} (run : Prog.Exec (clusterEnv selects faults) p s τ q s') :
    s' = s.after τ := by
  induction run with
  | refl => rfl
  | step answered rest ih =>
    rw [ih, answered.2]
    rfl

def add (s : Cluster) : NewObject → Cluster
  | .dataPod pod => s.addDataPod pod
  | .pvc pvc => s.addPvc pvc
  | .pod pod => s.addPod pod

end Cluster

/-- The call is accepted, if it is a request. -/
def Accepted : (c : Call) → c.Reply → Prop
  | .kube _, r => ∃ object, r = Except.ok object
  | _, _ => True

instance : (c : Call) → (a : c.Reply) → Decidable (Accepted c a)
  | .kube _, Except.ok object => isTrue ⟨object, rfl⟩
  | .kube _, Except.error _ => isFalse fun ⟨_, h⟩ => by cases h
  | .opendal _, _ => isTrue trivial
  | .host _, _ => isTrue trivial
  | .mounts _, _ => isTrue trivial
  | .volumes _, _ => isTrue trivial
  | .newUuid, _ => isTrue trivial
  | .sampleAlphanumeric _, _ => isTrue trivial

/-- The environment of a pass that starts in `s`, of which only the answers of `Good` are
assumed. -/
def traceMonitor (selects : Selects) (s : Cluster) (Good : (c : Call) → c.Reply → Prop)
    (allows : Cluster → Call → Prop) : Monitor signature (List (Event signature)) where
  allows := fun past c => allows (s.after past) c
  assumes := fun past c a => (s.after past).Answers selects True c a ∧ Good c a
  next := fun past c a => past ++ [⟨c, a⟩]

lemma traceMonitor_after (selects : Selects) (s : Cluster) (Good : (c : Call) → c.Reply → Prop)
    (allows : Cluster → Call → Prop) (past τ : List (Event signature)) :
    (traceMonitor selects s Good allows).after past τ = past ++ τ := by
  induction τ generalizing past with
  | nil => simp
  | cons e τ ih => simpa [traceMonitor] using ih (past ++ [e])

/-- What is proved with the monitor holds of a run with good answers. -/
lemma of_traceMonitor {α : Type} {selects : Selects} {Good : (c : Call) → c.Reply → Prop}
    {allows : Cluster → Call → Prop} {p q : Reconcile α} {s s' : Cluster}
    {τ : List (Event signature)} {Q : List (Event signature) → Except (Fault Error) α → Prop}
    (h : p.wp (traceMonitor selects s Good allows) [] Q)
    (run : Prog.Exec (clusterEnv selects True) p s τ q s')
    (good : ∀ e ∈ τ, Good e.call e.reply) :
    q.wp (traceMonitor selects s Good allows) τ Q ∧ s' = s.after τ := by
  have final := Prog.wp_exec_related (fun s₁ past => s₁ = s.after past)
    (fun s₁ past c a s₂ he _ answered hs₁ => by
      obtain ⟨answered, hs₂⟩ := answered
      rw [hs₁] at answered hs₂
      refine ⟨⟨answered, good _ he⟩, ?_⟩
      show s₂ = s.after (past ++ [⟨c, a⟩])
      rw [hs₂, Cluster.after_append, Cluster.after_singleton]) h run rfl
  rw [traceMonitor_after] at final
  exact final

/-! ## Passes only add -/

/-- The call is no server-side apply. -/
def Call.NoApply : Call → Prop
  | .kube (.applyDataPod _ _ _) => False
  | .kube (.applyDataNodeStatus _ _ _) => False
  | _ => True

/-- The trace has only added to the cluster. -/
def Adds (s : Cluster) (τ : List (Event signature)) : Prop :=
  s.after τ = (newObjects τ).foldl Cluster.add s

lemma Cluster.next_eq_add {c : Call} (hc : c.NoApply) (s : Cluster) (a : c.Reply) :
    s.next c a = (newObject c a).foldl Cluster.add s := by
  rcases c with c | c | c | c | c | _ | _
  case kube =>
    rcases a with e | object
    · cases c
      all_goals rfl
    · cases c
      case applyDataPod => exact hc.elim
      case applyDataNodeStatus => exact hc.elim
      all_goals rfl
  all_goals rfl

lemma Cluster.dataPods_subset_addAll (objects : List NewObject) (s : Cluster) :
    s.dataPods ⊆ (objects.foldl Cluster.add s).dataPods := by
  induction objects generalizing s with
  | nil => exact List.Subset.refl _
  | cons object rest ih =>
    have hfirst : s.dataPods ⊆ (s.add object).dataPods := by
      cases object
      case dataPod => exact List.subset_append_left _ _
      all_goals exact List.Subset.refl _
    exact List.Subset.trans hfirst (ih (s.add object))

namespace Adds

variable {s : Cluster} {τ : List (Event signature)}

lemma nil : Adds s [] := rfl

lemma snoc (h : Adds s τ) {c : Call} (hc : c.NoApply) (a : c.Reply) : Adds s (τ ++ [⟨c, a⟩]) := by
  unfold Adds at *
  rw [Cluster.after_append, Cluster.after_singleton, h, Cluster.next_eq_add hc,
    newObjects_append, List.foldl_append]
  simp [newObjects]

/-- Nothing is taken away. -/
lemma dataPods (h : Adds s τ) : s.dataPods ⊆ (s.after τ).dataPods := by
  rw [h]
  exact Cluster.dataPods_subset_addAll _ _

/-- Without server-side applies, a trace only adds. -/
lemma of_noApply (h : ∀ e ∈ τ, e.call.NoApply) : Adds s τ := by
  induction τ using List.reverseRecOn with
  | nil => exact nil
  | append_singleton past e ih =>
    have before : Adds s past := ih fun x hx => h x (List.mem_append_left _ hx)
    exact before.snoc (h e (List.mem_append_right _ (List.mem_singleton_self e))) e.reply

/-- A trace that has created nothing leaves the cluster as it is. -/
lemma eq_self (h : Adds s τ) (nothing : newObjects τ = []) : s.after τ = s := by
  rw [h, nothing]
  rfl

end Adds

/-! ## The functions one by one -/

/-- The environment in which every request is accepted. -/
abbrev acceptMonitor (selects : Selects) (s : Cluster) :
    Monitor signature (List (Event signature)) :=
  traceMonitor selects s Accepted fun _ _ => True

/-- What goes into the claim for `dataPod`, which is on `dataNode`. -/
structure ClaimOf (dataPod : DataPod) (dataNode : DataNode) (pvc : PersistentVolumeClaim) :
    Prop where
  forPod : podAnnotation pvc.metadata = some (nameAny dataPod)
  onNode : (pvc.metadata.annotations.getD ∅).lookup "kubedal.arunaengine.org/data-node-name" =
    some (nameAny dataNode)

/-- The `DataPod` that was created for a placement, and its claim. -/
structure Placement where
  index : ℕ
  node : DataNode
  pod : DataPod
  pvc : PersistentVolumeClaim

namespace Placement

def target (x : Placement) : ℕ × DataNode := (x.index, x.node)

def resources (x : Placement) : DataPod × PersistentVolumeClaim := (x.pod, x.pvc)

def objects (x : Placement) : List NewObject := [.dataPod x.pod, .pvc x.pvc]

/-- The objects are those for the index and the node, and the name was free. -/
structure Made (drs : DataReplicaSet) (ns uid : String) (s : Cluster) (x : Placement) :
    Prop where
  named : At ns (replicaName uid x.index) x.pod
  free : ∀ d ∈ s.dataPods, ¬ At ns (replicaName uid x.index) d
  path : x.pod.spec.path = some ("/replica-" ++ toString x.index)
  nodeRef : x.pod.spec.dataNodeRef = some ⟨nameAny x.node, namespaceOf x.node⟩
  claim : ClaimOf x.pod x.node x.pvc
  labels : x.pod.metadata.labels = none

end Placement

section
variable {selects : Selects} {s : Cluster} {drs : DataReplicaSet} {ns uid : String}
  {past : List (Event signature)}

/-- The environment is told to accept the request. -/
lemma wp_accepted {c : KubeCall} {Q : List (Event signature) → Except (Fault Error) c.Object → Prop}
    (ok : ∀ object, (s.after past).Replies selects c (.ok object) →
      Q (past ++ [⟨.kube c, Except.ok object⟩]) (.ok object)) :
    (request c).wp (acceptMonitor selects s) past Q := by
  apply wp_request
  · trivial
  · intro object assumed
    exact ok object (replies_of_answers assumed.1)
  · intro e assumed
    obtain ⟨object, h⟩ := assumed.2
    cases h

lemma createReplicaDataPod_traced {index : ℕ} {node : DataNode} {owner : OwnerReference}
    {Q : List (Event signature) → Except (Fault Error) DataPod → Prop} (adds : Adds s past)
    (huid : drs.metadata.uid = some uid) (hns : namespaceOf drs = some ns)
    (howner : ownerRef drs = some owner)
    (ok : ∀ past' pod, Adds s past' → newObjects past' = newObjects past ++ [.dataPod pod] →
      (∀ pvc, ClaimOf pod node pvc → (Placement.mk index node pod pvc).Made drs ns uid s) →
      Q past' (.ok pod)) :
    (createReplicaDataPod index drs node ns).wp (acceptMonitor selects s) past Q := by
  unfold createReplicaDataPod
  rw [huid, hns, howner]
  apply wp_accepted
  intro pod stored
  obtain ⟨name, podUid, version, hname, free, _, hpod⟩ := stored
  cases hname
  apply ok
  · exact adds.snoc (c := .kube (.createDataPod _ _)) trivial _
  · rw [newObjects_append]
    rfl
  · intro pvc claim
    rw [hpod] at claim ⊢
    exact ⟨⟨rfl, rfl⟩, fun d hd => free d (adds.dataPods hd), rfl, rfl, claim, rfl⟩

lemma createReplicaPvc_traced {dataPod : DataPod} {dataNode : DataNode} {access : MountAccess}
    {owner : OwnerReference}
    {Q : List (Event signature) → Except (Fault Error) PersistentVolumeClaim → Prop}
    (adds : Adds s past) (howner : ownerRef drs = some owner)
    (ok : ∀ past' pvc, Adds s past' → newObjects past' = newObjects past ++ [.pvc pvc] →
      ClaimOf dataPod dataNode pvc → Q past' (.ok pvc)) :
    (createReplicaPvc dataPod dataNode drs access ns).wp (acceptMonitor selects s) past Q := by
  unfold createReplicaPvc
  apply Prog.wp_bind
  apply Prog.wp_bind
  apply wp_perform
  · trivial
  intro sampled _
  apply Prog.wp_bind
  unfold replicaOwner
  rw [howner]
  apply wp_accepted
  intro pvc stored
  obtain ⟨name, pvcUid, version, _, _, _, hpvc⟩ := stored
  apply ok
  · have sampling := adds.snoc (c := .sampleAlphanumeric 8) trivial sampled
    exact sampling.snoc (c := .kube (.createPvc _ _)) trivial _
  · show newObjects (past ++ [_] ++ [_]) = _
    rw [newObjects_append, newObjects_append]
    simp [newObjects, newObject]
  · rw [hpvc]
    constructor
    · show ((StringMap.ofList _).lookup _ : Option String) = _
      simp [StringMap.ofList, AList.lookup_insert, AList.lookup_insert_ne]
    · show ((StringMap.ofList _).lookup _ : Option String) = _
      simp only [StringMap.ofList, List.foldl_cons, List.foldl_nil]
      repeat rw [AList.lookup_insert_ne (by decide)]
      exact AList.lookup_insert _

/-- The loop makes the placements one by one, each a `DataPod` and its claim. -/
lemma createReplicas_traced {owner : OwnerReference} (adds : Adds s past)
    (huid : drs.metadata.uid = some uid) (hns : namespaceOf drs = some ns)
    (howner : ownerRef drs = some owner) (indices : List ℕ) (nodes : List DataNode)
    (acc : List (DataPod × PersistentVolumeClaim)) :
    (createReplicas drs ns indices nodes acc).wp (acceptMonitor selects s) past
      fun past' result => ∃ placed : List Placement,
        Adds s past' ∧ newObjects past' = newObjects past ++ placed.flatMap Placement.objects ∧
        placed.map Placement.target = indices.zip nodes.reverse ∧
        (∀ x ∈ placed, x.Made drs ns uid s) ∧
        result = .ok (acc ++ placed.map Placement.resources) := by
  induction indices generalizing nodes acc past with
  | nil => exact ⟨[], adds, by simp, by simp, by simp, by simp⟩
  | cons index rest ih =>
    unfold createReplicas
    cases hlast : nodes.getLast? with
    | none =>
      have hnodes : nodes = [] := List.getLast?_eq_none_iff.mp hlast
      rw [hnodes]
      exact ⟨[], adds, by simp, by simp, by simp, by simp⟩
    | some node =>
      -- the last node is the first of the reversed list
      have hnodes : nodes.reverse = node :: nodes.dropLast.reverse := by
        obtain ⟨front, rfl⟩ := List.getLast?_eq_some_iff.mp hlast
        simp
      rw [hnodes, List.zip_cons_cons]
      apply Prog.wp_bind
      apply createReplicaDataPod_traced adds huid hns howner
      intro past₁ pod adds₁ hobjects₁ made
      apply Prog.wp_bind
      apply createReplicaPvc_traced adds₁ howner
      intro past₂ pvc adds₂ hobjects₂ claim
      apply Prog.wp_mono (ih adds₂ nodes.dropLast (acc ++ [(pod, pvc)]))
      rintro past' result ⟨placed, adds', hobjects, htargets, hmade, hresult⟩
      refine ⟨⟨index, node, pod, pvc⟩ :: placed, adds', ?_, ?_, ?_, ?_⟩
      · rw [hobjects, hobjects₂, hobjects₁]
        simp [Placement.objects]
      · rw [List.map_cons, htargets]
        rfl
      · intro x hx
        rcases List.mem_cons.mp hx with rfl | hx
        · exact made pvc claim
        · exact hmade x hx
      · rw [hresult]
        simp [Placement.resources]

lemma eq_ok_of_toOption {ε α : Type} {r : Except ε α} {a : α} (h : r.toOption = some a) :
    r = .ok a := by
  cases r with
  | ok b =>
    cases h
    rfl
  | error e => cases h

/-- The owner of the source is there, and its node. -/
lemma owner_of_sourceNode {source : DataPod} {node : DataNode}
    (hsource : getFrom s.dataPods ns drs.spec.sourcePod.name = .ok source)
    (hnode : s.sourceNode drs ns = some node) :
    ∃ owner, (ownerReferences source).head? = some owner ∧
      getFrom s.dataNodes ns owner.name = .ok node := by
  unfold Cluster.sourceNode at hnode
  rw [hsource] at hnode
  have hnode' : ((ownerReferences source).head?.bind fun owner =>
      (getFrom s.dataNodes ns owner.name).toOption) = some node := hnode
  obtain ⟨owner, howner, hget⟩ := Option.bind_eq_some_iff.mp hnode'
  exact ⟨owner, howner, eq_ok_of_toOption hget⟩

/-- The source of a node is there. -/
lemma source_of_sourceNode {node : DataNode} (h : s.sourceNode drs ns = some node) :
    ∃ source, getFrom s.dataPods ns drs.spec.sourcePod.name = .ok source := by
  unfold Cluster.sourceNode at h
  obtain ⟨source, hsource, _⟩ := Option.bind_eq_some_iff.mp h
  exact ⟨source, eq_ok_of_toOption hsource⟩

/-- A request that creates nothing. -/
lemma newObjects_snoc {c : Call} {a : c.Reply} (h : newObject c a = [])
    (nothing : newObjects past = []) : newObjects (past ++ [⟨c, a⟩]) = [] := by
  rw [newObjects_append, nothing]
  simp [newObjects, h]

lemma fetchSource_traced {source : DataPod} {node : DataNode}
    {Q : List (Event signature) → Except (Fault Error) (DataPod × DataNode) → Prop}
    (adds : Adds s past) (nothing : newObjects past = [])
    (hsource : getFrom s.dataPods ns drs.spec.sourcePod.name = .ok source)
    (hnode : s.sourceNode drs ns = some node)
    (ok : ∀ past', Adds s past' → newObjects past' = [] → Q past' (.ok (source, node))) :
    (drs.fetchSource ns).wp (acceptMonitor selects s) past Q := by
  obtain ⟨owner, howner, hget⟩ := owner_of_sourceNode hsource hnode
  unfold DataReplicaSet.fetchSource
  apply Prog.wp_bind
  apply wp_accepted
  intro found hfound
  have adds₁ := adds.snoc (c := .kube (.getDataPod ns drs.spec.sourcePod.name)) trivial
    (Except.ok found)
  have nothing₁ := newObjects_snoc (c := .kube (.getDataPod ns drs.spec.sourcePod.name))
    (a := Except.ok found) rfl nothing
  have hsame : Except.ok found = getFrom s.dataPods ns drs.spec.sourcePod.name := by
    rw [adds.eq_self nothing] at hfound
    exact hfound
  rw [hsource] at hsame
  cases hsame
  apply Prog.wp_bind
  rw [howner]
  apply Prog.wp_bind
  apply wp_accepted
  intro foundNode hfoundNode
  have hsame : Except.ok foundNode = getFrom s.dataNodes ns owner.name := by
    rw [adds₁.eq_self nothing₁] at hfoundNode
    exact hfoundNode
  rw [hget] at hsame
  cases hsame
  apply ok
  · exact adds₁.snoc (c := .kube (.getDataNode ns owner.name)) trivial _
  · exact newObjects_snoc (c := .kube (.getDataNode ns owner.name)) rfl nothing₁

/-- The error of a source without a path. -/
def missingPath (source : DataPod) : Fault Error :=
  .error (.reconcilerError ("Source DataPod " ++ nameAny source ++ " is missing path."))

lemma createReplicaPod_traced {source : DataPod} {sourcePvc : PersistentVolumeClaim}
    {replicas : List (DataPod × PersistentVolumeClaim)} {owner : OwnerReference}
    {Q : List (Event signature) → Except (Fault Error) Pod → Prop} (adds : Adds s past)
    (howner : ownerRef drs = some owner)
    (paths : ∀ replica ∈ replicas, replica.1.spec.path ≠ none)
    (ok : ∀ past' pod, source.spec.path ≠ none → Adds s past' →
      newObjects past' = newObjects past ++ [.pod pod] → Q past' (.ok pod))
    (missing : ∀ past', source.spec.path = none → Adds s past' →
      newObjects past' = newObjects past → Q past' (.error (missingPath source))) :
    (createReplicaPod drs source sourcePvc replicas ns).wp (acceptMonitor selects s) past Q := by
  unfold createReplicaPod
  apply Prog.wp_bind
  apply Prog.wp_bind
  apply wp_perform
  · trivial
  intro sampled _
  have sampling := adds.snoc (c := .sampleAlphanumeric 8) trivial sampled
  have hsampled : newObjects (past ++ [⟨.sampleAlphanumeric 8, sampled⟩]) = newObjects past := by
    rw [newObjects_append]
    simp [newObjects, newObject]
  apply Prog.wp_bind
  unfold replicaOwner
  rw [howner]
  cases hpath : source.spec.path with
  | none => exact missing _ hpath sampling hsampled
  | some path =>
    show Prog.wp _ (orReturn (mountReplicas source 0 replicas _) >>= _) _ _
    rw [mountReplicas_ok paths]
    apply wp_accepted
    intro pod _
    apply ok _ _ (by simp [hpath])
    · exact sampling.snoc (c := .kube (.createPod _ _)) trivial _
    · show newObjects (past ++ [_] ++ [_]) = _
      rw [newObjects_append, hsampled]
      rfl

end

/-! ## The whole pass -/

/-- A set without a status, as the API server stores it, whose source and the node of the source
are there. -/
structure Ready (drs : DataReplicaSet) (ns uid : String) (source : DataPod) (node : DataNode)
    (s : Cluster) : Prop where
  status : drs.status = none
  uid : drs.metadata.uid = some uid
  named : drs.metadata.name ≠ none
  namespaced : drs.metadata.ns = some ns
  source : getFrom s.dataPods ns drs.spec.sourcePod.name = .ok source
  sourceNode : s.sourceNode drs ns = some node

lemma Ready.owner {drs : DataReplicaSet} {ns uid : String} {source : DataPod} {node : DataNode}
    {s : Cluster} (h : Ready drs ns uid source node s) : ∃ owner, ownerRef drs = some owner := by
  obtain ⟨name, hname⟩ := Option.ne_none_iff_exists'.mp h.named
  have hmeta : Resource.metadata drs = drs.metadata := rfl
  unfold ownerRef
  rw [hmeta, hname, h.uid]
  exact ⟨_, rfl⟩

/-- The objects that a pass creates which counts `count` replicas: those of the placements, then
the claim for the source, then the sync pod, for which the source needs a path. -/
structure PassCreates (drs : DataReplicaSet) (ns uid : String) (source : DataPod)
    (sourceNode : DataNode) (count : ℕ) (s : Cluster) (placed : List Placement)
    (objects : List NewObject) (ok : Prop) : Prop where
  targets : placed.map Placement.target =
    (List.range' count (drs.spec.replicas - count)).zip (s.otherNodes drs ns).reverse
  made : ∀ x ∈ placed, x.Made drs ns uid s
  objects : ∃ sourcePvc, ClaimOf source sourceNode sourcePvc ∧
    (source.spec.path ≠ none ∧ ok ∧
        (∃ pod, objects = placed.flatMap Placement.objects ++ [.pvc sourcePvc, .pod pod]) ∨
      source.spec.path = none ∧ ¬ ok ∧
        objects = placed.flatMap Placement.objects ++ [.pvc sourcePvc])

section
variable {selects : Selects} {s : Cluster} {drs : DataReplicaSet} {ns uid : String}
  {source : DataPod} {node : DataNode} {past : List (Event signature)}

lemma createMissing_traced (ready : Ready drs ns uid source node s) (adds : Adds s past)
    (nothing : newObjects past = []) (count : ℕ) :
    (drs.createMissing ns count).wp (acceptMonitor selects s) past fun past' result =>
      Adds s past' ∧ ∃ placed, PassCreates drs ns uid source node count s placed
        (newObjects past') (result = .ok ()) := by
  obtain ⟨owner, howner⟩ := ready.owner
  unfold DataReplicaSet.createMissing
  apply Prog.wp_bind
  apply fetchSource_traced adds nothing ready.source ready.sourceNode
  intro past₁ adds₁ nothing₁
  apply Prog.wp_bind
  apply wp_accepted
  intro nodes listed
  have adds₂ := adds₁.snoc (c := .kube (.listDataNodes ns {})) trivial (Except.ok nodes)
  have nothing₂ := newObjects_snoc (c := .kube (.listDataNodes ns {})) (a := Except.ok nodes) rfl
    nothing₁
  rw [adds₁.eq_self nothing₁] at listed
  simp only
  rw [otherNodes_of_listed ready.sourceNode listed]
  apply Prog.wp_bind
  apply Prog.wp_mono (createReplicas_traced adds₂ ready.uid ready.namespaced howner _ _ [])
  rintro past₃ result ⟨placed, adds₃, hobjects, htargets, hmade, rfl⟩
  apply Prog.wp_bind
  apply createReplicaPvc_traced adds₃ howner
  intro past₄ sourcePvc adds₄ hobjects₄ claim
  apply Prog.wp_bind
  have paths : ∀ replica ∈ [] ++ placed.map Placement.resources, replica.1.spec.path ≠ none := by
    intro replica hreplica
    obtain ⟨x, hx, rfl⟩ := List.mem_map.mp hreplica
    have hpath : x.pod.spec.path ≠ none := by
      rw [(hmade x hx).path]
      exact Option.some_ne_none _
    exact hpath
  rw [nothing₂, List.nil_append] at hobjects
  rw [hobjects] at hobjects₄
  apply createReplicaPod_traced adds₄ howner paths
  · intro past₅ pod hpath adds₅ hobjects₅
    refine ⟨adds₅, placed, htargets, hmade, sourcePvc, claim, .inl ⟨hpath, rfl, pod, ?_⟩⟩
    rw [hobjects₅, hobjects₄, List.append_assoc]
    rfl
  · intro past₅ hpath adds₅ hobjects₅
    refine ⟨adds₅, placed, htargets, hmade, sourcePvc, claim, .inr ⟨hpath, by simp, ?_⟩⟩
    rw [hobjects₅, hobjects₄]

/-- A pass over a set with too few replicas. -/
lemma reconcile_traced (ready : Ready drs ns uid source node s)
    (few : s.counted selects drs ns < drs.spec.replicas) :
    drs.reconcile.wp (acceptMonitor selects s) [] fun past' result =>
      Adds s past' ∧ ∃ placed,
        PassCreates drs ns uid source node (s.counted selects drs ns) s placed (newObjects past')
          (∃ action, result = .ok action) := by
  have hns : namespaceOf drs = some ns := ready.namespaced
  unfold DataReplicaSet.reconcile
  rw [ready.status]
  show Prog.wp _ drs.reconcileReplicas _ _
  unfold DataReplicaSet.reconcileReplicas
  rw [hns]
  show Prog.wp _ (request _ >>= _) _ _
  apply Prog.wp_bind
  apply wp_accepted
  intro pods listed
  have hcount : s.counted selects drs ns = pods.length :=
    Cluster.counted_of_matched (listed : Except.ok pods = s.matched selects drs ns)
  rw [hcount] at few ⊢
  show Prog.wp _ (drs.compareCount ns pods.length) _ _
  unfold DataReplicaSet.compareCount
  rw [if_neg (Nat.ne_of_lt few), if_pos few]
  apply Prog.wp_bind
  have adds := Adds.nil.snoc (s := s)
    (c := .kube (.listDataPods ns ⟨some (renderSelector drs.spec.selector.labels)⟩)) trivial
    (Except.ok pods)
  apply Prog.wp_mono (createMissing_traced ready adds rfl pods.length)
  rintro past' result ⟨adds', placed, creates⟩
  obtain ⟨htargets, hmade, sourcePvc, claim, h⟩ := creates
  rcases result with e | _
  · rcases h with ⟨_, hok, _⟩ | ⟨hpath, _, hobjects⟩
    · cases hok
    · exact ⟨adds', placed, htargets, hmade, sourcePvc, claim, .inr ⟨hpath, by simp, hobjects⟩⟩
  · rcases h with ⟨hpath, _, hobjects⟩ | ⟨_, hok, _⟩
    · exact ⟨adds', placed, htargets, hmade, sourcePvc, claim,
        .inl ⟨hpath, ⟨_, rfl⟩, hobjects⟩⟩
    · exact absurd rfl hok

end

/-! ## An exact placement -/

/-- The name that a reference to the `DataNode` uses. -/
def nodeRefOf (node : DataNode) : Ref := ⟨nameAny node, namespaceOf node⟩

/-- The placements of a pass that counts `count` replicas: as many as are missing or as there are
nodes for, with consecutive indices, on distinct nodes that are not that of the source. -/
structure ExactPlacement (drs : DataReplicaSet) (ns : String) (sourceNode : DataNode) (count : ℕ)
    (s : Cluster) (placed : List Placement) : Prop where
  length : placed.length = min (drs.spec.replicas - count) (s.otherNodes drs ns).length
  indices : placed.map Placement.index = List.range' count placed.length
  nodes : ∀ x ∈ placed, x.node ∈ s.dataNodes ∧ x.node.metadata.uid ≠ sourceNode.metadata.uid
  distinct : (placed.map fun x => x.node.metadata.uid).Nodup
  /-- If names are unique, the references are distinct as well. -/
  references : (s.dataNodes.map nodeRefOf).Nodup →
    (placed.map fun x => x.pod.spec.dataNodeRef).Nodup ∧
      ∀ x ∈ placed, x.pod.spec.dataNodeRef ≠ some (nodeRefOf sourceNode)

section
variable {s : Cluster} {drs : DataReplicaSet} {ns uid : String} {source : DataPod}
  {sourceNode : DataNode} {count : ℕ} {placed : List Placement} {objects : List NewObject}
  {ok : Prop}

lemma mem_of_otherNodes {node : DataNode} (hsource : s.sourceNode drs ns = some sourceNode)
    (h : node ∈ s.otherNodes drs ns) :
    node ∈ s.dataNodes ∧ node.metadata.uid ≠ sourceNode.metadata.uid := by
  unfold Cluster.otherNodes at h
  rw [hsource] at h
  obtain ⟨hmem, huid⟩ := List.mem_filter.mp h
  exact ⟨List.mem_of_mem_filter hmem, by simpa using huid⟩

/-- The nodes that are not that of the source are listed in order. -/
lemma otherNodes_sublist : (s.otherNodes drs ns).Sublist s.dataNodes := by
  unfold Cluster.otherNodes
  split
  · exact List.Sublist.trans List.filter_sublist List.filter_sublist
  · exact List.nil_sublist _

lemma sourceNode_mem (h : s.sourceNode drs ns = some sourceNode) : sourceNode ∈ s.dataNodes := by
  unfold Cluster.sourceNode at h
  obtain ⟨source, _, h⟩ := Option.bind_eq_some_iff.mp h
  obtain ⟨owner, _, h⟩ := Option.bind_eq_some_iff.mp h
  exact (getFrom_ok (eq_ok_of_toOption h)).1

/-- What is left of the lists that are zipped. -/
lemma map_zip_take {α β : Type} (l : List α) (l' : List β) :
    (l.zip l').map Prod.fst = l.take (min l.length l'.length) ∧
      (l.zip l').map Prod.snd = l'.take (min l.length l'.length) := by
  rw [List.zip_eq_zip_take_min]
  constructor
  · exact List.map_fst_zip (by simp)
  · exact List.map_snd_zip (by simp)

namespace PassCreates

lemma length_eq (h : PassCreates drs ns uid source sourceNode count s placed objects ok) :
    placed.length = min (drs.spec.replicas - count) (s.otherNodes drs ns).length := by
  have hlength := congrArg List.length h.targets
  simpa using hlength

lemma indices_eq (h : PassCreates drs ns uid source sourceNode count s placed objects ok) :
    placed.map Placement.index = List.range' count placed.length := by
  have hfst : placed.map Placement.index = (placed.map Placement.target).map Prod.fst := by
    rw [List.map_map]
    rfl
  rw [hfst, h.targets, (map_zip_take _ _).1, h.length_eq, List.length_range', List.length_reverse]
  exact List.take_range'_of_length_ge (Nat.min_le_left _ _)

/-- The nodes are taken from the end of the list. -/
lemma nodes_eq (h : PassCreates drs ns uid source sourceNode count s placed objects ok) :
    placed.map Placement.node = (s.otherNodes drs ns).reverse.take placed.length := by
  have hsnd : placed.map Placement.node = (placed.map Placement.target).map Prod.snd := by
    rw [List.map_map]
    rfl
  rw [hsnd, h.targets, (map_zip_take _ _).2, h.length_eq, List.length_range', List.length_reverse]

/-- What distinguishes the nodes of the cluster, distinguishes those of the placements. -/
lemma nodup_map {β : Type} (f : DataNode → β)
    (h : PassCreates drs ns uid source sourceNode count s placed objects ok)
    (distinct : (s.dataNodes.map f).Nodup) : (placed.map fun x => f x.node).Nodup := by
  have hmap : (placed.map fun x => f x.node) = (placed.map Placement.node).map f := by
    rw [List.map_map]
    rfl
  rw [hmap, h.nodes_eq, List.map_take, List.map_reverse]
  have hothers : ((s.otherNodes drs ns).map f).Nodup := distinct.sublist (otherNodes_sublist.map f)
  exact (List.nodup_reverse.mpr hothers).sublist (List.take_sublist _ _)

lemma exact (h : PassCreates drs ns uid source sourceNode count s placed objects ok)
    (hsource : s.sourceNode drs ns = some sourceNode)
    (uids : (s.dataNodes.map fun node => node.metadata.uid).Nodup) :
    ExactPlacement drs ns sourceNode count s placed := by
  have others : ∀ x ∈ placed, x.node ∈ s.otherNodes drs ns := by
    intro x hx
    have hnode : x.node ∈ placed.map Placement.node := List.mem_map_of_mem hx
    rw [h.nodes_eq] at hnode
    exact List.mem_reverse.mp (List.mem_of_mem_take hnode)
  refine ⟨h.length_eq, h.indices_eq, fun x hx => mem_of_otherNodes hsource (others x hx),
    h.nodup_map _ uids, fun names => ?_⟩
  have hrefs : (placed.map fun x => x.pod.spec.dataNodeRef) =
      (placed.map fun x => nodeRefOf x.node).map some := by
    rw [List.map_map]
    apply List.map_congr_left
    intro x hx
    exact (h.made x hx).nodeRef
  constructor
  · rw [hrefs]
    exact (h.nodup_map _ names).map fun _ _ h => Option.some.inj h
  · intro x hx href
    obtain ⟨hmem, huid⟩ := mem_of_otherNodes hsource (others x hx)
    rw [(h.made x hx).nodeRef] at href
    have hsame : x.node = sourceNode := List.inj_on_of_nodup_map names hmem
      (sourceNode_mem hsource) (Option.some.inj href)
    exact huid (congrArg (fun node => node.metadata.uid) hsame)

end PassCreates

end

/-- A pass over a set with a status does nothing. -/
lemma run_of_status {selects : Selects} {drs : DataReplicaSet} {s s' : Cluster}
    {τ : List (Event signature)} {q : Reconcile Action} (hstatus : drs.status ≠ none)
    (run : Prog.Exec (clusterEnv selects True) drs.reconcile s τ q s') : τ = [] ∧ s' = s := by
  obtain ⟨status, hsome⟩ := Option.ne_none_iff_exists'.mp hstatus
  unfold DataReplicaSet.reconcile at run
  rw [hsome] at run
  obtain ⟨hτ, _, hs⟩ := Prog.exec_pure_iff.mp run
  exact ⟨hτ, hs⟩

/-- A pass in which every request is accepted makes an exact placement, then the claim for the
source, and then the sync pod if the source has a path. -/
theorem placement_exact {selects : Selects} {drs : DataReplicaSet} {ns uid : String}
    {source : DataPod} {sourceNode : DataNode} {s s' : Cluster} {τ : List (Event signature)}
    {q : Reconcile Action} (ready : Ready drs ns uid source sourceNode s)
    (few : s.counted selects drs ns < drs.spec.replicas)
    (uids : (s.dataNodes.map fun node => node.metadata.uid).Nodup)
    (run : Prog.Exec (clusterEnv selects True) drs.reconcile s τ q s') (finished : q.outcome ≠ none)
    (accepted : ∀ e ∈ τ, Accepted e.call e.reply) :
    s' = (newObjects τ).foldl Cluster.add s ∧
      (∃ placed, ExactPlacement drs ns sourceNode (s.counted selects drs ns) s placed ∧
        PassCreates drs ns uid source sourceNode (s.counted selects drs ns) s placed (newObjects τ)
          (∃ action, q = .pure action)) ∧
      ∀ status s₁ τ₁ q₁ s₁', Prog.Exec (clusterEnv selects True)
        ({ drs with status := some status } : DataReplicaSet).reconcile s₁ τ₁ q₁ s₁' →
        τ₁ = [] ∧ s₁' = s₁ := by
  obtain ⟨final, hs'⟩ := of_traceMonitor (reconcile_traced ready few) run accepted
  obtain ⟨result, hresult⟩ := Option.ne_none_iff_exists'.mp finished
  obtain ⟨adds, placed, creates⟩ := Prog.wp_outcome final hresult
  have hok : (∃ action, result = .ok action) ↔ ∃ action, q = .pure action := by
    constructor
    · rintro ⟨action, rfl⟩
      cases q with
      | pure a => exact ⟨a, rfl⟩
      | throw e => cases hresult
      | call c k => cases hresult
    · rintro ⟨action, rfl⟩
      cases hresult
      exact ⟨action, rfl⟩
  rw [hok] at creates
  rw [hs']
  exact ⟨adds, ⟨placed, creates.exact ready.sourceNode uids, creates⟩,
    fun _ _ _ _ _ => run_of_status (Option.some_ne_none _)⟩

/-- A source on the node `n`, with or without a path, and other nodes. -/
def sampleSource (replicas : ℕ) (others : List DataNode) (path : Option String) : Cluster :=
  { sampleCluster replicas others [] with
    dataPods := [{ samplePod "source" "2" ∅ with
      spec := ⟨path, some ⟨"n", some "default"⟩, none, none⟩ }] }

lemma sampleSource_ready (replicas : ℕ) (others : List DataNode) (path : Option String) :
    ∃ source, source.spec.path = path ∧ Ready (sampleSet replicas) "default" "0" source
      (sampleNode "n" "1") (sampleSource replicas others path) :=
  ⟨_, rfl, rfl, rfl, Option.some_ne_none _, rfl, rfl, rfl⟩

lemma sampleSource_uids (replicas : ℕ) (path : Option String) :
    ((sampleSource replicas [sampleNode "m" "3", sampleNode "k" "4"] path).dataNodes.map
      fun node => node.metadata.uid).Nodup := by
  show [some "1", some "3", some "4"].Nodup
  decide

/-- There is no sync pod if the set has a status, and none if the source has no path. -/
theorem placement_not_synced :
    (¬ ∀ (selects : Selects) (drs : DataReplicaSet) (status : Option DataReplicaSetStatus)
      (ns uid : String) (source : DataPod) (sourceNode : DataNode) (s s' : Cluster)
      (τ : List (Event signature)) (q : Reconcile Action),
      source.spec.path ≠ none → Ready drs ns uid source sourceNode s →
      s.counted selects drs ns < drs.spec.replicas →
      (s.dataNodes.map fun node => node.metadata.uid).Nodup →
      Prog.Exec (clusterEnv selects True) ({ drs with status := status } : DataReplicaSet).reconcile
        s τ q s' → q.outcome ≠ none → (∀ e ∈ τ, Accepted e.call e.reply) →
      ∃ pod, s'.pods = s.pods ++ [pod]) ∧
    ¬ ∀ (selects : Selects) (drs : DataReplicaSet) (ns uid : String) (source : DataPod)
      (sourceNode : DataNode) (s s' : Cluster) (τ : List (Event signature)) (q : Reconcile Action),
      Ready drs ns uid source sourceNode s → s.counted selects drs ns < drs.spec.replicas →
      (s.dataNodes.map fun node => node.metadata.uid).Nodup →
      Prog.Exec (clusterEnv selects True) drs.reconcile s τ q s' → q.outcome ≠ none →
      (∀ e ∈ τ, Accepted e.call e.reply) → ∃ pod, s'.pods = s.pods ++ [pod] := by
  constructor
  · intro claim
    obtain ⟨source, hpath, ready⟩ :=
      sampleSource_ready 1 [sampleNode "m" "3", sampleNode "k" "4"] (some "/data")
    have hne : source.spec.path ≠ none := by
      rw [hpath]
      exact Option.some_ne_none _
    -- a set with a status is left alone
    obtain ⟨pod, hpod⟩ := claim sampleSelects (sampleSet 1) (some ⟨true⟩) "default" "0" source
      (sampleNode "n" "1") _ _ [] _ hne ready (by decide) (sampleSource_uids _ _) (.refl _ _)
      (Option.some_ne_none _) (by simp)
    cases hpod
  · intro claim
    obtain ⟨source, _, ready⟩ :=
      sampleSource_ready 1 [sampleNode "m" "3", sampleNode "k" "4"] none
    obtain ⟨τ, q, s', hfollow, hdone, haccepted, hnone⟩ : ∃ τ q s',
        (sampleSet 1).reconcile.follow (Cluster.serve sampleSelects) 20
          (sampleSource 1 [sampleNode "m" "3", sampleNode "k" "4"] none) = some (τ, q, s') ∧
        q.outcome ≠ none ∧ (∀ e ∈ τ, Accepted e.call e.reply) ∧ s'.pods = [] :=
      ⟨_, _, _, rfl, Option.some_ne_none _, by decide, rfl⟩
    have run := Prog.exec_of_follow
      (fun _ _ _ _ h => clusterEnv_of_reliable (clusterEnv_of_serve h)) hfollow
    obtain ⟨pod, hpod⟩ := claim sampleSelects (sampleSet 1) "default" "0" source
      (sampleNode "n" "1") _ s' τ q ready (by decide) (sampleSource_uids _ _) run hdone haccepted
    rw [hnone] at hpod
    cases hpod

/-- Two replicas are placed on the nodes `m` and `k`. -/
theorem placement_exact_one : ∃ (τ : List (Event signature)) (placed : List Placement),
    placed.length = 2 ∧
    ExactPlacement (sampleSet 2) "default" (sampleNode "n" "1") 0
      (sampleSource 2 [sampleNode "m" "3", sampleNode "k" "4"] (some "/data")) placed ∧
    ∃ source, PassCreates (sampleSet 2) "default" "0" source (sampleNode "n" "1") 0
      (sampleSource 2 [sampleNode "m" "3", sampleNode "k" "4"] (some "/data")) placed
      (newObjects τ) True := by
  obtain ⟨source, hpath, ready⟩ :=
    sampleSource_ready 2 [sampleNode "m" "3", sampleNode "k" "4"] (some "/data")
  obtain ⟨τ, action, s', hfollow, haccepted⟩ : ∃ τ action s',
      (sampleSet 2).reconcile.follow (Cluster.serve sampleSelects) 20
        (sampleSource 2 [sampleNode "m" "3", sampleNode "k" "4"] (some "/data")) =
          some (τ, .pure action, s') ∧
      ∀ e ∈ τ, Accepted e.call e.reply :=
    ⟨_, _, _, rfl, by decide⟩
  have run := Prog.exec_of_follow (fun _ _ _ _ h => clusterEnv_of_reliable (clusterEnv_of_serve h))
    hfollow
  obtain ⟨_, ⟨placed, exact, creates⟩, _⟩ := placement_exact ready (by decide)
    (sampleSource_uids _ _) run (Option.some_ne_none _) haccepted
  have htrue : (∃ a : Action, (Prog.pure action : Reconcile Action) = .pure a) = True :=
    eq_true ⟨action, rfl⟩
  rw [htrue] at creates
  exact ⟨τ, placed, exact.length, exact, source, creates⟩

end Kubedal
