import Kubedal.Resource.ReplicaGaps

/-!
# The labels of the replicas

A pass counts the `DataPod`s that the selector of the set matches, but creates them without the
labels of the template.

* `CountedLater` is what a pass has to leave for the next one to count its replicas;
* `CanPlace` says that a pass can create a replica at all;
* `counted_later_iff`: the replicas of every pass are counted only if the template has no labels
  or no pass creates one.
-/

namespace Kubedal

open Interaction Kube Resource

/-! ## The replicas of a trace -/

def NewObject.dataPod? : NewObject → Option DataPod
  | .dataPod x => some x
  | _ => none

/-- The `DataPod`s that a trace has created. -/
def newDataPods (τ : List (Event signature)) : List DataPod :=
  (newObjects τ).filterMap NewObject.dataPod?

/-- The object has all the labels. -/
def Carries (labels : StringMap String) (m : ObjectMeta) : Prop :=
  ∀ key value, labels.lookup key = some value → (m.labels.getD ∅).lookup key = some value

/-- The replicas that a trace has created have the labels of the template, and the query of the
next pass finds them besides those that were there. -/
structure CountedLater (selects : Selects) (drs : DataReplicaSet) (ns : String) (s : Cluster)
    (τ : List (Event signature)) : Prop where
  labelled : ∀ pod ∈ newDataPods τ, Carries drs.spec.template.metadata.labels pod.metadata
  counted : ∀ pods, s.matched selects drs ns = .ok pods →
    ∃ pods', (s.after τ).matched selects drs ns = .ok pods' ∧
      pods'.length = pods.length + (newDataPods τ).length

section
variable {selects : Selects} {s s' : Cluster} {drs : DataReplicaSet} {ns : String}
  {τ : List (Event signature)} {q : Reconcile Action}

lemma dataPods_addAll (objects : List NewObject) (s : Cluster) :
    (objects.foldl Cluster.add s).dataPods =
      s.dataPods ++ objects.filterMap NewObject.dataPod? := by
  induction objects generalizing s with
  | nil => simp
  | cons object rest ih =>
    rw [List.foldl_cons, ih]
    cases object
    case dataPod pod =>
      have hcons : (NewObject.dataPod pod :: rest).filterMap NewObject.dataPod? =
        [pod] ++ rest.filterMap NewObject.dataPod? := rfl
      rw [hcons, ← List.append_assoc]
      rfl
    all_goals rfl

lemma Adds.dataPods_eq (h : Adds s τ) : (s.after τ).dataPods = s.dataPods ++ newDataPods τ := by
  rw [h]
  exact dataPods_addAll _ _

/-- A replica was created by a request that was answered with it. -/
lemma mem_newDataPods {pod : DataPod} (h : pod ∈ newDataPods τ) :
    ∃ ns' sent, ⟨.kube (.createDataPod ns' sent), Except.ok pod⟩ ∈ τ := by
  obtain ⟨object, hobject, hpod⟩ := List.mem_filterMap.mp h
  obtain ⟨e, he, hnew⟩ := List.mem_flatMap.mp hobject
  obtain ⟨c, a⟩ := e
  unfold newObject at hnew
  split at hnew
  · rename_i ns' sent made hcall hreply
    cases hcall
    cases hreply
    rw [List.mem_singleton.mp hnew] at hpod
    cases hpod
    exact ⟨ns', sent, he⟩
  · rw [List.mem_singleton.mp hnew] at hpod
    cases hpod
  · rw [List.mem_singleton.mp hnew] at hpod
    cases hpod
  · cases hnew

/-- The replicas that are asked for have no labels. -/
def Call.Unlabelled (ns : String) : Call → Prop
  | .kube (.createDataPod ns' pod) => ns' = ns ∧ pod.metadata.labels = none
  | c => c.NoApply

/-- What is stored of a `DataPod` has the labels that were sent. -/
def KeepsLabels : (c : Call) → c.Reply → Prop
  | .kube (.createDataPod ns sent), Except.ok (pod : DataPod) =>
    InNamespace ns pod ∧ pod.metadata.labels = sent.metadata.labels
  | _, _ => True

lemma keepsLabels_of_clusterEnv {c : Call} {a : c.Reply} (h : clusterEnv selects True s c a s') :
    KeepsLabels c a := by
  unfold KeepsLabels
  split
  · rename_i ns sent pod
    have stored : s.Replies selects (.createDataPod ns sent) (.ok pod) := replies_of_answers h.1
    obtain ⟨name, uid, version, _, _, _, hpod⟩ := stored
    rw [hpod]
    exact ⟨rfl, rfl⟩
  · trivial

lemma uses_unlabelled (hns : namespaceOf drs = some ns) :
    drs.reconcile.Uses (Call.Unlabelled ns) := by
  apply uses_reconcileSet
  case hd =>
    intro ns' pod hns' sent
    rw [hns] at hns'
    cases hns'
    exact ⟨rfl, sent.unlabelled⟩
  all_goals intros; trivial

/-- A pass only adds, and the replicas that it creates have no labels. -/
lemma reconcile_unlabelled (hns : namespaceOf drs = some ns)
    (run : Prog.Exec (clusterEnv selects True) drs.reconcile s τ q s') :
    Adds s τ ∧ ∀ pod ∈ newDataPods τ, InNamespace ns pod ∧ pod.metadata.labels = none := by
  have calls := run.uses (uses_unlabelled hns)
  have answers := run.events fun _ _ _ _ answered => keepsLabels_of_clusterEnv answered
  constructor
  · apply Adds.of_noApply
    rintro ⟨c, a⟩ he
    have hc := calls _ he
    rcases c with c | c | c | c | c | _ | _
    case kube =>
      cases c
      case createDataPod => trivial
      all_goals exact hc
    all_goals trivial
  · intro pod hpod
    obtain ⟨ns', sent, he⟩ := mem_newDataPods hpod
    obtain ⟨rfl, hlabels⟩ := calls _ he
    obtain ⟨hns', hkept⟩ := answers _ he
    exact ⟨hns', hkept.trans hlabels⟩

/-! ## Counting again -/

/-- What the next query finds: what was found before, and the new replicas if the selector
matches an object without labels. -/
lemma matched_after {matched : StringMap String → Bool}
    (hselects : selects (renderSelector drs.spec.selector.labels) = some matched) (adds : Adds s τ)
    (unlabelled : ∀ pod ∈ newDataPods τ, InNamespace ns pod ∧ pod.metadata.labels = none) :
    ∃ pods, s.matched selects drs ns = .ok pods ∧ (s.after τ).matched selects drs ns =
      .ok (pods ++ if matched ∅ then newDataPods τ else []) := by
  have hall : (newDataPods τ).filter (fun pod =>
      InNamespace ns pod ∧ matched ((Resource.metadata pod).labels.getD ∅)) =
        if matched ∅ then newDataPods τ else [] := by
    by_cases hempty : matched ∅
    · rw [if_pos hempty]
      apply List.filter_eq_self.mpr
      intro pod hpod
      obtain ⟨hin, hlabels⟩ := unlabelled pod hpod
      have hmeta : (Resource.metadata pod).labels = none := hlabels
      simp [hin, hmeta, hempty]
    · rw [if_neg hempty]
      apply List.filter_eq_nil_iff.mpr
      intro pod hpod
      have hmeta : (Resource.metadata pod).labels = none := (unlabelled pod hpod).2
      simp [hmeta, hempty]
  unfold Cluster.matched listFrom
  simp only [hselects, adds.dataPods_eq]
  exact ⟨_, rfl, by rw [List.filter_append, hall]⟩

/-! ## Passes that can create a replica -/

/-- A pass can create a replica: one is missing, there is a node for it, and the name of the first
missing index is free. -/
structure CanPlace (selects : Selects) (drs : DataReplicaSet) (ns : String) (s : Cluster) :
    Prop where
  ready : ∃ uid source node, Ready drs ns uid source node s ∧
    ∀ d ∈ s.dataPods, ¬ At ns (replicaName uid (s.counted selects drs ns)) d
  matched : ∃ pods, s.matched selects drs ns = .ok pods
  few : s.counted selects drs ns < drs.spec.replicas
  nodes : s.otherNodes drs ns ≠ []

/-- The environment of a pass, with nothing to check. -/
abbrev anyMonitor (selects : Selects) : Monitor signature Cluster :=
  clusterMonitor selects True fun _ => True

lemma wp_any {α : Type} {p : Reconcile α} {Q : Cluster → Except (Fault Error) α → Prop}
    (h : ∀ s' result, Q s' result) : p.wp (anyMonitor selects) s Q :=
  (Prog.uses_any p).wp_invariant (fun _ => True) (fun _ _ _ _ => trivial)
    (fun _ _ _ _ _ _ => trivial) trivial fun s' result _ => h s' result

/-- A function that changes no `DataPod`. -/
lemma wp_sameDataPods {α : Type} {p : Reconcile α} {Q : Cluster → Except (Fault Error) α → Prop}
    (hp : p.Uses Call.KeepsDataPods)
    (hQ : ∀ s' result, s'.dataPods = s.dataPods → Q s' result) :
    p.wp (anyMonitor selects) s Q := by
  apply hp.wp_invariant (fun s' => s'.dataPods = s.dataPods) (fun _ _ _ _ => trivial)
  · intro s' c a hc _ hs'
    exact (Cluster.next_dataPods hc s' a).trans hs'
  · rfl
  · exact hQ

/-- A replica is created only by a set that can own it, and only if its name is free. -/
lemma createReplicaDataPod_places {index : ℕ} {node : DataNode}
    {Q : Cluster → Except (Fault Error) DataPod → Prop}
    (ok : ∀ s' pod uid owner, drs.metadata.uid = some uid → ownerRef drs = some owner →
      (∀ d ∈ s.dataPods, ¬ At ns (replicaName uid index) d) → Q s' (.ok pod))
    (error : ∀ e, Q s (.error e)) :
    (createReplicaDataPod index drs node ns).wp (anyMonitor selects) s Q := by
  unfold createReplicaDataPod
  apply Prog.wp_bind
  refine wp_orReturn (fun uid huid => ?_) fun _ _ => error _
  apply Prog.wp_bind
  refine wp_orReturn (fun drsNs _ => ?_) fun _ _ => error _
  apply Prog.wp_bind
  refine wp_orReturn (fun owner howner => ?_) fun _ _ => error _
  refine wp_cluster_request trivial (fun (pod : DataPod) stored => ?_) error
  obtain ⟨name, podUid, version, hname, free, _, _⟩ := stored
  cases hname
  exact ok _ pod uid owner (eq_some_of_okOr huid) (eq_some_of_okOr howner) free

/-- The loop changes no `DataPod`, or it creates one with its first index. -/
lemma createReplicas_places {P : Prop} (indices : List ℕ) (nodes : List DataNode)
    (acc : List (DataPod × PersistentVolumeClaim))
    (places : ∀ index rest uid owner, indices = index :: rest → nodes ≠ [] →
      drs.metadata.uid = some uid → ownerRef drs = some owner →
      (∀ d ∈ s.dataPods, ¬ At ns (replicaName uid index) d) → P) :
    (createReplicas drs ns indices nodes acc).wp (anyMonitor selects) s
      fun s' _ => s'.dataPods = s.dataPods ∨ P := by
  cases indices with
  | nil => exact .inl rfl
  | cons index rest =>
    unfold createReplicas
    cases hlast : nodes.getLast? with
    | none => exact .inl rfl
    | some node =>
      have hnodes : nodes ≠ [] := by
        rintro rfl
        cases hlast
      apply Prog.wp_bind
      apply createReplicaDataPod_places
      · intro s' pod uid owner huid howner free
        have hP := places index rest uid owner rfl hnodes huid howner free
        apply wp_any
        exact fun _ _ => .inr hP
      · intro e
        exact .inl rfl

lemma createMissing_places {P : Prop} (count : ℕ)
    (places : ∀ uid owner node, count < drs.spec.replicas → drs.metadata.uid = some uid →
      ownerRef drs = some owner → s.sourceNode drs ns = some node → s.otherNodes drs ns ≠ [] →
      (∀ d ∈ s.dataPods, ¬ At ns (replicaName uid count) d) → P) :
    (drs.createMissing ns count).wp (anyMonitor selects) s
      fun s' _ => s'.dataPods = s.dataPods ∨ P := by
  unfold DataReplicaSet.createMissing
  apply Prog.wp_bind
  refine fetchSource_meets trivial (fun source node _ hnode => ?_) fun e => .inl rfl
  apply Prog.wp_bind
  refine wp_cluster_request trivial (fun (nodes : List DataNode) listed => ?_) fun e => .inl rfl
  simp only
  rw [otherNodes_of_listed hnode listed]
  apply Prog.wp_bind
  have loop : (createReplicas drs ns (List.range' count (drs.spec.replicas - count))
      (s.otherNodes drs ns) []).wp (anyMonitor selects) s
        fun s' _ => s'.dataPods = s.dataPods ∨ P := by
    apply createReplicas_places
    intro index rest uid owner hrange hnodes huid howner free
    have hlength := congrArg List.length hrange
    rw [List.length_range', List.length_cons] at hlength
    have hfirst := congrArg List.head? hrange
    rw [List.head?_range', if_neg (by omega)] at hfirst
    cases hfirst
    exact places uid owner node (by omega) huid howner hnode hnodes free
  apply Prog.wp_mono loop
  intro s₁ result hs₁
  -- what comes after the loop changes no `DataPod`
  rcases result with e | replicas
  · exact hs₁
  rcases hs₁ with hs₁ | hP
  · apply wp_sameDataPods
    · apply (uses_createReplicaPvc trivial fun _ _ => trivial).bind
      intro pvc
      exact (uses_createReplicaPod trivial fun _ _ => trivial).bind fun _ => trivial
    · exact fun s' _ hs' => .inl (hs'.trans hs₁)
  · exact wp_any fun _ _ => .inr hP

/-- A pass changes no `DataPod`, unless it can create a replica. -/
lemma reconcile_places (hns : namespaceOf drs = some ns) :
    drs.reconcile.wp (anyMonitor selects) s
      fun s' _ => s'.dataPods = s.dataPods ∨ CanPlace selects drs ns s := by
  unfold DataReplicaSet.reconcile
  split
  · exact .inl rfl
  rename_i hstatus
  have hnone : drs.status = none := by simpa using hstatus
  unfold DataReplicaSet.reconcileReplicas
  rw [hns]
  show Prog.wp _ (request _ >>= _) _ _
  apply Prog.wp_bind
  refine wp_cluster_request trivial (fun (pods : List DataPod) listed => ?_) fun e => .inl rfl
  have hmatched : s.matched selects drs ns = .ok pods := listed.symm
  have hcount : s.counted selects drs ns = pods.length := Cluster.counted_of_matched hmatched.symm
  show Prog.wp _ (drs.compareCount ns pods.length) s _
  unfold DataReplicaSet.compareCount
  rw [← hcount]
  split
  · exact .inl rfl
  split
  · apply Prog.wp_bind
    have missing : (drs.createMissing ns (s.counted selects drs ns)).wp (anyMonitor selects) s
        fun s' _ => s'.dataPods = s.dataPods ∨ CanPlace selects drs ns s := by
      apply createMissing_places
      intro uid owner node few huid howner hnode hnodes free
      obtain ⟨source, hsource⟩ := source_of_sourceNode hnode
      have hname : drs.metadata.name ≠ none := by
        intro hname
        have hmeta : (Resource.metadata drs).name = none := hname
        unfold ownerRef at howner
        rw [hmeta] at howner
        cases howner
      exact ⟨⟨uid, source, node, ⟨hnone, huid, hname, hns, hsource, hnode⟩, free⟩,
        ⟨pods, hmatched⟩, few, hnodes⟩
    apply Prog.wp_mono missing
    intro s' result hs'
    rcases result with e | _
    all_goals exact hs'
  · exact .inl rfl

/-- Without a replica that can be created, none is. -/
lemma newDataPods_nil (hns : namespaceOf drs = some ns) (hplace : ¬ CanPlace selects drs ns s)
    (run : Prog.Exec (clusterEnv selects True) drs.reconcile s τ q s')
    (finished : q.outcome ≠ none) :
    newDataPods τ = [] := by
  obtain ⟨result, hresult⟩ := Option.ne_none_iff_exists'.mp finished
  have hs' := Prog.wp_outcome (of_clusterMonitor (reconcile_places hns) run) hresult
  have hsame := hs'.resolve_right hplace
  rw [Cluster.eq_after run, (reconcile_unlabelled hns run).1.dataPods_eq] at hsame
  exact List.append_right_eq_self.mp hsame

/-! ## A pass that creates a replica -/

/-- The trace has created a replica. -/
abbrev Places : List (Event signature) → Prop := fun τ => newDataPods τ ≠ []

lemma env_of_replies {c : KubeCall} {object : c.Object}
    (replied : s.Replies selects c (.ok object)) :
    clusterEnv selects True s (.kube c) (Except.ok object) (s.nextKube c object) :=
  ⟨.inl replied, rfl⟩

/-- Whatever a function does, it can come to its end. -/
lemma canEnd_any {α : Type} (p : Reconcile α) (s : Cluster) {P : List (Event signature) → Prop}
    (h : ∀ τ, P τ) : p.CanEnd (clusterEnv selects True) s P := by
  obtain ⟨τ, q, s', run, finished⟩ := Prog.exists_exec (clusterEnv_total selects True) p s
  exact ⟨τ, q, s', run, finished, h τ⟩

variable {β : Type} {uid : String}

/-- A request for a `DataPod` whose name is free. -/
lemma canEnd_requestPlace {pod : DataPod} {name : String} {f : DataPod → Reconcile β}
    (hname : pod.metadata.name = some name) (free : ∀ d ∈ s.dataPods, ¬ At ns name d) :
    (request (.createDataPod ns pod) >>= f).CanEnd (clusterEnv selects True) s Places := by
  have replied : s.Replies selects (.createDataPod ns pod)
      (.ok { pod with metadata := pod.metadata.stored ns (freshUid s.uids) "" }) :=
    ⟨name, freshUid s.uids, "", hname, free, freshUid_notMem _, rfl⟩
  apply canEnd_request (env_of_replies replied)
  apply canEnd_any
  intro τ
  exact List.cons_ne_nil _ _

lemma canEnd_place {index : ℕ} {node : DataNode} {owner : OwnerReference}
    {f : DataPod → Reconcile β} (huid : drs.metadata.uid = some uid)
    (hns : namespaceOf drs = some ns) (howner : ownerRef drs = some owner)
    (free : ∀ d ∈ s.dataPods, ¬ At ns (replicaName uid index) d) :
    (createReplicaDataPod index drs node ns >>= f).CanEnd (clusterEnv selects True) s Places := by
  unfold createReplicaDataPod
  rw [huid, hns, howner]
  exact canEnd_requestPlace rfl free

lemma canEnd_createMissing_places {source : DataPod} {node : DataNode} {count : ℕ}
    {f : Unit → Reconcile β} (ready : Ready drs ns uid source node s)
    (few : count < drs.spec.replicas) (nodes : s.otherNodes drs ns ≠ [])
    (free : ∀ d ∈ s.dataPods, ¬ At ns (replicaName uid count) d) :
    (drs.createMissing ns count >>= f).CanEnd (clusterEnv selects True) s Places := by
  obtain ⟨refOwner, hrefOwner, hnode⟩ := owner_of_sourceNode ready.source ready.sourceNode
  obtain ⟨owner, howner⟩ := ready.owner
  have hpod : s.Replies selects (.getDataPod ns drs.spec.sourcePod.name) (.ok source) :=
    ready.source.symm
  have hown : s.Replies selects (.getDataNode ns refOwner.name) (.ok node) := hnode.symm
  have hlisted : s.Replies selects (.listDataNodes ns {})
      (.ok (s.dataNodes.filter fun n => InNamespace ns n)) := rfl
  unfold DataReplicaSet.createMissing DataReplicaSet.fetchSource
  apply Prog.CanEnd.assoc
  apply Prog.CanEnd.assoc
  apply canEnd_request (env_of_replies hpod)
  rw [hrefOwner]
  show Prog.CanEnd _ ((request (.getDataNode ns refOwner.name) >>= _) >>= _) s _
  apply Prog.CanEnd.assoc
  apply canEnd_request (env_of_replies hown)
  apply Prog.CanEnd.assoc
  apply canEnd_request (env_of_replies hlisted)
  apply Prog.CanEnd.assoc
  rw [otherNodes_of_listed ready.sourceNode hlisted]
  -- the first missing index goes on the last of the other nodes
  obtain ⟨rest, hrange⟩ :
      ∃ rest, List.range' count (drs.spec.replicas - count) = count :: rest := by
    obtain ⟨n, hn⟩ := Nat.exists_eq_succ_of_ne_zero (Nat.sub_ne_zero_of_lt few)
    rw [hn]
    exact ⟨_, List.range'_succ⟩
  obtain ⟨last, hlast⟩ := Option.ne_none_iff_exists'.mp
    (mt List.getLast?_eq_none_iff.mp nodes)
  rw [hrange]
  unfold createReplicas
  rw [hlast]
  apply Prog.CanEnd.assoc
  exact canEnd_place ready.uid ready.namespaced howner free

/-- If a replica can be created, some pass creates one. -/
lemma CanPlace.canEnd (h : CanPlace selects drs ns s) :
    drs.reconcile.CanEnd (clusterEnv selects True) s Places := by
  obtain ⟨⟨uid, source, node, ready, free⟩, ⟨pods, hmatched⟩, few, nodes⟩ := h
  have hpods : s.Replies selects
      (.listDataPods ns ⟨some (renderSelector drs.spec.selector.labels)⟩) (.ok pods) :=
    hmatched.symm
  have hcount : s.counted selects drs ns = pods.length := Cluster.counted_of_matched hmatched.symm
  have hns : namespaceOf drs = some ns := ready.namespaced
  unfold DataReplicaSet.reconcile
  rw [ready.status]
  show Prog.CanEnd _ drs.reconcileReplicas s _
  unfold DataReplicaSet.reconcileReplicas
  rw [hns]
  show Prog.CanEnd _ (request _ >>= _) s _
  apply canEnd_request (env_of_replies hpods)
  show Prog.CanEnd _ (drs.compareCount ns pods.length) s _
  unfold DataReplicaSet.compareCount
  rw [← hcount, if_neg (Nat.ne_of_lt few), if_pos few]
  exact canEnd_createMissing_places ready few nodes free

/-! ## The exact condition -/

/-- The labels of the selector are among those of the template. -/
def SelectorInTemplate (drs : DataReplicaSet) : Prop :=
  ∀ key value, drs.spec.selector.labels.lookup key = some value →
    drs.spec.template.metadata.labels.lookup key = some value

/-- With a template without labels, the selector has none either. -/
lemma renderSelector_empty (included : SelectorInTemplate drs)
    (hempty : drs.spec.template.metadata.labels.entries = []) :
    renderSelector drs.spec.selector.labels = "" := by
  have hnone : drs.spec.selector.labels.entries = [] := by
    apply List.eq_nil_iff_forall_not_mem.mpr
    intro entry hentry
    have hmem := AList.mem_lookup_iff.mp
      (included entry.1 entry.2 (AList.mem_lookup_iff.mpr hentry))
    rw [hempty] at hmem
    cases hmem
  unfold renderSelector
  rw [hnone]
  rfl

/-- If the template has labels and a replica can be created, some pass creates one without them. -/
lemma exists_uncounted (hns : drs.metadata.ns = some ns)
    (hlabels : drs.spec.template.metadata.labels.entries ≠ []) (place : CanPlace selects drs ns s) :
    ∃ τ q s', Prog.Exec (clusterEnv selects True) drs.reconcile s τ q s' ∧ q.outcome ≠ none ∧
      ¬ CountedLater selects drs ns s τ := by
  obtain ⟨τ, q, s', run, finished, placed⟩ := place.canEnd
  refine ⟨τ, q, s', run, finished, fun counted => ?_⟩
  obtain ⟨pod, hpod⟩ := List.exists_mem_of_ne_nil _ placed
  obtain ⟨_, hnone⟩ := (reconcile_unlabelled hns run).2 pod hpod
  obtain ⟨entry, hentry⟩ := List.exists_mem_of_ne_nil _ hlabels
  have carried := counted.labelled pod hpod entry.1 entry.2 (AList.mem_lookup_iff.mpr hentry)
  rw [hnone] at carried
  cases carried

end

/-- The replicas of every pass carry the labels of the template and are counted by the next pass,
exactly if the template has no labels or no pass can create a replica. -/
theorem counted_later_iff {selects : Selects} {drs : DataReplicaSet} {ns : String} {s : Cluster}
    (hns : drs.metadata.ns = some ns) (included : SelectorInTemplate drs)
    (everything : selects "" = some fun _ => true) :
    (∀ τ q s', Prog.Exec (clusterEnv selects True) drs.reconcile s τ q s' → q.outcome ≠ none →
      CountedLater selects drs ns s τ) ↔
    drs.spec.template.metadata.labels.entries = [] ∨ ¬ CanPlace selects drs ns s := by
  constructor
  · intro counted
    by_contra h
    obtain ⟨hlabels, hplace⟩ := not_or.mp h
    obtain ⟨τ, q, s', run, finished, uncounted⟩ :=
      exists_uncounted hns hlabels (not_not.mp hplace)
    exact uncounted (counted τ q s' run finished)
  · intro h τ q s' run finished
    obtain ⟨adds, unlabelled⟩ := reconcile_unlabelled hns run
    rcases h with hempty | hplace
    · have hselects : selects (renderSelector drs.spec.selector.labels) = some fun _ => true := by
        rw [renderSelector_empty included hempty]
        exact everything
      obtain ⟨pods, hpods, hafter⟩ := matched_after hselects adds unlabelled
      refine ⟨fun pod _ key value hvalue => ?_, fun pods' hpods' => ?_⟩
      · have hmem : (⟨key, value⟩ : Sigma fun _ : String => String) ∈
            drs.spec.template.metadata.labels.entries := AList.mem_lookup_iff.mp hvalue
        rw [hempty] at hmem
        cases hmem
      · rw [hpods] at hpods'
        cases hpods'
        exact ⟨_, hafter, by simp⟩
    · have hnew := newDataPods_nil hns hplace run finished
      refine ⟨fun pod hpod => ?_, fun pods hpods => ⟨pods, ?_, ?_⟩⟩
      · rw [hnew] at hpod
        cases hpod
      · have hsame : (s.after τ).dataPods = s.dataPods := by
          rw [adds.dataPods_eq, hnew, List.append_nil]
        unfold Cluster.matched at hpods ⊢
        rw [hsame]
        exact hpods
      · rw [hnew]
        rfl

/-- The selector without labels matches everything. -/
def openSelects : Selects := fun text =>
  if text = "" then some fun _ => true else sampleSelects text

/-- The replica on the node `m` is created without the label `app`. -/
theorem replicas_not_counted : ¬ ∀ (selects : Selects) (drs : DataReplicaSet) (ns : String)
    (s s' : Cluster) (τ : List (Event signature)) (q : Reconcile Action),
    drs.metadata.ns = some ns → SelectorInTemplate drs → (selects "" = some fun _ => true) →
    Prog.Exec (clusterEnv selects True) drs.reconcile s τ q s' → q.outcome ≠ none →
    CountedLater selects drs ns s τ := by
  intro claim
  have place : CanPlace openSelects (sampleSet 1) "default"
      (sampleCluster 1 [sampleNode "m" "3"] []) := by
    refine ⟨⟨"0", _, sampleNode "n" "1", ⟨rfl, rfl, Option.some_ne_none _, rfl, rfl, rfl⟩, ?_⟩,
      ⟨_, rfl⟩, by decide, by decide⟩
    intro d hd hat
    rw [List.mem_singleton.mp hd] at hat
    exact replicaName_ne_source _ (Option.some.inj hat.2).symm
  obtain ⟨τ, q, s', run, finished, uncounted⟩ :=
    exists_uncounted (rfl : (sampleSet 1).metadata.ns = some "default") (List.cons_ne_nil _ _) place
  exact uncounted (claim openSelects (sampleSet 1) "default" _ s' τ q rfl (fun _ _ h => h) rfl run
    finished)

/-- A set whose template and selector have no labels. -/
def sampleOpenSet : DataReplicaSet :=
  { sampleSet 2 with
    spec := { (sampleSet 2).spec with
      selector := ⟨∅⟩
      template := ⟨⟨∅⟩, ⟨none, none, none, none⟩⟩ } }

theorem open_replicas_counted : sampleOpenSet.spec.replicas = 2 ∧
    ∀ τ q s', Prog.Exec (clusterEnv openSelects True) sampleOpenSet.reconcile
      (sampleCluster 2 [sampleNode "m" "3"] []) τ q s' → q.outcome ≠ none →
      CountedLater openSelects sampleOpenSet "default" (sampleCluster 2 [sampleNode "m" "3"] [])
        τ :=
  ⟨rfl, (counted_later_iff (rfl : sampleOpenSet.metadata.ns = some "default") (fun _ _ h => h)
    rfl).mpr (.inl rfl)⟩

end Kubedal
