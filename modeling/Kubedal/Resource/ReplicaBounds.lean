import Kubedal.Resource.ReplicaObjects

/-!
# How many objects a `DataReplicaSet` owns

Passes over one set, one after another, each of which may fail or be cut off at any point,
while the rest of the cluster changes between them.

* `Passes` are the clusters that are reached, `Accounted` is what holds in all of them;
* `owned_bounded`: as long as no pass starts over, that is, gets to the claim for the source a
  second time, the set owns no more than it should.
-/

namespace Kubedal

open Interaction Kube Resource

/-- The claims of the set for the `DataPod` of that name. -/
def Cluster.pvcsFor (s : Cluster) (drs : DataReplicaSet) (name : String) :
    List PersistentVolumeClaim :=
  (s.ownedPvcs drs).filter fun pvc => podAnnotation pvc.metadata = some name

/-- The bounds on what a set owns. -/
structure Bounded (drs : DataReplicaSet) (s : Cluster) : Prop where
  dataPods : (s.ownedDataPods drs).length ≤ drs.spec.replicas
  syncPods : (s.ownedPods drs).length ≤ 1
  sourcePvcs : (s.pvcsFor drs drs.spec.sourcePod.name).length ≤ 1
  replicaPvcs : ∀ pod ∈ s.ownedDataPods drs, (s.pvcsFor drs (nameAny pod)).length ≤ 1

/-- A pass would get to the claim for the source although there is one: there are too few
replicas, and none of the names is taken of the replicas that the pass would create, one for
each other `DataNode` as long as more are missing. -/
structure StartsOver (selects : Selects) (drs : DataReplicaSet) (ns uid : String) (s : Cluster) :
    Prop where
  few : ¬ Idle selects drs ns s
  free : ∀ index, s.counted selects drs ns ≤ index → index < drs.spec.replicas →
    index < s.counted selects drs ns + (s.otherNodes drs ns).length →
    ∀ pod ∈ s.dataPods, ¬ At ns (replicaName uid index) pod
  claimed : s.pvcsFor drs drs.spec.sourcePod.name ≠ []

/-- The set owns the same objects. -/
structure KeepsOwned (drs : DataReplicaSet) (s s' : Cluster) : Prop where
  dataPods : s'.ownedDataPods drs = s.ownedDataPods drs
  pvcs : s'.ownedPvcs drs = s.ownedPvcs drs
  pods : s'.ownedPods drs = s.ownedPods drs

/-- The clusters reached from `s₀` by passes over the set, each from a cluster of `Guard`. A
pass may be cut off anywhere, and between passes what the set does not own may change. -/
inductive Passes (selects : Selects) (drs : DataReplicaSet) (Guard : Cluster → Prop)
    (s₀ : Cluster) : Cluster → Prop where
  | start : Passes selects drs Guard s₀ s₀
  | pass {s s' : Cluster} {τ : List (Event signature)} {q : Reconcile Action}
      (earlier : Passes selects drs Guard s₀ s) (guard : Guard s)
      (run : Prog.Exec (clusterEnv selects True) drs.reconcile s τ q s') :
      Passes selects drs Guard s₀ s'
  | others {s s' : Cluster} (earlier : Passes selects drs Guard s₀ s)
      (kept : KeepsOwned drs s s') : Passes selects drs Guard s₀ s'

/-! ## What is owned is accounted for -/

/-- Every owned object has its place: the replicas have the names of their indices, and a claim
is for the source or for a replica, and the only one for it. -/
structure Accounted (drs : DataReplicaSet) (ns uid : String) (s : Cluster) : Prop where
  named : ∀ pod ∈ s.ownedDataPods drs, ∃ index < drs.spec.replicas,
    At ns (replicaName uid index) pod
  distinct : ((s.ownedDataPods drs).map fun pod => pod.metadata.name).Nodup
  notSource : ∀ pod ∈ s.ownedDataPods drs, pod.metadata.name ≠ some drs.spec.sourcePod.name
  claims : ∀ pvc ∈ s.ownedPvcs drs, podAnnotation pvc.metadata = some drs.spec.sourcePod.name ∨
    ∃ pod ∈ s.ownedDataPods drs, podAnnotation pvc.metadata = pod.metadata.name
  single : ∀ name, (s.pvcsFor drs name).length ≤ 1
  synced : s.ownedPods drs ≠ [] → s.pvcsFor drs drs.spec.sourcePod.name ≠ []
  syncPods : (s.ownedPods drs).length ≤ 1

lemma Cluster.ownedPvcs_addPvc {s : Cluster} {drs : DataReplicaSet} {pvc : PersistentVolumeClaim}
    (owned : OwnedBy drs pvc.metadata) :
    (s.addPvc pvc).ownedPvcs drs = s.ownedPvcs drs ++ [pvc] := by
  show List.filter _ (s.pvcs ++ [pvc]) = _
  rw [List.filter_append, List.filter_singleton, decide_eq_true owned]
  rfl

lemma Cluster.pvcsFor_addPvc {s : Cluster} {drs : DataReplicaSet} {pvc : PersistentVolumeClaim}
    {name : String} (owned : OwnedBy drs pvc.metadata)
    (forName : podAnnotation pvc.metadata = some name) (name' : String) :
    (s.addPvc pvc).pvcsFor drs name' =
      s.pvcsFor drs name' ++ if name = name' then [pvc] else [] := by
  unfold pvcsFor
  rw [ownedPvcs_addPvc owned, List.filter_append, List.filter_singleton, forName]
  by_cases heq : name = name'
  · rw [if_pos heq, heq]
    simp
  · rw [if_neg heq]
    simp [heq]

lemma NewReplica.namedAt {drs : DataReplicaSet} {index : ℕ} {ns uid : String} {s : Cluster}
    {pod : DataPod} (new : NewReplica drs index ns s pod) (huid : drs.metadata.uid = some uid) :
    At ns (replicaName uid index) pod := by
  obtain ⟨uid', huid', hat⟩ := new.named
  have hsame : uid' = uid := by
    rw [huid] at huid'
    exact (Option.some.inj huid').symm
  rw [← hsame]
  exact hat

namespace Accounted

variable {drs : DataReplicaSet} {ns uid : String} {s s' : Cluster}

/-- What is accounted for is within the bounds. -/
lemma bounded (h : Accounted drs ns uid s) : Bounded drs s := by
  refine ⟨?_, h.syncPods, h.single _, fun pod _ => h.single _⟩
  -- the names of the replicas are distinct and among those with an index below the number asked
  -- for
  have hsub : (s.ownedDataPods drs).map (fun pod => pod.metadata.name) ⊆
      (List.range drs.spec.replicas).map fun index => some (replicaName uid index) := by
    intro name hname
    obtain ⟨pod, hpod, rfl⟩ := List.mem_map.mp hname
    obtain ⟨index, hlt, hat⟩ := h.named pod hpod
    exact List.mem_map.mpr ⟨index, List.mem_range.mpr hlt, hat.2.symm⟩
  have hle := (List.subperm_of_subset h.distinct hsub).length_le
  simpa using hle

lemma of_keepsOwned (h : Accounted drs ns uid s) (kept : KeepsOwned drs s s') :
    Accounted drs ns uid s' := by
  have hfor : ∀ name, s'.pvcsFor drs name = s.pvcsFor drs name := by
    intro name
    unfold Cluster.pvcsFor
    rw [kept.pvcs]
  refine ⟨?_, ?_, ?_, ?_, fun name => ?_, ?_, ?_⟩
  · rw [kept.dataPods]
    exact h.named
  · rw [kept.dataPods]
    exact h.distinct
  · rw [kept.dataPods]
    exact h.notSource
  · rw [kept.dataPods, kept.pvcs]
    exact h.claims
  · rw [hfor]
    exact h.single name
  · rw [kept.pods, hfor]
    exact h.synced
  · rw [kept.pods]
    exact h.syncPods

/-- A new replica has a name of its own. -/
lemma addReplica {index : ℕ} {pod : DataPod} (h : Accounted drs ns uid s)
    (new : NewReplica drs index ns s pod) (huid : drs.metadata.uid = some uid)
    (hlt : index < drs.spec.replicas)
    (source : ∃ d ∈ s.dataPods, At ns drs.spec.sourcePod.name d) :
    Accounted drs ns uid (s.addDataPod pod) := by
  have howned : (s.addDataPod pod).ownedDataPods drs = s.ownedDataPods drs ++ [pod] := by
    show List.filter _ (s.dataPods ++ [pod]) = _
    rw [List.filter_append, List.filter_singleton, decide_eq_true new.owned]
    rfl
  have hat := new.namedAt huid
  -- the API server refuses a name that is taken
  have hother : ∀ d ∈ s.ownedDataPods drs, d.metadata.name ≠ pod.metadata.name := by
    intro d hd
    obtain ⟨_, _, hd'⟩ := h.named d hd
    exact new.new d (List.mem_filter.mp hd).1 hd'.1
  refine ⟨?_, ?_, ?_, ?_, h.single, h.synced, h.syncPods⟩
  · rw [howned]
    intro d hd
    rcases List.mem_append.mp hd with hd | hd
    · exact h.named d hd
    · rw [List.mem_singleton.mp hd]
      exact ⟨index, hlt, hat⟩
  · rw [howned, List.map_append]
    refine List.nodup_append.mpr ⟨h.distinct, List.nodup_singleton _, ?_⟩
    intro name hname name' hname'
    obtain ⟨d, hd, rfl⟩ := List.mem_map.mp hname
    rw [List.map_singleton, List.mem_singleton] at hname'
    rw [hname']
    exact hother d hd
  · rw [howned]
    intro d hd
    rcases List.mem_append.mp hd with hd | hd
    · exact h.notSource d hd
    · rw [List.mem_singleton.mp hd]
      obtain ⟨d', hd', hat'⟩ := source
      rw [← hat'.2]
      exact fun heq => new.new d' hd' hat'.1 heq.symm
  · rw [howned]
    intro pvc hpvc
    rcases h.claims pvc hpvc with hsource | ⟨d, hd, heq⟩
    · exact .inl hsource
    · exact .inr ⟨d, List.mem_append_left _ hd, heq⟩

/-- There is no claim yet for a name that nothing in the namespace has. -/
lemma noClaims {name : String} (h : Accounted drs ns uid s)
    (new : ∀ d ∈ s.dataPods, InNamespace ns d → d.metadata.name ≠ some name)
    (source : ∃ d ∈ s.dataPods, At ns drs.spec.sourcePod.name d) : s.pvcsFor drs name = [] := by
  apply List.filter_eq_nil_iff.mpr
  intro pvc hpvc
  rw [decide_eq_true_eq]
  intro heq
  rcases h.claims pvc hpvc with hsource | ⟨d, hd, hd'⟩
  -- a claim is for the source or for a replica, and both are in the namespace
  · obtain ⟨d, hd, hat⟩ := source
    apply new d hd hat.1
    rw [← heq, hsource]
    exact hat.2
  · obtain ⟨_, _, hat⟩ := h.named d hd
    apply new d (List.mem_filter.mp hd).1 hat.1
    rw [← hd', heq]

/-- A first claim for the source or for a replica. -/
lemma addClaim {name : String} {pvc : PersistentVolumeClaim} (h : Accounted drs ns uid s)
    (owned : OwnedBy drs pvc.metadata) (forName : podAnnotation pvc.metadata = some name)
    (place : name = drs.spec.sourcePod.name ∨
      ∃ pod ∈ s.ownedDataPods drs, pod.metadata.name = some name)
    (first : s.pvcsFor drs name = []) : Accounted drs ns uid (s.addPvc pvc) := by
  have hfor := Cluster.pvcsFor_addPvc (s := s) owned forName
  refine ⟨h.named, h.distinct, h.notSource, ?_, fun name' => ?_, fun hpods => ?_, h.syncPods⟩
  · rw [Cluster.ownedPvcs_addPvc owned]
    intro pvc' hpvc'
    rcases List.mem_append.mp hpvc' with hpvc' | hpvc'
    · exact h.claims pvc' hpvc'
    · rw [List.mem_singleton.mp hpvc', forName]
      rcases place with rfl | ⟨pod, hpod, hname⟩
      · exact .inl rfl
      · exact .inr ⟨pod, hpod, hname.symm⟩
  · rw [hfor]
    by_cases heq : name = name'
    · rw [if_pos heq, ← heq, first]
      exact Nat.le_refl 1
    · rw [if_neg heq, List.append_nil]
      exact h.single name'
  · rw [hfor]
    exact fun hnil => h.synced hpods (List.append_eq_nil_iff.mp hnil).1

/-- The first sync pod, next to the claim for the source. -/
lemma addSyncPod {pod : Pod} (h : Accounted drs ns uid s) (owned : OwnedBy drs pod.metadata)
    (first : s.ownedPods drs = []) (claimed : s.pvcsFor drs drs.spec.sourcePod.name ≠ []) :
    Accounted drs ns uid (s.addPod pod) := by
  have howned : (s.addPod pod).ownedPods drs = [pod] := by
    have hfilter : (s.addPod pod).ownedPods drs = s.ownedPods drs ++ [pod] := by
      show List.filter _ (s.pods ++ [pod]) = _
      rw [List.filter_append, List.filter_singleton, decide_eq_true owned]
      rfl
    rw [hfilter, first]
    rfl
  refine ⟨h.named, h.distinct, h.notSource, h.claims, h.single, fun _ => claimed, ?_⟩
  rw [howned]
  exact Nat.le_refl 1

end Accounted

/-! ## A pass -/

/-- How far a pass that started in `s₀` with `count` replicas is, when it has created all the
replicas below `index`. -/
structure Progress (drs : DataReplicaSet) (ns uid : String) (s₀ : Cluster) (count index : ℕ)
    (s : Cluster) : Prop where
  accounted : Accounted drs ns uid s
  free : ∀ i, count ≤ i → i < index → ∀ pod ∈ s₀.dataPods, ¬ At ns (replicaName uid i) pod
  older : s₀.dataPods ⊆ s.dataPods
  source : ∃ pod ∈ s.dataPods, At ns drs.spec.sourcePod.name pod
  sourcePvcs : s.pvcsFor drs drs.spec.sourcePod.name = s₀.pvcsFor drs drs.spec.sourcePod.name
  pods : s.ownedPods drs = s₀.ownedPods drs

section
variable {selects : Selects} {drs : DataReplicaSet} {ns uid : String} {s₀ s : Cluster}
  {count index : ℕ}

/-- A replica and its claim have been created. -/
lemma Progress.advance {pod : DataPod} {pvc : PersistentVolumeClaim}
    (progress : Progress drs ns uid s₀ count index s) (huid : drs.metadata.uid = some uid)
    (hlt : index < drs.spec.replicas) (new : NewReplica drs index ns s pod)
    (claim : NewClaim drs pod pvc) :
    Progress drs ns uid s₀ count (index + 1) ((s.addDataPod pod).addPvc pvc) := by
  have hat := new.namedAt huid
  have hname : nameAny pod = replicaName uid index := nameAny_of_at hat
  have hnew : ∀ d ∈ s.dataPods, InNamespace ns d →
      d.metadata.name ≠ some (replicaName uid index) := by
    intro d hd hns heq
    exact new.new d hd hns (heq.trans hat.2.symm)
  have accounted' := progress.accounted.addReplica new huid hlt progress.source
  have howned : pod ∈ (s.addDataPod pod).ownedDataPods drs :=
    List.mem_filter.mpr ⟨List.mem_append_right _ (List.mem_singleton_self _),
      by simpa using new.owned⟩
  have hfirst : (s.addDataPod pod).pvcsFor drs (nameAny pod) = [] := by
    rw [hname]
    exact progress.accounted.noClaims hnew progress.source
  refine ⟨accounted'.addClaim claim.owned claim.forPod ?_ hfirst, ?_, ?_, ?_, ?_, progress.pods⟩
  · exact .inr ⟨pod, howned, by rw [hname]; exact hat.2⟩
  -- the name of this replica was free as well, since it has just been created
  · intro i hi hlt' d hd hat'
    by_cases heq : i = index
    · subst heq
      exact hnew d (progress.older hd) hat'.1 hat'.2
    · exact progress.free i hi (by omega) d hd hat'
  · exact fun d hd => List.mem_append_left _ (progress.older hd)
  · obtain ⟨d, hd, hat'⟩ := progress.source
    exact ⟨d, List.mem_append_left _ hd, hat'⟩
  · -- the claim is not one for the source
    have hne : nameAny pod ≠ drs.spec.sourcePod.name := by
      obtain ⟨d, hd, hat'⟩ := progress.source
      rw [hname]
      intro heq
      apply hnew d hd hat'.1
      rw [heq]
      exact hat'.2
    rw [Cluster.pvcsFor_addPvc claim.owned claim.forPod, if_neg hne, List.append_nil]
    exact progress.sourcePvcs

/-- Creating one replica and its claim, for an index that is asked for. -/
lemma createReplica_meets {α : Type} {node : DataNode} {access : MountAccess}
    {f : DataPod → PersistentVolumeClaim → Reconcile α}
    {Q : Cluster → Except (Fault Error) α → Prop} (huid : drs.metadata.uid = some uid)
    (progress : Progress drs ns uid s₀ count index s) (hlt : index < drs.spec.replicas)
    (next : ∀ s' pod pvc, Progress drs ns uid s₀ count (index + 1) s' →
      (f pod pvc).wp (clusterMonitor selects True (Accounted drs ns uid)) s' Q)
    (error : ∀ s' e, Accounted drs ns uid s' → Q s' (.error e)) :
    (createReplicaDataPod index drs node ns >>= fun pod =>
      createReplicaPvc pod node drs access ns >>= fun pvc => f pod pvc).wp
        (clusterMonitor selects True (Accounted drs ns uid)) s Q := by
  have accounted := progress.accounted
  refine Prog.wp_bind (createReplicaDataPod_meets accounted (fun pod new => ?_) fun e => ?_)
  · have accounted' := accounted.addReplica new huid hlt progress.source
    refine Prog.wp_bind (createReplicaPvc_meets accounted' (fun pvc claim => ?_) fun e => ?_)
    · exact next _ pod pvc (progress.advance huid hlt new claim)
    · exact error _ e accounted'
  · exact error _ e accounted

/-- The loop creates the replicas from `index` on, one for each node as long as more are
missing. -/
lemma createReplicas_meets (huid : drs.metadata.uid = some uid) {k : ℕ} {nodes : List DataNode}
    {acc : List (DataPod × PersistentVolumeClaim)}
    (progress : Progress drs ns uid s₀ count index s) (hk : index + k = drs.spec.replicas) :
    (createReplicas drs ns (List.range' index k) nodes acc).wp
      (clusterMonitor selects True (Accounted drs ns uid)) s fun s' r => match r with
        | .ok _ => Progress drs ns uid s₀ count (min drs.spec.replicas (index + nodes.length)) s'
        | .error _ => Accounted drs ns uid s' := by
  induction k generalizing index nodes acc s with
  | zero =>
    have hmin : min drs.spec.replicas (index + nodes.length) = index := by omega
    show Progress drs ns uid s₀ count (min drs.spec.replicas (index + nodes.length)) s
    rw [hmin]
    exact progress
  | succ k ih =>
    rw [List.range'_succ]
    unfold createReplicas
    split
    · rename_i node hlast
      have hpos : 0 < nodes.length := by
        cases nodes with
        | nil => cases hlast
        | cons a l => exact Nat.succ_pos _
      have hlength : index + 1 + nodes.dropLast.length = index + nodes.length := by
        rw [List.length_dropLast]
        omega
      refine createReplica_meets huid progress (by omega) (fun s' pod pvc progress' => ?_)
        fun _ _ accounted => accounted
      rw [← hlength]
      exact ih progress' (by omega)
    -- no node is left, so the loop breaks
    · rename_i hlast
      have hmin : min drs.spec.replicas (index + nodes.length) = index := by
        rw [List.getLast?_eq_none_iff.mp hlast, List.length_nil]
        omega
      show Progress drs ns uid s₀ count (min drs.spec.replicas (index + nodes.length)) s
      rw [hmin]
      exact progress

/-- The branch for too few replicas keeps what is owned accounted for, if it does not start
over. -/
lemma createMissing_meets (huid : drs.metadata.uid = some uid) (accounted : Accounted drs ns uid s)
    (few : ¬ Idle selects drs ns s) (once : ¬ StartsOver selects drs ns uid s) :
    (drs.createMissing ns (s.counted selects drs ns)).wp
      (clusterMonitor selects True (Accounted drs ns uid)) s
      fun s' _ => Accounted drs ns uid s' := by
  have hlt : s.counted selects drs ns < drs.spec.replicas := by
    by_contra hge
    exact few (.inr (Nat.not_lt.mp hge))
  unfold DataReplicaSet.createMissing
  refine Prog.wp_bind (fetchSource_meets accounted (fun source node hget hnode => ?_)
    fun _ => accounted)
  obtain ⟨hmem, hat⟩ := getFrom_ok hget
  refine Prog.wp_bind (wp_cluster_request accounted (fun (nodes : List DataNode) hnodes => ?_)
    fun _ => accounted)
  have hstart : Progress drs ns uid s (s.counted selects drs ns) (s.counted selects drs ns) s :=
    ⟨accounted, fun i hle hlt => absurd hle (Nat.not_le.mpr hlt), fun _ h => h,
      ⟨source, hmem, hat⟩, rfl, rfl⟩
  refine Prog.wp_bind (Prog.wp_mono (createReplicas_meets huid hstart (by omega)) ?_)
  intro s₁ r h₁
  rcases r with e | replicas
  · exact h₁
  -- all the names were free, so there is no claim for the source, and no pod
  rw [otherNodes_of_listed hnode hnodes] at h₁
  have hnone : s.pvcsFor drs drs.spec.sourcePod.name = [] := by
    by_contra claimed
    refine once ⟨few, fun index hle hlt hlt' => ?_, claimed⟩
    exact h₁.free index hle (by omega)
  have hnone₁ : s₁.pvcsFor drs drs.spec.sourcePod.name = [] := h₁.sourcePvcs.trans hnone
  have hpods₁ : s₁.ownedPods drs = [] := by
    by_contra hpods
    exact h₁.accounted.synced hpods hnone₁
  have hsource : nameAny source = drs.spec.sourcePod.name := by
    unfold nameAny
    rw [hat.2]
    rfl
  refine Prog.wp_bind (createReplicaPvc_meets h₁.accounted (fun pvc claim => ?_)
    fun _ => h₁.accounted)
  have forSource : podAnnotation pvc.metadata = some drs.spec.sourcePod.name := by
    rw [← hsource]
    exact claim.forPod
  have accounted₂ := h₁.accounted.addClaim claim.owned forSource (.inl rfl) hnone₁
  have claimed : (s₁.addPvc pvc).pvcsFor drs drs.spec.sourcePod.name ≠ [] := by
    rw [Cluster.pvcsFor_addPvc claim.owned forSource, if_pos rfl]
    simp
  refine Prog.wp_bind (createReplicaPod_meets accounted₂ (fun pod owned => ?_)
    fun _ => accounted₂)
  exact accounted₂.addSyncPod owned hpods₁ claimed

/-- A pass that does not start over keeps what is owned accounted for, at any time. -/
lemma accounted_of_pass {s' : Cluster} {τ : List (Event signature)} {q : Reconcile Action}
    (hns : drs.metadata.ns = some ns) (huid : drs.metadata.uid = some uid)
    (accounted : Accounted drs ns uid s) (once : ¬ StartsOver selects drs ns uid s)
    (run : Prog.Exec (clusterEnv selects True) drs.reconcile s τ q s') :
    Accounted drs ns uid s' := by
  have hmeets : drs.reconcile.wp (clusterMonitor selects True (Accounted drs ns uid)) s
      fun s' _ => Accounted drs ns uid s' := by
    refine reconcile_meets hns accounted (fun _ _ => accounted) (fun few => ?_)
      fun _ _ => accounted
    apply Prog.wp_mono (createMissing_meets huid accounted few once)
    intro s' r h
    rcases r with e | u
    · exact h
    · exact fun _ => h
  have h := of_clusterMonitor hmeets run
  cases q with
  | pure a => exact h
  | throw e => exact h
  | call c k => exact h.1

end

/-- The set owns nothing yet. -/
def OwnsNothing (drs : DataReplicaSet) (s : Cluster) : Prop :=
  s.ownedDataPods drs = [] ∧ s.ownedPvcs drs = [] ∧ s.ownedPods drs = []

lemma OwnsNothing.accounted {drs : DataReplicaSet} {s : Cluster} (h : OwnsNothing drs s)
    (ns uid : String) : Accounted drs ns uid s := by
  obtain ⟨hdataPods, hpvcs, hpods⟩ := h
  have hfor : ∀ name, s.pvcsFor drs name = [] := by
    intro name
    unfold Cluster.pvcsFor
    rw [hpvcs]
    rfl
  refine ⟨?_, ?_, ?_, ?_, fun name => ?_, ?_, ?_⟩
  all_goals simp [hdataPods, hpvcs, hpods, hfor]

/-- As long as no pass starts over, the set never owns more than it should. -/
theorem owned_bounded {selects : Selects} {drs : DataReplicaSet} {ns uid : String}
    {s₀ s : Cluster} (hns : drs.metadata.ns = some ns) (huid : drs.metadata.uid = some uid)
    (nothing : OwnsNothing drs s₀)
    (passes : Passes selects drs (fun s => ¬ StartsOver selects drs ns uid s) s₀ s) :
    Bounded drs s := by
  have accounted : Accounted drs ns uid s := by
    induction passes with
    | start => exact nothing.accounted ns uid
    | pass _ guard run ih => exact accounted_of_pass hns huid ih guard run
    | others _ kept ih => exact ih.of_keepsOwned kept
  exact accounted.bounded

/-- Runs of an API server that does not fail are runs of one that may. -/
lemma pass_of_follow {drs : DataReplicaSet} {s s' : Cluster} {n : ℕ} {τ : List (Event signature)}
    {q : Reconcile Action}
    (h : Prog.follow (Cluster.serve sampleSelects) n drs.reconcile s = some (τ, q, s')) :
    Prog.Exec (clusterEnv sampleSelects True) drs.reconcile s τ q s' :=
  Prog.exec_of_follow (fun _ _ _ _ hserve => clusterEnv_of_reliable (clusterEnv_of_serve hserve)) h

/-- With no node for the one replica that is asked for, every pass creates a claim for the source
and a pod. -/
theorem owned_unbounded :
    ¬ ∀ (selects : Selects) (drs : DataReplicaSet) (ns uid : String) (s₀ s : Cluster),
      drs.metadata.ns = some ns → drs.metadata.uid = some uid → OwnsNothing drs s₀ →
      Passes selects drs (fun _ => True) s₀ s → Bounded drs s := by
  intro claim
  obtain ⟨τ, q, s, τ', q', s', hfirst, hsecond, hpods⟩ : ∃ τ q s τ' q' s',
      Prog.follow (Cluster.serve sampleSelects) 20 (sampleSet 1).reconcile
        (sampleCluster 1 [] []) = some (τ, q, s) ∧
      Prog.follow (Cluster.serve sampleSelects) 20 (sampleSet 1).reconcile s = some (τ', q', s') ∧
      (s'.ownedPods (sampleSet 1)).length = 2 :=
    ⟨_, _, _, _, _, _, rfl, rfl, by rfl⟩
  have nothing : OwnsNothing (sampleSet 1) (sampleCluster 1 [] []) := ⟨rfl, rfl, rfl⟩
  have passes : Passes sampleSelects (sampleSet 1) (fun _ => True) (sampleCluster 1 [] []) s' :=
    .pass (.pass .start trivial (pass_of_follow hfirst)) trivial (pass_of_follow hsecond)
  have hbound := (claim _ _ "default" "0" _ _ rfl rfl nothing passes).syncPods
  omega

/-- With another node, the second pass finds the name of the replica taken. -/
theorem owned_bounded_with_node :
    ∃ s, Passes sampleSelects (sampleSet 1)
        (fun s => ¬ StartsOver sampleSelects (sampleSet 1) "default" "0" s)
        (sampleCluster 1 [sampleNode "m" "3"] []) s ∧
      (s.ownedPods (sampleSet 1)).length = 1 ∧ Bounded (sampleSet 1) s := by
  obtain ⟨τ, q, s, τ', q', s', hfirst, hsecond, htaken, hcount, hpods⟩ : ∃ τ q s τ' q' s',
      Prog.follow (Cluster.serve sampleSelects) 20 (sampleSet 1).reconcile
        (sampleCluster 1 [sampleNode "m" "3"] []) = some (τ, q, s) ∧
      Prog.follow (Cluster.serve sampleSelects) 20 (sampleSet 1).reconcile s = some (τ', q', s') ∧
      (s.dataPods.any fun pod => At "default" (replicaName "0" 0) pod) = true ∧
      (s.counted sampleSelects (sampleSet 1) "default",
        (s.otherNodes (sampleSet 1) "default").length) = (0, 1) ∧
      (s'.ownedPods (sampleSet 1)).length = 1 :=
    ⟨_, _, _, _, _, _, rfl, rfl, by rfl, by rfl, by rfl⟩
  have nothing : OwnsNothing (sampleSet 1) (sampleCluster 1 [sampleNode "m" "3"] []) :=
    ⟨rfl, rfl, rfl⟩
  have guard₁ : ¬ StartsOver sampleSelects (sampleSet 1) "default" "0"
      (sampleCluster 1 [sampleNode "m" "3"] []) := fun h => h.claimed rfl
  have guard₂ : ¬ StartsOver sampleSelects (sampleSet 1) "default" "0" s := by
    intro h
    obtain ⟨hcounted, hothers⟩ := Prod.mk.inj hcount
    obtain ⟨pod, hpod, hat⟩ := List.any_eq_true.mp htaken
    refine h.free 0 (Nat.le_of_eq hcounted) (by decide) ?_ pod hpod (by simpa using hat)
    rw [hcounted, hothers]
    exact Nat.zero_lt_one
  have passes : Passes sampleSelects (sampleSet 1)
      (fun s => ¬ StartsOver sampleSelects (sampleSet 1) "default" "0" s)
      (sampleCluster 1 [sampleNode "m" "3"] []) s' :=
    .pass (.pass .start guard₁ (pass_of_follow hfirst)) guard₂ (pass_of_follow hsecond)
  exact ⟨s', passes, hpods, owned_bounded rfl rfl nothing passes⟩

end Kubedal
