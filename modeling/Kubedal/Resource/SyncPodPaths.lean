import Kubedal.Resource.ReplicaLabels

/-!
# The paths of the sync pod

The sync pod mounts the source where its path says, and the replica with index `i` at
`/replica-i`. The indices are those of one set, and the path of the source may be any.

* `Cluster.newIndices` are the indices of the replicas that a pass creates;
* `createReplicas_paths` is the loop that creates them;
* `sync_paths_distinct_iff` says for every pass when its sync pod mounts two volumes at one path.
-/

namespace Kubedal

open Interaction Kube Resource

/-- The path of a replica. -/
def replicaPath (index : ℕ) : String := "/replica-" ++ toString index

/-- The path of the source of a set. -/
def Cluster.sourcePath (s : Cluster) (drs : DataReplicaSet) (ns : String) : Option String :=
  (getFrom s.dataPods ns drs.spec.sourcePod.name).toOption.bind fun source => source.spec.path

/-- The indices of the replicas that a pass creates: as many as are missing or as there are nodes
for. -/
def Cluster.newIndices (s : Cluster) (selects : Selects) (drs : DataReplicaSet) (ns : String) :
    List ℕ :=
  List.range' (s.counted selects drs ns)
    (min (drs.spec.replicas - s.counted selects drs ns) (s.otherNodes drs ns).length)

/-- No two volumes of the pod are mounted at one path. -/
def MountsApart (pod : Pod) : Prop := (pod.volumeMounts.map VolumeMount.mountPath).Nodup

/-- The source is at none of the paths of the new replicas. -/
def SourceApart (selects : Selects) (drs : DataReplicaSet) (ns : String) (s : Cluster) : Prop :=
  ∀ index ∈ s.newIndices selects drs ns, s.sourcePath drs ns ≠ some (replicaPath index)

/-! ## The mounts -/

/-- The replicas are at the paths of their indices. -/
def PathsOf (replicas : List Replica) (indices : List ℕ) : Prop :=
  replicas.map (fun replica => replica.1.spec.path) = indices.map fun i => some (replicaPath i)

section
variable {replicas : List Replica} {indices : List ℕ} {sourcePath : String}
  {sourcePvc : PersistentVolumeClaim} {pod : Pod}

lemma PathsOf.ne_none (h : PathsOf replicas indices) :
    ∀ replica ∈ replicas, replica.1.spec.path ≠ none := by
  intro replica hreplica
  have hmem : replica.1.spec.path ∈ replicas.map fun replica => replica.1.spec.path :=
    List.mem_map_of_mem hreplica
  rw [h] at hmem
  obtain ⟨index, _, hindex⟩ := List.mem_map.mp hmem
  rw [← hindex]
  exact Option.some_ne_none _

lemma PathsOf.mountPaths (h : PathsOf replicas indices) :
    replicas.map mountPathOf = indices.map replicaPath := by
  have hmap : replicas.map mountPathOf =
      (replicas.map fun replica => replica.1.spec.path).map fun path => path.getD "" := by
    rw [List.map_map]
    rfl
  rw [hmap, h, List.map_map]
  rfl

lemma replicaPath_injective : Function.Injective replicaPath := by
  intro m n h
  exact toString_injective ((String.append_right_inj _).mp h)

/-- Only the source can be at the path of a replica. -/
lemma mountsApart_iff (paths : PathsOf replicas indices) (distinct : indices.Nodup)
    (h : HasVolumes sourcePath (wiredVolumes sourcePath sourcePvc replicas) pod) :
    MountsApart pod ↔ ∀ index ∈ indices, sourcePath ≠ replicaPath index := by
  have hmounts : pod.volumeMounts.map VolumeMount.mountPath =
      sourcePath :: indices.map replicaPath := by
    rw [h.mounts, ← paths.mountPaths, ← replicaMounts_paths 0]
    rfl
  unfold MountsApart
  rw [hmounts, List.nodup_cons]
  constructor
  · rintro ⟨hsource, _⟩ index hindex rfl
    exact hsource (List.mem_map_of_mem hindex)
  · intro apart
    refine ⟨fun hmem => ?_, distinct.map replicaPath_injective⟩
    obtain ⟨index, hindex, hpath⟩ := List.mem_map.mp hmem
    exact apart index hindex hpath.symm

end

/-! ## The pass -/

/-- Allows only the pods that satisfy `Allowed`. -/
def podMonitor (selects : Selects) (Allowed : Pod → Prop) : Monitor signature Cluster :=
  { anyMonitor selects with
    allows := fun _ c => ∀ ns pod, c = .kube (.createPod ns pod) → Allowed pod }

/-- The call creates no pod. -/
def Call.MakesNoPod : Call → Prop
  | .kube (.createPod _ _) => False
  | _ => True

section
variable {selects : Selects} {Allowed : Pod → Prop} {s : Cluster} {drs : DataReplicaSet}
  {ns : String}

/-- The part of a pass that creates no pod. -/
lemma wp_makesNoPod {α : Type} {p : Reconcile α} {Q : Cluster → Except (Fault Error) α → Prop}
    (hp : p.Uses Call.MakesNoPod) (h : p.wp (anyMonitor selects) s Q) :
    p.wp (podMonitor selects Allowed) s Q := by
  induction p generalizing s with
  | pure a => exact h
  | throw e => exact h
  | call c k ih =>
    refine ⟨fun ns pod hc => ?_, fun a assumed => ih a (hp.2 a) (h.2 a assumed)⟩
    have makes := hp.1
    rw [hc] at makes
    exact makes.elim

/-- The loop uses one index after the other, as long as there are nodes. -/
lemma createReplicas_paths (indices : List ℕ) (nodes : List DataNode) {acc : List Replica}
    {before : List ℕ} (paths : PathsOf acc before) :
    (createReplicas drs ns indices nodes acc).wp (anyMonitor selects) s fun _ result =>
      ∀ replicas, result = .ok replicas →
        PathsOf replicas (before ++ indices.take nodes.length) := by
  induction indices generalizing s nodes acc before with
  | nil =>
    rintro replicas ⟨⟩
    simpa using paths
  | cons index rest ih =>
    unfold createReplicas
    cases hlast : nodes.getLast? with
    | none =>
      have hnodes : nodes = [] := List.getLast?_eq_none_iff.mp hlast
      rintro replicas ⟨⟩
      simpa [hnodes] using paths
    | some node =>
      have hlength : nodes.length = nodes.dropLast.length + 1 := by
        obtain ⟨front, rfl⟩ := List.getLast?_eq_some_iff.mp hlast
        simp
      rw [hlength, List.take_succ_cons]
      apply Prog.wp_bind
      apply createReplicaDataPod_meets trivial
      · intro pod made
        apply Prog.wp_bind
        apply createReplicaPvc_meets trivial
        · intro pvc _
          have paths' : PathsOf (acc ++ [(pod, pvc)]) (before ++ [index]) := by
            unfold PathsOf at paths ⊢
            rw [List.map_append, List.map_append, paths]
            show _ ++ [pod.spec.path] = _
            rw [made.path]
            rfl
          have loop := ih nodes.dropLast paths' (s := (s.addDataPod pod).addPvc pvc)
          simpa using loop
        · intro e replicas h
          cases h
      · intro e replicas h
        cases h

/-- The sync pod has a mount for the source and one for each replica. -/
lemma createReplicaPod_paths {source : DataPod} {sourcePvc : PersistentVolumeClaim}
    {replicas : List Replica} {indices : List ℕ} (paths : PathsOf replicas indices)
    (distinct : indices.Nodup)
    (allowed : ∀ pod, (MountsApart pod ↔ ∀ index ∈ indices,
      source.spec.path ≠ some (replicaPath index)) → Allowed pod) :
    (createReplicaPod drs source sourcePvc replicas ns).wp (podMonitor selects Allowed) s
      fun _ _ => True := by
  unfold createReplicaPod
  apply Prog.wp_bind
  apply wp_makesNoPod (uses_randSuffix trivial)
  refine randSuffix_meets trivial fun suffix => ?_
  apply Prog.wp_bind
  unfold replicaOwner
  refine wp_orReturn (fun owner _ => ?_) fun _ _ => trivial
  cases hpath : source.spec.path with
  | none => trivial
  | some sourcePath =>
    show Prog.wp _ (orReturn (mountReplicas source 0 replicas _) >>= _) _ _
    rw [mountReplicas_ok paths.ne_none]
    refine wp_request (fun ns' pod h => ?_) (fun _ _ => trivial) fun _ _ => trivial
    cases h
    apply allowed
    have volumes : HasVolumes sourcePath (wiredVolumes sourcePath sourcePvc replicas)
        (syncPod drs suffix owner sourcePath (wiredVolumes sourcePath sourcePvc replicas)) :=
      syncPod_hasVolumes suffix owner _
    refine (mountsApart_iff paths distinct volumes).trans ?_
    rw [hpath]
    simp only [ne_eq, Option.some.injEq]

lemma sourcePath_of_get {source : DataPod}
    (hget : getFrom s.dataPods ns drs.spec.sourcePod.name = .ok source) :
    s.sourcePath drs ns = source.spec.path := by
  unfold Cluster.sourcePath
  rw [hget]
  rfl

/-- The part of a pass for too few replicas. -/
lemma createMissing_paths
    (allowed : ∀ pod, (MountsApart pod ↔ SourceApart selects drs ns s) → Allowed pod) :
    (drs.createMissing ns (s.counted selects drs ns)).wp (podMonitor selects Allowed) s
      fun _ _ => True := by
  unfold DataReplicaSet.createMissing
  apply Prog.wp_bind
  apply wp_makesNoPod (uses_fetchSource trivial fun _ => trivial)
  refine fetchSource_meets trivial (fun source node hget hnode => ?_) fun _ => trivial
  have hpath : s.sourcePath drs ns = source.spec.path := sourcePath_of_get hget
  apply Prog.wp_bind
  refine wp_makesNoPod (uses_request _ ?_) ?_
  · trivial
  refine wp_cluster_request trivial (fun (nodes : List DataNode) listed => ?_) fun _ => trivial
  simp only
  rw [otherNodes_of_listed hnode listed]
  apply Prog.wp_bind
  apply wp_makesNoPod (uses_createReplicas trivial (fun _ _ => trivial) (fun _ _ => trivial) _ _ _)
  refine Prog.wp_mono (createReplicas_paths _ _ (by rfl : PathsOf [] [])) ?_
  intro s₁ result paths
  rcases result with e | replicas
  · trivial
  have indices : (List.range' (s.counted selects drs ns)
      (drs.spec.replicas - s.counted selects drs ns)).take (s.otherNodes drs ns).length =
        s.newIndices selects drs ns := by
    unfold Cluster.newIndices
    rcases Nat.le_total (drs.spec.replicas - s.counted selects drs ns)
      (s.otherNodes drs ns).length with h | h
    · rw [List.take_range'_of_length_le h, Nat.min_eq_left h]
    · rw [List.take_range'_of_length_ge h, Nat.min_eq_right h]
  have paths' := paths replicas rfl
  rw [List.nil_append, indices] at paths'
  apply Prog.wp_bind
  apply wp_makesNoPod (uses_createReplicaPvc trivial fun _ _ => trivial)
  apply wp_any
  intro s₂ result
  rcases result with e | sourcePvc
  · trivial
  apply Prog.wp_bind
  refine Prog.wp_mono (createReplicaPod_paths paths' List.nodup_range' fun pod apart => ?_) ?_
  · apply allowed
    unfold SourceApart
    rw [hpath]
    exact apart
  · intro s₃ result _
    cases result
    all_goals trivial

lemma reconcileSet_paths (hns : namespaceOf drs = some ns)
    (allowed : ∀ pod, (MountsApart pod ↔ SourceApart selects drs ns s) → Allowed pod) :
    drs.reconcile.wp (podMonitor selects Allowed) s fun _ _ => True := by
  unfold DataReplicaSet.reconcile
  split
  · trivial
  unfold DataReplicaSet.reconcileReplicas
  rw [hns]
  show Prog.wp _ (request _ >>= _) _ _
  apply Prog.wp_bind
  refine wp_makesNoPod (uses_request _ ?_) ?_
  · trivial
  refine wp_cluster_request trivial (fun (pods : List DataPod) listed => ?_) fun _ => trivial
  have hcount : s.counted selects drs ns = pods.length :=
    Cluster.counted_of_matched (listed : Except.ok pods = s.matched selects drs ns)
  show Prog.wp _ (drs.compareCount ns pods.length) s _
  unfold DataReplicaSet.compareCount
  rw [← hcount]
  split
  · trivial
  split
  · apply Prog.wp_bind
    refine Prog.wp_mono (createMissing_paths allowed) ?_
    intro s' result _
    cases result
    all_goals trivial
  · trivial

/-- In every pass over a set, whichever of its requests fail: the sync pod mounts its volumes at
different paths exactly when the source is at none of the paths of the replicas that the pass
creates. -/
theorem sync_paths_distinct_iff {s' : Cluster} {τ : List (Event signature)} {q : Reconcile Action}
    {podNs : String} {pod : Pod} (hns : namespaceOf drs = some ns)
    (run : Prog.Exec (clusterEnv selects True) drs.reconcile s τ q s')
    (asked : .kube (.createPod podNs pod) ∈ τ.map Event.call) :
    MountsApart pod ↔ SourceApart selects drs ns s := by
  obtain ⟨e, he, hcall⟩ := List.mem_map.mp asked
  obtain ⟨past, later, rfl⟩ := List.append_of_mem he
  obtain ⟨k, s₁, s₂, before, _, _⟩ := run.split
  have allowed := reconcileSet_paths hns
    fun pod (h : MountsApart pod ↔ SourceApart selects drs ns s) => h
  have spec := Prog.wp_exec_self (fun _ _ _ _ h => h) allowed before
  exact spec.1 podNs pod hcall

end

/-! ## One replica -/

/-- A source with this path, and one more node. -/
def sourceAt (path : String) : Cluster :=
  { sampleCluster 1 [sampleNode "m" "3"] [] with
    dataPods := [{ samplePod "source" "2" ∅ with
      spec := { (samplePod "source" "2" ∅).spec with path := some path } }] }

/-- The source is mounted besides the replica. -/
theorem sync_paths_distinct : ∃ τ q s' pod,
    Prog.Exec (clusterEnv sampleSelects True) (sampleSet 1).reconcile (sourceAt "/data") τ q s' ∧
    .kube (.createPod "default" pod) ∈ τ.map Event.call ∧ MountsApart pod := by
  obtain ⟨τ, q, s', pod, hfollow, hasked⟩ : ∃ τ q s' pod,
      (sampleSet 1).reconcile.follow (Cluster.serve sampleSelects) 20 (sourceAt "/data") =
        some (τ, q, s') ∧
      (τ.map Event.call).getLast? = some (.kube (.createPod "default" pod)) :=
    ⟨_, _, _, _, rfl, rfl⟩
  have run := Prog.exec_of_follow
    (fun _ _ _ _ h => clusterEnv_of_reliable (clusterEnv_of_serve h)) hfollow
  have asked := List.mem_of_getLast? hasked
  refine ⟨τ, q, s', pod, run, asked, (sync_paths_distinct_iff rfl run asked).mpr ?_⟩
  intro index _ h
  have hpath : some "/data" = some (replicaPath index) := h
  have hlist := congrArg String.toList (Option.some.inj hpath)
  unfold replicaPath at hlist
  rw [String.toList_append] at hlist
  cases hlist

/-- The source is itself a replica with the index 0, and the sync pod mounts both at one path. -/
theorem sync_paths_clash : ∃ τ q s' pod,
    Prog.Exec (clusterEnv sampleSelects True) (sampleSet 1).reconcile (sourceAt "/replica-0") τ q
      s' ∧
    .kube (.createPod "default" pod) ∈ τ.map Event.call ∧ ¬ MountsApart pod := by
  obtain ⟨τ, q, s', pod, hfollow, hasked, hpaths⟩ : ∃ τ q s' pod,
      (sampleSet 1).reconcile.follow (Cluster.serve sampleSelects) 20 (sourceAt "/replica-0") =
        some (τ, q, s') ∧
      (τ.map Event.call).getLast? = some (.kube (.createPod "default" pod)) ∧
      pod.volumeMounts.map VolumeMount.mountPath = ["/replica-0", "/replica-0"] :=
    ⟨_, _, _, _, rfl, rfl, rfl⟩
  have run := Prog.exec_of_follow
    (fun _ _ _ _ h => clusterEnv_of_reliable (clusterEnv_of_serve h)) hfollow
  refine ⟨τ, q, s', pod, run, List.mem_of_getLast? hasked, ?_⟩
  unfold MountsApart
  rw [hpaths]
  decide

end Kubedal
