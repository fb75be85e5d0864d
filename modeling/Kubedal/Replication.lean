import Kubedal.VolumeNames

/-!
# From a set to what its sync pod mounts

The pod that copies the source of a set to its replicas mounts one claim for each of them. Three
services and the names of objects stand between the pass that has placed a replica and what the
replicator finds on its path.

* `Synced`: the mounts of the pod, the `DataPod`s, `DataNode`s and claims of one pass over the set;
* `synced_as_placed`: behind each path of the pod is the `DataNode` that the pass has chosen.
-/

namespace Kubedal

open Interaction Kube Resource

/-! ## The mounts of the pod -/

/-- One path of the sync pod. -/
structure SyncEntry where
  path : String
  pod : DataPod
  node : DataNode
  claim : PersistentVolumeClaim

/-- The pod mounts these entries in their order, the source first. The replicas are those of all
`DataPod`s that the pass has created, and nothing else has been claimed. -/
structure Synced (drs : DataReplicaSet) (past : List (Event signature)) (pod : Pod)
    (source : SyncEntry) (replicas : List SyncEntry) : Prop where
  paths : pod.volumeMounts.map VolumeMount.mountPath = (source :: replicas).map SyncEntry.path
  claims : pod.volumeMounts.map pod.claimOf =
    (source :: replicas).map fun entry => some (nameAny entry.claim)
  mounted : ∀ entry ∈ source :: replicas, entry.pod.spec.path = some entry.path
  placed : past.filterMap newDataPod = replicas.map SyncEntry.pod
  made : past.filterMap newPvc = replicas.map SyncEntry.claim ++ [source.claim]
  sourceSeen : SawSource drs past source.pod source.node
  replicasSeen : ∀ entry ∈ replicas, SawReplica drs past entry.pod entry.node
  claimed : ∀ entry ∈ source :: replicas, HasClaimed drs past entry.pod entry.node entry.claim

section
variable {self : DataReplicaSet} {past : List (Event signature)} {pod sent : Pod}
  {source : DataPod} {sourceNode : DataNode} {sourcePvc : PersistentVolumeClaim}
  {replicas : List Replica}

lemma mounts_claims {sourcePath : String}
    (h : HasVolumes sourcePath (wiredVolumes sourcePath sourcePvc replicas) pod) :
    pod.volumeMounts.map pod.claimOf =
      some (nameAny sourcePvc) :: replicas.map fun replica => some (nameAny replica.2) := by
  have each : ∀ x ∈ replicas.zipIdx 0, pod.claimOf ⟨volumeName x.2, mountPathOf x.1⟩ =
      some (nameAny x.1.2) := by
    intro x hx
    have there : ⟨volumeName x.2, some ⟨nameAny x.1.2, some false⟩⟩ ∈ pod.volumes := by
      rw [h.volumes]
      exact List.mem_append_right _ (List.mem_map.mpr ⟨x, hx, rfl⟩)
    exact claimOf_of_mem (volumes_distinct h) there rfl rfl
  have hreplicas : (replicaMounts 0 replicas).map pod.claimOf =
      replicas.map fun replica => some (nameAny replica.2) := by
    have hfst : replicas = (replicas.zipIdx 0).map Prod.fst := by rw [List.zipIdx_map_fst]
    unfold replicaMounts
    rw [List.map_map]
    conv => rhs; rw [hfst, List.map_map]
    exact List.map_congr_left each
  have hmounts : pod.volumeMounts = ⟨"source", sourcePath⟩ :: replicaMounts 0 replicas := h.mounts
  rw [hmounts, List.map_cons, (mount_source h).2, hreplicas]

/-- The entries of replicas that the pass has placed. -/
lemma exists_syncEntries (placed : ∀ replica ∈ replicas, ReplicaPlaced self past replica)
    (set : ∀ replica ∈ replicas, replica.1.spec.path ≠ none) :
    ∃ entries : List SyncEntry, entries.map (fun entry => (entry.pod, entry.claim)) = replicas ∧
      ∀ entry ∈ entries, entry.pod.spec.path = some entry.path ∧
        SawReplica self past entry.pod entry.node ∧
        HasClaimed self past entry.pod entry.node entry.claim := by
  induction replicas with
  | nil => exact ⟨[], rfl, fun _ h => by cases h⟩
  | cons replica rest ih =>
    obtain ⟨entries, rfl, each⟩ := ih (fun r h => placed r (List.mem_cons_of_mem _ h))
      fun r h => set r (List.mem_cons_of_mem _ h)
    obtain ⟨node, seen, claimed⟩ := placed replica List.mem_cons_self
    obtain ⟨path, hpath⟩ := Option.ne_none_iff_exists'.mp (set replica List.mem_cons_self)
    refine ⟨⟨path, replica.1, node, replica.2⟩ :: entries, rfl, fun entry h => ?_⟩
    rcases List.mem_cons.mp h with rfl | h
    · exact ⟨hpath, seen, claimed⟩
    · exact each entry h

/-- What the pass has made is what the pod mounts. -/
lemma exists_synced (made : PodMade self past sent source sourceNode sourcePvc replicas)
    (stored : pod.spec = sent.spec) : ∃ source replicas, Synced self past pod source replicas := by
  obtain ⟨suffix, owner, sourcePath, hpath, rfl⟩ := made.written
  have volumes := (syncPod_hasVolumes suffix owner
    (wiredVolumes sourcePath sourcePvc replicas)).of_spec stored
  obtain ⟨entries, hentries, each⟩ := exists_syncEntries made.placed made.paths
  refine ⟨⟨sourcePath, source, sourceNode, sourcePvc⟩, entries, ?_, ?_, ?_, ?_, ?_, made.seen,
    fun entry h => (each entry h).2.1, ?_⟩
  · have hmounts : pod.volumeMounts = ⟨"source", sourcePath⟩ :: replicaMounts 0 replicas :=
      volumes.mounts
    rw [hmounts, List.map_cons, replicaMounts_paths, ← hentries, List.map_map, List.map_cons]
    refine congrArg (List.cons sourcePath) (List.map_congr_left fun entry h => ?_)
    show (entry.pod.spec.path).getD "" = entry.path
    rw [(each entry h).1]
    rfl
  · rw [mounts_claims volumes, ← hentries, List.map_map]
    rfl
  · intro entry h
    rcases List.mem_cons.mp h with rfl | h
    · exact hpath
    · exact (each entry h).1
  · rw [made.pods, ← hentries, List.map_map]
    rfl
  · rw [made.pvcs, ← hentries, List.map_map]
    rfl
  · intro entry h
    rcases List.mem_cons.mp h with rfl | h
    · exact made.claimed
    · exact (each entry h).2.2

end

/-! ## What is behind the paths of the pod -/

section
variable {selects : Selects} {changes : Cluster → Cluster → Prop} {s₀ : DriverState}
  {steps : List DriverTransition} {P : DriverPool}

/-- What a pass has claimed is in the cluster after some step. -/
lemma mem_target_of_hasClaimed (run : (driverService selects changes).Run s₀ steps P)
    {x : DriverTransition} (hx : x ∈ steps) {self : DataReplicaSet}
    {past : List (Event signature)} {e : Event signature}
    (hlabel : x.label = .answered (.pass (.reconcileSet self)) past e) {pod : DataPod}
    {node : DataNode} {claim : PersistentVolumeClaim}
    (claimed : HasClaimed self past pod node claim) :
    ∃ y ∈ steps, claim ∈ y.target.state.claims ∧
      ∃ ns, StoredClaim self node pod .fuseReadWrite ns claim := by
  obtain ⟨earlier, ns, suffix, owner, made⟩ := claimed
  obtain ⟨before, hbefore, run', last⟩ := run.of_mem hx
  rw [hlabel] at last
  obtain ⟨_, _, _, hrunning, _⟩ := Service.step_answered last
  have there := made.subset (List.mem_append_right earlier List.mem_cons_self)
  obtain ⟨y, hy, past', hy'⟩ := run'.answered.running _ (Pool.mem_of_waiting hrunning) _ there
  have hpre : before <+: steps := (List.prefix_append _ _).trans hbefore
  obtain ⟨_, _, _, last'⟩ := run'.of_mem hy
  rw [hy'] at last'
  obtain ⟨_, _, _, _, ⟨answered, _⟩, _⟩ := Service.step_answered last'
  refine ⟨y, hpre.subset hy, ?_, ns, storedClaim_of_answered answered⟩
  show claim ∈ y.target.state.cluster.pvcs
  rw [answered.2]
  exact List.mem_append_right _ List.mem_cons_self

/-- Over every run of the driver in which nobody writes what it reads of a claim: behind each path
of a sync pod is what the pass that has made the pod has chosen. It mounts the source and every
replica that the pass has created, in their order, and whatever a publish mounts for the claim of an
entry, in any interleaving with anything else, is the `DataNode` of the namespace and the name of
that entry's node. -/
theorem synced_as_placed (init : ClaimsFixed s₀.claims s₀.uids) (keeps : KeepsClaims changes)
    (started : s₀.volumes = .init) (run : (driverService selects changes).Run s₀ steps P)
    {x : DriverTransition} (hx : x ∈ steps) {self : DataReplicaSet}
    {seen : List (Event signature)} {ns : String} {sent pod : Pod}
    (hlabel : x.label = .answered (.pass (.reconcileSet self)) seen
      ⟨.kube (.createPod ns sent), Except.ok pod⟩) :
    ∃ source replicas, Synced self seen pod source replicas ∧
      ∀ entry ∈ source :: replicas, ∀ uid volume r, uidOf entry.claim = some uid →
        P.HasCreated ("pvc-" ++ uid) volume → Publishes r volume →
        ∀ y ∈ steps, ∀ past e, y.label = .answered (.node (.publish r)) past e → e.call.Mounts →
          ∃ keys node mount, KeysFor entry.pod entry.node keys ∧
            Delivers steps r past e.call keys node mount := by
  obtain ⟨q, exec⟩ := (driverCluster selects changes).exec_of_mem run hx hlabel
  obtain ⟨_, heq, source, sourceNode, sourcePvc, replicas, made⟩ :=
    set_of_createPod (r := .reconcileSet self) exec
  cases heq
  obtain ⟨_, _, _, last⟩ := run.of_mem hx
  rw [hlabel] at last
  obtain ⟨_, _, _, _, ⟨answered, _⟩, _⟩ := Service.step_answered last
  have stored : pod.spec = sent.spec := keepsSpec_of_clusterEnv answered
  obtain ⟨first, rest, synced⟩ := exists_synced made stored
  refine ⟨first, rest, synced, fun entry hentry uid volume r huid created publishes y hy past e
    hpublish mounts => ?_⟩
  obtain ⟨z, hz, hclaimed, ns, hclaim⟩ :=
    mem_target_of_hasClaimed run hx hlabel (synced.claimed _ hentry)
  obtain ⟨c, claim, keys, node, mount, hname, found, asks, delivers⟩ :=
    delivers_of_publishes run started created hy publishes hpublish mounts
  -- the volume was made from a claim with the uid of the one that the pass has made
  obtain ⟨w, hw, hfound, _⟩ := found.there
  obtain ⟨uid', hstrip, huid'⟩ := found.uid
  have same : volumeData claim = volumeData entry.claim := by
    refine (claimsFixed_of_run init keeps run).same claim (mem_seenIn hw hfound) entry.claim
      (mem_seenIn_of_target run hz hclaimed) ?_
    rw [hname, stripPrefix_append] at hstrip
    rw [huid', huid, hstrip]
  exact ⟨keys, node, mount, keysFor_of_stored hclaim (asks.congr same), delivers⟩

end

/-- The pod of a set with one replica, and a publish of that replica. -/
theorem synced_replica : ∃ steps P x seen ns sent pod y r past e,
    (driverService sampleSelects Cluster.Changes).Run .sample steps P ∧ x ∈ steps ∧
    x.label = .answered (.pass (.reconcileSet (sampleSet 1))) seen
      ⟨.kube (.createPod ns sent), Except.ok pod⟩ ∧
    y ∈ steps ∧ y.label = .answered (.node (.publish r)) past e ∧ e.call.Mounts ∧
    ∃ source replica, Synced (sampleSet 1) seen pod source [replica] ∧
      ∃ keys node mount, KeysFor replica.pod replica.node keys ∧
        Delivers steps r past e.call keys node mount := by
  obtain ⟨steps, P, seen, ns, sent, pod, volume, _, past, e, run, ⟨x, hx, hlabel⟩, named, claims,
    created, _, _, ⟨y, hy, hpublish⟩, mounts⟩ := exists_sampleRun
  obtain ⟨source, replicas, synced, delivered⟩ :=
    synced_as_placed claimsFixed_sample Cluster.Changes.keepsClaims rfl run hx hlabel
  have hclaims := claims.symm.trans synced.claims
  obtain ⟨replica, rfl, hname⟩ : ∃ replica, replicas = [replica] ∧
      nameAny replica.claim = "pvc-0-000xxxxx" := by
    rcases replicas with _ | ⟨replica, _ | ⟨_, _⟩⟩
    · simp at hclaims
    · simp only [List.map_cons, List.cons.injEq, Option.some.injEq] at hclaims
      exact ⟨replica, rfl, hclaims.2.1.symm⟩
    · simp at hclaims
  obtain ⟨earlier, ns', suffix, owner, made⟩ :=
    synced.claimed replica (List.mem_cons_of_mem _ List.mem_cons_self)
  have huid := named ns' _ _ (made.subset (List.mem_append_right _ List.mem_cons_self)) hname
  exact ⟨steps, P, x, seen, ns, sent, pod, y, _, past, e, run, hx, hlabel, hy, hpublish, mounts,
    source, replica, synced, delivered replica (List.mem_cons_of_mem _ List.mem_cons_self) _
      volume _ huid created (publishes_sample volume) y hy past e hpublish mounts⟩

end Kubedal
