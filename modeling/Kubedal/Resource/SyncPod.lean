import Kubedal.Resource.ReplicaObjects

/-!
# The volumes of the sync pod

The loop of `createReplicaPod` fills four lists: the volumes, their mounts, the paths and the
text that joins the paths. They agree with each other and with the replicas:

* `mountReplicas_ok` says what the loop makes of replicas that have a path;
* `SyncWired` is what has to hold of the pod;
* `createReplicaPod_wired` is about every run of the function.
-/

namespace Kubedal

open Interaction Kube Resource

/-! ## The loop over the replicas -/

abbrev Replica := DataPod × PersistentVolumeClaim

/-- Some run of `createReplicaDataPod` has returned the `DataPod`. -/
def BuiltReplica (pod : DataPod) : Prop :=
  ∃ (selects : Selects) (faults : Prop) (index : ℕ) (drs : DataReplicaSet) (node : DataNode)
    (ns : String) (s s' : Cluster) (τ : List (Event signature)),
    Prog.Exec (clusterEnv selects faults) (createReplicaDataPod index drs node ns) s τ
      (.pure pod) s'

lemma BuiltReplica.path {pod : DataPod} (h : BuiltReplica pod) :
    ∃ index : ℕ, pod.spec.path = some ("/replica-" ++ toString index) := by
  obtain ⟨selects, faults, index, drs, node, ns, s, s', τ, run⟩ := h
  have spec : (createReplicaDataPod index drs node ns).wp
      (clusterMonitor selects faults fun _ => True) s fun _ result => match result with
        | .ok made => made.spec.path = some ("/replica-" ++ toString index)
        | .error _ => True :=
    createReplicaDataPod_meets trivial (fun made new => new.path) fun _ => trivial
  exact ⟨index, of_clusterMonitor spec run⟩

def mountPathOf (replica : Replica) : String := replica.1.spec.path.getD ""

/-- The name of the volume with number `i`. -/
def volumeName (i : ℕ) : String := "replica-" ++ toString i

lemma volumeName_injective : Function.Injective volumeName := by
  intro m n h
  exact toString_injective ((String.append_right_inj _).mp h)

lemma volumeName_ne_source (i : ℕ) : volumeName i ≠ "source" := by
  intro h
  have hlist : 'r' :: ("eplica-".toList ++ (toString i).toList) = "source".toList := by
    rw [← h]
    simp [volumeName]
  exact absurd (List.cons.inj hlist).1 (by decide)

def replicaVolumes (i : ℕ) (replicas : List Replica) : List Volume :=
  (replicas.zipIdx i).map fun x => ⟨volumeName x.2, some ⟨nameAny x.1.2, some false⟩⟩

def replicaMounts (i : ℕ) (replicas : List Replica) : List VolumeMount :=
  (replicas.zipIdx i).map fun x => ⟨volumeName x.2, mountPathOf x.1⟩

/-- The loop does not fail if every replica has a path, and adds a volume, a mount and a path
for each. -/
lemma mountReplicas_ok {source : DataPod} {replicas : List Replica}
    (h : ∀ replica ∈ replicas, replica.1.spec.path ≠ none) (i : ℕ) (mounted : SyncVolumes) :
    mountReplicas source i replicas mounted = .ok
      { volumes := mounted.volumes ++ replicaVolumes i replicas
        volumeMounts := mounted.volumeMounts ++ replicaMounts i replicas
        replicaPaths := mounted.replicaPaths ++ replicas.map mountPathOf } := by
  induction replicas generalizing i mounted with
  | nil => simp [mountReplicas, replicaVolumes, replicaMounts]
  | cons replica rest ih =>
    obtain ⟨pod, pvc⟩ := replica
    have hne : pod.spec.path ≠ none := h (pod, pvc) List.mem_cons_self
    obtain ⟨path, hpath⟩ := Option.ne_none_iff_exists'.mp hne
    have hmount : mountPathOf (pod, pvc) = path := by
      simp [mountPathOf, hpath]
    have hrest := ih (fun r hr => h r (List.mem_cons_of_mem _ hr)) (i + 1)
      (mounted.push i path pvc)
    unfold mountReplicas
    rw [hpath]
    show mountReplicas source (i + 1) rest (mounted.push i path pvc) = _
    rw [hrest]
    simp [SyncVolumes.push, replicaVolumes, replicaMounts, volumeName, hmount]

/-! ## The names of the volumes -/

lemma replicaVolumes_names (i : ℕ) (replicas : List Replica) :
    (replicaVolumes i replicas).map Volume.name =
      (List.range' i replicas.length).map volumeName := by
  unfold replicaVolumes
  rw [List.map_map, ← List.zipIdx_map_snd i replicas, List.map_map]
  rfl

lemma replicaMounts_names (i : ℕ) (replicas : List Replica) :
    (replicaMounts i replicas).map VolumeMount.name =
      (List.range' i replicas.length).map volumeName := by
  unfold replicaMounts
  rw [List.map_map, ← List.zipIdx_map_snd i replicas, List.map_map]
  rfl

lemma replicaMounts_paths (i : ℕ) (replicas : List Replica) :
    (replicaMounts i replicas).map VolumeMount.mountPath = replicas.map mountPathOf := by
  have hfst : replicas.map mountPathOf = ((replicas.zipIdx i).map Prod.fst).map mountPathOf := by
    rw [List.zipIdx_map_fst]
  unfold replicaMounts
  rw [hfst, List.map_map, List.map_map]
  rfl

/-- The names of the volumes of the pod, which are also those of its mounts. -/
def syncNames (count : ℕ) : List String := "source" :: (List.range' 0 count).map volumeName

lemma syncNames_nodup (count : ℕ) : (syncNames count).Nodup := by
  apply List.nodup_cons.mpr
  constructor
  · intro hmem
    obtain ⟨i, _, hi⟩ := List.mem_map.mp hmem
    exact volumeName_ne_source i hi
  · exact List.Nodup.map volumeName_injective List.nodup_range'

/-! ## Paths in one text -/

/-- `str::split` at a character. -/
def splitAtChar (text : String) (separator : Char) : List String :=
  (text.toList.splitOn separator).map String.ofList

lemma splitAtChar_intercalate {paths : List String}
    (h : ∀ path ∈ paths, ';' ∉ path.toList) (hne : paths ≠ []) :
    splitAtChar (String.intercalate ";" paths) ';' = paths := by
  have hpieces : ∀ piece ∈ paths.map String.toList, ';' ∉ piece := by
    intro piece hpiece
    obtain ⟨path, hpath, rfl⟩ := List.mem_map.mp hpiece
    exact h path hpath
  have hsplit := List.splitOn_intercalate ';' hpieces (by simpa using hne)
  unfold splitAtChar
  rw [String.toList_intercalate]
  show (List.splitOn ';' ([';'].intercalate (paths.map String.toList))).map String.ofList = paths
  rw [hsplit, List.map_map]
  simp [Function.comp_def]

/-- The path of a replica does not contain the separator. -/
lemma semicolon_notMem_path (index : ℕ) :
    ';' ∉ ("/replica-" ++ toString index).toList := by
  intro hmem
  rw [String.toList_append] at hmem
  rcases List.mem_append.mp hmem with hmem | hmem
  · exact absurd hmem (by decide)
  · rw [Nat.toString_eq_repr, Nat.toList_repr] at hmem
    have hdigit := Nat.isDigit_of_mem_toDigits (by decide) (by decide) hmem
    exact absurd hdigit (by decide)

/-! ## The wiring -/

namespace Kube.Pod

def volumes (pod : Pod) : List Volume :=
  (pod.spec.bind PodSpec.volumes).getD []

def containers (pod : Pod) : List Container :=
  (pod.spec.map PodSpec.containers).getD []

def volumeMounts (pod : Pod) : List VolumeMount :=
  pod.containers.flatMap fun container => container.volumeMounts.getD []

/-- The value of a variable in the environment of a container of the pod. -/
def env (pod : Pod) (name : String) : Option String :=
  ((pod.containers.flatMap fun container => container.env.getD []).find? fun var =>
    var.name = name).bind EnvVar.value

/-- The claim of the volume that a mount names. -/
def claimOf (pod : Pod) (mount : VolumeMount) : Option String :=
  ((pod.volumes.find? fun volume => volume.name = mount.name).bind
    Volume.persistentVolumeClaim).map PersistentVolumeClaimVolumeSource.claimName

end Kube.Pod

/-- The mounts of the pod are those of the source and of the replicas, each with a volume of its
own, and the variables for the replicator say where they are. -/
structure SyncWired (sourcePvc : PersistentVolumeClaim) (replicas : List Replica) (pod : Pod) :
    Prop where
  distinct : (pod.volumes.map Volume.name).Nodup
  named : ∀ mount ∈ pod.volumeMounts, (pod.volumes.map Volume.name).count mount.name = 1
  mounted : ∀ volume ∈ pod.volumes,
    (pod.volumeMounts.map VolumeMount.name).count volume.name = 1
  /-- The mount number `i + 1` is that of the replica number `i`. -/
  replica : ∀ i pvc dataPod, replicas[i]? = some (dataPod, pvc) →
    ∃ mount, pod.volumeMounts[i + 1]? = some mount ∧ dataPod.spec.path = some mount.mountPath ∧
      pod.claimOf mount = some (nameAny pvc)
  length : pod.volumeMounts.length = replicas.length + 1
  source : ∃ mount ∈ pod.volumeMounts,
    (∀ other ∈ pod.volumeMounts, other.name = "source" ↔ other = mount) ∧
    pod.claimOf mount = some (nameAny sourcePvc) ∧ pod.env "source" = some mount.mountPath
  replicas : replicas ≠ [] → ∃ text, pod.env "replicas" = some text ∧
    splitAtChar text ';' = (pod.volumeMounts.drop 1).map VolumeMount.mountPath

/-- What the loop leaves for a pod with these replicas. -/
def wiredVolumes (sourcePath : String) (sourcePvc : PersistentVolumeClaim)
    (replicas : List Replica) : SyncVolumes where
  volumes := (sourceVolumes sourcePath sourcePvc).volumes ++ replicaVolumes 0 replicas
  volumeMounts := (sourceVolumes sourcePath sourcePvc).volumeMounts ++ replicaMounts 0 replicas
  replicaPaths := (sourceVolumes sourcePath sourcePvc).replicaPaths ++ replicas.map mountPathOf

section
variable {drs : DataReplicaSet} {sourcePath : String} {sourcePvc : PersistentVolumeClaim}
  {replicas : List Replica} {pod : Pod}

/-- The pod has the volumes and mounts of the loop. -/
structure HasVolumes (sourcePath : String) (mounted : SyncVolumes) (pod : Pod) : Prop where
  volumes : pod.volumes = mounted.volumes
  mounts : pod.volumeMounts = mounted.volumeMounts
  sourceEnv : pod.env "source" = some sourcePath
  replicasEnv : pod.env "replicas" = some (String.intercalate ";" mounted.replicaPaths)

lemma syncPod_hasVolumes (suffix : String) (owner : OwnerReference) (mounted : SyncVolumes) :
    HasVolumes sourcePath mounted (syncPod drs suffix owner sourcePath mounted) where
  volumes := rfl
  mounts := by simp [Pod.volumeMounts, Pod.containers, syncPod]
  sourceEnv := by simp [Pod.env, Pod.containers, syncPod]
  replicasEnv := by simp [Pod.env, Pod.containers, syncPod]

lemma HasVolumes.of_spec {mounted : SyncVolumes} {stored : Pod}
    (h : HasVolumes sourcePath mounted pod) (heq : stored.spec = pod.spec) :
    HasVolumes sourcePath mounted stored := by
  obtain ⟨hvolumes, hmounts, hsource, hreplicas⟩ := h
  unfold Pod.volumes at hvolumes
  unfold Pod.volumeMounts Pod.containers at hmounts
  unfold Pod.env Pod.containers at hsource hreplicas
  rw [← heq] at hvolumes hmounts hsource hreplicas
  exact ⟨hvolumes, hmounts, hsource, hreplicas⟩

lemma volumes_names (h : HasVolumes sourcePath (wiredVolumes sourcePath sourcePvc replicas) pod) :
    pod.volumes.map Volume.name = syncNames replicas.length := by
  rw [h.volumes]
  show "source" :: (replicaVolumes 0 replicas).map Volume.name = _
  rw [replicaVolumes_names]
  rfl

lemma volumeMounts_names
    (h : HasVolumes sourcePath (wiredVolumes sourcePath sourcePvc replicas) pod) :
    pod.volumeMounts.map VolumeMount.name = syncNames replicas.length := by
  rw [h.mounts]
  show "source" :: (replicaMounts 0 replicas).map VolumeMount.name = _
  rw [replicaMounts_names]
  rfl

/-- Since the names are distinct, a mount gets the claim of the volume of its name. -/
lemma claimOf_of_mem {mount : VolumeMount} {volume : Volume} {claim : String}
    {readOnly : Option Bool} (distinct : (pod.volumes.map Volume.name).Nodup)
    (hmem : volume ∈ pod.volumes)
    (hname : volume.name = mount.name)
    (hclaim : volume.persistentVolumeClaim = some ⟨claim, readOnly⟩) :
    pod.claimOf mount = some claim := by
  have hfind : pod.volumes.find? (fun v => v.name = mount.name) = some volume := by
    cases hfound : pod.volumes.find? fun v => decide (v.name = mount.name) with
    | none =>
      exact absurd (decide_eq_true hname) (List.find?_eq_none.mp hfound volume hmem)
    | some other =>
      have hother : other.name = mount.name := by simpa using List.find?_some hfound
      have hsame : other = volume := List.inj_on_of_nodup_map distinct
        (List.mem_of_find?_eq_some hfound) hmem (hother.trans hname.symm)
      rw [hsame]
  unfold Pod.claimOf
  rw [hfind]
  simp [hclaim]

lemma volumes_distinct
    (h : HasVolumes sourcePath (wiredVolumes sourcePath sourcePvc replicas) pod) :
    (pod.volumes.map Volume.name).Nodup := by
  rw [volumes_names h]
  exact syncNames_nodup _

/-- The mount after that of the source and of `i` replicas. -/
lemma mount_replica (h : HasVolumes sourcePath (wiredVolumes sourcePath sourcePvc replicas) pod)
    {i : ℕ} {dataPod : DataPod} {pvc : PersistentVolumeClaim} {path : String}
    (hi : replicas[i]? = some (dataPod, pvc)) (hpath : dataPod.spec.path = some path) :
    pod.volumeMounts[i + 1]? = some ⟨volumeName i, path⟩ ∧
      pod.claimOf ⟨volumeName i, path⟩ = some (nameAny pvc) := by
  have hzip : (replicas.zipIdx 0)[i]? = some ((dataPod, pvc), i) := by
    rw [List.getElem?_zipIdx, hi]
    simp
  have hmount : (replicaMounts 0 replicas)[i]? = some ⟨volumeName i, path⟩ := by
    unfold replicaMounts
    rw [List.getElem?_map, hzip]
    simp [mountPathOf, hpath]
  have hvolume : (replicaVolumes 0 replicas)[i]? =
      some ⟨volumeName i, some ⟨nameAny pvc, some false⟩⟩ := by
    unfold replicaVolumes
    rw [List.getElem?_map, hzip]
    rfl
  constructor
  · rw [h.mounts]
    exact hmount
  · have hmem : ⟨volumeName i, some ⟨nameAny pvc, some false⟩⟩ ∈ pod.volumes := by
      rw [h.volumes]
      exact List.mem_append_right _ (List.mem_of_getElem? hvolume)
    exact claimOf_of_mem (volumes_distinct h) hmem rfl rfl

lemma mount_source (h : HasVolumes sourcePath (wiredVolumes sourcePath sourcePvc replicas) pod) :
    ⟨"source", sourcePath⟩ ∈ pod.volumeMounts ∧
      pod.claimOf ⟨"source", sourcePath⟩ = some (nameAny sourcePvc) := by
  constructor
  · rw [h.mounts]
    exact List.mem_append_left _ (List.mem_singleton_self _)
  · have hmem : ⟨"source", some ⟨nameAny sourcePvc, some false⟩⟩ ∈ pod.volumes := by
      rw [h.volumes]
      exact List.mem_append_left _ (List.mem_singleton_self _)
    exact claimOf_of_mem (volumes_distinct h) hmem rfl rfl

/-- The paths are read back from the variable for the replicator. -/
lemma replicas_env (h : HasVolumes sourcePath (wiredVolumes sourcePath sourcePvc replicas) pod)
    (paths : ∀ replica ∈ replicas, ';' ∉ (mountPathOf replica).toList) (hne : replicas ≠ []) :
    ∃ text, pod.env "replicas" = some text ∧
      splitAtChar text ';' = (pod.volumeMounts.drop 1).map VolumeMount.mountPath := by
  refine ⟨_, h.replicasEnv, ?_⟩
  have hpaths : (wiredVolumes sourcePath sourcePvc replicas).replicaPaths =
      replicas.map mountPathOf := rfl
  have hdrop : pod.volumeMounts.drop 1 = replicaMounts 0 replicas := by
    rw [h.mounts]
    rfl
  rw [hpaths, hdrop, replicaMounts_paths]
  apply splitAtChar_intercalate
  · intro path hpath
    obtain ⟨replica, hreplica, rfl⟩ := List.mem_map.mp hpath
    exact paths replica hreplica
  · simpa using hne

/-- With the volumes of the loop, the pod is wired if every replica has a path that does not
contain the separator. -/
lemma syncWired_of_hasVolumes
    (h : HasVolumes sourcePath (wiredVolumes sourcePath sourcePvc replicas) pod)
    (set : ∀ replica ∈ replicas, replica.1.spec.path ≠ none)
    (paths : ∀ replica ∈ replicas, ';' ∉ (mountPathOf replica).toList) :
    SyncWired sourcePvc replicas pod := by
  have hvolumes := volumes_names h
  have hmounts := volumeMounts_names h
  have distinct := volumes_distinct h
  obtain ⟨hsource, hclaim⟩ := mount_source h
  refine ⟨distinct, ?_, ?_, ?_, ?_, ?_, replicas_env h paths⟩
  · intro mount hmount
    apply List.count_eq_one_of_mem distinct
    rw [hvolumes, ← hmounts]
    exact List.mem_map_of_mem hmount
  · intro volume hvolume
    rw [hmounts, ← hvolumes]
    exact List.count_eq_one_of_mem distinct (List.mem_map_of_mem hvolume)
  · intro i pvc dataPod hi
    have hne : dataPod.spec.path ≠ none := set _ (List.mem_of_getElem? hi)
    obtain ⟨path, hpath⟩ := Option.ne_none_iff_exists'.mp hne
    obtain ⟨hmount, hreplica⟩ := mount_replica h hi hpath
    exact ⟨_, hmount, hpath, hreplica⟩
  · have hlength := congrArg List.length hmounts
    simpa [syncNames] using hlength
  · refine ⟨⟨"source", sourcePath⟩, hsource, fun other hother => ?_, hclaim, h.sourceEnv⟩
    constructor
    · -- there is no other mount of that name
      intro hname
      have hnodup : (pod.volumeMounts.map VolumeMount.name).Nodup := by
        rw [hmounts]
        exact syncNames_nodup _
      exact List.inj_on_of_nodup_map hnodup hother hsource hname
    · intro hother
      rw [hother]

end

/-! ## The runs of the function -/

/-- What the API server returns for a pod that it creates has the spec it was sent. -/
def KeepsSpec : (c : Call) → c.Reply → Prop
  | .kube (.createPod _ sent), Except.ok (pod : Pod) => pod.spec = sent.spec
  | _, _ => True

lemma keepsSpec_of_clusterEnv {selects : Selects} {faults : Prop} {s s' : Cluster} {c : Call}
    {a : c.Reply} (h : clusterEnv selects faults s c a s') : KeepsSpec c a := by
  unfold KeepsSpec
  split
  · rename_i ns sent pod
    have created : s.Replies selects (.createPod ns sent) (.ok pod) := replies_of_answers h.1
    obtain ⟨name, uid, version, _, _, _, hpod⟩ := created
    rw [hpod]
  · trivial

/-- Allows only pods that are wired. -/
def wiredMonitor (sourcePvc : PersistentVolumeClaim) (replicas : List Replica) :
    Monitor signature (List (Event signature)) :=
  Monitor.history
    (fun _ c => ∀ ns pod, c = .kube (.createPod ns pod) → SyncWired sourcePvc replicas pod)
    KeepsSpec

/-- Every pod that the function asks for and the one it returns are wired, and it asks for one
if the set can own it. -/
lemma createReplicaPod_meets_wired (drs : DataReplicaSet) {source : DataPod} {sourcePath : String}
    (sourcePvc : PersistentVolumeClaim) {replicas : List Replica} (ns : String)
    (hpath : source.spec.path = some sourcePath)
    (set : ∀ replica ∈ replicas, replica.1.spec.path ≠ none)
    (paths : ∀ replica ∈ replicas, ';' ∉ (mountPathOf replica).toList) :
    (createReplicaPod drs source sourcePvc replicas ns).wp (wiredMonitor sourcePvc replicas) []
      fun past result => (∀ pod, result = .ok pod → SyncWired sourcePvc replicas pod) ∧
        (ownerRef drs ≠ none → ∃ pod, .kube (.createPod ns pod) ∈ past.map Event.call) := by
  unfold createReplicaPod
  apply Prog.wp_bind
  apply Prog.wp_bind
  apply wp_perform
  · intro ns pod h
    cases h
  intro sampled _
  apply Prog.wp_bind
  apply wp_orReturn
  · intro owner _
    rw [hpath]
    show Prog.wp _ (orReturn (mountReplicas source 0 replicas _) >>= _) _ _
    rw [mountReplicas_ok set]
    have wired : ∀ pod, pod.spec = (syncPod drs (toLowercase sampled) owner sourcePath
        (wiredVolumes sourcePath sourcePvc replicas)).spec → SyncWired sourcePvc replicas pod :=
      fun pod hspec =>
        syncWired_of_hasVolumes ((syncPod_hasVolumes _ _ _).of_spec hspec) set paths
    apply wp_request
    · intro ns' pod h
      cases h
      exact wired _ rfl
    · intro pod kept
      refine ⟨fun pod' heq => ?_, fun _ => ⟨_, List.mem_map_of_mem (List.mem_append_right _
        (List.mem_singleton_self _))⟩⟩
      cases heq
      exact wired pod kept
    · intro e _
      refine ⟨fun pod' heq => ?_, fun _ => ⟨_, List.mem_map_of_mem (List.mem_append_right _
        (List.mem_singleton_self _))⟩⟩
      cases heq
  · intro e he
    refine ⟨fun pod heq => ?_, fun howner => ?_⟩
    · cases heq
    · obtain ⟨owner, howner⟩ := Option.ne_none_iff_exists'.mp howner
      rw [howner] at he
      cases he

/-- The sync pod is wired to the volumes of the source and of the replicas, whatever the answers
are; and if the set can own it, a finished run has asked for it. -/
theorem createReplicaPod_wired {selects : Selects} {faults : Prop} {drs : DataReplicaSet}
    {source : DataPod} {sourcePvc : PersistentVolumeClaim} {replicas : List Replica} {ns : String}
    {s s' : Cluster} {τ : List (Event signature)} {q : Reconcile Pod}
    (hpath : source.spec.path ≠ none)
    (built : ∀ dataPod pvc, (dataPod, pvc) ∈ replicas → BuiltReplica dataPod)
    (run : Prog.Exec (clusterEnv selects faults) (createReplicaPod drs source sourcePvc replicas ns)
      s τ q s') :
    (∀ ns' pod, .kube (.createPod ns' pod) ∈ τ.map Event.call → SyncWired sourcePvc replicas pod) ∧
    (∀ pod, q = .pure pod → SyncWired sourcePvc replicas pod) ∧
    (q.outcome ≠ none → ownerRef drs ≠ none →
      ∃ pod, .kube (.createPod ns pod) ∈ τ.map Event.call) := by
  obtain ⟨sourcePath, hpath⟩ := Option.ne_none_iff_exists'.mp hpath
  have set : ∀ replica ∈ replicas, replica.1.spec.path ≠ none := by
    intro replica hreplica
    obtain ⟨index, hindex⟩ := (built _ _ hreplica).path
    rw [hindex]
    exact Option.some_ne_none _
  have paths : ∀ replica ∈ replicas, ';' ∉ (mountPathOf replica).toList := by
    intro replica hreplica
    obtain ⟨index, hindex⟩ := (built _ _ hreplica).path
    unfold mountPathOf
    rw [hindex]
    exact semicolon_notMem_path index
  have spec := createReplicaPod_meets_wired drs sourcePvc ns hpath set paths
  have rely : ∀ s c a s', clusterEnv selects faults s c a s' → ∀ past,
      (wiredMonitor sourcePvc replicas).assumes past c a :=
    fun s c a s' answered past => keepsSpec_of_clusterEnv answered
  have final := Prog.wp_exec spec run rely
  refine ⟨?_, ?_, ?_⟩
  · intro ns' pod hmem
    obtain ⟨e, he, hcall⟩ := List.mem_map.mp hmem
    obtain ⟨past, later, rfl⟩ := List.append_of_mem he
    exact Prog.wp_event spec run rely ns' pod hcall
  · rintro pod rfl
    exact final.1 pod rfl
  · intro hfinished howner
    obtain ⟨result, hresult⟩ := Option.ne_none_iff_exists'.mp hfinished
    have asked := (Prog.wp_outcome final hresult).2 howner
    unfold wiredMonitor at asked
    rw [Monitor.history_after] at asked
    exact asked

/-- A claim with a name. -/
def namedPvc (name : String) : PersistentVolumeClaim := ⟨{ name := some name }, none⟩

/-- Two replicas, with claims of their own. -/
theorem createReplicaPod_wired_one : ∃ (first second : DataPod) (τ : List (Event signature))
    (pod : Pod) (s' : Cluster),
    Prog.Exec (clusterEnv sampleSelects False)
      (createReplicaPod (sampleSet 2) (samplePod "source" "2" ∅) (namedPvc "pvc-source")
        [(first, namedPvc "pvc-0"), (second, namedPvc "pvc-1")] "default") (sampleCluster 2 [] [])
        τ (.pure pod) s' ∧
      pod.volumeMounts.map pod.claimOf = [some "pvc-source", some "pvc-0", some "pvc-1"] ∧
      SyncWired (namedPvc "pvc-source") [(first, namedPvc "pvc-0"), (second, namedPvc "pvc-1")]
        pod := by
  obtain ⟨τ₀, first, s₀, τ₁, second, s₁, τ, pod, s', hfirst, hsecond, hfollow, hclaims⟩ :
      ∃ τ₀ first s₀ τ₁ second s₁ τ pod s',
        (createReplicaDataPod 0 (sampleSet 2) (sampleNode "m" "3") "default").follow
          (Cluster.serve sampleSelects) 5 (sampleCluster 2 [] []) = some (τ₀, .pure first, s₀) ∧
        (createReplicaDataPod 1 (sampleSet 2) (sampleNode "k" "4") "default").follow
          (Cluster.serve sampleSelects) 5 s₀ = some (τ₁, .pure second, s₁) ∧
        (createReplicaPod (sampleSet 2) (samplePod "source" "2" ∅) (namedPvc "pvc-source")
          [(first, namedPvc "pvc-0"), (second, namedPvc "pvc-1")] "default").follow
          (Cluster.serve sampleSelects) 5 (sampleCluster 2 [] []) = some (τ, .pure pod, s') ∧
        pod.volumeMounts.map pod.claimOf = [some "pvc-source", some "pvc-0", some "pvc-1"] :=
    ⟨_, _, _, _, _, _, _, _, _, rfl, rfl, rfl, by decide⟩
  have built : BuiltReplica first := ⟨_, False, _, _, _, _, _, _, _,
    Prog.exec_of_follow (fun _ _ _ _ => clusterEnv_of_serve) hfirst⟩
  have built' : BuiltReplica second := ⟨_, False, _, _, _, _, _, _, _,
    Prog.exec_of_follow (fun _ _ _ _ => clusterEnv_of_serve) hsecond⟩
  have run : Prog.Exec (clusterEnv sampleSelects False) _ _ τ (.pure pod) s' :=
    Prog.exec_of_follow (fun _ _ _ _ => clusterEnv_of_serve) hfollow
  have wired := createReplicaPod_wired (Option.some_ne_none "/data")
    (fun replica pvc hmem => by
      rcases List.mem_cons.mp hmem with h | h
      · cases h
        exact built
      · cases List.mem_singleton.mp h
        exact built') run
  exact ⟨first, second, τ, pod, s', run, hclaims, wired.2.1 pod rfl⟩

end Kubedal
