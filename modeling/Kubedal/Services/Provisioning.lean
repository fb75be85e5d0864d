import Kubedal.Services.VolumeContext
import Kubedal.Services.VolumeMap

/-!
# What is provisioned

`create_volume` and the parsing of a publish request check the same annotations separately,
and a claim is looked for in one namespace only.

* `publishable_iff`: a volume that was created can be published if and only if the mount
  annotation of its claim is one of the words that the node service knows;
* `provisionable_iff`: the claims of a set can be provisioned if and only if the set is in the
  namespace that the storage class names.
-/

namespace Kubedal

open Interaction Kube Resource

/-! ## What a created volume comes from -/

/-- The request has found its claim: it is the first one of the uid in the list that it got. -/
structure FoundClaim (r : CreateVolumeRequest) (τ : List (Event signature))
    (pvcMeta : ObjectMeta) : Prop where
  found : ∃ ns uid all, r.parameters.lookup "resourceNamespace" = some ns ∧
    stripPrefix r.name "pvc-" = some uid ∧
    Saw τ (.kube (.listPvcMetadata ns {})) (.ok all) ∧
    all.find? (fun pvcMeta => pvcMeta.uid = some uid) = some pvcMeta

section
variable {σ : Type} {R : σ → (c : Call) → c.Reply → σ → Prop} {s s' : σ}
  {τ : List (Event signature)} {r : CreateVolumeRequest}

/-- A claim that is returned was found in a list. -/
lemma exec_getPvc {ns name : String} {pvcMeta : ObjectMeta}
    (run : Prog.Exec R (getPvc ns name) s τ (.pure pvcMeta) s') :
    ∃ uid all, stripPrefix name "pvc-" = some uid ∧
      Saw τ (.kube (.listPvcMetadata ns {})) (.ok all) ∧
      all.find? (fun pvcMeta => pvcMeta.uid = some uid) = some pvcMeta := by
  obtain ⟨uid, τ₁, τ₂, s₁, rfl, hstrip, run₁⟩ := Prog.exec_bind_pure run
  obtain ⟨reply, τ₃, τ₄, s₂, rfl, hlist, run₂⟩ := Prog.exec_bind_pure run₁
  obtain ⟨all, τ₅, τ₆, s₃, rfl, hall, run₃⟩ := Prog.exec_bind_pure run₂
  obtain ⟨huid, _, _⟩ := exec_orReturn hstrip
  obtain ⟨rfl, _⟩ := exec_perform hlist
  obtain ⟨hreply, _, _⟩ := exec_orReturn hall
  obtain ⟨hfind, _, _⟩ := exec_orReturn run₃
  refine ⟨uid, all, eq_some_of_okOr huid, ?_, eq_some_of_okOr hfind⟩
  rcases reply with e | all'
  · cases hreply
  · cases hreply
    exact List.mem_append_right _ (List.mem_append_left _ (List.mem_singleton_self _))

/-- A volume that is not in the map is made from the claim that was found. -/
lemma exec_createNewVolume {volume : CsiVolume}
    (run : Prog.Exec R (createNewVolume r) s τ (.pure volume) s') :
    ∃ pvcMeta, FoundClaim r τ pvcMeta ∧
      getConfigFromPvcMeta pvcMeta = .ok volume.volumeContext := by
  obtain ⟨ns, τ₁, τ₂, s₁, rfl, hns, run₁⟩ := Prog.exec_bind_pure run
  obtain ⟨pvcMeta, τ₃, τ₄, s₂, rfl, hpvc, run₂⟩ := Prog.exec_bind_pure run₁
  obtain ⟨context, τ₅, τ₆, s₃, rfl, hcontext, run₃⟩ := Prog.exec_bind_pure run₂
  obtain ⟨uuid, τ₇, τ₈, s₄, rfl, _, run₄⟩ := Prog.exec_bind_pure run₃
  obtain ⟨_, τ₉, τ₁₀, s₅, rfl, _, run₅⟩ := Prog.exec_bind_pure run₄
  obtain ⟨_, hvolume, _⟩ := Prog.exec_pure_iff.mp run₅
  obtain ⟨hns', _, _⟩ := exec_orReturn hns
  obtain ⟨hcontext', _, _⟩ := exec_orReturn hcontext
  obtain ⟨uid, all, huid, saw, hfind⟩ := exec_getPvc hpvc
  cases hvolume
  exact ⟨pvcMeta, ⟨ns, uid, all, eq_some_of_okOr hns', huid,
    List.mem_append_right _ (List.mem_append_left _ saw), hfind⟩, hcontext'⟩

end

/-- A volume that a request creates is made from the claim that it has found. -/
lemma exec_createVolume {r : CreateVolumeRequest} {s s' : VolumeState}
    {τ : List (Event signature)} {volume : CsiVolume}
    (missing : s.volumes.lookup r.name = none)
    (run : Prog.Exec VolumeState.Answers (createVolume r) s τ (.pure volume) s') :
    ∃ pvcMeta, FoundClaim r τ pvcMeta ∧
      getConfigFromPvcMeta pvcMeta = .ok volume.volumeContext := by
  unfold createVolume at run
  split at run
  · obtain ⟨_, h, _⟩ := Prog.exec_throw_iff.mp run
    cases h
  obtain ⟨existing, τ₁, τ₂, s₁, rfl, hlookup, run₁⟩ := Prog.exec_bind_pure run
  obtain ⟨rfl, hexisting, _⟩ := exec_perform hlookup
  have hnone : existing = none := hexisting.trans missing
  subst hnone
  obtain ⟨pvcMeta, ⟨ns, uid, all, hns, huid, saw, hfind⟩, hconfig⟩ := exec_createNewVolume run₁
  exact ⟨pvcMeta, ⟨ns, uid, all, hns, huid, List.mem_append_right _ saw, hfind⟩, hconfig⟩

/-! ## What can be published -/

/-- The keys that kubelet adds about a pod. -/
def podInfoKeys : List String :=
  ["csi.storage.k8s.io/pod.name", "csi.storage.k8s.io/pod.namespace",
    "csi.storage.k8s.io/serviceAccount.name", "csi.storage.k8s.io/pod.uid"]

/-- `volumeContext` is `context` with what kubelet adds about a pod. -/
structure AddsPodInfo (context volumeContext : StringMap String) (podInfo : PodInfo) : Prop where
  name : volumeContext.lookup "csi.storage.k8s.io/pod.name" = some podInfo.name
  ns : volumeContext.lookup "csi.storage.k8s.io/pod.namespace" = some podInfo.ns
  serviceAccount : volumeContext.lookup "csi.storage.k8s.io/serviceAccount.name" =
    some podInfo.serviceAccount
  uid : volumeContext.lookup "csi.storage.k8s.io/pod.uid" = some podInfo.uid
  others : ∀ key ∉ podInfoKeys, volumeContext.lookup key = context.lookup key

/-- A publish request with this context passes the parsing. -/
def Parses (volumeContext : StringMap String) : Prop :=
  (∃ keys, dataMountKeys volumeContext = .ok keys) ∧
    ∃ podInfo, getPodInfo volumeContext = .pure podInfo

/-- Every pod can publish a volume with this context, as far as the parsing goes. -/
def Publishable (context : StringMap String) : Prop :=
  ∀ volumeContext podInfo, AddsPodInfo context volumeContext podInfo → Parses volumeContext

/-- The words for a mount access. -/
def mountWords : List String :=
  ["cache", "cache-read-only", "cache-read-write", "fuse", "fuse-read-only", "fuse-read-write"]

lemma parseMountAccess_ok_iff (word : String) :
    (∃ m, parseMountAccess word = .ok m) ↔ word ∈ mountWords := by
  constructor
  · rintro ⟨m, h⟩
    unfold parseMountAccess at h
    split at h
    case h_7 => cases h
    all_goals decide
  · intro h
    simp only [mountWords, List.mem_cons, List.not_mem_nil, or_false] at h
    rcases h with rfl | rfl | rfl | rfl | rfl | rfl
    all_goals exact ⟨_, rfl⟩

lemma getPodInfo_ok {context volumeContext : StringMap String} {podInfo : PodInfo}
    (h : AddsPodInfo context volumeContext podInfo) :
    getPodInfo volumeContext = .pure podInfo := by
  unfold getPodInfo
  rw [h.name, h.ns, h.serviceAccount, h.uid]
  rfl

/-- A context with the four keys of kubelet. -/
def withPodInfo (context : StringMap String) (podInfo : PodInfo) : StringMap String :=
  (((context.insert "csi.storage.k8s.io/pod.name" podInfo.name).insert
    "csi.storage.k8s.io/pod.namespace" podInfo.ns).insert
    "csi.storage.k8s.io/serviceAccount.name" podInfo.serviceAccount).insert
    "csi.storage.k8s.io/pod.uid" podInfo.uid

lemma addsPodInfo_withPodInfo (context : StringMap String) (podInfo : PodInfo) :
    AddsPodInfo context (withPodInfo context podInfo) podInfo := by
  unfold withPodInfo
  constructor
  case others =>
    intro key hkey
    simp only [podInfoKeys, List.mem_cons, List.not_mem_nil, or_false, not_or] at hkey
    obtain ⟨hname, hns, hsa, huid⟩ := hkey
    rw [AList.lookup_insert_ne huid, AList.lookup_insert_ne hsa, AList.lookup_insert_ne hns,
      AList.lookup_insert_ne hname]
  all_goals simp [AList.lookup_insert, AList.lookup_insert_ne]

/-- Both sides check the same keys, so only the word for the mount is left. -/
lemma publishable_keyed (dataNodeName dataNodeNamespace dataPodName dataPodNamespace
    word : String) :
    Publishable (keyed dataNodeName dataNodeNamespace dataPodName dataPodNamespace word) ↔
      word ∈ mountWords := by
  have parsed : ∀ volumeContext podInfo,
      AddsPodInfo (keyed dataNodeName dataNodeNamespace dataPodName dataPodNamespace word)
        volumeContext podInfo →
      dataMountKeys volumeContext = (parseMountAccess word).map fun mountMode =>
        ⟨dataNodeName, dataNodeNamespace, dataPodName, dataPodNamespace, mountMode⟩ := by
    intro volumeContext podInfo h
    have foreign : ∀ key ∈ kubedalKeys, key ∉ podInfoKeys := by decide
    exact dataMountKeys_of_describes ((describes_keyed _ _ _ _ _).extend
      fun key hkey => h.others key (foreign key hkey))
  rw [← parseMountAccess_ok_iff]
  constructor
  · intro h
    have adds := addsPodInfo_withPodInfo
      (keyed dataNodeName dataNodeNamespace dataPodName dataPodNamespace word) ⟨"", "", "", ""⟩
    obtain ⟨⟨keys, hkeys⟩, _⟩ := h _ _ adds
    rw [parsed _ _ adds] at hkeys
    cases hword : parseMountAccess word with
    | error e =>
      rw [hword] at hkeys
      cases hkeys
    | ok m => exact ⟨m, rfl⟩
  · rintro ⟨m, hm⟩ volumeContext podInfo adds
    have hkeys := parsed _ _ adds
    rw [hm] at hkeys
    exact ⟨⟨_, hkeys⟩, podInfo, getPodInfo_ok adds⟩

/-- A volume that `create_volume` makes from a claim can be published if and only if the mount
annotation of the claim is one of the words of the node service. -/
theorem publishable_iff {r : CreateVolumeRequest} {s s' : VolumeState}
    {τ : List (Event signature)} {volume : CsiVolume}
    (missing : s.volumes.lookup r.name = none)
    (run : Prog.Exec VolumeState.Answers (createVolume r) s τ (.pure volume) s') :
    ∃ pvcMeta, FoundClaim r τ pvcMeta ∧
      (Publishable volume.volumeContext ↔
        ∃ word ∈ mountWords, annotationOf pvcMeta "kubedal.arunaengine.org/mount" = some word) := by
  obtain ⟨pvcMeta, found, hconfig⟩ := exec_createVolume missing run
  refine ⟨pvcMeta, found, ?_⟩
  obtain ⟨dataNodeName, dataPodName, word, annotated, hcontext⟩ :=
    getConfigFromPvcMeta_eq_ok.mp hconfig
  rw [hcontext, contextOf, publishable_keyed]
  constructor
  · intro hword
    exact ⟨word, hword, annotated.mount⟩
  · rintro ⟨word', hword', hmount⟩
    rw [annotated.mount] at hmount
    cases hmount
    exact hword'

/-- Answers with one claim. -/
def VolumeState.serveClaim (pvcMeta : ObjectMeta) (s : VolumeState) :
    (c : Call) → Option (c.Reply × VolumeState)
  | .kube (.listPvcMetadata _ _) => some (Except.ok [pvcMeta], s)
  | c => s.serve c

lemma VolumeState.answers_of_serveClaim (pvcMeta : ObjectMeta) (s : VolumeState) (c : Call)
    (a : c.Reply) (s' : VolumeState) (h : s.serveClaim pvcMeta c = some (a, s')) :
    s.Answers c a s' := by
  unfold serveClaim at h
  split at h
  · cases h
    rfl
  · exact s.answers_of_serve _ a s' h

/-- A claim with a word that the node service does not know. -/
def sampleUnknownWord : ObjectMeta :=
  { samplePvc with
    annotations := some (.ofList
      [("kubedal.arunaengine.org/data-node-name", "data"),
        ("kubedal.arunaengine.org/data-pod-name", "p"),
        ("kubedal.arunaengine.org/mount", "read-write")]) }

/-- The controller service makes a volume with a word that is not known to the node service. -/
theorem created_not_publishable :
    ¬ ∀ (r : CreateVolumeRequest) (s s' : VolumeState) (τ : List (Event signature))
      (volume : CsiVolume),
      Prog.Exec VolumeState.Answers (createVolume r) s τ (.pure volume) s' →
        Publishable volume.volumeContext := by
  intro claim
  obtain ⟨τ, volume, s', hrun, hcontext⟩ : ∃ τ volume s',
      Prog.follow (VolumeState.serveClaim sampleUnknownWord) 20
        (createVolume ⟨"pvc-1", none, .ofList [("resourceNamespace", "default")]⟩) .init =
          some (τ, .pure volume, s') ∧
      volume.volumeContext = keyed "data" "default" "p" "default" "read-write" :=
    ⟨_, _, _, rfl, rfl⟩
  have run := Prog.exec_of_follow (VolumeState.answers_of_serveClaim sampleUnknownWord) hrun
  have publishable := claim _ _ _ _ _ run
  rw [hcontext, publishable_keyed] at publishable
  exact absurd publishable (by decide)

/-- A claim for a cached volume, which can be published. -/
theorem publishable_iff_sample : ∃ (τ : List (Event signature)) (volume : CsiVolume)
    (pvcMeta : ObjectMeta),
    FoundClaim ⟨"pvc-1", none, .ofList [("resourceNamespace", "default")]⟩ τ pvcMeta ∧
      Publishable volume.volumeContext ∧
      ∃ word ∈ mountWords, annotationOf pvcMeta "kubedal.arunaengine.org/mount" = some word := by
  obtain ⟨τ, volume, s', hrun, hcontext⟩ : ∃ τ volume s',
      Prog.follow (VolumeState.serveClaim samplePvc) 20
        (createVolume ⟨"pvc-1", none, .ofList [("resourceNamespace", "default")]⟩) .init =
          some (τ, .pure volume, s') ∧
      volume.volumeContext = keyed "data" "default" "p" "default" "cache" :=
    ⟨_, _, _, rfl, rfl⟩
  have run := Prog.exec_of_follow (VolumeState.answers_of_serveClaim samplePvc) hrun
  have publishable : Publishable volume.volumeContext := by
    rw [hcontext, publishable_keyed]
    decide
  obtain ⟨pvcMeta, found, hiff⟩ := publishable_iff rfl run
  exact ⟨τ, volume, pvcMeta, found, publishable, hiff.mp publishable⟩

/-! ## What can be provisioned -/

/-- The parameters of the storage class `kubedal`. -/
def storageClassParameters : StringMap String := .ofList
  [("resourceNamespace", "default"),
    ("resourceAnnotation", "kubedal.arunaengine.org/resource")]

/-- The controller service in a cluster whose API server answers. -/
def provisionEnv (selects : Selects) (cluster : Cluster) (s : VolumeState) :
    (c : Call) → c.Reply → VolumeState → Prop
  | .kube c, a, s' => cluster.Replies selects c a ∧ s' = s
  | c, a, s' => s.Answers c a s'

/-- The request for the volume of the claim with that uid. -/
def claimRequest (uid : String) (capacityRange : Option CapacityRange) : CreateVolumeRequest :=
  ⟨"pvc-" ++ uid, capacityRange, storageClassParameters⟩

/-- The claim is found, and a volume is made from its annotations. -/
structure Provisions (selects : Selects) (cluster : Cluster) (pvc : PersistentVolumeClaim)
    (uid : String) (capacityRange : Option CapacityRange) (s : VolumeState) : Prop where
  finds : (getPvc "default" ("pvc-" ++ uid)).Ensures (provisionEnv selects cluster) s
    fun _ result => result = .ok pvc.metadata
  creates : (createVolume (claimRequest uid capacityRange)).Ensures (provisionEnv selects cluster) s
    fun _ result => ∃ volume, result = .ok volume ∧
      getConfigFromPvcMeta pvc.metadata = .ok volume.volumeContext

lemma stripPrefix_append (pre s : String) : stripPrefix (pre ++ s) pre = some s := by
  have hprefix : pre.toList <+: (pre ++ s).toList := by
    rw [String.toList_append]
    exact List.prefix_append _ _
  rw [stripPrefix, if_pos hprefix, String.toList_append, List.drop_left, String.ofList_toList]

section
variable {selects : Selects} {cluster : Cluster} {s : VolumeState}

/-- The claims are looked for in one namespace. -/
lemma getPvc_ensures (ns uid : String) :
    (getPvc ns ("pvc-" ++ uid)).Ensures (provisionEnv selects cluster) s fun s' result =>
      s' = s ∧ result = (okOr (Status.notFound "PVC not found")
        (((cluster.pvcs.filter fun pvc => InNamespace ns pvc).map
          PersistentVolumeClaim.metadata).find? fun pvcMeta => pvcMeta.uid = some uid)).mapError
            Fault.error := by
  unfold getPvc
  rw [stripPrefix_append]
  refine Prog.Ensures.bind (ensures_orReturn (fun uid' huid => ?_) fun e he => by cases he)
  cases huid
  refine Prog.Ensures.bind (ensures_kube fun reply s₁ answered => ?_)
  obtain ⟨replied, rfl⟩ := answered
  have hreply : reply = .ok ((cluster.pvcs.filter fun pvc => InNamespace ns pvc).map
    PersistentVolumeClaim.metadata) := replied
  rw [hreply]
  refine Prog.Ensures.bind (ensures_orReturn (fun all hall => ?_) fun e he => by cases he)
  cases hall
  refine ensures_orReturn (fun pvcMeta hfind => ?_) fun e hfind => ?_
  · exact ⟨rfl, by rw [hfind]; rfl⟩
  · exact ⟨rfl, by rw [hfind]; rfl⟩

/-- A search that only one element can satisfy. -/
lemma find?_eq_of_unique {α : Type} {l : List α} {p : α → Bool} {x : α} (hx : x ∈ l)
    (hp : p x = true) (unique : ∀ y ∈ l, p y = true → y = x) : l.find? p = some x := by
  cases hfind : l.find? p with
  | none => exact absurd hp (List.find?_eq_none.mp hfind x hx)
  | some y => rw [unique y (List.mem_of_find?_eq_some hfind) (List.find?_some hfind)]

variable {pvc : PersistentVolumeClaim} {uid : String}

/-- The uids are unique, so the claim is the only one of its uid. -/
lemma find_claim (there : pvc ∈ cluster.pvcs)
    (unique : ∀ p ∈ cluster.pvcs, ∀ q ∈ cluster.pvcs, p.metadata.uid = q.metadata.uid → p = q)
    (huid : pvc.metadata.uid = some uid) (ns : String) :
    ((cluster.pvcs.filter fun pvc => InNamespace ns pvc).map
        PersistentVolumeClaim.metadata).find? (fun pvcMeta => pvcMeta.uid = some uid) =
      if pvc.metadata.ns = some ns then some pvc.metadata else none := by
  have only : ∀ q ∈ cluster.pvcs, q.metadata.uid = some uid → q = pvc := by
    intro q hq hquid
    exact unique q hq pvc there (hquid.trans huid.symm)
  rw [List.find?_map]
  by_cases hns : pvc.metadata.ns = some ns
  · have hmem : pvc ∈ cluster.pvcs.filter fun pvc => InNamespace ns pvc :=
      List.mem_filter.mpr ⟨there, decide_eq_true hns⟩
    have hfind := find?_eq_of_unique (p := fun q => decide (q.metadata.uid = some uid)) hmem
      (decide_eq_true huid) fun q hq hquid =>
        only q (List.mem_of_mem_filter hq) (of_decide_eq_true hquid)
    rw [if_pos hns]
    exact congrArg (Option.map PersistentVolumeClaim.metadata) hfind
  · have hfind : (cluster.pvcs.filter fun pvc => InNamespace ns pvc).find?
        (fun q => decide (q.metadata.uid = some uid)) = none := by
      apply List.find?_eq_none.mpr
      intro q hq hquid
      have heq : q = pvc := only q (List.mem_of_mem_filter hq) (of_decide_eq_true hquid)
      rw [heq] at hq
      exact hns (of_decide_eq_true (List.mem_filter.mp hq).2)
    rw [if_neg hns]
    exact congrArg (Option.map PersistentVolumeClaim.metadata) hfind

/-- What the map has under the name of the claim was made from the claim. -/
def StoredFrom (s : VolumeState) (pvc : PersistentVolumeClaim) (uid : String) : Prop :=
  ∀ volume, s.map ("pvc-" ++ uid) = some volume →
    getConfigFromPvcMeta pvc.metadata = .ok volume.volumeContext

/-- If the claim is found, a volume is made from it, or was made before. -/
lemma createVolume_provisions {capacityRange : Option CapacityRange} {context : StringMap String}
    (stored : StoredFrom s pvc uid) (hconfig : getConfigFromPvcMeta pvc.metadata = .ok context)
    (finds : (getPvc "default" ("pvc-" ++ uid)).Ensures (provisionEnv selects cluster) s
      fun s' result => s' = s ∧ result = .ok pvc.metadata) :
    (createVolume (claimRequest uid capacityRange)).Ensures (provisionEnv selects cluster) s
      fun _ result => ∃ volume, result = .ok volume ∧
        getConfigFromPvcMeta pvc.metadata = .ok volume.volumeContext := by
  have hname : (claimRequest uid capacityRange).name ≠ "" := by
    intro h
    have hlength := congrArg String.length h
    simp [claimRequest] at hlength
  unfold createVolume
  rw [if_neg hname]
  refine Prog.Ensures.bind (ensures_volumes fun existing s₁ answered => ?_)
  obtain ⟨hexisting, rfl⟩ := answered
  cases existing with
  | some volume => exact Prog.ensures_pure ⟨volume, rfl, stored volume hexisting.symm⟩
  | none =>
    have hns : (claimRequest uid capacityRange).parameters.lookup "resourceNamespace" =
        some "default" := rfl
    dsimp only
    unfold createNewVolume
    rw [hns]
    refine Prog.Ensures.bind (ensures_orReturn (fun ns hns => ?_) fun e he => by cases he)
    cases hns
    refine Prog.Ensures.bind (finds.mono fun s₂ result hresult => ?_)
    obtain ⟨rfl, rfl⟩ := hresult
    dsimp only
    rw [hconfig]
    refine Prog.Ensures.bind (ensures_orReturn (fun context' h => ?_) fun e he => by cases he)
    cases h
    refine Prog.Ensures.bind (Prog.ensures_perform fun uuid s₃ _ => ?_)
    refine Prog.Ensures.bind (ensures_volumes fun _ s₄ _ => ?_)
    exact Prog.ensures_pure ⟨_, rfl, rfl⟩

end

/-- Every call of the controller service is answered. -/
lemma provisionEnv_total (selects : Selects) (cluster : Cluster) (s : VolumeState) (c : Call) :
    ∃ a s', provisionEnv selects cluster s c a s' := by
  rcases c with c | c | c | c | c | _ | count
  case kube => exact ⟨_, _, cluster.replies_reply selects c, rfl⟩
  case volumes =>
    rcases c with name | ⟨name, volume⟩ | volumeId | _
    · exact ⟨_, _, rfl, rfl⟩
    · exact ⟨(), _, rfl⟩
    · by_cases h : ∃ name volume, s.volumes.lookup name = some volume ∧ volume.volumeId = volumeId
      · obtain ⟨name, volume, there, hid⟩ := h
        exact ⟨(), _, .inl ⟨name, volume, there, hid, rfl⟩⟩
      · exact ⟨(), _, .inr ⟨fun name volume there hid => h ⟨name, volume, there, hid⟩, rfl⟩⟩
    · exact ⟨_, _, .refl _, rfl⟩
  case newUuid => exact ⟨freshUid s.used, _, freshUid_notMem _, rfl⟩
  all_goals
    obtain ⟨a⟩ := Call.exists_reply _
    exact ⟨a, _, rfl⟩

/-- A claim in another namespace is not found. -/
lemma not_finds_elsewhere {selects : Selects} {cluster : Cluster} {s : VolumeState}
    {pvc : PersistentVolumeClaim} {uid : String} (there : pvc ∈ cluster.pvcs)
    (unique : ∀ p ∈ cluster.pvcs, ∀ q ∈ cluster.pvcs, p.metadata.uid = q.metadata.uid → p = q)
    (huid : pvc.metadata.uid = some uid) (elsewhere : pvc.metadata.ns ≠ some "default") :
    ¬ (getPvc "default" ("pvc-" ++ uid)).Ensures (provisionEnv selects cluster) s
      fun _ result => result = .ok pvc.metadata := by
  intro finds
  obtain ⟨τ, q, s', exec, hq⟩ := Prog.exists_exec (provisionEnv_total selects cluster)
    (getPvc "default" ("pvc-" ++ uid)) s
  obtain ⟨result, hresult⟩ := Option.ne_none_iff_exists'.mp hq
  -- the list has no claim of this uid
  have hnone := (getPvc_ensures "default" uid τ q s' result exec hresult).2
  rw [find_claim there unique huid, if_neg elsewhere, finds τ q s' result exec hresult] at hnone
  cases hnone

/-- A claim of a set can be provisioned if and only if the set is in the namespace that the
storage class names. -/
theorem provisionable_iff {selects : Selects} {faults : Prop} {drs : DataReplicaSet}
    {node : DataNode} {pod : DataPod} {m : MountAccess} {ns uid : String}
    {s₀ s₁ cluster : Cluster} {τ : List (Event signature)} {pvc : PersistentVolumeClaim}
    (hns : drs.metadata.ns = some ns)
    (run : Prog.Exec (clusterEnv selects faults) (createReplicaPvc pod node drs m ns) s₀ τ
      (.pure pvc) s₁)
    (huid : pvc.metadata.uid = some uid) (there : pvc ∈ cluster.pvcs)
    (unique : ∀ p ∈ cluster.pvcs, ∀ q ∈ cluster.pvcs, p.metadata.uid = q.metadata.uid → p = q) :
    (∀ s capacityRange, StoredFrom s pvc uid →
      Provisions selects cluster pvc uid capacityRange s) ↔
        drs.metadata.ns = some "default" := by
  have stored := createReplicaPvc_stores run
  have hsame : pvc.metadata.ns = drs.metadata.ns := stored.ns.trans hns.symm
  constructor
  · intro provisions
    by_contra hother
    have nothing : StoredFrom .init pvc uid := fun volume h => by cases h
    rw [← hsame] at hother
    exact not_finds_elsewhere there unique huid hother (provisions .init none nothing).finds
  · intro hdefault s capacityRange hstored
    have finds : (getPvc "default" ("pvc-" ++ uid)).Ensures (provisionEnv selects cluster) s
        fun s' result => s' = s ∧ result = .ok pvc.metadata := by
      refine Prog.Ensures.mono (getPvc_ensures "default" uid) fun s' result h => ?_
      rw [find_claim there unique huid, if_pos (hsame.trans hdefault)] at h
      exact h
    exact ⟨finds.mono fun _ _ h => h.2, createVolume_provisions hstored stored.config_eq finds⟩

/-- A set in the namespace `ns`. -/
def sampleSetIn (ns : String) : DataReplicaSet :=
  { sampleSet 1 with metadata := { name := some "set", ns := some ns, uid := some "0" } }

lemma sample_claim (ns : String) : ∃ τ pvc s₁ uid,
    Prog.Exec (clusterEnv sampleSelects False)
      (createReplicaPvc (samplePod "p" "4" ∅) (sampleNode "m" "3") (sampleSetIn ns)
        .fuseReadWrite ns) (sampleCluster 1 [] []) τ (.pure pvc) s₁ ∧
    pvc.metadata.uid = some uid ∧ s₁.pvcs = [pvc] := by
  obtain ⟨τ, pvc, s₁, uid, hrun, huid, hpvcs⟩ : ∃ τ pvc s₁ uid,
      Prog.follow (Cluster.serve sampleSelects) 20
        (createReplicaPvc (samplePod "p" "4" ∅) (sampleNode "m" "3") (sampleSetIn ns)
          .fuseReadWrite ns) (sampleCluster 1 [] []) = some (τ, .pure pvc, s₁) ∧
      pvc.metadata.uid = some uid ∧ s₁.pvcs = [pvc] :=
    ⟨_, _, _, _, rfl, rfl, rfl⟩
  exact ⟨τ, pvc, s₁, uid, Prog.exec_of_follow (fun _ _ _ _ h => clusterEnv_of_serve h) hrun,
    huid, hpvcs⟩

/-- The claim of a set in the namespace `prod` is not found. -/
theorem claim_not_provisionable :
    ¬ ∀ (selects : Selects) (drs : DataReplicaSet) (node : DataNode) (pod : DataPod)
      (m : MountAccess) (ns uid : String) (s₀ s₁ cluster : Cluster) (τ : List (Event signature))
      (pvc : PersistentVolumeClaim), drs.metadata.ns = some ns →
      Prog.Exec (clusterEnv selects False) (createReplicaPvc pod node drs m ns) s₀ τ
        (.pure pvc) s₁ →
      pvc.metadata.uid = some uid → pvc ∈ cluster.pvcs →
      (∀ p ∈ cluster.pvcs, ∀ q ∈ cluster.pvcs, p.metadata.uid = q.metadata.uid → p = q) →
      ∀ s capacityRange, StoredFrom s pvc uid →
        Provisions selects cluster pvc uid capacityRange s := by
  intro claim
  obtain ⟨τ, pvc, s₁, uid, run, huid, hpvcs⟩ := sample_claim "prod"
  have there : pvc ∈ s₁.pvcs := by simp [hpvcs]
  have unique : ∀ p ∈ s₁.pvcs, ∀ q ∈ s₁.pvcs, p.metadata.uid = q.metadata.uid → p = q := by
    simp [hpvcs]
  have elsewhere : pvc.metadata.ns ≠ some "default" := by
    rw [(createReplicaPvc_stores run).ns]
    decide
  have provisions := claim _ _ _ _ _ _ _ _ _ s₁ _ _ rfl run huid there unique .init none
    fun volume h => by cases h
  exact not_finds_elsewhere there unique huid elsewhere provisions.finds

/-- The claim of a set in the namespace `default` is found. -/
theorem claim_provisionable : ∃ (cluster : Cluster) (pvc : PersistentVolumeClaim) (uid : String),
    Provisions sampleSelects cluster pvc uid none .init := by
  obtain ⟨τ, pvc, s₁, uid, run, huid, hpvcs⟩ := sample_claim "default"
  have there : pvc ∈ s₁.pvcs := by simp [hpvcs]
  have unique : ∀ p ∈ s₁.pvcs, ∀ q ∈ s₁.pvcs, p.metadata.uid = q.metadata.uid → p = q := by
    simp [hpvcs]
  exact ⟨s₁, pvc, uid, (provisionable_iff rfl run huid there unique).mpr rfl .init none
    fun volume h => by cases h⟩

end Kubedal
