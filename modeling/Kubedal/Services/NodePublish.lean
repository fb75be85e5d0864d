import Kubedal.Services.NodeMonitor

/-!
# What a publish request has seen

`node_publish_volume` is followed through its whole past: which objects it was given, which
reviews it obtained, which operator it built, what it read from the storage.

* `Prepared` is what is known once the mount is known, and it stays known;
* `nodePublishVolume_past` says that a mount is only made, and only tracked, with a prepared
  mount, and what a successful request has done.
-/

namespace Kubedal

open Interaction Kube Resource

/-! ## Facts about a past -/

/-- The call `c` was made and answered with `a`. -/
def Saw (past : List (Event signature)) (c : Call) (a : c.Reply) : Prop :=
  (⟨c, a⟩ : Event signature) ∈ past

/-- The operator and the path of a read. -/
def Call.read : Call → Option (Operator × String)
  | .opendal (.reader operator path) => some (operator, path)
  | _ => none

/-- The operator that a call builds. -/
def Call.build : Call → Option Operator
  | .opendal (.fromIter backend config) => some ⟨backend, config⟩
  | _ => none

/-- What was read, in order. -/
def reads (past : List (Event signature)) : List (Operator × String) :=
  past.filterMap fun e => e.call.read

/-- The operators that were built, in order. -/
def builds (past : List (Event signature)) : List Operator :=
  past.filterMap fun e => e.call.build

def bound (source : String) : Joined → Option MountSource
  | .done (.ok _) => some (.bind source)
  | _ => none

def fuseMounted (operator : Operator) : Except IoError MountHandle → Option MountSource
  | .ok _ => some (.fuse operator)
  | .error _ => none

/-- What an answered call has mounted. -/
def mountMade : (c : Call) → c.Reply → Option MountSource
  | .host (.bindMount source _ _), a => bound source a
  | .host (.fuseMount operator _ _), a => fuseMounted operator a
  | _, _ => none

/-- What was mounted, in order. -/
def mountsMade (past : List (Event signature)) : List MountSource :=
  past.filterMap fun e => mountMade e.call e.reply

/-- The service account of the request's pod may get the object of `attributes`. -/
def Reviewed (request : NodePublishVolumeRequest) (past : List (Event signature))
    (attributes : ResourceAttributes) : Prop :=
  ∃ podNamespace serviceAccount spec status,
    request.volumeContext.lookup "csi.storage.k8s.io/pod.namespace" = some podNamespace ∧
    request.volumeContext.lookup "csi.storage.k8s.io/serviceAccount.name" = some serviceAccount ∧
    Saw past (.kube (.createAccessReview ⟨⟨some { attributes with verb := some "get" },
      some ("system:serviceaccount:" ++ podNamespace ++ ":" ++ serviceAccount)⟩, none⟩))
      (Except.ok ⟨spec, some status⟩) ∧
    status.allowed = true

/-- The secret that `node` references is fetched, reviewed, and fetched again; the second
answer is what goes into `config`. -/
def SecretUsed (request : NodePublishVolumeRequest) (past : List (Event signature))
    (node : DataNode) (config : StringMap String) : Prop :=
  ∀ ref, node.spec.secretRef = some ref → ∃ ns reviewed secret,
    secretNamespace node ref = .ok ns ∧
    Saw past (.kube (.getSecret ns ref.name)) (Except.ok reviewed) ∧
    Reviewed request past (secretAttributes reviewed.metadata) ∧
    Saw past (.kube (.getSecret ns ref.name)) (Except.ok secret) ∧
    withSecretData node.spec.config (some secret) = .ok config

/-- What is known of the mount of a request, and of the `DataNode` it is for. -/
structure Prepared (request : NodePublishVolumeRequest) (past : List (Event signature))
    (node : DataNode) (mount : Mount) : Prop where
  resolved : ∃ keys pod, dataMountKeys request.volumeContext = .ok keys ∧
    Saw past (.kube (.getDataNode keys.dataNodeNamespace keys.dataNodeName)) (Except.ok node) ∧
    Saw past (.kube (.getDataPod keys.dataPodNamespace keys.dataPodName)) (Except.ok pod) ∧
    (mount.mountMode, mount.accessMode) = modes keys.mountMode
  reviewed : Reviewed request past (dataNodeAttributes node.metadata)
  backend : mount.operator.backend = node.spec.backend
  config : node.spec.secretRef = none → mount.operator.config = node.spec.config
  secret : SecretUsed request past node mount.operator.config
  builds : builds past = [mount.operator]

section
variable {request : NodePublishVolumeRequest} {past τ : List (Event signature)}

lemma Saw.append {c : Call} {a : c.Reply} (h : Saw past c a) : Saw (past ++ τ) c a :=
  List.mem_append_left _ h

lemma saw_last (c : Call) (a : c.Reply) : Saw (past ++ [⟨c, a⟩]) c a :=
  List.mem_append_right _ List.mem_cons_self

@[simp] lemma reads_append : reads (past ++ τ) = reads past ++ reads τ :=
  List.filterMap_append

@[simp] lemma builds_append : builds (past ++ τ) = builds past ++ builds τ :=
  List.filterMap_append

lemma reads_eq_nil (h : ∀ e ∈ τ, e.call.read = none) : reads τ = [] :=
  List.filterMap_eq_nil_iff.mpr h

lemma builds_eq_nil (h : ∀ e ∈ τ, e.call.build = none) : builds τ = [] :=
  List.filterMap_eq_nil_iff.mpr h

@[simp] lemma mountsMade_append : mountsMade (past ++ τ) = mountsMade past ++ mountsMade τ :=
  List.filterMap_append

lemma mountsMade_eq_nil (h : ∀ e ∈ τ, e.call.Quiet) : mountsMade τ = [] := by
  apply List.filterMap_eq_nil_iff.mpr
  intro e he
  obtain ⟨c, a⟩ := e
  have hc := h _ he
  rcases c with c | c | c | c | c | _ | _
  case host => cases c <;> first | rfl | exact hc.elim
  all_goals rfl

lemma Reviewed.append {attributes : ResourceAttributes} (h : Reviewed request past attributes) :
    Reviewed request (past ++ τ) attributes := by
  obtain ⟨podNamespace, serviceAccount, spec, status, hns, hsa, hsaw, hallowed⟩ := h
  exact ⟨podNamespace, serviceAccount, spec, status, hns, hsa, hsaw.append, hallowed⟩

lemma SecretUsed.append {node : DataNode} {config : StringMap String}
    (h : SecretUsed request past node config) : SecretUsed request (past ++ τ) node config := by
  intro ref href
  obtain ⟨ns, reviewed, secret, hns, hfirst, hreview, hsecond, hconfig⟩ := h ref href
  exact ⟨ns, reviewed, secret, hns, hfirst.append, hreview.append, hsecond.append, hconfig⟩

lemma Prepared.append {node : DataNode} {mount : Mount} (h : Prepared request past node mount)
    (hτ : Kubedal.builds τ = []) : Prepared request (past ++ τ) node mount := by
  obtain ⟨keys, pod, hkeys, hnode, hpod, hmodes⟩ := h.resolved
  refine ⟨⟨keys, pod, hkeys, hnode.append, hpod.append, hmodes⟩, h.reviewed.append, h.backend,
    h.config, h.secret.append, ?_⟩
  rw [builds_append, hτ, h.builds]
  rfl

end

/-! ## The protocol over the past -/

/-- The files of a listing, as they are read. -/
def fileReads (operator : Operator) (entries : List Entry) : List (Operator × String) :=
  (entries.filter fun entry => entry.mode = .file).map fun entry => (operator, entry.path)

/-- What is mounted is what `mount` is for: its operator, or a copy of what its operator has
listed. -/
def MountsPrepared (past : List (Event signature)) (mount : Mount) : Call → Prop
  | .host (.fuseMount operator target readOnly) =>
    mount.mountMode = .fuse ∧ operator = mount.operator ∧ target = mount.targetPath ∧
      readOnly = decide (mount.accessMode = .readOnly) ∧ reads past = []
  | .host (.bindMount source target readOnly) =>
    mount.mountMode = .cached ∧ source = mount.cachePath ∧ target = mount.targetPath ∧
      readOnly = decide (mount.accessMode = .readOnly) ∧
      ∃ entries, Saw past (.opendal (.list mount.operator "")) (Except.ok entries) ∧
        reads past = fileReads mount.operator entries
  | _ => True

/-- The call makes a mount. -/
def Call.Mounts : Call → Prop
  | .host (.bindMount _ _ _) => True
  | .host (.fuseMount _ _ _) => True
  | _ => False

/-- The mount that a call records. -/
def Call.tracks : Call → Option Mount
  | .mounts (.insert _ mount) => some mount
  | _ => none

/-- A mount is made or recorded only if it is prepared. -/
structure PublishAllows (request : NodePublishVolumeRequest) (past : List (Event signature))
    (c : Call) : Prop where
  mounts : c.Mounts → ∃ node mount, Prepared request past node mount ∧
    MountsPrepared past mount c
  tracks : ∀ mount, c.tracks = some mount → ∃ node, Prepared request past node mount

def publishMonitor (request : NodePublishVolumeRequest) :
    Monitor signature (List (Event signature)) :=
  Monitor.history (PublishAllows request) fun _ _ => True

section
variable {request : NodePublishVolumeRequest} {past : List (Event signature)} {c : Call}

lemma publishAllows_of_quiet (h : c.Quiet) : PublishAllows request past c := by
  refine ⟨fun hmounts => ?_, fun mount htracks => ?_⟩
  · rcases c with c | c | c | c | c | _ | _
    case host => cases c <;> first | exact hmounts.elim | exact h.elim
    all_goals exact hmounts.elim
  · rcases c with c | c | c | c | c | _ | _
    case mounts => exact h.elim
    all_goals cases htracks

lemma reads_of_kube {τ : List (Event signature)} (h : ∀ e ∈ τ, e.call.IsKube) : reads τ = [] := by
  apply reads_eq_nil
  intro e he
  obtain ⟨c, a⟩ := e
  have hc := h _ he
  rcases c with c | c | c | c | c | _ | _
  case kube => rfl
  all_goals exact hc.elim

lemma builds_of_kube {τ : List (Event signature)} (h : ∀ e ∈ τ, e.call.IsKube) :
    builds τ = [] := by
  apply builds_eq_nil
  intro e he
  obtain ⟨c, a⟩ := e
  have hc := h _ he
  rcases c with c | c | c | c | c | _ | _
  case kube => rfl
  all_goals exact hc.elim

end

/-! ## The steps of the handler -/

section
variable {request : NodePublishVolumeRequest} {past : List (Event signature)} {α : Type}

/-- A quiet call is added to the past. -/
lemma wp_kube_past {c : KubeCall}
    {Q : List (Event signature) → Except (Fault Status) (Except KubeError c.Object) → Prop}
    (h : ∀ a, Q (past ++ [⟨.kube c, a⟩]) (.ok a)) :
    (kube c).wp (publishMonitor request) past Q :=
  ⟨publishAllows_of_quiet trivial, fun a _ => h a⟩

lemma wp_opendal_past {c : OpendalCall}
    {Q : List (Event signature) → Except (Fault Status) c.Reply → Prop}
    (h : ∀ a, Q (past ++ [⟨.opendal c, a⟩]) (.ok a)) :
    (opendal c).wp (publishMonitor request) past Q :=
  ⟨publishAllows_of_quiet trivial, fun a _ => h a⟩

/-- What quiet calls add to the past. -/
lemma wp_uses_past {C : Call → Prop} {p : Handler α} (hp : p.Uses C)
    (hquiet : ∀ c, C c → c.Quiet) :
    p.wp (publishMonitor request) past fun g _ => ∃ τ, g = past ++ τ ∧ ∀ e ∈ τ, C e.call :=
  hp.wp_history (fun _ c hc => publishAllows_of_quiet (hquiet c hc))
    fun τ _ hτ => ⟨τ, rfl, hτ⟩

/-- What `get_full_data_mount` returns is what it was given for the names in the context. -/
structure Resolved (request : NodePublishVolumeRequest) (past : List (Event signature))
    (source : FullDataSource) (access : MountAccess) : Prop where
  keys : ∃ keys, dataMountKeys request.volumeContext = .ok keys ∧ keys.mountMode = access ∧
    Saw past (.kube (.getDataNode keys.dataNodeNamespace keys.dataNodeName))
      (Except.ok source.source) ∧
    Saw past (.kube (.getDataPod keys.dataPodNamespace keys.dataPodName)) (Except.ok source.pod)
  secret : ∀ ref, source.source.spec.secretRef = some ref → ∃ ns secret,
    secretNamespace source.source ref = .ok ns ∧ source.secret = some secret ∧
    Saw past (.kube (.getSecret ns ref.name)) (Except.ok secret)

lemma getFullDataMount_past :
    (getFullDataMount request.volumeContext).wp (publishMonitor request) past fun g result =>
      ∀ source access, result = .ok (source, access) → Resolved request g source access := by
  unfold getFullDataMount
  refine Prog.wp_bind (wp_orReturn (fun keys hkeys => ?_) (by simp))
  refine Prog.wp_bind (wp_kube_past fun nodeReply => ?_)
  refine Prog.wp_bind (wp_orReturn (fun node hnode => ?_) (by simp))
  refine Prog.wp_bind (wp_kube_past fun podReply => ?_)
  refine Prog.wp_bind (wp_orReturn (fun pod hpod => ?_) (by simp))
  -- a request that failed has ended the function
  rcases nodeReply with e | node'
  · cases hnode
  rcases podReply with e | pod'
  · cases hpod
  cases hnode
  cases hpod
  dsimp only
  split
  · -- no secret is referenced
    rename_i hnone
    rintro source access ⟨⟩
    exact ⟨⟨keys, hkeys, rfl, (saw_last _ _).append, saw_last _ _⟩,
      fun ref href => by simp [hnone] at href⟩
  · rename_i secretRef hsome
    refine Prog.wp_bind (wp_orReturn (fun ns hns => ?_) (by simp))
    refine Prog.wp_bind (wp_kube_past fun secretReply => ?_)
    refine Prog.wp_bind (wp_orReturn (fun secret hsecret => ?_) (by simp))
    rcases secretReply with e | secret'
    · cases hsecret
    cases hsecret
    rintro source access ⟨⟩
    refine ⟨⟨keys, hkeys, rfl, (saw_last _ _).append.append, (saw_last _ _).append⟩,
      fun ref href => ?_⟩
    have href' : secretRef = ref := by
      rw [hsome] at href
      exact Option.some.inj href
    subst href'
    exact ⟨ns, secret, hns, rfl, saw_last _ _⟩

lemma requireAccess_past {podInfo : PodInfo} {attributes : ResourceAttributes} {object : String}
    {metadata : ObjectMeta}
    (hns : request.volumeContext.lookup "csi.storage.k8s.io/pod.namespace" = some podInfo.ns)
    (hsa : request.volumeContext.lookup "csi.storage.k8s.io/serviceAccount.name" =
      some podInfo.serviceAccount) :
    (requireAccess podInfo attributes object metadata).wp (publishMonitor request) past
      fun g result => result = .ok () → Reviewed request g attributes := by
  unfold requireAccess
  refine Prog.wp_bind (wp_kube_past fun reply => ?_)
  refine Prog.wp_bind (wp_orReturn (fun response hresponse => ?_) (by simp))
  -- only a review whose status says so lets the request pass
  rcases reply with e | ⟨spec, status⟩
  · cases hresponse
  cases hresponse
  rcases status with _ | status
  · simp
  show Prog.wp _ (if status.allowed then _ else _) _ _
  split
  · rename_i hallowed
    exact fun _ => ⟨podInfo.ns, podInfo.serviceAccount, spec, status, hns, hsa, saw_last _ _,
      hallowed⟩
  · simp

lemma getPodInfo_past :
    (getPodInfo request.volumeContext).wp (publishMonitor request) past fun g result =>
      g = past ∧ ∀ podInfo, result = .ok podInfo →
        request.volumeContext.lookup "csi.storage.k8s.io/pod.namespace" = some podInfo.ns ∧
        request.volumeContext.lookup "csi.storage.k8s.io/serviceAccount.name" =
          some podInfo.serviceAccount := by
  unfold getPodInfo
  cases request.volumeContext.lookup "csi.storage.k8s.io/pod.name" with
  | none => exact ⟨rfl, by simp⟩
  | some podName =>
  cases request.volumeContext.lookup "csi.storage.k8s.io/pod.namespace" with
  | none => exact ⟨rfl, by simp⟩
  | some podNamespace =>
  cases request.volumeContext.lookup "csi.storage.k8s.io/serviceAccount.name" with
  | none => exact ⟨rfl, by simp⟩
  | some serviceAccount =>
  cases request.volumeContext.lookup "csi.storage.k8s.io/pod.uid" with
  | none => exact ⟨rfl, by simp⟩
  | some podUid =>
    refine ⟨rfl, fun podInfo h => ?_⟩
    cases h
    exact ⟨rfl, rfl⟩

lemma checkAccess_past {source : FullDataSource} {podInfo : PodInfo}
    (hns : request.volumeContext.lookup "csi.storage.k8s.io/pod.namespace" = some podInfo.ns)
    (hsa : request.volumeContext.lookup "csi.storage.k8s.io/serviceAccount.name" =
      some podInfo.serviceAccount) :
    (checkAccess source podInfo).wp (publishMonitor request) past fun g result =>
      result = .ok () → Reviewed request g (dataNodeAttributes source.source.metadata) ∧
        ∀ secret, source.secret = some secret →
          Reviewed request g (secretAttributes secret.metadata) := by
  unfold checkAccess
  refine Prog.wp_bind (Prog.wp_mono (Prog.wp_and (requireAccess_past hns hsa)
    (wp_uses_past (requireAccess_kube _ _ _ _) fun _ => Call.IsKube.quiet)) ?_)
  rintro g result ⟨hreviewed, -⟩
  rcases result with e | _
  · simp
  -- the review of the `DataNode` has come first, then the one of the secret, if there is one
  have hnode := hreviewed rfl
  dsimp only
  cases source.secret with
  | none => exact fun _ => ⟨hnode, by simp⟩
  | some secret =>
    refine Prog.wp_mono (Prog.wp_and (requireAccess_past hns hsa)
      (wp_uses_past (requireAccess_kube _ _ _ _) fun _ => Call.IsKube.quiet)) ?_
    rintro g' result ⟨hreviewed', τ, rfl, -⟩ hok
    refine ⟨hnode.append, fun secret' hsecret => ?_⟩
    cases hsecret
    exact hreviewed' hok

/-- What `get_operator` has built. -/
structure BuiltFor (past : List (Event signature)) (node : DataNode) (operator : Operator) :
    Prop where
  backend : operator.backend = node.spec.backend
  config : node.spec.secretRef = none → operator.config = node.spec.config
  secret : ∀ ref, node.spec.secretRef = some ref → ∃ ns secret,
    secretNamespace node ref = .ok ns ∧
    Saw past (.kube (.getSecret ns ref.name)) (Except.ok secret) ∧
    withSecretData node.spec.config (some secret) = .ok operator.config

lemma fetchSecret_past {node : DataNode} :
    (fetchSecret node).wp (publishMonitor request) past fun g result =>
      ∀ secret, result = .ok secret → (node.spec.secretRef = none → secret = none) ∧
        ∀ ref, node.spec.secretRef = some ref → ∃ ns s, secretNamespace node ref = .ok ns ∧
          secret = some s ∧ Saw g (.kube (.getSecret ns ref.name)) (Except.ok s) := by
  unfold fetchSecret
  split
  · rename_i hnone
    rintro secret ⟨⟩
    exact ⟨fun _ => rfl, fun ref href => by simp [hnone] at href⟩
  · rename_i cred hsome
    refine Prog.wp_bind (wp_orReturn (fun ns hns => ?_) (by simp))
    refine Prog.wp_bind (wp_kube_past fun reply => ?_)
    refine Prog.wp_bind (wp_orReturn (fun s hs => ?_) (by simp))
    rcases reply with e | s'
    · cases hs
    cases hs
    rintro secret ⟨⟩
    refine ⟨fun hnone => by simp [hsome] at hnone, fun ref href => ?_⟩
    have href' : cred = ref := by
      rw [hsome] at href
      exact Option.some.inj href
    subst href'
    exact ⟨ns, s, hns, rfl, saw_last _ _⟩

lemma getOperator_past {node : DataNode} :
    (getOperator node).wp (publishMonitor request) past fun g result =>
      ∀ operator, result = .ok operator → BuiltFor g node operator ∧
        ∃ τ, g = past ++ τ ∧ reads τ = [] ∧ builds τ = [operator] ∧ mountsMade τ = [] := by
  unfold getOperator
  refine Prog.wp_bind (Prog.wp_mono (Prog.wp_and fetchSecret_past
    (wp_uses_past (fetchSecret_kube node) fun _ => Call.IsKube.quiet)) ?_)
  rintro g result ⟨hsecret, τ, rfl, hτ⟩
  rcases result with e | secret
  · simp
  -- the configuration is that of the node, with the entries of the secret it refers to
  obtain ⟨hnone, hsome⟩ := hsecret secret rfl
  refine Prog.wp_bind (wp_orReturn (fun cfg hcfg => ?_) (by simp))
  unfold initService
  refine Prog.wp_bind (wp_opendal_past fun built => ?_)
  refine Prog.wp_bind (wp_orReturn (fun _ _ => ?_) (by simp))
  rintro operator ⟨⟩
  refine ⟨⟨rfl, fun href => ?_, fun ref href => ?_⟩,
    τ ++ [⟨.opendal (.fromIter node.spec.backend cfg), built⟩], ?_, ?_, ?_, ?_⟩
  · rw [hnone href] at hcfg
    exact (Except.ok.inj hcfg).symm
  · obtain ⟨ns, s, hns, rfl, hsaw⟩ := hsome ref href
    exact ⟨ns, s, hns, hsaw.append, hcfg⟩
  · exact List.append_assoc _ _ _
  · rw [reads_append, reads_of_kube hτ]
    rfl
  · rw [builds_append, builds_of_kube hτ]
    rfl
  · rw [mountsMade_append, mountsMade_eq_nil fun e he => (hτ e he).quiet]
    rfl

/-- `g` is `past` and then calls that neither build an operator nor mount, and read `rs`. -/
def Reads (past g : List (Event signature)) (rs : List (Operator × String)) : Prop :=
  ∃ τ, g = past ++ τ ∧ reads τ = rs ∧ builds τ = [] ∧ mountsMade τ = []

lemma Reads.refl : Reads past past [] := ⟨[], by simp, rfl, rfl, rfl⟩

lemma Reads.trans {g g' : List (Event signature)} {rs rs' : List (Operator × String)}
    (h : Reads past g rs) (h' : Reads g g' rs') : Reads past g' (rs ++ rs') := by
  obtain ⟨τ, rfl, hreads, hbuilds, hmounts⟩ := h
  obtain ⟨τ', rfl, hreads', hbuilds', hmounts'⟩ := h'
  refine ⟨τ ++ τ', List.append_assoc _ _ _, ?_, ?_, ?_⟩
  · rw [reads_append, hreads, hreads']
  · rw [builds_append, hbuilds, hbuilds']
    rfl
  · rw [mountsMade_append, hmounts, hmounts']
    rfl

/-- One more call. -/
lemma Reads.add {g : List (Event signature)} {rs : List (Operator × String)}
    (h : Reads past g rs) (c : Call) (a : c.Reply) (hquiet : c.Quiet)
    (hbuild : c.build = none) : Reads past (g ++ [⟨c, a⟩]) (rs ++ c.read.toList) := by
  refine h.trans ⟨[⟨c, a⟩], rfl, ?_, ?_, mountsMade_eq_nil ?_⟩
  · cases hread : c.read <;> simp [reads, hread]
  · exact builds_eq_nil (by simpa using hbuild)
  · simpa using hquiet

lemma reads_of_files {τ : List (Event signature)} (h : ∀ e ∈ τ, e.call.Files) :
    Reads past (past ++ τ) [] := by
  refine ⟨τ, rfl, reads_eq_nil fun e he => ?_, builds_eq_nil fun e he => ?_,
    mountsMade_eq_nil fun e he => (h e he).quiet⟩
  all_goals
    obtain ⟨c, a⟩ := e
    have hc := h _ he
    rcases c with c | c | c | c | c | _ | _
  case host => rfl
  all_goals first | rfl | exact hc.elim

lemma wp_files_past {p : Handler α} (hp : p.Uses Call.Files) :
    p.wp (publishMonitor request) past fun g _ => Reads past g [] := by
  refine Prog.wp_mono (wp_uses_past hp fun _ => Call.Files.quiet) ?_
  rintro g _ ⟨τ, rfl, hτ⟩
  exact reads_of_files hτ

lemma wp_kube_reads {p : Handler α} (hp : p.Uses Call.IsKube) :
    p.wp (publishMonitor request) past fun g _ => Reads past g [] := by
  refine Prog.wp_mono (wp_uses_past hp fun _ => Call.IsKube.quiet) ?_
  rintro g _ ⟨τ, rfl, hτ⟩
  exact ⟨τ, rfl, reads_of_kube hτ, builds_of_kube hτ, mountsMade_eq_nil fun e he => (hτ e he).quiet⟩

/-- Copying an entry reads it if it is a file. -/
lemma copyEntry_past {m : Mount} {entry : Entry} :
    (m.copyEntry entry).wp (publishMonitor request) past fun g result =>
      result = .ok () → Reads past g (fileReads m.operator [entry]) := by
  unfold Mount.copyEntry
  cases hmode : entry.mode with
  | file =>
    have hfile : fileReads m.operator [entry] = [(m.operator, entry.path)] := by
      simp [fileReads, hmode]
    rw [hfile]
    refine Prog.wp_bind (Prog.wp_mono (wp_files_past (uses_host _ trivial)) ?_)
    intro g₁ result h₁
    rcases result with e | file
    · simp
    refine Prog.wp_bind (wp_orReturn (fun _ _ => ?_) (by simp))
    -- opening a reader is the one call of these that reads
    refine Prog.wp_bind (wp_opendal_past fun reader => ?_)
    have h₂ := h₁.add (.opendal (.reader m.operator entry.path)) reader trivial rfl
    refine Prog.wp_bind (wp_orReturn (fun _ _ => ?_) (by simp))
    refine Prog.wp_bind (wp_opendal_past fun stream => ?_)
    have h₃ := h₂.add (.opendal (.intoBytesStream m.operator entry.path)) stream trivial rfl
    refine Prog.wp_bind (wp_orReturn (fun r _ => ?_) (by simp))
    apply Prog.wp_mono (wp_files_past (writeStream_files _ _ _))
    intro g₄ result h₄ _
    exact h₃.trans h₄
  | dir =>
    have hdir : fileReads m.operator [entry] = [] := by simp [fileReads, hmode]
    rw [hdir]
    exact Prog.wp_mono (wp_files_past (ensureDirectory_files _ _)) fun g result h _ => h
  | unknown =>
    show Prog.wp _ (.throw _) _ _
    rw [Prog.wp_throw]
    simp

lemma fileReads_cons (operator : Operator) (entry : Entry) (rest : List Entry) :
    fileReads operator (entry :: rest) =
      fileReads operator [entry] ++ fileReads operator rest := by
  simp only [fileReads, List.filter_cons, List.filter_nil]
  split <;> rfl

/-- The loop over a listing reads its files, in their order. -/
lemma copyEntries_past {m : Mount} {entries : List Entry} :
    (m.copyEntries entries).wp (publishMonitor request) past fun g result =>
      result = .ok () → Reads past g (fileReads m.operator entries) := by
  induction entries generalizing past with
  | nil => exact fun _ => .refl
  | cons entry rest ih =>
    refine Prog.wp_bind (Prog.wp_mono copyEntry_past ?_)
    intro g result h₁
    rcases result with e | _
    · simp
    apply Prog.wp_mono ih
    intro g' result h₂ hok
    rw [fileReads_cons]
    exact (h₁ rfl).trans (h₂ hok)

/-! ## The whole handler -/

/-- The mount `mount`, which is for `node`, has been made and nothing else was mounted. -/
structure Published (request : NodePublishVolumeRequest) (past : List (Event signature))
    (node : DataNode) (mount : Mount) : Prop where
  prepared : Prepared request past node mount
  fuse : mount.mountMode = .fuse →
    mountsMade past = [.fuse mount.operator] ∧ reads past = []
  cached : mount.mountMode = .cached → mountsMade past = [.bind mount.cachePath] ∧
    ∃ entries, Saw past (.opendal (.list mount.operator "")) (Except.ok entries) ∧
      reads past = fileReads mount.operator entries

lemma prepareMount_past :
    (prepareMount request).wp (publishMonitor request) [] fun g result => ∀ m, result = .ok m →
      (∃ node, Prepared request g node m) ∧ reads g = [] ∧ mountsMade g = [] := by
  unfold prepareMount
  -- the objects, the pod, the reviews, and then the operator
  refine Prog.wp_bind (Prog.wp_mono (Prog.wp_and getFullDataMount_past
    (wp_kube_reads (getFullDataMount_kube _))) ?_)
  rintro g₁ result ⟨hresolved, h₁⟩
  rcases result with e | ⟨source, access⟩
  · simp
  have resolved := hresolved source access rfl
  refine Prog.wp_bind (Prog.wp_mono getPodInfo_past ?_)
  rintro _ result ⟨rfl, hpod⟩
  rcases result with e | podInfo
  · simp
  obtain ⟨hns, hsa⟩ := hpod podInfo rfl
  refine Prog.wp_bind (Prog.wp_mono (Prog.wp_and (checkAccess_past hns hsa)
    (wp_kube_reads (checkAccess_kube _ _))) ?_)
  rintro g₂ result ⟨hreviewed, h₂⟩
  rcases result with e | _
  · simp
  obtain ⟨hnode, hsecret⟩ := hreviewed rfl
  unfold FullDataSource.intoParts
  refine Prog.wp_bind (Prog.wp_bind (Prog.wp_mono getOperator_past ?_))
  intro g₃ result hbuilt
  rcases result with e | operator
  · simp
  obtain ⟨built, τ, rfl, hreads, hbuilds, hmounts⟩ := hbuilt operator rfl
  rintro m ⟨⟩
  -- all of this reads no file and mounts nothing
  obtain ⟨τ₁, rfl, hreads₁, hbuilds₁, hmounts₁⟩ := h₁
  obtain ⟨τ₂, rfl, hreads₂, hbuilds₂, hmounts₂⟩ := h₂
  obtain ⟨keys, hkeys, haccess, hsawNode, hsawPod⟩ := resolved.keys
  refine ⟨⟨source.source, ⟨keys, source.pod, hkeys, hsawNode.append.append,
    hsawPod.append.append, by rw [haccess]; rfl⟩, hnode.append, built.backend, built.config,
    fun ref href => ?_, ?_⟩, ?_, ?_⟩
  · -- the secret that was reviewed and the secret that is used have the same name
    obtain ⟨ns, reviewed, hresolve, hsome, hfirst⟩ := resolved.secret ref href
    obtain ⟨ns', secret, hresolve', hsecond, hconfig⟩ := built.secret ref href
    have hns' : ns' = ns := by
      rw [hresolve] at hresolve'
      exact (Except.ok.inj hresolve').symm
    subst hns'
    exact ⟨ns', reviewed, secret, hresolve, hfirst.append.append,
      (hsecret reviewed hsome).append, hsecond, hconfig⟩
  · rw [builds_append, builds_append, hbuilds, hbuilds₁, hbuilds₂]
    rfl
  · rw [reads_append, reads_append, hreads, hreads₁, hreads₂]
    rfl
  · rw [mountsMade_append, mountsMade_append, hmounts, hmounts₁, hmounts₂]
    rfl

/-- What is prepared stays prepared while files are copied. -/
lemma Prepared.of_reads {g : List (Event signature)} {rs : List (Operator × String)}
    {node : DataNode} {m : Mount} (h : Prepared request past node m) (hg : Reads past g rs) :
    Prepared request g node m := by
  obtain ⟨τ, rfl, _, hbuilds, _⟩ := hg
  exact h.append hbuilds

lemma Reads.reads_eq {g : List (Event signature)} {rs : List (Operator × String)}
    (h : Reads past g rs) : reads g = reads past ++ rs := by
  obtain ⟨τ, rfl, hreads, _, _⟩ := h
  rw [reads_append, hreads]

lemma Reads.mountsMade_eq {g : List (Event signature)} {rs : List (Operator × String)}
    (h : Reads past g rs) : mountsMade g = mountsMade past := by
  obtain ⟨τ, rfl, _, _, hmounts⟩ := h
  rw [mountsMade_append, hmounts, List.append_nil]

/-- A mount call that is for a prepared mount. -/
lemma publishAllows_of_mounts {c : Call} {node : DataNode} {m : Mount}
    (h : Prepared request past node m) (hm : MountsPrepared past m c) (htracks : c.tracks = none) :
    PublishAllows request past c :=
  ⟨fun _ => ⟨node, m, h, hm⟩, fun mount hmount => by simp [htracks] at hmount⟩

lemma mountFuse_past {m : Mount} {node : DataNode} (h : Prepared request past node m)
    (hreads : reads past = []) (hmounts : mountsMade past = []) (hmode : m.mountMode = .fuse) :
    m.mountFuse.wp (publishMonitor request) past fun g result => ∀ m', result = .ok m' →
      Published request g node m' := by
  have allowed : PublishAllows request past
      (.host (.fuseMount m.operator m.targetPath (m.accessMode = .readOnly))) :=
    publishAllows_of_mounts h ⟨hmode, rfl, rfl, rfl, hreads⟩ rfl
  refine ⟨allowed, fun reply _ => ?_⟩
  rcases reply with e | handle
  · rintro m' ⟨⟩
  · rintro m' ⟨⟩
    -- only the handle of the mount is new
    have h' := h.append (τ := [⟨.host (.fuseMount m.operator m.targetPath
      (m.accessMode = .readOnly)), .ok handle⟩]) rfl
    refine ⟨⟨h'.resolved, h'.reviewed, h'.backend, h'.config, h'.secret, h'.builds⟩,
      fun _ => ⟨?_, ?_⟩, fun hcached => ?_⟩
    · show mountsMade (past ++ _) = _
      rw [mountsMade_append, hmounts]
      rfl
    · show reads (past ++ _) = _
      rw [reads_append, hreads]
      rfl
    · have : m.mountMode = .cached := hcached
      rw [hmode] at this
      cases this

lemma mountCached_past {m : Mount} {node : DataNode} (h : Prepared request past node m)
    (hreads : reads past = []) (hmounts : mountsMade past = []) (hmode : m.mountMode = .cached) :
    m.mountCached.wp (publishMonitor request) past fun g result => result = .ok () →
      Published request g node m := by
  unfold Mount.mountCached
  refine Prog.wp_bind (Prog.wp_mono (wp_files_past (ensureDirectory_files _ _)) ?_)
  intro g₁ result h₁
  rcases result with e | _
  · simp
  refine Prog.wp_bind (wp_opendal_past fun listing => ?_)
  have h₂ := h₁.add (.opendal (.list m.operator "")) listing trivial rfl
  refine Prog.wp_bind (wp_orReturn (fun entries hentries => ?_) (by simp))
  -- the listing is what is copied from
  have hsaw : Saw (g₁ ++ [⟨.opendal (.list m.operator ""), listing⟩])
      (.opendal (.list m.operator "")) (Except.ok entries) := by
    rcases listing with e | entries'
    · cases hentries
    · cases hentries
      exact saw_last _ _
  refine Prog.wp_bind (Prog.wp_mono (Prog.wp_and copyEntries_past
    (wp_uses_past (copyEntries_quiet m entries) fun _ hc => hc)) ?_)
  rintro g₃ result ⟨hcopied, τ, rfl, -⟩
  rcases result with e | _
  · simp
  have h₃ := h₂.trans (hcopied rfl)
  -- the files have been copied, and nothing has been mounted yet
  have prepared := h.of_reads h₃
  have hreads₃ := h₃.reads_eq
  rw [hreads] at hreads₃
  have allowed : PublishAllows request _
      (.host (.bindMount m.cachePath m.targetPath (m.accessMode = .readOnly))) :=
    publishAllows_of_mounts prepared
      ⟨hmode, rfl, rfl, rfl, entries, hsaw.append, hreads₃⟩ rfl
  refine ⟨allowed, fun bound _ => ?_⟩
  rcases bound with _ | ⟨e | _⟩
  · rintro ⟨⟩
  · rintro ⟨⟩
  · intro _
    refine ⟨prepared.append rfl, fun hfuse => ?_, fun _ => ⟨?_, entries, hsaw.append.append, ?_⟩⟩
    · rw [hmode] at hfuse
      cases hfuse
    · show mountsMade (_ ++ _) = _
      rw [mountsMade_append, h₃.mountsMade_eq, hmounts]
      rfl
    · show reads (_ ++ _) = _
      rw [reads_append, hreads₃]
      exact List.append_nil _

lemma mount_past {m : Mount} {node : DataNode} (h : Prepared request past node m)
    (hreads : reads past = []) (hmounts : mountsMade past = []) :
    m.mount.wp (publishMonitor request) past fun g result => ∀ m', result = .ok m' →
      Published request g node m' := by
  unfold Mount.mount
  refine Prog.wp_bind (wp_opendal_past fun checked => ?_)
  have h₀ : Reads past past [] := .refl
  have h₁ := h₀.add (.opendal (.check m.operator)) checked trivial rfl
  refine Prog.wp_bind (wp_orReturn (fun _ _ => ?_) (by simp))
  refine Prog.wp_bind (Prog.wp_mono (wp_files_past (ensureDirectory_files _ _)) ?_)
  intro g result h₂
  rcases result with e | _
  · simp
  have h₃ := h₁.trans h₂
  have prepared := h.of_reads h₃
  have hreads₃ : reads g = [] := by
    rw [h₃.reads_eq, hreads]
    rfl
  have hmounts₃ : mountsMade g = [] := by rw [h₃.mountsMade_eq, hmounts]
  cases hmode : m.mountMode with
  | cached =>
    refine Prog.wp_bind (Prog.wp_mono (mountCached_past prepared hreads₃ hmounts₃ hmode) ?_)
    intro g' result hpublished
    rcases result with e | _
    · simp
    · rintro m' ⟨⟩
      exact hpublished rfl
  | fuse => exact mountFuse_past prepared hreads₃ hmounts₃ hmode

/-- A publish request only mounts and records what is prepared, and when it returns `Ok` its
mount has been made. -/
theorem nodePublishVolume_past :
    (nodePublishVolume request).wp (publishMonitor request) [] fun g result =>
      result = .ok () → ∃ node mount, Published request g node mount := by
  unfold nodePublishVolume
  refine Prog.wp_bind (wp_orReturn (fun _ _ => ?_) (by simp))
  refine Prog.wp_bind (Prog.wp_mono prepareMount_past ?_)
  intro g result hprepared
  rcases result with e | m
  · simp
  -- what is mounted and what is recorded have been prepared for the same node
  obtain ⟨⟨node, prepared⟩, hreads, hmounts⟩ := hprepared m rfl
  refine Prog.wp_bind (Prog.wp_mono (mount_past prepared hreads hmounts) ?_)
  intro g' result hpublished
  rcases result with e | m'
  · simp
  have published := hpublished m' rfl
  refine ⟨⟨fun hmounts => hmounts.elim, fun mount htracks => ?_⟩, fun _ _ _ => ⟨node, m', ?_⟩⟩
  · cases htracks
    exact ⟨node, published.prepared⟩
  · -- recording the mount adds nothing to what is known
    refine ⟨published.prepared.append rfl, fun hfuse => ?_, fun hcached => ?_⟩
    · obtain ⟨hmade, hnone⟩ := published.fuse hfuse
      refine ⟨?_, ?_⟩
      · show mountsMade (g' ++ _) = _
        rw [mountsMade_append, hmade]
        rfl
      · show reads (g' ++ _) = _
        rw [reads_append, hnone]
        rfl
    · obtain ⟨hmade, entries, hsaw, hread⟩ := published.cached hcached
      refine ⟨?_, entries, hsaw.append, ?_⟩
      · show mountsMade (g' ++ _) = _
        rw [mountsMade_append, hmade]
        rfl
      · show reads (g' ++ _) = _
        rw [reads_append, hread]
        exact List.append_nil _

end

end Kubedal
