import Kubedal.Services.NodeState

/-!
# What a handler of the node service does to mounts

Seen from the mounts, a publish request makes at most one mount, on its own target path,
and then tracks exactly that mount; an unpublish request takes the mount of its volume out
of the map with the mutex held, unmounts what it took, and gives the mutex back.

* `mountMonitor` is this protocol: a request is in a `MountStage`, which says what calls it
  may make next;
* `program_meets` shows that both handlers follow it, whatever the API server, the storage
  and the host answer.
-/

namespace Kubedal

open Interaction Kube Resource

/-! ## Calls that leave the mounts alone -/

/-- The call neither mounts nor unmounts and does not use the map of mounts. -/
def Call.Quiet : Call → Prop
  | .host (.bindMount _ _ _) => False
  | .host (.unmount _) => False
  | .host (.fuseMount _ _ _) => False
  | .host (.unmountHandle _) => False
  | .mounts _ => False
  | _ => True

/-- A request to the API server. -/
def Call.IsKube : Call → Prop
  | .kube _ => True
  | _ => False

/-- The call uses the file system of the host only, and mounts nothing. -/
def Call.Files : Call → Prop
  | .host c => (Call.host c).Quiet
  | _ => False

lemma Call.Files.quiet {c : Call} (h : c.Files) : c.Quiet := by
  rcases c with c | c | c | c | c | _ | _
  case host => exact h
  all_goals exact h.elim

lemma Call.IsKube.quiet {c : Call} (h : c.IsKube) : c.Quiet := by
  rcases c with c | c | c | c | c | _ | _
  case kube => trivial
  all_goals exact h.elim

lemma quiet_of_files {ε α : Type} {p : Async ε α} (h : p.Uses Call.Files) :
    p.Uses Call.Quiet := h.mono fun _ => Call.Files.quiet

section
variable {C : Call → Prop}

lemma uses_getPodInfo (volumeContext : StringMap String) : (getPodInfo volumeContext).Uses C := by
  unfold getPodInfo
  apply (uses_expect _ _).bind
  intro _
  apply (uses_expect _ _).bind
  intro _
  apply (uses_expect _ _).bind
  intro _
  exact (uses_expect _ _).bind fun _ => trivial

/-- The objects that are fetched are those that the context names, and a secret. -/
lemma uses_getFullDataMount {volumeContext : StringMap String}
    (hn : ∀ keys, dataMountKeys volumeContext = .ok keys →
      C (.kube (.getDataNode keys.dataNodeNamespace keys.dataNodeName)))
    (hp : ∀ keys, dataMountKeys volumeContext = .ok keys →
      C (.kube (.getDataPod keys.dataPodNamespace keys.dataPodName)))
    (hs : ∀ ns name, C (.kube (.getSecret ns name))) : (getFullDataMount volumeContext).Uses C := by
  unfold getFullDataMount
  apply uses_orReturn_bind
  intro keys hkeys
  apply (uses_kube _ (hn keys hkeys)).bind
  intro nodeReply
  apply (uses_orReturn _).bind
  intro dataNode
  apply (uses_kube _ (hp keys hkeys)).bind
  intro podReply
  apply (uses_orReturn _).bind
  intro dataPod
  split
  · trivial
  · apply (uses_orReturn _).bind
    intro secretNs
    apply (uses_kube _ (hs _ _)).bind
    intro secretReply
    exact (uses_orReturn _).bind fun secret => trivial

lemma uses_requireAccess (podInfo : PodInfo) (attributes : ResourceAttributes) (object : String)
    (metadata : ObjectMeta) (h : ∀ review, C (.kube (.createAccessReview review))) :
    (requireAccess podInfo attributes object metadata).Uses C := by
  unfold requireAccess
  apply (uses_kube _ (h _)).bind
  intro reply
  apply (uses_orReturn _).bind
  intro response
  split
  · split <;> trivial
  · trivial

lemma uses_checkAccess (fullDataSource : FullDataSource) (podInfo : PodInfo)
    (h : ∀ review, C (.kube (.createAccessReview review))) :
    (checkAccess fullDataSource podInfo).Uses C := by
  unfold checkAccess
  apply (uses_requireAccess _ _ _ _ h).bind
  intro _
  split
  · exact uses_requireAccess _ _ _ _ h
  · trivial

lemma uses_intoParts (self : FullDataSource) (mountMode : MountAccess)
    (hs : ∀ ns name, C (.kube (.getSecret ns name))) (ho : ∀ c, C (.opendal c)) :
    (self.intoParts mountMode).Uses C := by
  unfold FullDataSource.intoParts
  exact (uses_getOperator (fun _ _ _ _ => hs _ _) ho).bind fun _ => trivial

/-- Until it mounts, a publish only asks the API server and the storage. -/
lemma uses_prepareMount (r : NodePublishVolumeRequest) (hk : ∀ c, C (.kube c))
    (ho : ∀ c, C (.opendal c)) : (prepareMount r).Uses C := by
  unfold prepareMount
  apply (uses_getFullDataMount (fun _ _ => hk _) (fun _ _ => hk _) fun _ _ => hk _).bind
  rintro ⟨source, access⟩
  apply (uses_getPodInfo _).bind
  intro podInfo
  apply (uses_checkAccess _ _ fun _ => hk _).bind
  intro _
  exact (uses_intoParts _ _ (fun _ _ => hk _) ho).bind fun _ => trivial

end

lemma getFullDataMount_kube (volumeContext : StringMap String) :
    (getFullDataMount volumeContext).Uses Call.IsKube :=
  uses_getFullDataMount (fun _ _ => trivial) (fun _ _ => trivial) fun _ _ => trivial

lemma requireAccess_kube (podInfo : PodInfo) (attributes : ResourceAttributes)
    (object : String) (metadata : ObjectMeta) :
    (requireAccess podInfo attributes object metadata).Uses Call.IsKube :=
  uses_requireAccess podInfo attributes object metadata fun _ => trivial

lemma checkAccess_kube (fullDataSource : FullDataSource) (podInfo : PodInfo) :
    (checkAccess fullDataSource podInfo).Uses Call.IsKube :=
  uses_checkAccess fullDataSource podInfo fun _ => trivial

lemma fetchSecret_kube (node : DataNode) : (fetchSecret node).Uses Call.IsKube :=
  uses_fetchSecret fun _ _ _ _ => trivial

/-- The calls that copy an entry of the kind to `path`. -/
inductive Call.CopiesTo (path : String) (mode : EntryMode) : Call → Prop
  | looks (dir : mode = .dir) : CopiesTo path mode (.host (.pathExists path))
  | makes (dir : mode = .dir) : CopiesTo path mode (.host (.createDir path))
  | creates (file : mode = .file) : CopiesTo path mode (.host (.createFile path))
  | writes (file : mode = .file) (bytes : ByteArray) :
    CopiesTo path mode (.host (.writeAll path bytes))

section
variable {C : Call → Prop}

lemma uses_ensureDirectory {path : String} (message : String)
    (looks : C (.host (.pathExists path))) (makes : C (.host (.createDir path))) :
    (ensureDirectory path message).Uses C := by
  unfold ensureDirectory
  apply (uses_host _ looks).bind
  intro exist
  split
  · trivial
  · apply (uses_host _ makes).bind
    intro created
    exact uses_orReturn _

lemma uses_writeStream {path : String} (failure : Option IoError) (chunks : List ByteArray)
    (writes : ∀ bytes, C (.host (.writeAll path bytes))) :
    (Mount.writeStream path failure chunks).Uses C := by
  induction chunks with
  | nil =>
    unfold Mount.writeStream
    split <;> trivial
  | cons bytes rest ih =>
    unfold Mount.writeStream
    apply (uses_host _ (writes bytes)).bind
    intro reply
    exact (uses_orReturn _).bind fun _ => ih

lemma uses_copyEntry (self : Mount) (entry : Entry)
    (hf : ∀ c, Call.CopiesTo (joinPath self.cachePath entry.path) entry.mode c → C c)
    (ho : ∀ c, C (.opendal c)) : (self.copyEntry entry).Uses C := by
  unfold Mount.copyEntry
  split
  · rename_i hmode
    apply (uses_host _ (hf _ (.creates hmode))).bind
    intro file
    apply (uses_orReturn _).bind
    intro _
    apply (uses_opendal _ (ho _)).bind
    intro reader
    apply (uses_orReturn _).bind
    intro _
    apply (uses_opendal _ (ho _)).bind
    intro stream
    apply (uses_orReturn _).bind
    intro r
    exact uses_writeStream _ _ fun bytes => hf _ (.writes hmode bytes)
  · rename_i hmode
    exact uses_ensureDirectory _ (hf _ (.looks hmode)) (hf _ (.makes hmode))
  · trivial

lemma uses_copyEntries (self : Mount) (entries : List Entry)
    (hf : ∀ entry ∈ entries, ∀ c,
      Call.CopiesTo (joinPath self.cachePath entry.path) entry.mode c → C c)
    (ho : ∀ c, C (.opendal c)) : (self.copyEntries entries).Uses C := by
  induction entries with
  | nil => trivial
  | cons entry rest ih =>
    apply (uses_copyEntry self entry (hf entry List.mem_cons_self) ho).bind
    intro _
    exact ih fun e he => hf e (List.mem_cons_of_mem _ he)

/-- A mount uses the host and the storage. -/
lemma uses_mount (self : Mount) (hh : ∀ c, C (.host c)) (ho : ∀ c, C (.opendal c)) :
    self.mount.Uses C := by
  have directory : ∀ path message, (ensureDirectory path message).Uses C :=
    fun path message => uses_ensureDirectory message (hh _) (hh _)
  unfold Mount.mount
  apply (uses_opendal _ (ho _)).bind
  intro checked
  apply (uses_orReturn _).bind
  intro _
  apply (directory _ _).bind
  intro _
  cases self.mountMode with
  | cached =>
    refine Prog.Uses.bind ?_ fun _ => trivial
    unfold Mount.mountCached
    apply (directory _ _).bind
    intro _
    apply (uses_opendal _ (ho _)).bind
    intro listing
    apply (uses_orReturn _).bind
    intro children
    have copies : (self.copyEntries children).Uses C := by
      refine uses_copyEntries self children (fun _ _ c copies => ?_) ho
      cases copies <;> exact hh _
    apply copies.bind
    intro _
    apply (uses_host _ (hh _)).bind
    intro bound
    exact uses_orReturn _
  | fuse =>
    unfold Mount.mountFuse
    apply (uses_host _ (hh _)).bind
    intro reply
    exact (uses_orReturn _).bind fun _ => trivial

end

lemma ensureDirectory_files (path message : String) :
    (ensureDirectory path message).Uses Call.Files :=
  uses_ensureDirectory message trivial trivial

lemma writeStream_files (path : String) (failure : Option IoError) (chunks : List ByteArray) :
    (Mount.writeStream path failure chunks).Uses Call.Files :=
  uses_writeStream failure chunks fun _ => trivial

lemma copyEntries_quiet (self : Mount) (entries : List Entry) :
    (self.copyEntries entries).Uses Call.Quiet := by
  refine uses_copyEntries self entries (fun _ _ c copies => ?_) fun _ => trivial
  cases copies <;> trivial

/-! ## The protocol -/

/-- How far a request is with mounts. -/
inductive MountStage where
  | waiting
  /-- A mount is made and not tracked yet; a FUSE mount has a handle. -/
  | mounted (handle : Option MountHandle)
  | tracked
  /-- The mount is out of the map and the mutex is held. -/
  | removed (mount : Mount)
  /-- The mutex is held and nothing is left to unmount. -/
  | unlocking (unmounted : Bool)
  | unlocked (unmounted : Bool)
deriving DecidableEq

namespace MountStage

def bound (g : MountStage) : Joined → MountStage
  | .done (.ok _) => .mounted none
  | _ => g

def fuseMounted (g : MountStage) : Except IoError MountHandle → MountStage
  | .ok handle => .mounted (some handle)
  | .error _ => g

def unbound : Joined → MountStage
  | .done (.ok _) => .unlocking true
  | _ => .unlocking false

def handleUnmounted : Except IoError Unit → MountStage
  | .ok _ => .unlocking true
  | .error _ => .unlocking false

def taken : Option Mount → MountStage
  | some mount => .removed mount
  | none => .unlocking true

def released : MountStage → MountStage
  | .unlocking unmounted => .unlocked unmounted
  | _ => .unlocked true

/-- The stage after a call and its answer. -/
def next (g : MountStage) : (c : Call) → c.Reply → MountStage
  | .host (.bindMount _ _ _), a => g.bound a
  | .host (.fuseMount _ _ _), a => g.fuseMounted a
  | .host (.unmount _), a => unbound a
  | .host (.unmountHandle _), a => handleUnmounted a
  | .mounts (.insert _ _), _ => .tracked
  | .mounts (.remove _), a => taken a
  | .mounts .unlock, _ => g.released
  | _, _ => g

lemma next_quiet (g : MountStage) (c : Call) (a : c.Reply) (h : c.Quiet) : g.next c a = g := by
  rcases c with c | c | c | c | c | _ | _
  · rfl
  · rfl
  · cases c <;> first | rfl | exact h.elim
  · exact h.elim
  all_goals rfl

end MountStage

/-- The call makes a mount on `target`. -/
def Call.MountsOn (target : String) : Call → Prop
  | .host (.bindMount _ t _) => t = target
  | .host (.fuseMount _ t _) => t = target
  | _ => False

/-- `mount` is a mount for `request` that holds `handle`. -/
structure Mount.For (mount : Mount) (request : NodePublishVolumeRequest)
    (handle : Option MountHandle) : Prop where
  volumeId : mount.volumeId = request.volumeId
  targetPath : mount.targetPath = request.targetPath
  fuseMount : mount.fuseMount = handle
  handle_of_fuse : mount.mountMode = .fuse ↔ handle.isSome

namespace NodeRequest

/-- The calls a request may make in a stage. -/
def Allows : NodeRequest → MountStage → Call → Prop
  | .publish r, .waiting, c => c.Quiet ∨ c.MountsOn r.targetPath
  | .publish r, .mounted handle, .mounts (.insert volumeId mount) =>
    volumeId = r.volumeId ∧ mount.For r handle
  | .unpublish r, .waiting, .mounts (.remove volumeId) => volumeId = r.volumeId
  | .unpublish _, .removed mount, .host (.unmount target) =>
    mount.mountMode = .cached ∧ target = mount.targetPath
  | .unpublish _, .removed mount, .host (.unmountHandle handle) =>
    mount.mountMode = .fuse ∧ mount.fuseMount = some handle
  | .unpublish _, .removed mount, .mounts .unlock =>
    mount.mountMode = .fuse ∧ mount.fuseMount = none
  | .unpublish _, .unlocking _, .mounts .unlock => True
  | _, _, _ => False

/-- The stages a request can end in. -/
def Ends : NodeRequest → MountStage → Except (Fault Status) Unit → Prop
  | .publish _, g, .ok _ => g = .tracked
  | .publish _, g, .error _ => g = .waiting
  | .unpublish _, g, .ok _ => g = .unlocked true
  | .unpublish _, g, .error _ => g = .waiting ∨ g = .unlocked false

end NodeRequest

/-- A request together with its stage, as a monitor. -/
def mountMonitor : Monitor signature (NodeRequest × MountStage) where
  allows := fun g c => g.1.Allows g.2 c
  assumes := fun _ _ _ => True
  next := fun g c a => (g.1, g.2.next c a)

/-- Where a request starts. -/
def NodeRequest.start (r : NodeRequest) : NodeRequest × MountStage := (r, .waiting)

/-- Where a request may end. -/
def NodeRequest.post (r : NodeRequest) (g : NodeRequest × MountStage)
    (result : Except (Fault Status) Unit) : Prop := r.Ends g.2 result

@[simp] lemma mountMonitor_after_fst (g : NodeRequest × MountStage)
    (τ : List (Event signature)) : (mountMonitor.after g τ).1 = g.1 := by
  induction τ generalizing g with
  | nil => rfl
  | cons e τ ih => exact ih _

/-! ## The handlers follow the protocol -/

section
variable {α : Type} {g : NodeRequest × MountStage}
  {Q : NodeRequest × MountStage → Except (Fault Status) α → Prop}

/-- A quiet program of a publish request that has not mounted yet. -/
lemma wp_quiet {p : Handler α} {r : NodePublishVolumeRequest} (hp : p.Uses Call.Quiet)
    (hQ : ∀ result, Q (.publish r, .waiting) result) :
    p.wp mountMonitor (.publish r, .waiting) Q := by
  refine hp.wp (fun c hc => .inl hc) (fun c a hc => ?_) hQ
  show (NodeRequest.publish r, MountStage.waiting.next c a) = _
  rw [MountStage.next_quiet _ _ _ hc]

end

/-- A monitor that stays in its state while the API server and the storage are asked sees nothing
of a publish before it mounts. -/
lemma wp_prepareMount {C : Call → Prop} {γ : Type} {M : Monitor signature γ} {g : γ}
    (r : NodePublishVolumeRequest) (hk : ∀ c, C (.kube c)) (ho : ∀ c, C (.opendal c))
    (allowed : ∀ c, C c → M.allows g c) (same : ∀ c (a : c.Reply), C c → M.next g c a = g) :
    (prepareMount r).wp M g fun g' result => g' = g ∧ ∀ m, result = .ok m →
      m.volumeId = r.volumeId ∧ m.targetPath = r.targetPath ∧ m.fuseMount = none := by
  unfold prepareMount
  have fetches : (getFullDataMount r.volumeContext).Uses C :=
    uses_getFullDataMount (fun _ _ => hk _) (fun _ _ => hk _) fun _ _ => hk _
  refine Prog.wp_bind (fetches.wp allowed same fun result => ?_)
  rcases result with e | ⟨fullDataSource, mountAccess⟩
  · exact ⟨rfl, by simp⟩
  have parses : (getPodInfo r.volumeContext).Uses C := uses_getPodInfo _
  refine Prog.wp_bind (parses.wp allowed same fun result => ?_)
  rcases result with e | podInfo
  · exact ⟨rfl, by simp⟩
  have checks : (checkAccess fullDataSource podInfo).Uses C := uses_checkAccess _ _ fun _ => hk _
  refine Prog.wp_bind (checks.wp allowed same fun result => ?_)
  rcases result with e | _
  · exact ⟨rfl, by simp⟩
  have parts : (fullDataSource.intoParts mountAccess).Uses C :=
    uses_intoParts _ _ (fun _ _ => hk _) ho
  refine Prog.wp_bind (parts.wp allowed same fun result => ?_)
  rcases result with e | ⟨operator, mountMode, accessMode⟩
  · exact ⟨rfl, by simp⟩
  refine ⟨rfl, fun m hm => ?_⟩
  cases hm
  exact ⟨rfl, rfl, rfl⟩

lemma prepareMount_meets (r : NodePublishVolumeRequest) :
    (prepareMount r).wp mountMonitor (.publish r, .waiting) fun g result =>
      g = (.publish r, .waiting) ∧ ∀ m, result = .ok m →
        m.volumeId = r.volumeId ∧ m.targetPath = r.targetPath ∧ m.fuseMount = none := by
  refine wp_prepareMount r (fun _ => trivial) (fun _ => trivial) (fun c hc => .inl hc)
    fun c a hc => ?_
  show (NodeRequest.publish r, MountStage.waiting.next c a) = _
  rw [MountStage.next_quiet _ _ _ hc]

/-- What `Mount::mount` has done: on success the mount it returns, and nothing on failure. -/
def Mount.Mounted (r : NodePublishVolumeRequest) (g : NodeRequest × MountStage) :
    Except (Fault Status) Mount → Prop
  | .ok m => g = (.publish r, .mounted m.fuseMount) ∧ m.For r m.fuseMount
  | .error _ => g = (.publish r, .waiting)

lemma mountFuse_meets {r : NodePublishVolumeRequest} {m : Mount}
    (hid : m.volumeId = r.volumeId) (htarget : m.targetPath = r.targetPath)
    (hmode : m.mountMode = .fuse) :
    m.mountFuse.wp mountMonitor (.publish r, .waiting) (Mount.Mounted r) := by
  refine ⟨.inr htarget, fun reply _ => ?_⟩
  rcases reply with e | handle
  · rfl
  · exact ⟨rfl, hid, htarget, rfl, by simp [hmode]⟩

lemma mountCached_meets {r : NodePublishVolumeRequest} {m : Mount}
    (htarget : m.targetPath = r.targetPath) :
    m.mountCached.wp mountMonitor (.publish r, .waiting) fun g result => match result with
      | .ok _ => g = (.publish r, .mounted none)
      | .error _ => g = (.publish r, .waiting) := by
  unfold Mount.mountCached
  refine Prog.wp_bind (wp_quiet (quiet_of_files (ensureDirectory_files _ _))
    fun result => ?_)
  rcases result with e | _
  · rfl
  refine Prog.wp_bind (wp_quiet (uses_opendal _ trivial) fun result => ?_)
  rcases result with e | listing
  · rfl
  refine Prog.wp_bind (wp_quiet (uses_orReturn _) fun result => ?_)
  rcases result with e | dataSourceChildren
  · rfl
  refine Prog.wp_bind (wp_quiet (copyEntries_quiet _ _) fun result => ?_)
  rcases result with e | _
  · rfl
  -- the mount itself
  refine ⟨.inr htarget, fun bound _ => ?_⟩
  rcases bound with _ | ⟨e | _⟩
  all_goals rfl

lemma mount_meets {r : NodePublishVolumeRequest} {m : Mount} (hid : m.volumeId = r.volumeId)
    (htarget : m.targetPath = r.targetPath) (hfuse : m.fuseMount = none) :
    m.mount.wp mountMonitor (.publish r, .waiting) (Mount.Mounted r) := by
  unfold Mount.mount
  refine Prog.wp_bind (wp_quiet (uses_opendal _ trivial) fun result => ?_)
  rcases result with e | checked
  · rfl
  refine Prog.wp_bind (wp_quiet (uses_orReturn _) fun result => ?_)
  rcases result with e | _
  · rfl
  refine Prog.wp_bind (wp_quiet (quiet_of_files (ensureDirectory_files _ _))
    fun result => ?_)
  rcases result with e | _
  · rfl
  cases hmode : m.mountMode with
  | cached =>
    refine Prog.wp_bind (Prog.wp_mono (mountCached_meets htarget) fun g result hg => ?_)
    rcases result with e | _
    · exact hg
    · rw [hg, ← hfuse]
      exact ⟨rfl, hid, htarget, rfl, by simp [hmode, hfuse]⟩
  | fuse => exact mountFuse_meets hid htarget hmode

lemma nodePublishVolume_meets (r : NodePublishVolumeRequest) :
    (nodePublishVolume r).wp mountMonitor (.publish r, .waiting)
      (NodeRequest.post (.publish r)) := by
  unfold nodePublishVolume
  refine Prog.wp_bind (wp_quiet (uses_orReturn _) fun result => ?_)
  rcases result with e | _
  · rfl
  refine Prog.wp_bind (Prog.wp_mono (prepareMount_meets r) fun g result hg => ?_)
  obtain ⟨rfl, hm⟩ := hg
  rcases result with e | m
  · rfl
  obtain ⟨hid, htarget, hfuse⟩ := hm m rfl
  refine Prog.wp_bind (Prog.wp_mono (mount_meets hid htarget hfuse) fun g result hg => ?_)
  rcases result with e | m'
  · exact congrArg Prod.snd hg
  · obtain ⟨rfl, hfor⟩ := hg
    exact ⟨⟨rfl, hfor⟩, fun _ _ => rfl⟩

/-- Unmounting what was taken out of the map leads to giving the mutex back. -/
lemma unmountRemoved_meets (r : NodeUnpublishVolumeRequest) (removed : Option Mount) :
    (unmountRemoved removed).wp mountMonitor (.unpublish r, .taken removed) fun g result =>
      g.1 = .unpublish r ∧ mountMonitor.allows g (.mounts .unlock) ∧
        g.2.released = .unlocked (result matches .ok _) := by
  rcases removed with _ | m
  · exact ⟨rfl, trivial, rfl⟩
  show m.unmount.wp mountMonitor _ _
  unfold Mount.unmount
  -- a bind mount goes by its path, a FUSE mount by its handle
  cases hmode : m.mountMode with
  | cached =>
    refine ⟨⟨hmode, rfl⟩, fun reply _ => ?_⟩
    rcases reply with _ | ⟨e | _⟩
    all_goals exact ⟨rfl, trivial, rfl⟩
  | fuse =>
    unfold Mount.unmountFuse
    cases hfuse : m.fuseMount with
    | none => exact ⟨rfl, ⟨hmode, hfuse⟩, rfl⟩
    | some handle =>
      refine ⟨⟨hmode, hfuse⟩, fun reply _ => ?_⟩
      rcases reply with e | _
      all_goals exact ⟨rfl, trivial, rfl⟩

/-- Past its checks, an unpublish request gives the mutex back and reports how the unmount
went. -/
lemma unpublish_checked_meets {r : NodeUnpublishVolumeRequest}
    (checked : checkPath r.volumeId r.targetPath = .ok ()) :
    (nodeUnpublishVolume r).wp mountMonitor (.unpublish r, .waiting) fun g result =>
      g.2 = .unlocked (result matches .ok _) := by
  unfold nodeUnpublishVolume
  apply Prog.wp_bind
  refine wp_orReturn (fun _ _ => ?_) fun e he => ?_
  · refine Prog.wp_bind (wp_mounts rfl fun removed _ => ?_)
    refine Prog.wp_bind (Prog.wp_attempt (Prog.wp_mono (unmountRemoved_meets r removed)
      fun g result hg => ?_))
    obtain ⟨hr, hunlock, hreleased⟩ := hg
    exact ⟨hunlock, fun _ _ => Prog.wp_ofExcept hreleased⟩
  · rw [checked] at he
    cases he

lemma unpublish_rejected {r : NodeUnpublishVolumeRequest} {e : Status}
    (rejected : checkPath r.volumeId r.targetPath = .error e) :
    nodeUnpublishVolume r = .throw (.error e) := by
  unfold nodeUnpublishVolume
  rw [rejected]
  rfl

lemma nodeUnpublishVolume_meets (r : NodeUnpublishVolumeRequest) :
    (nodeUnpublishVolume r).wp mountMonitor (.unpublish r, .waiting)
      (NodeRequest.post (.unpublish r)) := by
  cases hchecked : checkPath r.volumeId r.targetPath with
  | error e =>
    rw [unpublish_rejected hchecked]
    exact .inl rfl
  | ok _ =>
    refine Prog.wp_mono (unpublish_checked_meets hchecked) fun g result hg => ?_
    show (NodeRequest.unpublish r).Ends g.2 result
    rw [hg]
    rcases result with e | _
    · exact .inr rfl
    · rfl

/-- Both handlers follow the protocol. -/
theorem program_meets (r : NodeRequest) : r.program.wp mountMonitor r.start r.post := by
  cases r with
  | publish r => exact nodePublishVolume_meets r
  | unpublish r => exact nodeUnpublishVolume_meets r

/-! ## What one step does -/

def Joined.Succeeds : Joined → Prop
  | .done (.ok _) => True
  | _ => False

/-- The call is no mount or unmount that fails. -/
def Call.Succeeds : (c : Call) → c.Reply → Prop
  | .host (.bindMount _ _ _), a => Joined.Succeeds a
  | .host (.unmount _), a => Joined.Succeeds a
  | .host (.fuseMount _ _ _), a => ∃ handle, a = Except.ok handle
  | .host (.unmountHandle _), a => a = Except.ok ()
  | _, _ => True

/-- What an allowed call `c` with answer `a` does to a request, its stage and the node. -/
inductive MountStep (s : NodeState) (c : Call) (a : c.Reply) :
    NodeRequest → MountStage → MountStage → NodeState → Prop where
  | quiet {r : NodePublishVolumeRequest} : MountStep s c a (.publish r) .waiting .waiting s
  | attach {r : NodePublishVolumeRequest} {handle : Option MountHandle} {source : MountSource}
      {readOnly : Bool} (own : handle = none ∨ handle = some ⟨s.nextId⟩) :
      MountStep s c a (.publish r) .waiting (.mounted handle)
        (s.attach r.targetPath source readOnly)
  | insert {r : NodePublishVolumeRequest} {handle : Option MountHandle} {mount : Mount}
      {s₁ : NodeState} (call : c = .mounts (.insert r.volumeId mount)) (own : mount.For r handle)
      (free : s.locked = false) (dropped : s.Dropped (s.mounts.lookup r.volumeId) s₁) :
      MountStep s c a (.publish r) (.mounted handle) .tracked
        { s₁ with mounts := s.mounts.insert r.volumeId mount }
  | remove {r : NodeUnpublishVolumeRequest} (call : c = .mounts (.remove r.volumeId))
      (free : s.locked = false) :
      MountStep s c a (.unpublish r) .waiting (.taken (s.mounts.lookup r.volumeId))
        { s with mounts := s.mounts.erase r.volumeId, locked := true }
  | detachTop {r : NodeUnpublishVolumeRequest} {mount : Mount} (mode : mount.mountMode = .cached)
      (there : ∃ k ∈ s.kernel, k.target = mount.targetPath) :
      MountStep s c a (.unpublish r) (.removed mount) (.unlocking true)
        (s.detachTop mount.targetPath)
  | detach {r : NodeUnpublishVolumeRequest} {mount : Mount} {handle : MountHandle}
      (held : mount.fuseMount = some handle) (there : ∃ k ∈ s.kernel, k.id = handle.id) :
      MountStep s c a (.unpublish r) (.removed mount) (.unlocking true) (s.detach handle)
  | fail {r : NodeUnpublishVolumeRequest} {mount : Mount} {s' : NodeState}
      (failed : ¬ c.Succeeds a) (dropped : s.Dropped (some mount) s') :
      MountStep s c a (.unpublish r) (.removed mount) (.unlocking false) s'
  | unlockBare {r : NodeUnpublishVolumeRequest} {mount : Mount} (mode : mount.mountMode = .fuse)
      (bare : mount.fuseMount = none) :
      MountStep s c a (.unpublish r) (.removed mount) (.unlocked true) { s with locked := false }
  | unlock {r : NodeUnpublishVolumeRequest} {unmounted : Bool} :
      MountStep s c a (.unpublish r) (.unlocking unmounted) (.unlocked unmounted)
        { s with locked := false }

/-- A quiet call is answered without any effect on the node. -/
lemma answers_quiet {s s' : NodeState} {c : Call} {a : c.Reply} (h : c.Quiet)
    (answered : s.Answers c a s') : s' = s := by
  rcases c with c | c | c | c | c | _ | _
  case host => cases c <;> first | exact answered | exact h.elim
  case mounts => exact h.elim
  all_goals exact answered

lemma mountStep_publish {r : NodePublishVolumeRequest} {g : MountStage} {s s' : NodeState}
    {c : Call} {a : c.Reply} (allowed : (NodeRequest.publish r).Allows g c)
    (answered : s.Answers c a s') : MountStep s c a (.publish r) g (g.next c a) s' := by
  -- a publish mounts, and then records the mount
  rcases g with _ | handle | _ | mount | unmounted | unmounted
  case waiting =>
    rcases allowed with hquiet | hmounts
    · rw [answers_quiet hquiet answered, MountStage.next_quiet _ _ _ hquiet]
      exact .quiet
    · rcases c with c | c | c | c | c | _ | _
      case host =>
        rcases c with _ | _ | _ | _ | _ | _ | _ | _
        case bindMount =>
          cases hmounts
          rcases a with _ | ⟨e | _⟩
          · cases answered
            exact .quiet
          · cases answered
            exact .quiet
          · cases answered
            exact .attach (.inl rfl)
        case fuseMount =>
          cases hmounts
          rcases a with e | handle
          · cases answered
            exact .quiet
          · obtain ⟨rfl, rfl⟩ := answered
            exact .attach (.inr rfl)
        all_goals exact hmounts.elim
      all_goals exact hmounts.elim
  case mounted =>
    rcases c with c | c | c | c | c | _ | _
    case mounts =>
      rcases c with ⟨volumeId, mount⟩ | _ | _
      case insert =>
        obtain ⟨rfl, own⟩ := allowed
        obtain ⟨free, s₁, dropped, rfl⟩ := answered
        exact .insert rfl own free dropped
      all_goals exact allowed.elim
    all_goals exact allowed.elim
  all_goals exact allowed.elim

lemma mountStep_unpublish {r : NodeUnpublishVolumeRequest} {g : MountStage} {s s' : NodeState}
    {c : Call} {a : c.Reply} (allowed : (NodeRequest.unpublish r).Allows g c)
    (answered : s.Answers c a s') : MountStep s c a (.unpublish r) g (g.next c a) s' := by
  -- an unpublish takes the mount out of the map, unmounts it, and unlocks the map
  rcases g with _ | handle | _ | mount | unmounted | unmounted
  case waiting =>
    rcases c with c | c | c | c | c | _ | _
    case mounts =>
      rcases c with _ | volumeId | _
      case remove =>
        cases allowed
        obtain ⟨free, rfl, rfl⟩ := answered
        exact .remove rfl free
      all_goals exact allowed.elim
    all_goals exact allowed.elim
  case removed =>
    rcases c with c | c | c | c | c | _ | _
    case host =>
      rcases c with _ | _ | _ | _ | _ | target | _ | handle
      case unmount =>
        obtain ⟨mode, rfl⟩ := allowed
        rcases a with _ | ⟨e | _⟩
        · exact .fail id (.inl answered)
        · exact .fail id (.inl answered)
        · obtain ⟨there, rfl⟩ := answered
          exact .detachTop mode there
      case unmountHandle =>
        obtain ⟨mode, held⟩ := allowed
        rcases a with e | _
        · refine .fail (fun h => by cases h) ?_
          rcases answered with rfl | rfl
          · exact .inl rfl
          · exact .inr ⟨handle, held, rfl⟩
        · obtain ⟨there, rfl⟩ := answered
          exact .detach held there
      all_goals exact allowed.elim
    case mounts =>
      rcases c with _ | _ | _
      case unlock =>
        obtain ⟨mode, bare⟩ := allowed
        cases answered
        exact .unlockBare mode bare
      all_goals exact allowed.elim
    all_goals exact allowed.elim
  case unlocking =>
    rcases c with c | c | c | c | c | _ | _
    case mounts =>
      rcases c with _ | _ | _
      case unlock =>
        cases answered
        exact .unlock
      all_goals exact allowed.elim
    all_goals exact allowed.elim
  all_goals exact allowed.elim

/-- Everything that an answered call of a request can do to the node. -/
theorem mountStep_of_answers {r : NodeRequest} {g : MountStage} {s s' : NodeState} {c : Call}
    {a : c.Reply} (allowed : r.Allows g c) (answered : s.Answers c a s') :
    MountStep s c a r g (g.next c a) s' := by
  cases r with
  | publish r => exact mountStep_publish allowed answered
  | unpublish r => exact mountStep_unpublish allowed answered

end Kubedal
