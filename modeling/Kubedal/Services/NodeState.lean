import Kubedal.Services.Node
import Kubedal.Utils.Pool

/-!
# The node service at work

The state of a node is the map of tracked mounts with its mutex and the kernel's mount
table. `NodeState.Answers` says how each call of a handler can be answered and what it does
to that state; `nodeService` runs any number of publish and unpublish requests over it.
`NodeState.serve` is one way to answer, used to run concrete requests.
-/

namespace Kubedal

open Interaction Kube Resource

inductive MountSource where
  | bind (path : String)
  | fuse (operator : Operator)
deriving DecidableEq

/-- A mount made by the driver. -/
structure KernelMount where
  id : ℕ
  target : String
  source : MountSource
  readOnly : Bool
deriving DecidableEq

/-- `mounts` and `locked` are the map and the mutex of `NodeService::mounts`; `kernel` is
the mount table, newest mount first, and `nextId` numbers the mounts. -/
structure NodeState where
  mounts : StringMap Mount
  locked : Bool
  kernel : List KernelMount
  nextId : ℕ

namespace NodeState

def init : NodeState := ⟨∅, false, [], 0⟩

/-- The mounts on a target path, newest first. -/
def mountsOn (s : NodeState) (target : String) : List KernelMount :=
  s.kernel.filter fun k => k.target = target

/-! ## The mount table -/

/-- A new mount, stacked over those on the same path. -/
def attach (s : NodeState) (target : String) (source : MountSource) (readOnly : Bool) :
    NodeState :=
  { s with kernel := ⟨s.nextId, target, source, readOnly⟩ :: s.kernel, nextId := s.nextId + 1 }

/-- The newest mount on `target` is gone. -/
def detachTop (s : NodeState) (target : String) : NodeState :=
  { s with kernel := s.kernel.eraseP fun k => k.target = target }

/-- The mount of a FUSE handle is gone. -/
def detach (s : NodeState) (handle : MountHandle) : NodeState :=
  { s with kernel := s.kernel.eraseP fun k => k.id = handle.id }

/-- Dropping a value with a FUSE handle unmounts its own mount or does nothing. -/
def Dropped (s : NodeState) (value : Option Mount) (s' : NodeState) : Prop :=
  s' = s ∨ ∃ handle, value.bind Mount.fuseMount = some handle ∧ s' = s.detach handle

/-! ## How calls are answered -/

/-- One `mount(2)` with `MS_BIND` ignores the other flags, `MS_RDONLY` among them: the new mount
can be written like the file system that its source is on. -/
def BindAnswers (s : NodeState) (source target : String) : Joined → NodeState → Prop
  | .done (.ok _), s' => s' = s.attach target (.bind source) false
  | _, s' => s' = s

def FuseAnswers (s : NodeState) (operator : Operator) (target : String) (readOnly : Bool) :
    Except IoError MountHandle → NodeState → Prop
  | .ok handle, s' => handle = ⟨s.nextId⟩ ∧ s' = s.attach target (.fuse operator) readOnly
  | .error _, s' => s' = s

def UnmountAnswers (s : NodeState) (target : String) : Joined → NodeState → Prop
  | .done (.ok _), s' => (∃ k ∈ s.kernel, k.target = target) ∧ s' = s.detachTop target
  | _, s' => s' = s

/-- A handle is consumed by unmounting it, so it is dropped when that fails. -/
def HandleAnswers (s : NodeState) (handle : MountHandle) :
    Except IoError Unit → NodeState → Prop
  | .ok _, s' => (∃ k ∈ s.kernel, k.id = handle.id) ∧ s' = s.detach handle
  | .error _, s' => s' = s ∨ s' = s.detach handle

def HostAnswers (s : NodeState) : (c : HostCall) → c.Reply → NodeState → Prop
  | .bindMount source target _, r, s' => s.BindAnswers source target r s'
  | .fuseMount operator target readOnly, r, s' => s.FuseAnswers operator target readOnly r s'
  | .unmount target, r, s' => s.UnmountAnswers target r s'
  | .unmountHandle handle, r, s' => s.HandleAnswers handle r s'
  | _, _, s' => s' = s

/-- The mutex is free for `insert` and `remove`; a replaced mount is dropped. -/
def MountsAnswers (s : NodeState) : (c : MountsCall) → c.Reply → NodeState → Prop
  | .insert volumeId mount, _, s' =>
    s.locked = false ∧ ∃ s₁, s.Dropped (s.mounts.lookup volumeId) s₁ ∧
      s' = { s₁ with mounts := s.mounts.insert volumeId mount }
  | .remove volumeId, r, s' =>
    s.locked = false ∧ r = s.mounts.lookup volumeId ∧
      s' = { s with mounts := s.mounts.erase volumeId, locked := true }
  | .unlock, _, s' => s' = { s with locked := false }

/-- The API server, the storage and the file system may answer anything. -/
def Answers (s : NodeState) : (c : Call) → c.Reply → NodeState → Prop
  | .host c, r, s' => s.HostAnswers c r s'
  | .mounts c, r, s' => s.MountsAnswers c r s'
  | _, _, s' => s' = s

end NodeState

/-! ## The mounts on a path -/

/-- Erasing an element that the filter drops does not show after filtering. -/
lemma filter_eraseP_of_drop {α : Type} {p q : α → Bool} {l : List α}
    (h : ∀ x ∈ l, p x → q x = false) : (l.eraseP p).filter q = l.filter q := by
  induction l with
  | nil => rfl
  | cons x l ih =>
    have hl := ih fun y hy => h y (List.mem_cons_of_mem _ hy)
    by_cases hx : p x = true
    · rw [List.eraseP_cons_of_pos hx, List.filter_cons_of_neg]
      simp [h x List.mem_cons_self hx]
    · rw [List.eraseP_cons_of_neg hx, List.filter_cons, List.filter_cons, hl]

/-- Erasing an element that the filter keeps can be done after filtering. -/
lemma filter_eraseP_of_keep {α : Type} {p q : α → Bool} {l : List α}
    (h : ∀ x ∈ l, p x → q x) : (l.eraseP p).filter q = (l.filter q).eraseP p := by
  induction l with
  | nil => rfl
  | cons x l ih =>
    have hl := ih fun y hy => h y (List.mem_cons_of_mem _ hy)
    by_cases hx : p x = true
    · have hq := h x List.mem_cons_self hx
      rw [List.eraseP_cons_of_pos hx, List.filter_cons_of_pos hq, List.eraseP_cons_of_pos hx]
    · rw [List.eraseP_cons_of_neg hx, List.filter_cons, List.filter_cons, hl]
      split
      · rw [List.eraseP_cons_of_neg hx]
      · rfl

namespace NodeState

variable {s s' : NodeState} {t target : String} {source : MountSource} {readOnly : Bool}
  {handle : Option MountHandle} {h : MountHandle}

lemma mem_mountsOn {k : KernelMount} :
    k ∈ s.mountsOn target ↔ k ∈ s.kernel ∧ k.target = target := by
  simp [mountsOn]

@[simp] lemma mountsOn_attach_self :
    (s.attach target source readOnly).mountsOn target =
      ⟨s.nextId, target, source, readOnly⟩ :: s.mountsOn target := by
  simp [attach, mountsOn]

lemma mountsOn_attach_of_ne (ht : target ≠ t) :
    (s.attach target source readOnly).mountsOn t = s.mountsOn t := by
  simp [attach, mountsOn, ht]

lemma mountsOn_detachTop_self :
    (s.detachTop target).mountsOn target = (s.mountsOn target).tail := by
  unfold detachTop mountsOn
  rw [filter_eraseP_of_keep fun _ _ hx => hx]
  cases hk : s.kernel.filter fun k => k.target = target with
  | nil => rfl
  | cons k rest =>
    have hmem : k ∈ s.kernel.filter fun k => k.target = target := by simp [hk]
    exact List.eraseP_cons_of_pos (p := fun k : KernelMount => k.target = target)
      (List.mem_filter.mp hmem).2

lemma mountsOn_detachTop_of_ne (ht : target ≠ t) :
    (s.detachTop target).mountsOn t = s.mountsOn t := by
  apply filter_eraseP_of_drop
  intro k _ hk
  have hk' : k.target = target := by simpa using hk
  simp [hk', ht]

/-- `handle` is not the handle of a mount on another path than `target`. -/
def Owns (s : NodeState) (target : String) (handle : Option MountHandle) : Prop :=
  ∀ h, handle = some h → h.id < s.nextId ∧ ∀ k ∈ s.kernel, k.id = h.id → k.target = target

lemma mountsOn_detach_of_ne (owns : s.Owns target (some h)) (ht : target ≠ t) :
    (s.detach h).mountsOn t = s.mountsOn t := by
  apply filter_eraseP_of_drop
  intro k hk hid
  have hk' := (owns h rfl).2 k hk (by simpa using hid)
  simp [hk', ht]

lemma length_mountsOn_detach_self (owns : s.Owns target (some h))
    (hk : ∃ k ∈ s.kernel, k.id = h.id) :
    ((s.detach h).mountsOn target).length = (s.mountsOn target).length - 1 := by
  obtain ⟨k, hk, hid⟩ := hk
  have hkeep : ∀ x ∈ s.kernel, x.id = h.id → x.target = target := (owns h rfl).2
  unfold detach mountsOn
  rw [filter_eraseP_of_keep fun x hx hxid => by simpa using hkeep x hx (by simpa using hxid)]
  have hmem : k ∈ s.kernel.filter fun k => k.target = target :=
    List.mem_filter.mpr ⟨hk, by simpa using hkeep k hk hid⟩
  exact List.length_eraseP_of_mem hmem (by simpa using hid)

/-- Attaching puts one mount more on its target, and detaching one mount less. -/
lemma length_mountsOn_attach (t : String) :
    ((s.attach target source readOnly).mountsOn t).length =
      (s.mountsOn t).length + if target = t then 1 else 0 := by
  by_cases ht : target = t
  · subst ht
    rw [mountsOn_attach_self, if_pos rfl]
    rfl
  · rw [mountsOn_attach_of_ne ht, if_neg ht, Nat.add_zero]

lemma length_mountsOn_detachTop (hk : ∃ k ∈ s.kernel, k.target = target) (t : String) :
    (s.mountsOn t).length =
      ((s.detachTop target).mountsOn t).length + if target = t then 1 else 0 := by
  by_cases ht : target = t
  · subst ht
    obtain ⟨k, hk, htarget⟩ := hk
    have hpos : 0 < (s.mountsOn target).length :=
      List.length_pos_of_mem (mem_mountsOn.mpr ⟨hk, htarget⟩)
    rw [mountsOn_detachTop_self, if_pos rfl, List.length_tail]
    omega
  · rw [mountsOn_detachTop_of_ne ht, if_neg ht, Nat.add_zero]

lemma length_mountsOn_detach (owns : s.Owns target (some h))
    (hk : ∃ k ∈ s.kernel, k.id = h.id) (t : String) :
    (s.mountsOn t).length =
      ((s.detach h).mountsOn t).length + if target = t then 1 else 0 := by
  by_cases ht : target = t
  · subst ht
    have hlength := length_mountsOn_detach_self owns hk
    obtain ⟨k, hk, hid⟩ := hk
    have hpos : 0 < (s.mountsOn target).length :=
      List.length_pos_of_mem (mem_mountsOn.mpr ⟨hk, (owns h rfl).2 k hk hid⟩)
    rw [if_pos rfl]
    omega
  · rw [mountsOn_detach_of_ne owns ht, if_neg ht, Nat.add_zero]

/-! ## What a step cannot undo -/

/-- Every mount of `s'` was there in `s` or was made after it. -/
structure Later (s s' : NodeState) : Prop where
  nextId_le : s.nextId ≤ s'.nextId
  kernel : ∀ k ∈ s'.kernel, k ∈ s.kernel ∨ s.nextId ≤ k.id ∧ k.id < s'.nextId

lemma Later.rfl : Later s s := ⟨le_rfl, fun _ hk => .inl hk⟩

lemma later_attach : s.Later (s.attach target source readOnly) := by
  refine ⟨Nat.le_succ _, fun k hk => ?_⟩
  rcases List.mem_cons.mp hk with rfl | hk
  · exact .inr ⟨le_rfl, Nat.lt_succ_self _⟩
  · exact .inl hk

lemma later_detachTop : s.Later (s.detachTop target) :=
  ⟨le_rfl, fun _ hk => .inl (List.mem_of_mem_eraseP hk)⟩

lemma later_detach : s.Later (s.detach h) :=
  ⟨le_rfl, fun _ hk => .inl (List.mem_of_mem_eraseP hk)⟩

/-- The same mounts, whatever is in the map. -/
lemma later_of_kernel (hk : s'.kernel = s.kernel) (hn : s'.nextId = s.nextId) : s.Later s' :=
  ⟨Nat.le_of_eq hn.symm, fun _ hmem => .inl (hk ▸ hmem)⟩

lemma Later.trans {s₁ s₂ : NodeState} (h : s.Later s₁) (h' : s₁.Later s₂) : s.Later s₂ := by
  have hle := h.nextId_le
  have hle' := h'.nextId_le
  refine ⟨Nat.le_trans hle hle', fun k hk => ?_⟩
  rcases h'.kernel k hk with hk | hk
  · rcases h.kernel k hk with hk | hk
    · exact .inl hk
    · exact .inr ⟨hk.1, by omega⟩
  · exact .inr ⟨by omega, hk.2⟩

lemma Dropped.later {value : Option Mount} (dropped : s.Dropped value s') : s.Later s' := by
  rcases dropped with rfl | ⟨h, _, rfl⟩
  · exact .rfl
  · exact later_detach

/-- What a handle owns it owns later on. -/
lemma Owns.later (owns : s.Owns target handle) (later : s.Later s') : s'.Owns target handle := by
  intro h hh
  obtain ⟨hlt, hkernel⟩ := owns h hh
  refine ⟨lt_of_lt_of_le hlt later.nextId_le, fun k hk hid => ?_⟩
  rcases later.kernel k hk with hk | hk
  · exact hkernel k hk hid
  · omega

lemma owns_none : s.Owns target none := by
  intro h hh
  cases hh

end NodeState

/-! ## The service -/

inductive NodeRequest where
  | publish (request : NodePublishVolumeRequest)
  | unpublish (request : NodeUnpublishVolumeRequest)
deriving DecidableEq

namespace NodeRequest

def volumeId : NodeRequest → String
  | .publish r => r.volumeId
  | .unpublish r => r.volumeId

def targetPath : NodeRequest → String
  | .publish r => r.targetPath
  | .unpublish r => r.targetPath

def program : NodeRequest → Handler Unit
  | .publish r => nodePublishVolume r
  | .unpublish r => nodeUnpublishVolume r

end NodeRequest

abbrev NodePool := Pool signature NodeState NodeRequest (Fault Status) Unit

abbrev NodeResponse := Response signature NodeRequest (Fault Status) Unit

abbrev NodeLabel := Label signature NodeRequest

abbrev NodeTransition :=
  Service.Transition signature NodeState NodeRequest (Fault Status) Unit

/-- The node service for the requests that satisfy `sent`, in any number and order. -/
def nodeService (sent : NodeRequest → Prop) :
    Service signature NodeState NodeRequest (Fault Status) Unit where
  program := NodeRequest.program
  admits := fun _ r => sent r
  answers := NodeState.Answers
  disturbs := fun _ _ => False

/-! ## A concrete environment -/

namespace NodeState

/-- Every mount and unmount succeeds when it can, other calls as `api` and `storage` say. -/
def serve (api : (c : KubeCall) → Except KubeError c.Object)
    (storage : (c : OpendalCall) → c.Reply) (s : NodeState) :
    (c : Call) → Option (c.Reply × NodeState)
  | .kube c => some (api c, s)
  | .opendal c => some (storage c, s)
  | .host (.pathExists _) => some (true, s)
  | .host (.createDir _) => some (.ok (), s)
  | .host (.createFile _) => some (.ok (), s)
  | .host (.writeAll _ _) => some (.ok (), s)
  | .host (.bindMount source target _) =>
    some (Joined.done (.ok ()), s.attach target (.bind source) false)
  | .host (.fuseMount operator target readOnly) =>
    some (.ok ⟨s.nextId⟩, s.attach target (.fuse operator) readOnly)
  | .host (.unmount target) =>
    if ∃ k ∈ s.kernel, k.target = target then
      some (Joined.done (.ok ()), s.detachTop target)
    else none
  | .host (.unmountHandle handle) =>
    if ∃ k ∈ s.kernel, k.id = handle.id then some (.ok (), s.detach handle) else none
  | .mounts (.insert volumeId mount) =>
    if s.locked then none else some ((), { s with mounts := s.mounts.insert volumeId mount })
  | .mounts (.remove volumeId) =>
    if s.locked then none
    else some (s.mounts.lookup volumeId,
      { s with mounts := s.mounts.erase volumeId, locked := true })
  | .mounts .unlock => some ((), { s with locked := false })
  | _ => none

lemma answers_of_serve {api : (c : KubeCall) → Except KubeError c.Object}
    {storage : (c : OpendalCall) → c.Reply} (s : NodeState) (c : Call) (a : c.Reply)
    (s' : NodeState) (h : s.serve api storage c = some (a, s')) : s.Answers c a s' := by
  rcases c with c | c | c | c | c | _ | _
  · cases h
    rfl
  · cases h
    rfl
  · rcases c with _ | _ | _ | _ | _ | _ | _ | _
    all_goals simp only [serve] at h
    -- the calls that can only be answered in some states
    case unmount =>
      split at h
      · cases h
        exact ⟨‹_›, rfl⟩
      · cases h
    case unmountHandle =>
      split at h
      · cases h
        exact ⟨‹_›, rfl⟩
      · cases h
    case fuseMount =>
      cases h
      exact ⟨rfl, rfl⟩
    all_goals
      cases h
      rfl
  · rcases c with _ | _ | _
    all_goals simp only [serve] at h
    case insert =>
      split at h
      · cases h
      · cases h
        exact ⟨eq_false_of_ne_true ‹_›, s, .inl rfl, rfl⟩
    case remove =>
      split at h
      · cases h
      · cases h
        exact ⟨eq_false_of_ne_true ‹_›, rfl, rfl⟩
    case unlock =>
      cases h
      rfl
  · cases h
  · cases h
  · cases h

end NodeState

/-- A cluster where every `DataNode` is described by `spec`, every `DataPod` has a path of its
own on `data`, and every review allows. -/
def sampleApi (spec : DataNodeSpec) : (c : KubeCall) → Except KubeError c.Object
  | .getDataNode ns name =>
    Except.ok (⟨{ name := some name, ns := some ns }, spec, none⟩ : DataNode)
  | .getDataPod ns name =>
    Except.ok (⟨{ name := some name, ns := some ns },
      ⟨some ("/" ++ name), some ⟨"data", none⟩, none, none⟩, none⟩ : DataPod)
  | .getSecret ns name => Except.ok (⟨{ name := some name, ns := some ns }, none⟩ : Secret)
  | .createAccessReview review =>
    Except.ok ({ review with status := some ⟨true⟩ } : SubjectAccessReview)
  | _ => .error .failed

/-- A storage that holds empty files. -/
def sampleStorage (entries : List Entry) : (c : OpendalCall) → c.Reply
  | .fromIter _ _ => Except.ok ()
  | .check _ => Except.ok ()
  | .list _ _ => Except.ok entries
  | .reader _ _ => Except.ok ()
  | .intoBytesStream _ _ => Except.ok (⟨[], none⟩ : ByteStream)

/-- The volume context of a pod that mounts `DataPod` `pod` in the way `access` says. -/
def sampleContext (pod access : String) : StringMap String :=
  StringMap.ofList
    [("kubedal.arunaengine.org/data-node-name", "data"),
      ("kubedal.arunaengine.org/data-node-namespace", "default"),
      ("kubedal.arunaengine.org/data-pod-name", pod),
      ("kubedal.arunaengine.org/data-pod-namespace", "default"),
      ("kubedal.arunaengine.org/mount", access),
      ("csi.storage.k8s.io/pod.name", "reader"),
      ("csi.storage.k8s.io/pod.namespace", "default"),
      ("csi.storage.k8s.io/serviceAccount.name", "default"),
      ("csi.storage.k8s.io/pod.uid", "1")]

end Kubedal
