import Kubedal.Services.NodeMonitor
import Mathlib

/-!
# The tracked mounts and the mount table

Invariants of the node service over every interleaving of its requests.

* `MountInvariant` is the rule: what a new request, one step of a request and the end of a
  request keep, every run keeps;
* `NodeState.Sound`: the handle of a tracked mount is its own, in every run;
* `unmounted_after_unpublish`: while volumes are tracked once at a time, a path whose last
  request was a successful unpublish has no mount of the driver left on it.
-/

namespace Kubedal

open Interaction Kube Resource

/-- The requests in progress, each with its stage. -/
abbrev Stages := List (NodeRequest × MountStage)

def NodePool.stages (P : NodePool) : Stages :=
  P.running.map fun t => mountMonitor.after t.request.start t.past

/-- A request in this stage still has a call to make. -/
def MountStage.Pending : MountStage → Prop
  | .tracked => False
  | .unlocked _ => False
  | _ => True

lemma NodeRequest.Allows.pending {r : NodeRequest} {g : MountStage} {c : Call}
    (h : r.Allows g c) : g.Pending := by
  rcases g with _ | handle | _ | mount | unmounted | unmounted
  case tracked => cases r <;> exact h
  case unlocked => cases r <;> exact h
  all_goals trivial

/-- The obligations for `Inv` to hold along every run whose steps satisfy `G`. -/
structure MountInvariant (sent : NodeRequest → Prop) (G : NodePool → NodeLabel → Prop)
    (Inv : NodeState → Stages → List NodeResponse → Prop) : Prop where
  init : Inv .init [] []
  arrive : ∀ {s : NodeState} {xs : Stages} {done : List NodeResponse} {r : NodeRequest},
    sent r → Inv s xs done → Inv s (xs ++ [(r, .waiting)]) done
  step : ∀ {P : NodePool} {before after : Stages} {r : NodeRequest} {g : MountStage}
    {past : List (Event signature)} {c : Call} {a : c.Reply} {s' : NodeState},
    G P (.answered r past ⟨c, a⟩) → MountStep P.state c a r g (g.next c a) s' →
    (∀ x ∈ before ++ after, x.2.Pending) →
    Inv P.state (before ++ (r, g) :: after) P.finished →
    Inv s' (before ++ (r, g.next c a) :: after) P.finished
  finish : ∀ {s : NodeState} {before after : Stages} {done : List NodeResponse}
    {r : NodeRequest} {g : MountStage} {past : List (Event signature)}
    {result : Except (Fault Status) Unit}, r.Ends g result →
    Inv s (before ++ (r, g) :: after) done →
    Inv s (before ++ after) (done ++ [⟨r, past, result⟩])

namespace MountInvariant

variable {sent : NodeRequest → Prop} {G : NodePool → NodeLabel → Prop}
  {Inv : NodeState → Stages → List NodeResponse → Prop}

lemma start_stage (r : NodeRequest) (past : List (Event signature)) :
    ∃ g, mountMonitor.after r.start past = (r, g) :=
  ⟨(mountMonitor.after r.start past).2, Prod.ext (mountMonitor_after_fst _ _) rfl⟩

lemma preserved (h : MountInvariant sent G Inv) :
    Preserved (nodeService sent) mountMonitor NodeRequest.start NodeRequest.post G
      fun s phases done =>
        (∀ x ∈ phases.map Prod.snd, x.2.Pending) ∧ Inv s (phases.map Prod.snd) done where
  meets := fun _ r _ => program_meets r
  rely := fun _ _ _ _ _ _ => trivial
  arrives := by
    rintro P r hsent _ ⟨hpending, hInv⟩
    rw [List.map_append]
    refine ⟨fun x hx => ?_, h.arrive hsent hInv⟩
    rcases List.mem_append.mp hx with hx | hx
    · exact hpending x hx
    · rw [List.mem_singleton.mp hx]
      trivial
  refuses := by
    rintro P r result hsent _ hends ⟨hpending, hInv⟩
    have := @MountInvariant.finish _ _ _ h _ _ [] _ _ _ [] _ hends (h.arrive hsent hInv)
    exact ⟨hpending, by simpa using this⟩
  continues := by
    rintro P before after r past c a s' _ hG answered allowed ⟨c', allowed'⟩ ⟨hpending, hInv⟩
    obtain ⟨g, hg⟩ := start_stage r past
    rw [hg] at allowed allowed' hpending hInv ⊢
    rw [List.map_append, List.map_cons] at hpending hInv ⊢
    have others : ∀ x ∈ before.map Prod.snd ++ after.map Prod.snd, x.2.Pending :=
      fun x hx => hpending x (mem_of_others hx _)
    refine ⟨fun x hx => ?_, h.step hG (mountStep_of_answers allowed answered) others hInv⟩
    rcases eq_or_mem_others hx with rfl | hx
    · exact NodeRequest.Allows.pending allowed'
    · exact others x hx
  returns := by
    rintro P before after r past c a s' result _ hG answered allowed hends ⟨hpending, hInv⟩
    obtain ⟨g, hg⟩ := start_stage r past
    rw [hg] at allowed hends hpending hInv
    rw [List.map_append, List.map_cons] at hpending hInv
    rw [List.map_append]
    have others : ∀ x ∈ before.map Prod.snd ++ after.map Prod.snd, x.2.Pending :=
      fun x hx => hpending x (mem_of_others hx _)
    exact ⟨others, h.finish hends
      (h.step hG (mountStep_of_answers allowed answered) others hInv)⟩
  disturbed := fun _ _ moved => moved.elim

/-- The invariant holds at the end of every run. -/
theorem run (h : MountInvariant sent G Inv) {steps : List NodeTransition} {P : NodePool}
    (hrun : (nodeService sent).Run .init steps P) (hG : ∀ x ∈ steps, G x.source x.label) :
    P.Watched mountMonitor NodeRequest.start NodeRequest.post ∧
      Inv P.state P.stages P.finished := by
  obtain ⟨watched, _, hInv⟩ := h.preserved.run ⟨by simp, h.init⟩ hrun hG
  rw [Pool.phases, List.map_map] at hInv
  exact ⟨watched, hInv⟩

end MountInvariant

/-- A request that takes a step was in some stage, and does what the stage allows. -/
lemma mountStep_of_step {sent : NodeRequest → Prop} {P P' : NodePool} {r : NodeRequest}
    {past : List (Event signature)} {e : Event signature}
    (watched : P.Watched mountMonitor NodeRequest.start NodeRequest.post)
    (h : (nodeService sent).Step P (.answered r past e) P') :
    ∃ before after g, P.stages = before ++ (r, g) :: after ∧
      MountStep P.state e.call e.reply r g (g.next e.call e.reply) P'.state := by
  obtain ⟨before, after, k, hrunning, answered, _⟩ := Service.step_answered h
  have hmem : (⟨r, past, .call e.call k⟩ : Task signature NodeRequest (Fault Status) Unit) ∈
      P.running := by
    rw [hrunning]
    exact List.mem_append_right _ List.mem_cons_self
  obtain ⟨g, hg⟩ := MountInvariant.start_stage r past
  have allowed := (watched.meets _ hmem).1
  refine ⟨before.map fun t => mountMonitor.after t.request.start t.past,
    after.map fun t => mountMonitor.after t.request.start t.past, g, ?_, ?_⟩
  · unfold NodePool.stages
    rw [hrunning, List.map_append, List.map_cons, ← hg]
  · have allowed' : (mountMonitor.after r.start past).1.Allows
        (mountMonitor.after r.start past).2 e.call := allowed
    rw [hg] at allowed'
    exact mountStep_of_answers allowed' answered

/-! ## Handles -/

/-- `mount` has a handle exactly when it is a FUSE mount, and the handle is its own. -/
structure Mount.Sound (mount : Mount) (s : NodeState) : Prop where
  handle_of_fuse : mount.mountMode = .fuse ↔ mount.fuseMount.isSome
  owns : s.Owns mount.targetPath mount.fuseMount

lemma Mount.Sound.later {mount : Mount} {s s' : NodeState} (h : mount.Sound s)
    (later : s.Later s') : mount.Sound s' :=
  ⟨h.handle_of_fuse, h.owns.later later⟩

namespace NodeState

/-- A request in progress has a handle of its own mount only. -/
def TaskSound (s : NodeState) : NodeRequest × MountStage → Prop
  | (r, .mounted handle) => s.Owns r.targetPath handle
  | (_, .removed mount) => mount.Sound s
  | _ => True

lemma TaskSound.later {s s' : NodeState} {x : NodeRequest × MountStage} (h : s.TaskSound x)
    (later : s.Later s') : s'.TaskSound x := by
  obtain ⟨r, g⟩ := x
  rcases g with _ | handle | _ | mount | unmounted | unmounted
  case mounted => exact Owns.later h later
  case removed => exact Mount.Sound.later h later
  all_goals trivial

/-- Handles are in the right hands. -/
structure Sound (s : NodeState) (xs : Stages) : Prop where
  fresh : ∀ k ∈ s.kernel, k.id < s.nextId
  tracked : ∀ volumeId mount, s.mounts.lookup volumeId = some mount → mount.Sound s
  tasks : ∀ x ∈ xs, s.TaskSound x

end NodeState

namespace MountStep

variable {s s' : NodeState} {c : Call} {a : c.Reply} {r : NodeRequest} {g g' : MountStage}

lemma later (h : MountStep s c a r g g' s') : s.Later s' := by
  cases h with
  | quiet => exact .rfl
  | attach => exact NodeState.later_attach
  | insert _ _ _ dropped => exact dropped.later.trans (NodeState.later_of_kernel rfl rfl)
  | remove => exact NodeState.later_of_kernel rfl rfl
  | detachTop => exact NodeState.later_detachTop
  | detach => exact NodeState.later_detach
  | fail _ dropped => exact dropped.later
  | unlockBare => exact NodeState.later_of_kernel rfl rfl
  | unlock => exact NodeState.later_of_kernel rfl rfl

/-- Only a publish adds to the mount table. -/
lemma kernel_length_le {r' : NodeUnpublishVolumeRequest}
    (h : MountStep s c a (.unpublish r') g g' s') : s'.kernel.length ≤ s.kernel.length := by
  have erased : ∀ p : KernelMount → Bool, (s.kernel.eraseP p).length ≤ s.kernel.length :=
    fun p => List.eraseP_sublist.length_le
  cases h with
  | detachTop => exact erased _
  | detach => exact erased _
  | fail _ dropped =>
    rcases dropped with rfl | ⟨_, _, rfl⟩
    · exact le_rfl
    · exact erased _
  | _ => exact le_rfl

/-- Only `insert` and `remove` change the map. -/
lemma lookup_eq (h : MountStep s c a r g g' s') {volumeId : String} {mount : Mount}
    (hlookup : s'.mounts.lookup volumeId = some mount) :
    s.mounts.lookup volumeId = some mount ∨
      ∃ (r' : NodePublishVolumeRequest) (handle : Option MountHandle),
        r = .publish r' ∧ g = .mounted handle ∧ volumeId = r'.volumeId ∧ mount.For r' handle ∧
        s.locked = false ∧ c = .mounts (.insert volumeId mount) := by
  cases h with
  -- an entry is new or has been there, depending on the volume id
  | @insert r' handle m s₁ call own free _ =>
    by_cases hv : volumeId = r'.volumeId
    · subst hv
      rw [AList.lookup_insert] at hlookup
      cases hlookup
      exact .inr ⟨r', handle, rfl, rfl, rfl, own, free, call⟩
    · rw [AList.lookup_insert_ne hv] at hlookup
      exact .inl hlookup
  | @remove r' _ _ =>
    by_cases hv : volumeId = r'.volumeId
    · subst hv
      rw [AList.lookup_erase] at hlookup
      cases hlookup
    · rw [AList.lookup_erase_ne hv] at hlookup
      exact .inl hlookup
  | fail _ dropped =>
    rcases dropped with rfl | ⟨_, _, rfl⟩
    · exact .inl hlookup
    · exact .inl hlookup
  | _ => exact .inl hlookup

/-- A request keeps to its own handles. -/
lemma taskSound (h : MountStep s c a r g g' s') (fresh : ∀ k ∈ s.kernel, k.id < s.nextId)
    (tracked : ∀ volumeId mount, s.mounts.lookup volumeId = some mount → mount.Sound s) :
    s'.TaskSound (r, g') := by
  cases h with
  | @attach r' handle source readOnly own =>
    rcases own with rfl | rfl
    · exact NodeState.owns_none
    · intro h hh
      cases hh
      refine ⟨Nat.lt_succ_self _, fun k hk hid => ?_⟩
      rcases List.mem_cons.mp hk with rfl | hk
      · rfl
      · have hlt := fresh k hk
        have hid' : k.id = s.nextId := hid
        omega
  | @remove r' _ _ =>
    cases hlookup : s.mounts.lookup r'.volumeId with
    | none => trivial
    | some m => exact (tracked _ m hlookup).later (NodeState.later_of_kernel rfl rfl)
  | _ => trivial

end MountStep

namespace NodeState.Sound

variable {s s' : NodeState} {c : Call} {a : c.Reply} {r : NodeRequest} {g g' : MountStage}
  {before after : Stages}

lemma step (h : s.Sound (before ++ (r, g) :: after)) (hstep : MountStep s c a r g g' s') :
    s'.Sound (before ++ (r, g') :: after) := by
  have later := hstep.later
  have hself : s.TaskSound (r, g) := h.tasks _ (List.mem_append_right _ List.mem_cons_self)
  refine ⟨fun k hk => ?_, fun volumeId mount hlookup => ?_, fun x hx => ?_⟩
  · have hle := later.nextId_le
    rcases later.kernel k hk with hk | hk
    · have hlt := h.fresh k hk
      omega
    · exact hk.2
  · rcases hstep.lookup_eq hlookup with hlookup | ⟨r', handle, rfl, rfl, rfl, own, _⟩
    · exact (h.tracked _ _ hlookup).later later
    · -- the mount that has just been tracked is the one of the request
      refine ⟨?_, ?_⟩
      · rw [own.fuseMount]
        exact own.handle_of_fuse
      · rw [own.fuseMount, own.targetPath]
        exact NodeState.Owns.later hself later
  · rcases eq_or_mem_others hx with rfl | hx
    · exact hstep.taskSound h.fresh h.tracked
    · exact (h.tasks x (mem_of_others hx _)).later later

lemma arrive {xs : Stages} (h : s.Sound xs) (r : NodeRequest) :
    s.Sound (xs ++ [(r, .waiting)]) := by
  refine ⟨h.fresh, h.tracked, fun x hx => ?_⟩
  rcases List.mem_append.mp hx with hx | hx
  · exact h.tasks x hx
  · rw [List.mem_singleton.mp hx]
    trivial

lemma finish {x : NodeRequest × MountStage} (h : s.Sound (before ++ x :: after)) :
    s.Sound (before ++ after) :=
  ⟨h.fresh, h.tracked, fun y hy => h.tasks y (mem_of_others hy x)⟩

lemma init : NodeState.init.Sound [] := by
  refine ⟨?_, ?_, ?_⟩
  · intro k hk
    cases hk
  · intro volumeId mount h
    cases h
  · intro x hx
    cases hx

/-- In every run handles are in the right hands. -/
lemma invariant (sent : NodeRequest → Prop) :
    MountInvariant sent (fun _ _ => True) fun s xs _ => s.Sound xs where
  init := init
  arrive := fun _ h => h.arrive _
  step := fun _ hstep _ h => h.step hstep
  finish := fun _ h => h.finish

end NodeState.Sound

/-! ## Counting the mounts on a path -/

namespace NodeState

/-- How many mounts of `volumeId` on `target` are in the map. -/
def trackedOn (s : NodeState) (volumeId target : String) : ℕ :=
  match s.mounts.lookup volumeId with
  | some mount => if mount.targetPath = target then 1 else 0
  | none => 0

lemma trackedOn_of_none {s : NodeState} {volumeId : String}
    (h : s.mounts.lookup volumeId = none) (target : String) :
    s.trackedOn volumeId target = 0 := by
  unfold trackedOn
  rw [h]

lemma trackedOn_of_some {s : NodeState} {volumeId : String} {mount : Mount}
    (h : s.mounts.lookup volumeId = some mount) (target : String) :
    s.trackedOn volumeId target = if mount.targetPath = target then 1 else 0 := by
  unfold trackedOn
  rw [h]

lemma trackedOn_congr {s s' : NodeState} {volumeId : String}
    (h : s'.mounts.lookup volumeId = s.mounts.lookup volumeId) (target : String) :
    s'.trackedOn volumeId target = s.trackedOn volumeId target := by
  unfold trackedOn
  rw [h]

@[simp] lemma trackedOn_attach (s : NodeState) (path : String) (source : MountSource)
    (readOnly : Bool) (volumeId target : String) :
    (s.attach path source readOnly).trackedOn volumeId target = s.trackedOn volumeId target := rfl

@[simp] lemma trackedOn_detachTop (s : NodeState) (path volumeId target : String) :
    (s.detachTop path).trackedOn volumeId target = s.trackedOn volumeId target := rfl

@[simp] lemma trackedOn_detach (s : NodeState) (handle : MountHandle)
    (volumeId target : String) :
    (s.detach handle).trackedOn volumeId target = s.trackedOn volumeId target := rfl

end NodeState

/-- How many mounts on `target` a request has in its own hands. -/
def held (target : String) : NodeRequest × MountStage → ℕ
  | (r, .mounted _) => if r.targetPath = target then 1 else 0
  | (_, .removed mount) => if mount.targetPath = target then 1 else 0
  | _ => 0

section
variable (target : String) (r : NodeRequest)

@[simp] lemma held_waiting : held target (r, .waiting) = 0 := rfl

@[simp] lemma held_mounted (handle : Option MountHandle) :
    held target (r, .mounted handle) = if r.targetPath = target then 1 else 0 := rfl

@[simp] lemma held_tracked : held target (r, .tracked) = 0 := rfl

@[simp] lemma held_removed (mount : Mount) :
    held target (r, .removed mount) = if mount.targetPath = target then 1 else 0 := rfl

@[simp] lemma held_unlocking (unmounted : Bool) : held target (r, .unlocking unmounted) = 0 := rfl

@[simp] lemma held_unlocked (unmounted : Bool) : held target (r, .unlocked unmounted) = 0 := rfl

end

/-- How many mounts on `target` the requests in progress have in their hands. -/
def heldOn (xs : Stages) (target : String) : ℕ := (xs.map (held target)).sum

@[simp] lemma heldOn_split (before after : Stages) (x : NodeRequest × MountStage)
    (target : String) :
    heldOn (before ++ x :: after) target = heldOn (before ++ after) target + held target x := by
  simp only [heldOn, List.map_append, List.map_cons, List.sum_append, List.sum_cons]
  omega

lemma held_taken (r : NodeRequest) (volumeId target : String) (s : NodeState) :
    held target (r, .taken (s.mounts.lookup volumeId)) = s.trackedOn volumeId target := by
  unfold NodeState.trackedOn
  cases s.mounts.lookup volumeId <;> rfl

/-- Every mount on a path is tracked under the volume that owns the path, or is in the
hands of one request. -/
structure NodeState.Accounts (owner : String → String) (s : NodeState) (xs : Stages) : Prop where
  tracked : ∀ volumeId mount, s.mounts.lookup volumeId = some mount →
    owner mount.targetPath = volumeId
  requests : ∀ x ∈ xs, owner x.1.targetPath = x.1.volumeId
  count : ∀ target,
    (s.mountsOn target).length = s.trackedOn (owner target) target + heldOn xs target

namespace NodeState.Accounts

variable {owner : String → String} {s s' : NodeState} {c : Call} {a : c.Reply}
  {r : NodeRequest} {g g' : MountStage} {before after : Stages}

/-- A volume that had no mount has the one that is inserted. -/
lemma trackedOn_insert {volumeId : String} {mount : Mount}
    (hnone : s.mounts.lookup volumeId = none) (howner : owner mount.targetPath = volumeId)
    (hmounts : s'.mounts = s.mounts.insert volumeId mount) (target : String) :
    s'.trackedOn (owner target) target =
      s.trackedOn (owner target) target + if mount.targetPath = target then 1 else 0 := by
  by_cases hv : owner target = volumeId
  · have hlookup : s'.mounts.lookup (owner target) = some mount := by
      rw [hmounts, hv]
      exact AList.lookup_insert _
    have hbefore : s.mounts.lookup (owner target) = none := by
      rw [hv]
      exact hnone
    rw [NodeState.trackedOn_of_some hlookup, NodeState.trackedOn_of_none hbefore]
    omega
  -- the mount is on a path of another volume than `target`
  · have ht : ¬ mount.targetPath = target := by
      rintro rfl
      exact hv howner
    have hlookup : s'.mounts.lookup (owner target) = s.mounts.lookup (owner target) := by
      rw [hmounts]
      exact AList.lookup_insert_ne hv
    rw [NodeState.trackedOn_congr hlookup, if_neg ht]
    omega

/-- What is taken out of the map is no longer tracked. -/
lemma trackedOn_erase {xs : Stages} (h : s.Accounts owner xs) {volumeId : String}
    (hmounts : s'.mounts = s.mounts.erase volumeId) (target : String) :
    s.trackedOn (owner target) target =
      s'.trackedOn (owner target) target + s.trackedOn volumeId target := by
  by_cases hv : owner target = volumeId
  · have hlookup : s'.mounts.lookup (owner target) = none := by
      rw [hmounts, hv]
      exact AList.lookup_erase _ _
    rw [NodeState.trackedOn_of_none hlookup, hv]
    omega
  · have hlookup : s'.mounts.lookup (owner target) = s.mounts.lookup (owner target) := by
      rw [hmounts]
      exact AList.lookup_erase_ne hv
    have hzero : s.trackedOn volumeId target = 0 := by
      cases hmount : s.mounts.lookup volumeId with
      | none => exact NodeState.trackedOn_of_none hmount _
      | some mount =>
        rw [NodeState.trackedOn_of_some hmount, if_neg]
        rintro rfl
        exact hv (h.tracked _ _ hmount)
    rw [NodeState.trackedOn_congr hlookup]
    omega

/-- A mount that is tracked for the first time, or not at all, is not lost. -/
lemma count_step (h : s.Accounts owner (before ++ (r, g) :: after))
    (hstep : MountStep s c a r g g' s') (hself : s.TaskSound (r, g)) (succeeds : c.Succeeds a)
    (howner : owner r.targetPath = r.volumeId)
    (new : ∀ volumeId mount, c = .mounts (.insert volumeId mount) →
      s.mounts.lookup volumeId = none) (target : String) :
    (s'.mountsOn target).length =
      s'.trackedOn (owner target) target + heldOn (before ++ (r, g') :: after) target := by
  have hcount := h.count target
  rw [heldOn_split] at hcount ⊢
  cases hstep with
  | quiet => exact hcount
  -- the request holds the mount until it is tracked
  | @attach r' =>
    rw [held_waiting] at hcount
    rw [length_mountsOn_attach, trackedOn_attach, held_mounted, hcount]
    show _ + (if r'.targetPath = target then 1 else 0) =
      _ + (_ + if r'.targetPath = target then 1 else 0)
    omega
  -- the mount that the request held becomes the tracked one
  | @insert r' handle mount s₁ call own free dropped =>
    have hnone := new _ _ call
    have hs₁ : s₁ = s := by
      rcases dropped with rfl | ⟨_, hh, _⟩
      · rfl
      · rw [hnone] at hh
        cases hh
    subst hs₁
    have hmount : owner mount.targetPath = r'.volumeId := by
      rw [own.targetPath]
      exact howner
    rw [held_mounted] at hcount
    rw [held_tracked, trackedOn_insert hnone hmount rfl, own.targetPath]
    show (s₁.mountsOn target).length = _ + (if r'.targetPath = target then 1 else 0) + _
    rw [hcount]
    show _ + (_ + if r'.targetPath = target then 1 else 0) = _
    omega
  -- a tracked mount is held by the request from here on
  | @remove r' call free =>
    have htaken : s.trackedOn (owner target) target =
        NodeState.trackedOn { s with mounts := s.mounts.erase r'.volumeId, locked := true }
          (owner target) target + s.trackedOn r'.volumeId target := h.trackedOn_erase rfl target
    rw [held_waiting] at hcount
    rw [held_taken]
    show (s.mountsOn target).length = _
    omega
  -- the mount that was taken goes, and so does what the request holds
  | detachTop mode there =>
    rw [held_removed, length_mountsOn_detachTop there] at hcount
    rw [held_unlocking, trackedOn_detachTop]
    omega
  | @detach _ mount handle hhandle there =>
    have howns : s.Owns mount.targetPath (some handle) := hhandle ▸ hself.owns
    rw [held_removed, length_mountsOn_detach howns there] at hcount
    rw [held_unlocking, trackedOn_detach]
    omega
  -- no mount and no unmount fails in such a run
  | fail failed _ => exact absurd succeeds failed
  | unlockBare mode bare =>
    have := hself.handle_of_fuse.mp mode
    rw [bare] at this
    cases this
  | unlock => exact hcount

lemma step (h : s.Accounts owner (before ++ (r, g) :: after)) (hstep : MountStep s c a r g g' s')
    (sound : s.Sound (before ++ (r, g) :: after)) (succeeds : c.Succeeds a)
    (new : ∀ volumeId mount, c = .mounts (.insert volumeId mount) →
      s.mounts.lookup volumeId = none) :
    s'.Accounts owner (before ++ (r, g') :: after) := by
  have howner : owner r.targetPath = r.volumeId :=
    h.requests (r, g) (List.mem_append_right _ List.mem_cons_self)
  have hself : s.TaskSound (r, g) :=
    sound.tasks _ (List.mem_append_right _ List.mem_cons_self)
  refine ⟨fun volumeId mount hlookup => ?_, fun x hx => ?_,
    h.count_step hstep hself succeeds howner new⟩
  · rcases hstep.lookup_eq hlookup with hlookup | ⟨r', handle, rfl, rfl, rfl, own, _⟩
    · exact h.tracked _ _ hlookup
    · rw [own.targetPath]
      exact howner
  · rcases eq_or_mem_others hx with rfl | hx
    · exact howner
    · exact h.requests x (mem_of_others hx _)

end NodeState.Accounts

/-! ## The mutex -/

/-- A request in this stage holds the mutex of the map. -/
def MountStage.locks : MountStage → Bool
  | .removed _ => true
  | .unlocking _ => true
  | _ => false

/-- A request in this stage has taken its volume out of the map. -/
def MountStage.Took : MountStage → Prop
  | .removed _ => True
  | .unlocking _ => True
  | .unlocked _ => True
  | _ => False

lemma MountStage.locks_of_took {g : MountStage} (h : g.Took) (pending : g.Pending) :
    g.locks = true := by
  rcases g with _ | handle | _ | mount | unmounted | unmounted
  case removed => rfl
  case unlocking => rfl
  case unlocked => exact pending.elim
  all_goals exact h.elim

lemma MountStage.locks_taken (removed : Option Mount) :
    (MountStage.taken removed).locks = true := by
  cases removed <;> rfl

/-- At most one request holds the mutex, and its volume is not in the map. -/
structure NodeState.Mutex (s : NodeState) (xs : Stages) : Prop where
  locked : xs.countP (fun x => x.2.locks) = if s.locked then 1 else 0
  took : ∀ x ∈ xs, x.2.Took → s.mounts.lookup x.1.volumeId = none

/-- A request that ends holds no mount and not the mutex. -/
lemma ends_stage {r : NodeRequest} {g : MountStage} {result : Except (Fault Status) Unit}
    (hends : r.Ends g result) :
    g = .waiting ∨ g = .tracked ∨ ∃ unmounted, g = .unlocked unmounted := by
  -- a publish ends before its mount or once it is tracked, an unpublish after it has unlocked
  rcases r with r | r <;> rcases result with e | _
  · exact .inl hends
  · exact .inr (.inl hends)
  · rcases hends with h | h
    · exact .inl h
    · exact .inr (.inr ⟨_, h⟩)
  · exact .inr (.inr ⟨_, hends⟩)

namespace NodeState.Mutex

variable {s s' : NodeState} {c : Call} {a : c.Reply} {r : NodeRequest} {g g' : MountStage}
  {before after : Stages}

lemma countP_split (before after : Stages) (r : NodeRequest) (g : MountStage) :
    (before ++ (r, g) :: after).countP (fun x => x.2.locks) =
      (before ++ after).countP (fun x => x.2.locks) + if g.locks then 1 else 0 := by
  rw [List.countP_append, List.countP_cons, List.countP_append]
  show _ + (_ + if g.locks then 1 else 0) = _
  omega

lemma locked_of_dropped {value : Option Mount} (dropped : s.Dropped value s') :
    s'.locked = s.locked := by
  rcases dropped with rfl | ⟨_, _, rfl⟩ <;> rfl

lemma step_locked (h : s.Mutex (before ++ (r, g) :: after))
    (hstep : MountStep s c a r g g' s') :
    (before ++ (r, g') :: after).countP (fun x => x.2.locks) = if s'.locked then 1 else 0 := by
  have hlocked := h.locked
  rw [countP_split] at hlocked ⊢
  cases hstep with
  | insert _ _ _ dropped =>
    show _ = if NodeState.locked _ then 1 else 0
    rw [locked_of_dropped dropped]
    exact hlocked
  | remove _ free =>
    rw [free] at hlocked
    have hzero : (before ++ after).countP (fun x => x.2.locks) = 0 := hlocked
    rw [hzero, MountStage.locks_taken]
    rfl
  | fail _ dropped =>
    rw [locked_of_dropped dropped]
    exact hlocked
  | unlockBare =>
    change _ + 1 = _ at hlocked
    show _ + 0 = 0
    split at hlocked <;> omega
  | unlock =>
    change _ + 1 = _ at hlocked
    show _ + 0 = 0
    split at hlocked <;> omega
  | _ => exact hlocked

/-- Nobody has a volume taken while the mutex is free. -/
lemma not_took (h : s.Mutex (before ++ (r, g) :: after)) (free : s.locked = false)
    (pending : ∀ x ∈ before ++ after, x.2.Pending) : ∀ x ∈ before ++ after, ¬ x.2.Took := by
  intro x hx took
  have hlocked := h.locked
  rw [free] at hlocked
  have hnone := List.countP_eq_zero.mp hlocked x (mem_of_others hx _)
  exact hnone (MountStage.locks_of_took took (pending x hx))

/-- The request itself has taken its volume, if its stage says so. -/
lemma step_took (h : s.Mutex (before ++ (r, g) :: after)) (hstep : MountStep s c a r g g' s')
    (took : g'.Took) : s'.mounts.lookup r.volumeId = none := by
  have hself := h.took (r, g) (List.mem_append_right _ List.mem_cons_self)
  cases hstep with
  | quiet => exact took.elim
  | attach => exact took.elim
  | insert => exact took.elim
  | remove => exact AList.lookup_erase _ _
  | fail _ dropped =>
    rcases dropped with rfl | ⟨_, _, rfl⟩ <;> exact hself trivial
  | _ => exact hself trivial

lemma step (h : s.Mutex (before ++ (r, g) :: after)) (hstep : MountStep s c a r g g' s')
    (pending : ∀ x ∈ before ++ after, x.2.Pending) :
    s'.Mutex (before ++ (r, g') :: after) := by
  refine ⟨h.step_locked hstep, fun x hx took => ?_⟩
  rcases eq_or_mem_others hx with rfl | hx
  · exact h.step_took hstep took
  · have hnone := h.took x (mem_of_others hx _) took
    cases hlookup : s'.mounts.lookup x.1.volumeId with
    | none => rfl
    | some mount =>
      rcases hstep.lookup_eq hlookup with hold | ⟨_, _, _, _, _, _, free, _⟩
      · rw [hnone] at hold
        cases hold
      · exact absurd took (h.not_took free pending x hx)

lemma init : NodeState.init.Mutex [] where
  locked := rfl
  took := by
    intro x hx
    cases hx

lemma arrive {xs : Stages} (h : s.Mutex xs) (r : NodeRequest) :
    s.Mutex (xs ++ [(r, .waiting)]) := by
  constructor
  · rw [countP_split, List.append_nil]
    exact h.locked
  · intro x hx took
    rcases List.mem_append.mp hx with hx | hx
    · exact h.took x hx took
    · rw [List.mem_singleton.mp hx] at took
      exact took.elim

lemma finish {result : Except (Fault Status) Unit} (hends : r.Ends g result)
    (h : s.Mutex (before ++ (r, g) :: after)) : s.Mutex (before ++ after) := by
  constructor
  · have hlocked := h.locked
    rw [countP_split] at hlocked
    rcases ends_stage hends with rfl | rfl | ⟨unmounted, rfl⟩
    all_goals exact hlocked
  · exact fun x hx => h.took x (mem_of_others hx _)

/-- In every run a volume is not tracked while its mount is being unmounted. -/
lemma invariant (sent : NodeRequest → Prop) :
    MountInvariant sent (fun _ _ => True) fun s xs _ => s.Mutex xs where
  init := init
  arrive := fun _ h => h.arrive _
  step := fun _ hstep pending h => h.step hstep pending
  finish := fun hends h => h.finish hends

end NodeState.Mutex

/-! ## The last request for a path -/

/-- The last finished request for a volume and a path. -/
def lastFor (done : List NodeResponse) (volumeId target : String) : Option NodeResponse :=
  (done.filter fun x => x.request.volumeId = volumeId ∧ x.request.targetPath = target).getLast?

/-- The last finished request for a volume and a path is a successful unpublish. -/
def LastUnpublished (done : List NodeResponse) (volumeId target : String) : Prop :=
  ∃ x, lastFor done volumeId target = some x ∧ (∃ r, x.request = .unpublish r) ∧
    x.result = .ok ()

lemma lastFor_append (done : List NodeResponse) (x : NodeResponse) (volumeId target : String) :
    lastFor (done ++ [x]) volumeId target =
      if x.request.volumeId = volumeId ∧ x.request.targetPath = target then some x
      else lastFor done volumeId target := by
  unfold lastFor
  rw [List.filter_append, List.filter_singleton]
  split
  · rename_i h
    rw [decide_eq_true h]
    simp
  · rename_i h
    rw [decide_eq_false h]
    simp

/-- What holds in every state while the system calls succeed and volumes are tracked once at
a time. -/
structure Tidy (owner : String → String) (s : NodeState) (xs : Stages)
    (done : List NodeResponse) : Prop where
  sound : s.Sound xs
  accounts : s.Accounts owner xs
  mutex : s.Mutex xs
  answered : ∀ x ∈ done, owner x.request.targetPath = x.request.volumeId
  last : ∀ volumeId target, LastUnpublished done volumeId target →
    s.trackedOn volumeId target = 0 ∨
      ∃ x ∈ xs, x.2 = .tracked ∧ x.1.volumeId = volumeId ∧ x.1.targetPath = target

/-- Distinct volumes have distinct target paths: each path belongs to one volume. -/
def Owned (owner : String → String) (r : NodeRequest) : Prop :=
  owner r.targetPath = r.volumeId

/-- The step is no mount or unmount call that fails. -/
def Succeeds : NodeLabel → Prop
  | .answered _ _ e => e.call.Succeeds e.reply
  | _ => True

/-- A volume is tracked only when it is not tracked yet. -/
def NodeState.tracksNew (s : NodeState) : Call → Bool
  | .mounts (.insert volumeId _) => (s.mounts.lookup volumeId).isNone
  | _ => true

/-- The step does not replace a tracked mount. -/
def TracksNew (P : NodePool) : NodeLabel → Prop
  | .answered _ _ e => P.state.tracksNew e.call
  | _ => True

namespace Tidy

variable {owner : String → String} {s : NodeState} {xs before after : Stages}
  {done : List NodeResponse} {r : NodeRequest} {g : MountStage}

lemma init : Tidy owner .init [] [] where
  sound := NodeState.Sound.init
  accounts := ⟨fun _ _ h => (by cases h), fun _ h => (by cases h), fun _ => rfl⟩
  mutex := NodeState.Mutex.init
  answered := fun _ h => (by cases h)
  last := by
    rintro volumeId target ⟨x, hx, _⟩
    cases hx

lemma arrive (h : Tidy owner s xs done) (sent : Owned owner r) :
    Tidy owner s (xs ++ [(r, .waiting)]) done := by
  refine ⟨h.sound.arrive r, ⟨h.accounts.tracked, fun x hx => ?_, fun target => ?_⟩,
    h.mutex.arrive r, h.answered, fun volumeId target hlast => ?_⟩
  · rcases List.mem_append.mp hx with hx | hx
    · exact h.accounts.requests x hx
    · rw [List.mem_singleton.mp hx]
      exact sent
  · rw [heldOn_split, List.append_nil, held_waiting]
    exact h.accounts.count target
  · rcases h.last volumeId target hlast with hzero | ⟨x, hx, htracked⟩
    · exact .inl hzero
    · exact .inr ⟨x, List.mem_append_left _ hx, htracked⟩

/-- A path whose last request was a successful unpublish is not tracked, unless a publish for
it has tracked it in this very step. -/
lemma step {P : NodePool} {c : Call} {a : c.Reply} {past : List (Event signature)}
    {s' : NodeState}
    (h : Tidy owner P.state (before ++ (r, g) :: after) P.finished)
    (succeeds : Succeeds (.answered r past ⟨c, a⟩)) (new : TracksNew P (.answered r past ⟨c, a⟩))
    (hstep : MountStep P.state c a r g (g.next c a) s')
    (pending : ∀ x ∈ before ++ after, x.2.Pending) :
    Tidy owner s' (before ++ (r, g.next c a) :: after) P.finished := by
  have hnew : ∀ volumeId mount, c = .mounts (.insert volumeId mount) →
      P.state.mounts.lookup volumeId = none := by
    rintro volumeId mount rfl
    exact Option.isNone_iff_eq_none.mp new
  refine ⟨h.sound.step hstep, h.accounts.step hstep h.sound succeeds hnew,
    h.mutex.step hstep pending, h.answered, fun volumeId target hlast => ?_⟩
  -- an entry for the path is an old one, or this step has tracked it
  cases hlookup : s'.mounts.lookup volumeId with
  | none => exact .inl (NodeState.trackedOn_of_none hlookup _)
  | some mount =>
    by_cases ht : mount.targetPath = target
    · right
      rcases hstep.lookup_eq hlookup with hold | ⟨r', handle, rfl, rfl, rfl, own, _⟩
      · rcases h.last volumeId target hlast with hzero | ⟨x, hx, htracked, hid, hpath⟩
        · rw [NodeState.trackedOn_of_some hold, if_pos ht] at hzero
          cases hzero
        · -- no request but the one that makes the step can have tracked its mount
          rcases eq_or_mem_others hx with rfl | hx
          · rw [show g = .tracked from htracked] at hstep
            cases hstep
          · have := pending x hx
            rw [htracked] at this
            exact this.elim
      · refine ⟨_, List.mem_append_right _ List.mem_cons_self, ?_, rfl, ?_⟩
        · show MountStage.next _ c a = .tracked
          generalize hg' : MountStage.next _ c a = g' at hstep
          cases hstep
          rfl
        · rw [← ht, own.targetPath]
          rfl
    · left
      rw [NodeState.trackedOn_of_some hlookup, if_neg ht]

lemma finish {past : List (Event signature)} {result : Except (Fault Status) Unit}
    (hends : r.Ends g result) (h : Tidy owner s (before ++ (r, g) :: after) done) :
    Tidy owner s (before ++ after) (done ++ [⟨r, past, result⟩]) := by
  have howner : owner r.targetPath = r.volumeId :=
    h.accounts.requests (r, g) (List.mem_append_right _ List.mem_cons_self)
  have hstage := ends_stage hends
  refine ⟨h.sound.finish, ⟨h.accounts.tracked, fun x hx => ?_, fun target => ?_⟩,
    h.mutex.finish hends, fun x hx => ?_, fun volumeId target hlast => ?_⟩
  · exact h.accounts.requests x (mem_of_others hx _)
  · have hcount := h.accounts.count target
    rw [heldOn_split] at hcount
    rcases hstage with rfl | rfl | ⟨unmounted, rfl⟩
    all_goals exact hcount
  · rcases List.mem_append.mp hx with hx | hx
    · exact h.answered x hx
    · rw [List.mem_singleton.mp hx]
      exact howner
  · obtain ⟨x, hx, hunpublish, hok⟩ := hlast
    rw [lastFor_append] at hx
    split at hx
    · -- the request that has just ended is the last one for the path
      rename_i hpair
      obtain ⟨hid, hpath⟩ := hpair
      cases hx
      obtain ⟨r', rfl⟩ := hunpublish
      cases hok
      have hg : g = .unlocked true := hends
      subst hg
      have hnone := h.mutex.took (.unpublish r', .unlocked true)
        (List.mem_append_right _ List.mem_cons_self) trivial
      left
      rw [← hid]
      exact NodeState.trackedOn_of_none hnone _
    · rename_i hpair
      rcases h.last volumeId target ⟨x, hx, hunpublish, hok⟩ with hzero | ⟨y, hy, hstage, hy'⟩
      · exact .inl hzero
      · rcases eq_or_mem_others hy with rfl | hy
        · exact absurd hy' hpair
        · exact .inr ⟨y, hy, hstage, hy'⟩

lemma invariant : MountInvariant (Owned owner) (fun P l => Succeeds l ∧ TracksNew P l)
    (Tidy owner) where
  init := init
  arrive := fun sent h => h.arrive sent
  step := fun hG hstep pending h => h.step hG.1 hG.2 hstep pending
  finish := finish

end Tidy

/-- While every mount and unmount succeeds and a volume is only tracked when it is not tracked
yet, no mount is left on a path whose last request was a successful unpublish. -/
theorem unmounted_after_unpublish {owner : String → String} {steps : List NodeTransition}
    {P : NodePool} (run : (nodeService (Owned owner)).Run .init steps P)
    (succeeds : ∀ x ∈ steps, Succeeds x.label)
    (new : ∀ x ∈ steps, TracksNew x.source x.label) (quiet : P.running = [])
    {volumeId target : String} (last : LastUnpublished P.finished volumeId target) :
    P.state.mountsOn target = [] := by
  obtain ⟨_, tidy⟩ := Tidy.invariant.run run fun x hx => ⟨succeeds x hx, new x hx⟩
  have hstages : P.stages = [] := by
    unfold NodePool.stages
    rw [quiet]
    rfl
  rw [hstages] at tidy
  -- nothing is tracked on the path and no request is left to hold a mount
  have hcount := tidy.accounts.count target
  have htracked : P.state.trackedOn volumeId target = 0 := by
    rcases tidy.last volumeId target last with hzero | ⟨x, hx, _⟩
    · exact hzero
    · cases hx
  obtain ⟨x, hx, _, _⟩ := last
  obtain ⟨hmem, hpair⟩ := List.mem_filter.mp (List.mem_of_getLast? hx)
  have howner : owner target = volumeId := by
    have hpair' : x.request.volumeId = volumeId ∧ x.request.targetPath = target := by
      simpa using hpair
    rw [← hpair'.1, ← hpair'.2]
    exact tidy.answered x hmem
  rw [howner, htracked] at hcount
  exact List.length_eq_zero_iff.mp hcount

/-! A volume that is published twice on one path, and then unpublished -/

/-- Published from the cache by the pod `p`. -/
def publishCached (volumeId target : String) : NodeRequest :=
  .publish ⟨volumeId, target, none, false, sampleContext "p" "cache"⟩

def unpublish (volumeId target : String) : NodeRequest := .unpublish ⟨volumeId, target⟩

/-- Requests handled one by one, in a cluster that answers every request. -/
def NodeState.sampleServe : NodeState → (c : Call) → Option (c.Reply × NodeState) :=
  serve (sampleApi ⟨.http, false, none, ∅⟩) (sampleStorage [])

lemma succeeds_of_serve {s s' : NodeState} {c : Call} {a : c.Reply}
    (h : s.sampleServe c = some (a, s')) : c.Succeeds a := by
  rcases c with c | c | c | c | c | _ | _
  case host =>
    rcases c with _ | _ | _ | _ | _ | _ | _ | _
    all_goals simp only [NodeState.sampleServe, NodeState.serve] at h
    case bindMount =>
      cases h
      trivial
    case fuseMount =>
      cases h
      exact ⟨_, rfl⟩
    case unmount =>
      split at h
      · cases h
        trivial
      · cases h
    case unmountHandle =>
      split at h
      · cases h
        rfl
      · cases h
    all_goals trivial
  all_goals trivial

/-- The second publish replaces the record of the first mount, which then stays. -/
theorem mount_left_after_unpublish :
    ¬ ∀ (owner : String → String) (steps : List NodeTransition) (P : NodePool),
      (nodeService (Owned owner)).Run .init steps P → (∀ x ∈ steps, Succeeds x.label) →
      P.running = [] → ∀ volumeId target, LastUnpublished P.finished volumeId target →
        P.state.mountsOn target = [] := by
  intro claim
  obtain ⟨done, s, hserial, hlast, hleft⟩ : ∃ done s,
      (nodeService (Owned fun _ => "v")).serial (fun _ => NodeState.sampleServe) 40
        [publishCached "v" "/t", publishCached "v" "/t", unpublish "v" "/t"] .init =
          some (done, s) ∧
      LastUnpublished done "v" "/t" ∧ s.mountsOn "/t" ≠ [] :=
    ⟨_, _, rfl, ⟨_, rfl, ⟨_, rfl⟩, rfl⟩, by decide⟩
  have hsent : ∀ r ∈ [publishCached "v" "/t", publishCached "v" "/t", unpublish "v" "/t"],
      Owned (fun _ => "v") r := by
    intro r hr
    simp only [List.mem_cons, List.not_mem_nil, or_false] at hr
    rcases hr with rfl | rfl | rfl <;> rfl
  obtain ⟨steps, hrun, hserved, _⟩ := Service.Run.serial (fun _ => NodeState.answers_of_serve)
    (fun _ => hsent) .start hserial
  refine hleft (claim _ _ _ hrun (fun x hx => ?_) rfl _ _ hlast)
  rcases hserved x hx with ⟨r, hlabel⟩ | ⟨r, past, c, a, hlabel, hserve⟩
  · rw [hlabel]
    trivial
  · rw [hlabel]
    exact succeeds_of_serve hserve

/-- A volume that is published and unpublished. -/
theorem unmounted_after_one_publish :
    ∃ (steps : List NodeTransition) (P : NodePool),
      (nodeService (Owned fun _ => "v")).Run .init steps P ∧
      LastUnpublished P.finished "v" "/t" ∧ P.finished.length = 2 ∧ P.state.mountsOn "/t" = [] := by
  obtain ⟨done, s, hserial, hlast, hlength⟩ : ∃ done s,
      (nodeService (Owned fun _ => "v")).serial
        (fun _ => serveIf NodeState.tracksNew NodeState.sampleServe) 40
        [publishCached "v" "/t", unpublish "v" "/t"] .init = some (done, s) ∧
      LastUnpublished done "v" "/t" ∧ done.length = 2 :=
    ⟨_, _, rfl, ⟨_, rfl, ⟨_, rfl⟩, rfl⟩, rfl⟩
  have hsent : ∀ r ∈ [publishCached "v" "/t", unpublish "v" "/t"], Owned (fun _ => "v") r := by
    intro r hr
    simp only [List.mem_cons, List.not_mem_nil, or_false] at hr
    rcases hr with rfl | rfl <;> rfl
  obtain ⟨steps, hrun, hserved, _⟩ := Service.Run.serial
    (fun _ s c a s' h => NodeState.answers_of_serve s c a s' (of_serveIf h).2)
    (fun _ => hsent) .start hserial
  refine ⟨steps, _, hrun, hlast, hlength, unmounted_after_unpublish hrun (fun x hx => ?_)
    (fun x hx => ?_) rfl hlast⟩
  · rcases hserved x hx with ⟨r, hlabel⟩ | ⟨r, past, c, a, hlabel, hserve⟩
    · rw [hlabel]
      trivial
    · rw [hlabel]
      exact succeeds_of_serve (of_serveIf hserve).2
  · rcases hserved x hx with ⟨r, hlabel⟩ | ⟨r, past, c, a, hlabel, hserve⟩
    · rw [hlabel]
      trivial
    · rw [hlabel]
      exact (of_serveIf hserve).1

end Kubedal
