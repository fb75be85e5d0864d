import Kubedal.Services.NodePublish
import Kubedal.Services.NodeMounts
import Kubedal.Utils.Session

/-!
# Restarts of the driver

The map of tracked mounts is lost when the driver is restarted, the bind mounts are not.

* `restartingNode` is the node service whose driver may be restarted, also in mid-request;
* `Recorded` relates the map to the mounts the running driver has made;
* `unpublish_truthful_iff`: unpublishing leaves nothing mounted exactly when every mount on the
  target was made for the volume since the last restart.
-/

namespace Kubedal

open Interaction Kube Resource

/-! ## The service -/

abbrev NodeTurn := Turn signature NodeRequest (Fault Status) Unit

/-- The turns of a session, each with the state it is taken in. -/
abbrev NodeTurns := List (NodeState × NodeTurn)

/-- The driver starts with an empty map; what is mounted stays mounted. -/
def NodeState.restarted (s : NodeState) : NodeState := { s with mounts := ∅, locked := false }

def restartingNode : Service signature NodeState NodeRequest (Fault Status) Unit where
  program := NodeRequest.program
  admits := fun _ _ => True
  answers := NodeState.Answers
  disturbs := fun s s' => s' = s.restarted

/-! ## What the turns have done -/

def nextPublished (volumeIds : List String) : NodeTurn → List String
  | .handled ⟨.publish r, _, .ok _⟩ => r.volumeId :: volumeIds
  | .handled ⟨.unpublish r, _, .ok _⟩ => volumeIds.filter (· ≠ r.volumeId)
  | _ => volumeIds

/-- The volumes that have been published and not been unpublished again. -/
def published (turns : NodeTurns) : List String :=
  turns.foldl (fun volumeIds x => nextPublished volumeIds x.2) []

def nextMadeFor (owners : ℕ → Option String) (s : NodeState) : NodeTurn → ℕ → Option String
  | .handled ⟨.publish r, _, .ok _⟩ => Function.update owners s.nextId (some r.volumeId)
  | .handled _ => owners
  | _ => fun _ => none

/-- The volumes for which mounts have been made since the last restart, by the number of the
mount. -/
def madeFor (turns : NodeTurns) : ℕ → Option String :=
  turns.foldl (fun owners x => nextMadeFor owners x.1 x.2) fun _ => none

section
variable {turns : NodeTurns} {s : NodeState} {t : NodeTurn}

lemma published_append :
    published (turns ++ [(s, t)]) = nextPublished (published turns) t := by
  simp [published]

lemma madeFor_append :
    madeFor (turns ++ [(s, t)]) = nextMadeFor (madeFor turns) s t := by
  simp [madeFor]

end

/-! ## The turns of a session -/

/-- A request for a volume that is mounted from the cache. -/
def NodePublishVolumeRequest.Cached (r : NodePublishVolumeRequest) : Prop :=
  ∀ keys, dataMountKeys r.volumeContext = .ok keys → (modes keys.mountMode).1 = .cached

def Call.Unmounts : Call → Prop
  | .host (.unmount _) => True
  | .host (.unmountHandle _) => True
  | _ => False

def UnmountsSucceed (τ : List (Event signature)) : Prop :=
  ∀ e ∈ τ, e.call.Unmounts → e.call.Succeeds e.reply

/-- Volumes are cached, each is published to its target only and not again before it is
unpublished, and no unmount fails. -/
def ExpectedTurn (target : String → String) (earlier : NodeTurns) : NodeTurn → Prop
  | .handled ⟨.publish r, _, result⟩ =>
    r.Cached ∧ r.targetPath = target r.volumeId ∧
      (result = .ok () → r.volumeId ∉ published earlier)
  | .handled ⟨.unpublish _, τ, _⟩ => UnmountsSucceed τ
  | .cutOff (.publish r) _ => r.Cached
  | _ => True

/-- A volume is unpublished from its target. -/
def OwnTarget (target : String → String) : NodeTurn → Prop
  | .handled ⟨.unpublish r, _, _⟩ => r.targetPath = target r.volumeId
  | _ => True

/-- An unpublish that returns `Ok` leaves nothing mounted on its target. -/
def Truthful (s' : NodeState) : NodeTurn → Prop
  | .handled ⟨.unpublish r, _, .ok _⟩ => s'.mountsOn r.targetPath = []
  | _ => True

/-- An unpublish finds only mounts that were made for its volume since the last restart. -/
def FindsItsOwn (earlier : NodeTurns) (s : NodeState) : NodeTurn → Prop
  | .handled ⟨.unpublish r, _, _⟩ => checkPath r.volumeId r.targetPath = .ok () →
    ∀ k ∈ s.mountsOn r.targetPath, madeFor earlier k.id = some r.volumeId
  | _ => True

/-! ## The numbers of the mounts -/

/-- Mounts have different numbers, all of them used up. -/
structure NodeState.Numbered (s : NodeState) : Prop where
  fresh : ∀ k ∈ s.kernel, k.id < s.nextId
  distinct : (s.kernel.map KernelMount.id).Nodup

namespace NodeState.Numbered

variable {s s' : NodeState}

lemma of_sublist (h : s.Numbered) (hk : s'.kernel.Sublist s.kernel)
    (hn : s'.nextId = s.nextId) : s'.Numbered := by
  refine ⟨fun k hmem => ?_, h.distinct.sublist (hk.map _)⟩
  rw [hn]
  exact h.fresh k (hk.subset hmem)

lemma attach (h : s.Numbered) (target : String) (source : MountSource) (readOnly : Bool) :
    (s.attach target source readOnly).Numbered := by
  refine ⟨fun k hk => ?_, ?_⟩
  · show k.id < s.nextId + 1
    rcases List.mem_cons.mp hk with rfl | hk
    · exact Nat.lt_succ_self _
    · have hlt := h.fresh k hk
      omega
  · show (s.nextId :: s.kernel.map KernelMount.id).Nodup
    rw [List.nodup_cons]
    refine ⟨fun hmem => ?_, h.distinct⟩
    obtain ⟨k, hk, hid⟩ := List.mem_map.mp hmem
    have hlt := h.fresh k hk
    omega

lemma dropped (h : s.Numbered) {value : Option Mount} (hs : s.Dropped value s') :
    s'.Numbered := by
  rcases hs with rfl | ⟨handle, _, rfl⟩
  · exact h
  · exact h.of_sublist List.eraseP_sublist rfl

lemma step (h : s.Numbered) {c : Call} {a : c.Reply} {r : NodeRequest} {g g' : MountStage}
    (hstep : MountStep s c a r g g' s') : s'.Numbered := by
  cases hstep with
  | quiet => exact h
  | attach => exact h.attach _ _ _
  | insert _ _ _ dropped => exact (h.dropped dropped).of_sublist (List.Sublist.refl _) rfl
  | remove => exact h.of_sublist (List.Sublist.refl _) rfl
  | detachTop => exact h.of_sublist List.eraseP_sublist rfl
  | detach => exact h.of_sublist List.eraseP_sublist rfl
  | fail _ dropped => exact h.dropped dropped
  | unlockBare => exact h.of_sublist (List.Sublist.refl _) rfl
  | unlock => exact h.of_sublist (List.Sublist.refl _) rfl

/-- No request, however far it gets, uses a number twice. -/
lemma exec (h : s.Numbered) {r : NodeRequest} {τ : List (Event signature)} {q : Handler Unit}
    (run : Prog.Exec NodeState.Answers r.program s τ q s') : s'.Numbered :=
  Prog.wp_exec_invariant (program_meets r) run (fun _ _ _ _ _ _ => trivial)
    (fun s _ => s.Numbered)
    (fun _ _ _ _ _ _ allowed answered h => h.step (mountStep_of_answers allowed answered)) h

/-- Two mounts on a path are two mounts. -/
lemma mountsOn_le_one (h : s.Numbered) {target : String} {k : KernelMount}
    (hall : ∀ k' ∈ s.mountsOn target, k' = k) : (s.mountsOn target).length ≤ 1 := by
  have hnodup : (s.mountsOn target).Nodup :=
    (List.Nodup.of_map _ h.distinct).sublist List.filter_sublist
  have hsub : (s.mountsOn target).Subset [k] := by
    intro k' hk'
    rw [hall k' hk']
    exact List.mem_singleton_self k
  exact (List.subperm_of_subset hnodup hsub).length_le

end NodeState.Numbered

/-! ## What a request does to the node -/

/-- Where a publish request for a cached volume that started in `s₀` can be. -/
def PublishReached (r : NodePublishVolumeRequest) (s₀ s : NodeState) : MountStage → Prop
  | .waiting => s = s₀
  | .mounted _ => ∃ source readOnly, s = s₀.attach r.targetPath source readOnly
  | .tracked => ∃ source readOnly mount handle s₁, mount.For r handle ∧
    mount.mountMode = .cached ∧
    (s₀.attach r.targetPath source readOnly).Dropped (s₀.mounts.lookup r.volumeId) s₁ ∧
    s = { s₁ with mounts := s₀.mounts.insert r.volumeId mount }
  | _ => False

lemma PublishReached.step {r : NodePublishVolumeRequest} {s₀ s s' : NodeState} {c : Call}
    {a : c.Reply} {g g' : MountStage} (h : PublishReached r s₀ s g)
    (hmode : ∀ mount, c.tracks = some mount → mount.mountMode = .cached)
    (hstep : MountStep s c a (.publish r) g g' s') : PublishReached r s₀ s' g' := by
  cases hstep with
  | quiet => exact h
  | attach _ =>
    have hs : s = s₀ := h
    rw [hs]
    exact ⟨_, _, rfl⟩
  | @insert _ handle mount s₁ call own free dropped =>
    obtain ⟨source, readOnly, rfl⟩ := h
    refine ⟨source, readOnly, mount, handle, s₁, own, hmode mount ?_, dropped, rfl⟩
    rw [call]
    rfl

/-- The mount that a publish request records is cached if the request is. -/
lemma tracked_cached {r : NodePublishVolumeRequest} (hcached : r.Cached) {s s' : NodeState}
    {τ : List (Event signature)} {q : Handler Unit}
    (run : Prog.Exec NodeState.Answers (nodePublishVolume r) s τ q s') :
    ∀ e ∈ τ, ∀ mount, e.call.tracks = some mount → mount.mountMode = .cached := by
  intro e he mount htracks
  obtain ⟨past, later, rfl⟩ := List.append_of_mem he
  have allowed := Prog.wp_event nodePublishVolume_past run fun _ _ _ _ _ _ => trivial
  obtain ⟨node, prepared⟩ := PublishAllows.tracks allowed mount htracks
  obtain ⟨keys, _, hkeys, _, _, hmodes⟩ := prepared.resolved
  have hmode : mount.mountMode = (modes keys.mountMode).1 := congrArg Prod.fst hmodes
  rw [hmode]
  exact hcached keys hkeys

/-- A publish that fails has changed nothing, and one that returns `Ok` has mounted and
recorded its volume. -/
lemma publish_run {r : NodePublishVolumeRequest} (hcached : r.Cached) {s s' : NodeState}
    {τ : List (Event signature)} {q : Handler Unit} {result : Except (Fault Status) Unit}
    (run : Prog.Exec NodeState.Answers (nodePublishVolume r) s τ q s')
    (hq : q.outcome = some result) :
    match result with
    | .error _ => s' = s
    | .ok _ => PublishReached r s s' .tracked := by
  have hmode := tracked_cached hcached run
  have reached : PublishReached r s s' (mountMonitor.after (.publish r, .waiting) τ).2 := by
    have hinv := Prog.wp_exec_invariant (nodePublishVolume_meets r) run
      (fun _ _ _ _ _ _ => trivial) (fun s₁ g => g.1 = .publish r ∧ PublishReached r s s₁ g.2)
      (fun s₁ g c a s₂ he allowed answered h => ?_) ⟨rfl, rfl⟩
    · exact hinv.2
    · obtain ⟨r', g⟩ := g
      obtain ⟨rfl, h⟩ := h
      exact ⟨rfl, h.step (hmode _ he) (mountStep_of_answers allowed answered)⟩
  have hends := Prog.wp_outcome
    (Prog.wp_exec (nodePublishVolume_meets r) run fun _ _ _ _ _ _ => trivial) hq
  rcases result with e | _
  · have hstage : (mountMonitor.after (.publish r, .waiting) τ).2 = .waiting := hends
    rw [hstage] at reached
    exact reached
  · have hstage : (mountMonitor.after (.publish r, .waiting) τ).2 = .tracked := hends
    rw [hstage] at reached
    exact reached

/-- The volume is taken out of the map, and its mount, if it was there, is the newest one on
its path no longer. -/
def Unpublished (s : NodeState) (volumeId : String) (s' : NodeState) : Prop :=
  s'.mounts = s.mounts.erase volumeId ∧ s'.nextId = s.nextId ∧
    match s.mounts.lookup volumeId with
    | none => s'.kernel = s.kernel
    | some mount => s'.kernel = (s.detachTop mount.targetPath).kernel

/-- Where an unpublish request that started in `s₀` can be while no unmount fails. -/
def UnpublishReached (r : NodeUnpublishVolumeRequest) (s₀ s : NodeState) : MountStage → Prop
  | .waiting => s = s₀
  | .removed mount => s₀.mounts.lookup r.volumeId = some mount ∧
    s = { s₀ with mounts := s₀.mounts.erase r.volumeId, locked := true }
  | .unlocking unmounted => unmounted = true ∧ Unpublished s₀ r.volumeId s
  | .unlocked unmounted => unmounted = true ∧ Unpublished s₀ r.volumeId s
  | _ => False

/-- What is in the map is mounted from the cache. -/
def NodeState.AllCached (s : NodeState) : Prop :=
  ∀ volumeId mount, s.mounts.lookup volumeId = some mount →
    mount.mountMode = .cached ∧ mount.fuseMount = none

lemma UnpublishReached.step {r : NodeUnpublishVolumeRequest} {s₀ s s' : NodeState} {c : Call}
    {a : c.Reply} {g g' : MountStage} (h : UnpublishReached r s₀ s g) (cached : s₀.AllCached)
    (succeeds : c.Succeeds a) (hstep : MountStep s c a (.unpublish r) g g' s') :
    UnpublishReached r s₀ s' g' := by
  cases hstep with
  | remove =>
    have hs : s = s₀ := h
    subst hs
    cases hlookup : s.mounts.lookup r.volumeId with
    | none =>
      refine ⟨rfl, rfl, rfl, ?_⟩
      rw [hlookup]
    | some mount => exact ⟨hlookup, rfl⟩
  | @detachTop _ mount =>
    obtain ⟨hlookup, rfl⟩ := h
    refine ⟨rfl, rfl, rfl, ?_⟩
    rw [hlookup]
    rfl
  | detach held =>
    have hnone := (cached _ _ h.1).2
    rw [hnone] at held
    cases held
  | fail failed => exact absurd succeeds failed
  | unlockBare mode =>
    have hmode := (cached _ _ h.1).1
    rw [hmode] at mode
    cases mode
  | unlock => exact h

/-- The steps of a request that are no unmounts do not fail in the way unmounts do. -/
lemma succeeds_of_unmounts {r : NodeUnpublishVolumeRequest} {g : MountStage} {c : Call}
    {a : c.Reply} (allowed : (NodeRequest.unpublish r).Allows g c)
    (h : c.Unmounts → c.Succeeds a) : c.Succeeds a := by
  rcases c with c | c | c | c | c | _ | _
  case host =>
    rcases c with _ | _ | _ | _ | _ | _ | _ | _
    case unmount => exact h trivial
    case unmountHandle => exact h trivial
    case bindMount => cases g <;> exact allowed.elim
    case fuseMount => cases g <;> exact allowed.elim
    all_goals trivial
  all_goals trivial

/-- An unpublish of a cached volume whose unmount does not fail returns `Ok`. -/
lemma unpublish_run {r : NodeUnpublishVolumeRequest} {s s' : NodeState}
    {τ : List (Event signature)} {q : Handler Unit} {result : Except (Fault Status) Unit}
    (cached : s.AllCached) (unmounts : UnmountsSucceed τ)
    (run : Prog.Exec NodeState.Answers (nodeUnpublishVolume r) s τ q s')
    (hq : q.outcome = some result) :
    match checkPath r.volumeId r.targetPath with
    | .error e => result = .error (.error e) ∧ s' = s
    | .ok _ => result = .ok () ∧ Unpublished s r.volumeId s' := by
  cases hchecked : checkPath r.volumeId r.targetPath with
  | error e =>
    rw [unpublish_rejected hchecked] at run
    obtain ⟨rfl, rfl, rfl⟩ := Prog.exec_throw_iff.mp run
    cases hq
    exact ⟨rfl, rfl⟩
  | ok _ =>
    have meets := unpublish_checked_meets hchecked
    have reached : UnpublishReached r s s' (mountMonitor.after (.unpublish r, .waiting) τ).2 := by
      have hinv := Prog.wp_exec_invariant meets run (fun _ _ _ _ _ _ => trivial)
        (fun s₁ g => g.1 = .unpublish r ∧ UnpublishReached r s s₁ g.2)
        (fun s₁ g c a s₂ he allowed answered h => ?_) ⟨rfl, rfl⟩
      · exact hinv.2
      · obtain ⟨r', g⟩ := g
        obtain ⟨rfl, h⟩ := h
        have succeeds : c.Succeeds a := succeeds_of_unmounts allowed (unmounts _ he)
        exact ⟨rfl, h.step cached succeeds (mountStep_of_answers allowed answered)⟩
    have hstage := Prog.wp_outcome (Prog.wp_exec meets run fun _ _ _ _ _ _ => trivial) hq
    rw [hstage] at reached
    rcases result with e | _
    · cases reached.1
    · exact ⟨rfl, reached.2⟩

lemma Mount.For.fuseMount_of_cached {mount : Mount} {r : NodePublishVolumeRequest}
    {handle : Option MountHandle} (own : mount.For r handle) (hmode : mount.mountMode = .cached) :
    mount.fuseMount = none := by
  rw [own.fuseMount]
  cases handle with
  | none => rfl
  | some handle =>
    have hfuse := own.handle_of_fuse.mpr rfl
    rw [hmode] at hfuse
    cases hfuse

/-! ## The map and the mounts of the running driver -/

/-- Every tracked volume has a mount that was made for it since the last restart, and every such
mount is tracked. -/
structure Recorded (target : String → String) (turns : NodeTurns) (s : NodeState) : Prop where
  numbered : s.Numbered
  cached : s.AllCached
  targetPath : ∀ volumeId mount, s.mounts.lookup volumeId = some mount →
    mount.targetPath = target volumeId
  listed : ∀ volumeId mount, s.mounts.lookup volumeId = some mount →
    volumeId ∈ published turns
  mounted : ∀ volumeId mount, s.mounts.lookup volumeId = some mount →
    ∃ k ∈ s.mountsOn (target volumeId), madeFor turns k.id = some volumeId
  tracked : ∀ k ∈ s.kernel, ∀ volumeId, madeFor turns k.id = some volumeId →
    k.target = target volumeId ∧ ∃ mount, s.mounts.lookup volumeId = some mount
  unique : ∀ k ∈ s.kernel, ∀ k' ∈ s.kernel, ∀ volumeId, madeFor turns k.id = some volumeId →
    madeFor turns k'.id = some volumeId → k' = k

namespace Recorded

variable {target : String → String} {turns : NodeTurns} {s s' : NodeState}

lemma init : Recorded target [] .init where
  numbered := ⟨fun _ h => (by cases h), List.nodup_nil⟩
  cached := fun _ _ h => by cases h
  targetPath := fun _ _ h => by cases h
  listed := fun _ _ h => by cases h
  mounted := fun _ _ h => by cases h
  tracked := fun _ h => by cases h
  unique := fun _ h => by cases h

/-- A turn that leaves the node and the books as they are. -/
lemma same (h : Recorded target turns s) {t : NodeTurn}
    (hpublished : nextPublished (published turns) t = published turns)
    (hmadeFor : nextMadeFor (madeFor turns) s t = madeFor turns) :
    Recorded target (turns ++ [(s, t)]) s := by
  have hp : published (turns ++ [(s, t)]) = published turns :=
    published_append.trans hpublished
  have hm : madeFor (turns ++ [(s, t)]) = madeFor turns := madeFor_append.trans hmadeFor
  refine ⟨h.numbered, h.cached, h.targetPath, ?_, ?_, ?_, ?_⟩
  · rw [hp]
    exact h.listed
  · rw [hm]
    exact h.mounted
  · rw [hm]
    exact h.tracked
  · rw [hm]
    exact h.unique

/-- After a restart nothing is tracked, and no mount is the running driver's. -/
lemma restart {t : NodeTurn} (numbered : s'.Numbered)
    (hmadeFor : nextMadeFor (madeFor turns) s t = fun _ => none) :
    Recorded target (turns ++ [(s, t)]) s'.restarted := by
  have hm : madeFor (turns ++ [(s, t)]) = fun _ => none := madeFor_append.trans hmadeFor
  refine ⟨numbered.of_sublist (List.Sublist.refl _) rfl, ?_, ?_, ?_, ?_, ?_, ?_⟩
  · intro volumeId mount hlookup
    cases hlookup
  · intro volumeId mount hlookup
    cases hlookup
  · intro volumeId mount hlookup
    cases hlookup
  · intro volumeId mount hlookup
    cases hlookup
  · intro k _ volumeId hmade
    rw [hm] at hmade
    cases hmade
  · intro k _ k' _ volumeId hmade
    rw [hm] at hmade
    cases hmade

section
variable {r : NodePublishVolumeRequest} {τ : List (Event signature)}

/-- A publish is booked under the number of its mount, -/
lemma madeFor_publish_self :
    madeFor (turns ++ [(s, .handled ⟨.publish r, τ, .ok ()⟩)]) s.nextId = some r.volumeId := by
  rw [madeFor_append]
  exact Function.update_self ..

/-- and the older mounts stay booked as they were. -/
lemma madeFor_publish_of_mem (numbered : s.Numbered) {k : KernelMount} (hk : k ∈ s.kernel) :
    madeFor (turns ++ [(s, .handled ⟨.publish r, τ, .ok ()⟩)]) k.id = madeFor turns k.id := by
  have hlt := numbered.fresh k hk
  rw [madeFor_append]
  exact Function.update_of_ne (by omega) _ _

lemma lookup_insert_cases {mounts : StringMap Mount} {volumeId volumeId' : String}
    {mount mount' : Mount}
    (h : (mounts.insert volumeId' mount').lookup volumeId = some mount) :
    (volumeId = volumeId' ∧ mount = mount') ∨
      mounts.lookup volumeId = some mount := by
  by_cases hv : volumeId = volumeId'
  · subst hv
    rw [AList.lookup_insert] at h
    exact .inl ⟨rfl, (Option.some.inj h).symm⟩
  · rw [AList.lookup_insert_ne hv] at h
    exact .inr h

/-- No mount is booked for a volume that is not tracked. -/
lemma not_madeFor (h : Recorded target turns s) {volumeId : String}
    (hnone : s.mounts.lookup volumeId = none) {k : KernelMount} (hk : k ∈ s.kernel) :
    madeFor turns k.id ≠ some volumeId := by
  intro hmade
  obtain ⟨_, mount, hlookup⟩ := h.tracked k hk _ hmade
  rw [hnone] at hlookup
  cases hlookup

/-- After a publish, a mount of the running driver is the new one, or one of another volume. -/
lemma madeFor_publish_cases (h : Recorded target turns s)
    (hnone : s.mounts.lookup r.volumeId = none) {new k : KernelMount} (hnew : new.id = s.nextId)
    (hk : k ∈ new :: s.kernel) {volumeId : String}
    (hv : madeFor (turns ++ [(s, .handled ⟨.publish r, τ, .ok ()⟩)]) k.id = some volumeId) :
    (k = new ∧ volumeId = r.volumeId) ∨
      (k ∈ s.kernel ∧ madeFor turns k.id = some volumeId ∧ volumeId ≠ r.volumeId) := by
  rcases List.mem_cons.mp hk with rfl | hk
  · rw [hnew, madeFor_publish_self] at hv
    exact .inl ⟨rfl, (Option.some.inj hv).symm⟩
  · rw [madeFor_publish_of_mem h.numbered hk] at hv
    refine .inr ⟨hk, hv, ?_⟩
    rintro rfl
    exact h.not_madeFor hnone hk hv

/-- The first mount of a volume replaces nothing. -/
lemma publish_eq (hnone : s.mounts.lookup r.volumeId = none)
    (reached : PublishReached r s s' .tracked) :
    ∃ source readOnly mount handle, mount.For r handle ∧ mount.mountMode = .cached ∧
      s' = { s.attach r.targetPath source readOnly with
        mounts := s.mounts.insert r.volumeId mount } := by
  obtain ⟨source, readOnly, mount, handle, s₁, own, hmode, dropped, rfl⟩ := reached
  refine ⟨source, readOnly, mount, handle, own, hmode, ?_⟩
  rw [hnone] at dropped
  rcases dropped with rfl | ⟨handle, hhandle, _⟩
  · rfl
  · cases hhandle

/-- A volume that is published is tracked with its new mount. -/
lemma publish (h : Recorded target turns s) (htarget : r.targetPath = target r.volumeId)
    (hnew : r.volumeId ∉ published turns) (reached : PublishReached r s s' .tracked) :
    Recorded target (turns ++ [(s, .handled ⟨.publish r, τ, .ok ()⟩)]) s' := by
  have hnone : s.mounts.lookup r.volumeId = none := by
    cases hlookup : s.mounts.lookup r.volumeId with
    | none => rfl
    | some mount => exact absurd (h.listed _ _ hlookup) hnew
  obtain ⟨source, readOnly, mount, handle, own, hmode, rfl⟩ := publish_eq hnone reached
  refine ⟨(h.numbered.attach _ _ _).of_sublist (List.Sublist.refl _) rfl, ?_, ?_, ?_, ?_, ?_, ?_⟩
  · intro volumeId m hm
    rcases lookup_insert_cases hm with ⟨rfl, rfl⟩ | hm
    · exact ⟨hmode, own.fuseMount_of_cached hmode⟩
    · exact h.cached _ _ hm
  · intro volumeId m hm
    rcases lookup_insert_cases hm with ⟨rfl, rfl⟩ | hm
    · exact own.targetPath.trans htarget
    · exact h.targetPath _ _ hm
  · intro volumeId m hm
    rw [published_append]
    rcases lookup_insert_cases hm with ⟨rfl, rfl⟩ | hm
    · exact List.mem_cons_self
    · exact List.mem_cons_of_mem _ (h.listed _ _ hm)
  · intro volumeId m hm
    rcases lookup_insert_cases hm with ⟨rfl, rfl⟩ | hm
    · exact ⟨⟨s.nextId, r.targetPath, source, readOnly⟩,
        NodeState.mem_mountsOn.mpr ⟨List.mem_cons_self, htarget⟩, madeFor_publish_self⟩
    · obtain ⟨k, hk, hfor⟩ := h.mounted _ _ hm
      obtain ⟨hkernel, hpath⟩ := NodeState.mem_mountsOn.mp hk
      exact ⟨k, NodeState.mem_mountsOn.mpr ⟨List.mem_cons_of_mem _ hkernel, hpath⟩,
        (madeFor_publish_of_mem h.numbered hkernel).trans hfor⟩
  · intro k hk volumeId hv
    rcases h.madeFor_publish_cases hnone rfl hk hv with ⟨rfl, rfl⟩ | ⟨hk, hv, hne⟩
    · exact ⟨htarget, mount, AList.lookup_insert _⟩
    · obtain ⟨hpath, m, hm⟩ := h.tracked k hk _ hv
      exact ⟨hpath, m, (AList.lookup_insert_ne hne).trans hm⟩
  · intro k hk k' hk' volumeId hv hv'
    -- the new mount is the only one for its volume
    rcases h.madeFor_publish_cases hnone rfl hk hv with ⟨rfl, rfl⟩ | ⟨hk, hv, hne⟩
    · rcases h.madeFor_publish_cases hnone rfl hk' hv' with ⟨rfl, _⟩ | ⟨_, _, hne⟩
      · rfl
      · exact absurd rfl hne
    · rcases h.madeFor_publish_cases hnone rfl hk' hv' with ⟨_, rfl⟩ | ⟨hk', hv', _⟩
      · exact absurd rfl hne
      · exact h.unique k hk k' hk' volumeId hv hv'

end

/-! An unpublish -/

section
variable {r : NodeUnpublishVolumeRequest} {τ : List (Event signature)}

/-- An unpublish of a volume that is not tracked leaves the mounts alone, and one of a tracked
volume takes the newest one off its target. -/
lemma mountsOn_unpublish (h : Recorded target turns s) (done : Unpublished s r.volumeId s') :
    (s.mounts.lookup r.volumeId = none ∧ s'.kernel = s.kernel) ∨
      ∃ k ∈ s.mountsOn (target r.volumeId), madeFor turns k.id = some r.volumeId ∧
        s'.kernel = (s.detachTop (target r.volumeId)).kernel ∧
        s'.mountsOn (target r.volumeId) = (s.mountsOn (target r.volumeId)).tail := by
  obtain ⟨_, _, hkernel⟩ := done
  cases hlookup : s.mounts.lookup r.volumeId with
  | none =>
    rw [hlookup] at hkernel
    exact .inl ⟨rfl, hkernel⟩
  | some mount =>
    rw [hlookup] at hkernel
    have hpath := h.targetPath _ _ hlookup
    obtain ⟨k, hk, hmade⟩ := h.mounted _ _ hlookup
    have hkernel' : s'.kernel = (s.detachTop (target r.volumeId)).kernel := by
      rw [← hpath]
      exact hkernel
    refine .inr ⟨k, hk, hmade, hkernel', ?_⟩
    rw [← NodeState.mountsOn_detachTop_self]
    unfold NodeState.mountsOn
    rw [hkernel']

/-- The target is empty afterwards exactly if all that was on it is booked for the volume. -/
lemma mountsOn_eq_nil_iff (h : Recorded target turns s) (done : Unpublished s r.volumeId s') :
    s'.mountsOn (target r.volumeId) = [] ↔
      ∀ k ∈ s.mountsOn (target r.volumeId), madeFor turns k.id = some r.volumeId := by
  rcases h.mountsOn_unpublish done with ⟨hnone, hkernel⟩ | ⟨k₀, hk₀, hmade₀, _, htail⟩
  · have hsame : s'.mountsOn (target r.volumeId) = s.mountsOn (target r.volumeId) := by
      unfold NodeState.mountsOn
      rw [hkernel]
    rw [hsame]
    constructor
    · intro hnil k hk
      rw [hnil] at hk
      cases hk
    · intro hall
      apply List.eq_nil_iff_forall_not_mem.mpr
      intro k hk
      exact h.not_madeFor hnone (NodeState.mem_mountsOn.mp hk).1 (hall k hk)
  · rw [htail]
    constructor
    · -- nothing but its own mount was there
      intro hnil k hk
      cases hmounts : s.mountsOn (target r.volumeId) with
      | nil =>
        rw [hmounts] at hk
        cases hk
      | cons k₁ rest =>
        rw [hmounts] at hnil hk hk₀
        have hrest : rest = [] := hnil
        rw [hrest] at hk hk₀
        rw [List.mem_singleton.mp hk, ← List.mem_singleton.mp hk₀]
        exact hmade₀
    · intro hall
      have hone : (s.mountsOn (target r.volumeId)).length ≤ 1 := by
        refine h.numbered.mountsOn_le_one (k := k₀) fun k hk => ?_
        exact h.unique k₀ (NodeState.mem_mountsOn.mp hk₀).1 k (NodeState.mem_mountsOn.mp hk).1 _
          hmade₀ (hall k hk)
      apply List.length_eq_zero_iff.mp
      rw [List.length_tail]
      omega

lemma lookup_erase_cases {mounts : StringMap Mount} {volumeId volumeId' : String} {mount : Mount}
    (h : (mounts.erase volumeId').lookup volumeId = some mount) :
    volumeId ≠ volumeId' ∧ mounts.lookup volumeId = some mount := by
  by_cases hv : volumeId = volumeId'
  · rw [hv, AList.lookup_erase] at h
    cases h
  · rw [AList.lookup_erase_ne hv] at h
    exact ⟨hv, h⟩

lemma unpublish_sublist (h : Recorded target turns s) (done : Unpublished s r.volumeId s') :
    s'.kernel.Sublist s.kernel := by
  rcases h.mountsOn_unpublish done with ⟨_, hkernel⟩ | ⟨_, _, _, hkernel, _⟩
  · rw [hkernel]
  · rw [hkernel]
    exact List.eraseP_sublist

/-- The mount of another volume is on another target, and stays there. -/
lemma unpublish_other (h : Recorded target turns s) (done : Unpublished s r.volumeId s')
    (hnil : s'.mountsOn (target r.volumeId) = []) {volumeId : String}
    (hne : volumeId ≠ r.volumeId) {k : KernelMount} (hk : k ∈ s.mountsOn (target volumeId))
    (hmade : madeFor turns k.id = some volumeId) : k ∈ s'.mountsOn (target volumeId) := by
  -- what was on this target was for `r`
  have htarget : target r.volumeId ≠ target volumeId := by
    intro htarget
    rw [← htarget] at hk
    have howner := (h.mountsOn_eq_nil_iff done).mp hnil k hk
    rw [hmade] at howner
    exact hne (Option.some.inj howner)
  rcases h.mountsOn_unpublish done with ⟨_, hkernel⟩ | ⟨_, _, _, hkernel, _⟩
  · unfold NodeState.mountsOn
    rw [hkernel]
    exact hk
  · rw [← NodeState.mountsOn_detachTop_of_ne htarget] at hk
    unfold NodeState.mountsOn
    rw [hkernel]
    exact hk

/-- An unpublish that empties the target takes its volume out of the books and leaves the
others in. -/
lemma unpublish (h : Recorded target turns s) (done : Unpublished s r.volumeId s')
    (hnil : s'.mountsOn (target r.volumeId) = []) :
    Recorded target (turns ++ [(s, .handled ⟨.unpublish r, τ, .ok ()⟩)]) s' := by
  have hmadeFor : madeFor (turns ++ [(s, .handled ⟨.unpublish r, τ, .ok ()⟩)]) = madeFor turns :=
    madeFor_append
  have hsub := h.unpublish_sublist done
  have hlookup : ∀ volumeId m, s'.mounts.lookup volumeId = some m →
      volumeId ≠ r.volumeId ∧ s.mounts.lookup volumeId = some m := by
    intro volumeId m hm
    rw [done.1] at hm
    exact lookup_erase_cases hm
  refine ⟨h.numbered.of_sublist hsub done.2.1, ?_, ?_, ?_, ?_, ?_, ?_⟩
  · intro volumeId m hm
    exact h.cached _ _ (hlookup _ _ hm).2
  · intro volumeId m hm
    exact h.targetPath _ _ (hlookup _ _ hm).2
  · intro volumeId m hm
    obtain ⟨hne, hm⟩ := hlookup _ _ hm
    rw [published_append]
    exact List.mem_filter.mpr ⟨h.listed _ _ hm, by simpa using hne⟩
  · intro volumeId m hm
    obtain ⟨hne, hm⟩ := hlookup _ _ hm
    rw [hmadeFor]
    obtain ⟨k, hk, hmade⟩ := h.mounted _ _ hm
    exact ⟨k, h.unpublish_other done hnil hne hk hmade, hmade⟩
  · intro k hk volumeId hv
    rw [hmadeFor] at hv
    obtain ⟨hpath, m, hm⟩ := h.tracked k (hsub.subset hk) _ hv
    -- no mount is left on the target of `r`
    have hne : volumeId ≠ r.volumeId := by
      rintro rfl
      have hmem := NodeState.mem_mountsOn.mpr ⟨hk, hpath⟩
      rw [hnil] at hmem
      cases hmem
    refine ⟨hpath, m, ?_⟩
    rw [done.1, AList.lookup_erase_ne hne]
    exact hm
  · intro k hk k' hk' volumeId hv hv'
    rw [hmadeFor] at hv hv'
    exact h.unique k (hsub.subset hk) k' (hsub.subset hk') volumeId hv hv'

end

end Recorded

/-! ## Sessions with restarts -/

/-- What is assumed of a turn: the volumes are as expected, and unpublished from their own
targets. -/
def Regular (target : String → String) (earlier : NodeTurns) (t : NodeTurn) : Prop :=
  ExpectedTurn target earlier t ∧ OwnTarget target t

section
variable {target : String → String} {turns : NodeTurns} {s s' : NodeState} {t : NodeTurn}

lemma truthful_iff (h : Recorded target turns s) (regular : Regular target turns t)
    (takes : restartingNode.Takes s t s') : Truthful s' t ↔ FindsItsOwn turns s t := by
  cases takes with
  | @handle _ r τ q result run ends =>
    cases r with
    | publish r => exact Iff.rfl
    | unpublish r =>
      obtain ⟨unmounts, own⟩ := regular
      have hrun := unpublish_run h.cached unmounts run ends
      have hown : r.targetPath = target r.volumeId := own
      cases hchecked : checkPath r.volumeId r.targetPath with
      | error e =>
        rw [hchecked] at hrun
        obtain ⟨rfl, _⟩ := hrun
        simp [Truthful, FindsItsOwn, hchecked]
      | ok _ =>
        rw [hchecked] at hrun
        obtain ⟨rfl, done⟩ := hrun
        simp only [Truthful, FindsItsOwn, hchecked, forall_const]
        rw [hown]
        exact h.mountsOn_eq_nil_iff done
  | cutOff run moved => exact Iff.rfl
  | disturb moved => exact Iff.rfl

lemma Recorded.turn (h : Recorded target turns s) (regular : Regular target turns t)
    (takes : restartingNode.Takes s t s') (truthful : Truthful s' t) :
    Recorded target (turns ++ [(s, t)]) s' := by
  cases takes with
  | @handle _ r τ q result run ends =>
    cases r with
    | publish r =>
      obtain ⟨⟨hcached, htarget, hnew⟩, _⟩ := regular
      have hrun := publish_run hcached run ends
      rcases result with e | _
      · have hs : s' = s := hrun
        rw [hs]
        exact h.same rfl rfl
      · exact h.publish htarget (hnew rfl) hrun
    | unpublish r =>
      obtain ⟨unmounts, own⟩ := regular
      have hrun := unpublish_run h.cached unmounts run ends
      have hown : r.targetPath = target r.volumeId := own
      cases hchecked : checkPath r.volumeId r.targetPath with
      | error e =>
        rw [hchecked] at hrun
        obtain ⟨rfl, rfl⟩ := hrun
        exact h.same rfl rfl
      | ok _ =>
        rw [hchecked] at hrun
        obtain ⟨rfl, done⟩ := hrun
        refine h.unpublish done ?_
        rw [← hown]
        exact truthful
  | cutOff run moved =>
    have hs : _ = NodeState.restarted _ := moved
    rw [hs]
    exact Recorded.restart (h.numbered.exec run) rfl
  | disturb moved =>
    have hs : s' = s.restarted := moved
    rw [hs]
    exact Recorded.restart h.numbered rfl

/-- With restarts at any point, every unpublish that returns `Ok` leaves nothing mounted on its
target exactly if every unpublish finds there only mounts that were made for its volume since
the last restart. -/
theorem unpublish_truthful_iff (session : restartingNode.Session .init turns s)
    (expected : Service.EachTurn (fun earlier _ t _ => ExpectedTurn target earlier t) turns s)
    (own : Service.EachTurn (fun _ _ t _ => OwnTarget target t) turns s) :
    Service.EachTurn (fun _ _ t s' => Truthful s' t) turns s ↔
      Service.EachTurn (fun earlier s t _ => FindsItsOwn earlier s t) turns s := by
  refine session.agree (H := fun earlier _ t _ => Regular target earlier t) (Recorded target)
    (fun _ _ _ _ regular takes h => truthful_iff h regular takes)
    (fun _ _ _ _ regular takes h truthful => h.turn regular takes truthful) ?_ .init
  intro earlier s₁ t later hturns
  exact ⟨expected earlier s₁ t later hturns, own earlier s₁ t later hturns⟩

end

/-! A volume that is unpublished after a restart -/

lemma publishCached_cached (volumeId target : String) (r : NodePublishVolumeRequest)
    (h : publishCached volumeId target = .publish r) : r.Cached := by
  cases h
  intro keys hkeys
  cases hkeys
  rfl

lemma unmountsSucceed_of_follow {r : NodeRequest} {n : ℕ} {s s' : NodeState}
    {τ : List (Event signature)} {q : Handler Unit}
    (h : r.program.follow NodeState.sampleServe n s = some (τ, q, s')) : UnmountsSucceed τ := by
  have run := Prog.exec_of_follow (R := fun s c a s' => s.sampleServe c = some (a, s'))
    (fun _ _ _ _ h => h) h
  intro e he _
  exact run.events (E := Call.Succeeds) (fun _ _ _ _ h => succeeds_of_serve h) e he

lemma takes_of_follow {r : NodeRequest} {n : ℕ} {s s' : NodeState} {τ : List (Event signature)}
    (h : r.program.follow NodeState.sampleServe n s = some (τ, .pure (), s')) :
    restartingNode.Takes s (.handled ⟨r, τ, .ok ()⟩) s' :=
  .handle (Prog.exec_of_follow NodeState.answers_of_serve h) rfl

/-- The mount that a restart has forgotten stays. -/
theorem mount_left_after_restart :
    ¬ ∀ (target : String → String) (turns : NodeTurns) (s : NodeState),
      restartingNode.Session .init turns s →
      Service.EachTurn (fun earlier _ t _ => ExpectedTurn target earlier t) turns s →
      Service.EachTurn (fun _ _ t s' => Truthful s' t) turns s := by
  intro claim
  obtain ⟨τ₁, s₁, τ₂, s₂, hpublish, hunpublish, hleft⟩ : ∃ τ₁ s₁ τ₂ s₂,
      (publishCached "v" "/t").program.follow NodeState.sampleServe 40 .init =
        some (τ₁, .pure (), s₁) ∧
      (unpublish "v" "/t").program.follow NodeState.sampleServe 40 s₁.restarted =
        some (τ₂, .pure (), s₂) ∧ s₂.mountsOn "/t" ≠ [] :=
    ⟨_, _, _, _, rfl, rfl, by decide⟩
  have session : restartingNode.Session .init _ s₂ :=
    ((Service.Session.start.turn (takes_of_follow hpublish)).turn (.disturb rfl)).turn
      (takes_of_follow hunpublish)
  have truthful := claim (fun _ => "/t") _ _ session ?_
  · exact hleft (Service.eachTurn_append.mp truthful).2
  · refine Service.eachTurn_append.mpr ⟨Service.eachTurn_append.mpr ⟨Service.eachTurn_append.mpr
      ⟨Service.eachTurn_nil, ?_⟩, trivial⟩, unmountsSucceed_of_follow hunpublish⟩
    exact ⟨publishCached_cached _ _ _ rfl, rfl, fun _ h => (by cases h)⟩

/-- A volume that is published and unpublished before a restart, and once more after it. -/
theorem truthful_with_restart : ∃ turns s, restartingNode.Session .init turns s ∧
    turns.length = 5 ∧ s.mountsOn "/t" = [] ∧
    Service.EachTurn (fun _ _ t s' => Truthful s' t) turns s := by
  obtain ⟨τ₁, s₁, τ₂, s₂, τ₃, s₃, τ₄, s₄, hpublish, hmounts, hunpublish, hnext, hagain, hmounts',
      hlast, hnone⟩ : ∃ τ₁ s₁ τ₂ s₂ τ₃ s₃ τ₄ s₄,
      (publishCached "v" "/t").program.follow NodeState.sampleServe 40 .init =
        some (τ₁, .pure (), s₁) ∧ (s₁.mountsOn "/t").map KernelMount.id = [0] ∧
      (unpublish "v" "/t").program.follow NodeState.sampleServe 40 s₁ =
        some (τ₂, .pure (), s₂) ∧ s₂.nextId = 1 ∧
      (publishCached "v" "/t").program.follow NodeState.sampleServe 40 s₂.restarted =
        some (τ₃, .pure (), s₃) ∧ (s₃.mountsOn "/t").map KernelMount.id = [1] ∧
      (unpublish "v" "/t").program.follow NodeState.sampleServe 40 s₃ =
        some (τ₄, .pure (), s₄) ∧ s₄.mountsOn "/t" = [] :=
    ⟨_, _, _, _, _, _, _, _, rfl, rfl, rfl, rfl, rfl, rfl, rfl, rfl⟩
  have session : restartingNode.Session .init _ s₄ :=
    ((((Service.Session.start.turn (takes_of_follow hpublish)).turn
      (takes_of_follow hunpublish)).turn (.disturb rfl)).turn (takes_of_follow hagain)).turn
        (takes_of_follow hlast)
  refine ⟨_, _, session, rfl, hnone, ?_⟩
  refine (@unpublish_truthful_iff (fun _ => "/t") _ _ session ?_ ?_).mpr ?_
  all_goals refine Service.eachTurn_append.mpr ⟨Service.eachTurn_append.mpr
    ⟨Service.eachTurn_append.mpr ⟨Service.eachTurn_append.mpr ⟨Service.eachTurn_append.mpr
      ⟨Service.eachTurn_nil, ?_⟩, ?_⟩, ?_⟩, ?_⟩, ?_⟩
  · exact ⟨publishCached_cached _ _ _ rfl, rfl, fun _ h => (by cases h)⟩
  · exact unmountsSucceed_of_follow hunpublish
  · trivial
  · exact ⟨publishCached_cached _ _ _ rfl, rfl, fun _ h => (by cases h)⟩
  · exact unmountsSucceed_of_follow hlast
  · trivial
  · rfl
  · trivial
  · trivial
  · rfl
  · trivial
  · intro _ k hk
    have hid : k.id ∈ (s₁.mountsOn "/t").map KernelMount.id := List.mem_map_of_mem hk
    rw [hmounts] at hid
    rw [List.mem_singleton.mp hid]
    rfl
  · trivial
  · trivial
  · intro _ k hk
    have hid : k.id ∈ (s₃.mountsOn "/t").map KernelMount.id := List.mem_map_of_mem hk
    rw [hmounts'] at hid
    rw [List.mem_singleton.mp hid]
    -- the mount since the restart has the number that was next then
    show Function.update (fun _ => none) s₂.nextId (some "v") 1 = some "v"
    rw [hnext]
    rfl

end Kubedal
