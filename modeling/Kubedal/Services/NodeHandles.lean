import Kubedal.Services.NodeAccess
import Kubedal.Utils.Ledger

/-!
# FUSE handles

A FUSE mount is unmounted through a handle that cannot be copied: `node_publish_volume` gets it,
the map of tracked mounts keeps it, and `node_unpublish_volume` takes it out and uses it up.

* `mountedHandles`, `unmountedHandles` and `replacedHandles` are the handles of a run, each with
  the volume of the request;
* `fuse_handles_linear`: every handle that was got is in one place or was used up once.
-/

namespace Kubedal

open Interaction Kube Resource

/-! ## What happens to handles -/

/-- A FUSE handle, with the volume it was got for. -/
abbrev VolumeHandle := String × MountHandle

/-- The handle that a mount over FUSE returns. -/
def mountsHandle : NodeLabel → Option VolumeHandle
  | .answered r _ ⟨.host (.fuseMount _ _ _), Except.ok handle⟩ => some (r.volumeId, handle)
  | _ => none

/-- The handle that is used up by unmounting, whether this succeeds or not. -/
def unmountsHandle : NodeLabel → Option VolumeHandle
  | .answered r _ ⟨.host (.unmountHandle handle), _⟩ => some (r.volumeId, handle)
  | _ => none

/-- The handle of the mount tracked for the volume. -/
def NodeState.tracksHandle (s : NodeState) (volumeId : String) : Option VolumeHandle :=
  ((s.mounts.lookup volumeId).bind Mount.fuseMount).map fun handle => (volumeId, handle)

/-- The handle of a mount that is dropped because another one is tracked in its place. -/
def replacesHandle (s : NodeState) : NodeLabel → Option VolumeHandle
  | .answered _ _ ⟨.mounts (.insert volumeId _), _⟩ => s.tracksHandle volumeId
  | _ => none

def MountStage.handle : MountStage → Option MountHandle
  | .mounted handle => handle
  | .removed mount => mount.fuseMount
  | _ => none

/-- The handle in the hands of a request. -/
def holdsHandle (r : NodeRequest) (g : MountStage) : Option VolumeHandle :=
  g.handle.map fun handle => (r.volumeId, handle)

/-- How often the handle is there. -/
def times (handle : VolumeHandle) (there : Option VolumeHandle) : ℕ :=
  if there = some handle then 1 else 0

section
variable {handle : VolumeHandle} {s s' : NodeState} {c : Call} {a : c.Reply} {r : NodeRequest}
  {g : MountStage} {past : List (Event signature)}

@[simp] lemma times_none : times handle none = 0 := rfl

/-- A handle of one volume is not one of another. -/
lemma times_of_ne {volumeId : String} (hv : handle.1 ≠ volumeId) (held : Option MountHandle) :
    times handle (held.map fun h => (volumeId, h)) = 0 := by
  refine if_neg fun heq => hv ?_
  obtain ⟨h, _, rfl⟩ := Option.map_eq_some_iff.mp heq
  rfl

lemma tracksHandle_insert_self {s₁ : NodeState} (volumeId : String) (mount : Mount) :
    NodeState.tracksHandle { s₁ with mounts := s.mounts.insert volumeId mount } volumeId =
      mount.fuseMount.map fun h => (volumeId, h) := by
  unfold NodeState.tracksHandle
  rw [AList.lookup_insert]
  rfl

lemma tracksHandle_insert_of_ne {s₁ : NodeState} {volumeId other : String} (hv : other ≠ volumeId)
    (mount : Mount) :
    NodeState.tracksHandle { s₁ with mounts := s.mounts.insert volumeId mount } other =
      s.tracksHandle other := by
  unfold NodeState.tracksHandle
  rw [AList.lookup_insert_ne hv]

lemma tracksHandle_erase_self {locked : Bool} (volumeId : String) :
    NodeState.tracksHandle { s with mounts := s.mounts.erase volumeId, locked } volumeId =
      none := by
  unfold NodeState.tracksHandle
  rw [AList.lookup_erase]
  rfl

lemma tracksHandle_erase_of_ne {locked : Bool} {volumeId other : String} (hv : other ≠ volumeId) :
    NodeState.tracksHandle { s with mounts := s.mounts.erase volumeId, locked } other =
      s.tracksHandle other := by
  unfold NodeState.tracksHandle
  rw [AList.lookup_erase_ne hv]

/-- What a step does to the places where a handle can be. -/
def Balanced (handle : VolumeHandle) (s : NodeState) (r : NodeRequest) (g : MountStage) (c : Call)
    (a : c.Reply) (s' : NodeState) : Prop :=
  ∀ past, times handle (s.tracksHandle handle.1) + times handle (holdsHandle r g) +
      times handle (mountsHandle (.answered r past ⟨c, a⟩)) =
    times handle (s'.tracksHandle handle.1) + times handle (holdsHandle r (g.next c a)) +
      (times handle (unmountsHandle (.answered r past ⟨c, a⟩)) +
        times handle (replacesHandle s (.answered r past ⟨c, a⟩)))

lemma balanced_quiet (quiet : c.Quiet) (answered : s.Answers c a s') :
    Balanced handle s r g c a s' := by
  intro past
  rw [answers_quiet quiet answered, MountStage.next_quiet _ _ _ quiet]
  rcases c with c | c | c | c | c | _ | _
  case host => cases c <;> first | rfl | exact quiet.elim
  case mounts => exact quiet.elim
  all_goals rfl

/-- The handle of a mount goes to the request, and from the request into the map. -/
lemma balanced_publish {r : NodePublishVolumeRequest} (allowed : (NodeRequest.publish r).Allows g c)
    (answered : s.Answers c a s') : Balanced handle s (.publish r) g c a s' := by
  rcases g with _ | held | _ | mount | unmounted | unmounted
  case waiting =>
    rcases allowed with quiet | mounts
    · exact balanced_quiet quiet answered
    · intro past
      rcases c with c | c | c | c | c | _ | _
      case host =>
        rcases c with _ | _ | _ | _ | _ | _ | _ | _
        case bindMount =>
          rcases a with _ | ⟨e | _⟩
          all_goals
            cases answered
            rfl
        case fuseMount =>
          rcases a with e | h
          · cases answered
            rfl
          · obtain ⟨_, rfl⟩ := answered
            show _ + 0 + times handle (some (r.volumeId, h)) =
              _ + times handle (some (r.volumeId, h)) + 0
            rfl
        all_goals exact mounts.elim
      all_goals exact mounts.elim
  case mounted =>
    rcases c with c | c | c | c | c | _ | _
    case mounts =>
      rcases c with ⟨volumeId, mount⟩ | _ | _
      case insert =>
        obtain ⟨rfl, own⟩ := allowed
        obtain ⟨_, s₁, _, rfl⟩ := answered
        intro past
        show _ + times handle (held.map fun h => (r.volumeId, h)) + 0 =
          _ + 0 + (0 + times handle (s.tracksHandle r.volumeId))
        by_cases hv : handle.1 = r.volumeId
        · rw [hv, tracksHandle_insert_self, own.fuseMount]
          omega
        · rw [tracksHandle_insert_of_ne hv, times_of_ne hv]
          have none : times handle (s.tracksHandle r.volumeId) = 0 := times_of_ne hv _
          omega
      all_goals exact allowed.elim
    all_goals exact allowed.elim
  all_goals exact allowed.elim

/-- The handle of a tracked mount goes to the request, which uses it up. -/
lemma balanced_unpublish {r : NodeUnpublishVolumeRequest}
    (allowed : (NodeRequest.unpublish r).Allows g c) (sound : s.TaskSound (.unpublish r, g))
    (answered : s.Answers c a s') : Balanced handle s (.unpublish r) g c a s' := by
  rcases g with _ | held | _ | mount | unmounted | unmounted
  case waiting =>
    rcases c with c | c | c | c | c | _ | _
    case mounts =>
      rcases c with _ | volumeId | _
      case remove =>
        cases allowed
        obtain ⟨_, rfl, rfl⟩ := answered
        intro past
        have taken : holdsHandle (.unpublish r) (.taken (s.mounts.lookup r.volumeId)) =
            s.tracksHandle r.volumeId := by
          unfold NodeState.tracksHandle
          cases s.mounts.lookup r.volumeId <;> rfl
        show _ + 0 + 0 = _ + times handle (holdsHandle _ (.taken (s.mounts.lookup r.volumeId))) + 0
        rw [taken]
        by_cases hv : handle.1 = r.volumeId
        · rw [hv, tracksHandle_erase_self]
          simp
        · have none : times handle (s.tracksHandle r.volumeId) = 0 := times_of_ne hv _
          rw [tracksHandle_erase_of_ne hv, none]
      all_goals exact allowed.elim
    all_goals exact allowed.elim
  case removed =>
    rcases c with c | c | c | c | c | _ | _
    case host =>
      rcases c with _ | _ | _ | _ | _ | target | _ | h
      case unmount =>
        -- a mount of the cache has no handle
        obtain ⟨mode, rfl⟩ := allowed
        have bare : mount.fuseMount = none := by
          have := sound.handle_of_fuse
          rw [mode] at this
          simpa using this
        intro past
        have nothing : holdsHandle (.unpublish r) (.removed mount) = none := by
          show mount.fuseMount.map _ = none
          rw [bare]
          rfl
        rw [nothing]
        rcases a with _ | ⟨e | _⟩
        · cases answered
          rfl
        · cases answered
          rfl
        · obtain ⟨_, rfl⟩ := answered
          rfl
      case unmountHandle =>
        obtain ⟨_, held⟩ := allowed
        have there : holdsHandle (.unpublish r) (.removed mount) = some (r.volumeId, h) := by
          show mount.fuseMount.map _ = _
          rw [held]
          rfl
        have same : s'.mounts = s.mounts := by
          rcases a with e | _
          · rcases answered with rfl | rfl <;> rfl
          · obtain ⟨_, rfl⟩ := answered
            rfl
        intro past
        have gone : (MountStage.removed mount).next (.host (.unmountHandle h)) a =
            .unlocking true ∨ (MountStage.removed mount).next (.host (.unmountHandle h)) a =
            .unlocking false := by
          rcases a with e | _
          · exact .inr rfl
          · exact .inl rfl
        have tracked : s'.tracksHandle handle.1 = s.tracksHandle handle.1 := by
          unfold NodeState.tracksHandle
          rw [same]
        rw [there, tracked]
        rcases gone with gone | gone
        all_goals
          rw [gone]
          show _ + times handle (some (r.volumeId, h)) + 0 =
            _ + 0 + (times handle (some (r.volumeId, h)) + 0)
          omega
      all_goals exact allowed.elim
    case mounts =>
      rcases c with _ | _ | _
      case unlock =>
        obtain ⟨_, bare⟩ := allowed
        cases answered
        intro past
        have nothing : holdsHandle (.unpublish r) (.removed mount) = none := by
          show mount.fuseMount.map _ = none
          rw [bare]
          rfl
        rw [nothing]
        rfl
      all_goals exact allowed.elim
    all_goals exact allowed.elim
  case unlocking =>
    rcases c with c | c | c | c | c | _ | _
    case mounts =>
      rcases c with _ | _ | _
      case unlock =>
        cases answered
        intro past
        rfl
      all_goals exact allowed.elim
    all_goals exact allowed.elim
  all_goals exact allowed.elim

end

/-! ## Over a run -/

def mountedHandles (steps : List NodeTransition) : List VolumeHandle :=
  steps.filterMap fun x => mountsHandle x.label

def unmountedHandles (steps : List NodeTransition) : List VolumeHandle :=
  steps.filterMap fun x => unmountsHandle x.label

def replacedHandles (steps : List NodeTransition) : List VolumeHandle :=
  steps.filterMap fun x => replacesHandle x.source.state x.label

/-- In how many places the handle is: in the map, or in the hands of a request in progress. -/
def NodePool.places (P : NodePool) (handle : VolumeHandle) : ℕ :=
  times handle (P.state.tracksHandle handle.1) +
    (P.stages.map fun x => times handle (holdsHandle x.1 x.2)).sum

/-- No handle is used twice, and none is lost but by tracking another mount in its place. -/
structure HandlesLinear (steps : List NodeTransition) (P : NodePool) : Prop where
  once : ((mountedHandles steps).map Prod.snd).Nodup
  balance : ∀ handle, (mountedHandles steps).count handle =
    P.places handle + (unmountedHandles steps).count handle + (replacedHandles steps).count handle
  unmounted : unmountedHandles steps ⊆ mountedHandles steps
  unmountedOnce : ((unmountedHandles steps).map Prod.snd).Nodup

section
variable {sent : NodeRequest → Prop} {steps : List NodeTransition} {P : NodePool}

/-- The ledger of one handle. -/
lemma handleLedger (sent : NodeRequest → Prop) (handle : VolumeHandle) :
    Ledger (nodeService sent) .init mountMonitor NodeRequest.start NodeRequest.post
      (fun s => times handle (s.tracksHandle handle.1))
      (fun x => times handle (holdsHandle x.2.1 x.2.2))
      (fun _ l => times handle (mountsHandle l))
      fun s l => times handle (unmountsHandle l) + times handle (replacesHandle s l) where
  meets := fun _ r _ => program_meets r
  rely := fun _ _ _ _ _ _ => trivial
  opens := rfl
  arrives := fun _ _ => ⟨rfl, rfl, rfl⟩
  ends := by
    intro r g result ends
    have nothing : g.2.handle = none := by
      cases r with
      | publish r =>
        cases result with
        | ok _ => rw [show g.2 = .tracked from ends]; rfl
        | error e => rw [show g.2 = .waiting from ends]; rfl
      | unpublish r =>
        cases result with
        | ok _ => rw [show g.2 = .unlocked true from ends]; rfl
        | error e =>
          rcases ends with h | h
          · rw [h]; rfl
          · rw [h]; rfl
    show times handle (g.2.handle.map _) = 0
    rw [nothing]
    rfl
  step := by
    intro steps P before after r past c a s' run hphases allowed answered
    obtain ⟨_, sound⟩ := (NodeState.Sound.invariant sent).run run fun _ _ => trivial
    obtain ⟨g, hg⟩ := MountInvariant.start_stage r past
    rw [hg] at allowed hphases ⊢
    have inHand : P.state.TaskSound (r, g) := by
      refine sound.tasks _ ?_
      have hstages :
          NodePool.stages P = (P.phases mountMonitor NodeRequest.start).map Prod.snd := by
        rw [NodePool.stages, Pool.phases, List.map_map]
        rfl
      rw [hstages, hphases, List.map_append, List.map_cons]
      exact List.mem_append_right _ List.mem_cons_self
    cases r with
    | publish r => exact balanced_publish allowed answered past
    | unpublish r => exact balanced_unpublish allowed inHand answered past
  disturbed := fun _ _ moved => moved.elim

/-- What was got is there or used up. -/
lemma handles_balance (run : (nodeService sent).Run .init steps P) (handle : VolumeHandle) :
    (mountedHandles steps).count handle = P.places handle +
      (unmountedHandles steps).count handle + (replacedHandles steps).count handle := by
  have balance := (handleLedger sent handle).balance run
  rw [total_add] at balance
  have hmounted : (mountedHandles steps).count handle = _ :=
    count_filterMap_eq_total (fun _ l => mountsHandle l) handle steps
  have hunmounted : (unmountedHandles steps).count handle = _ :=
    count_filterMap_eq_total (fun _ l => unmountsHandle l) handle steps
  have hreplaced : (replacedHandles steps).count handle = _ :=
    count_filterMap_eq_total replacesHandle handle steps
  have hplaces : P.places handle = times handle (P.state.tracksHandle handle.1) +
      heldBy (fun x => times handle (holdsHandle x.2.1 x.2.2))
        (P.phases mountMonitor NodeRequest.start) := by
    rw [NodePool.places, NodePool.stages, heldBy, Pool.phases, List.map_map, List.map_map]
    rfl
  rw [hmounted, hunmounted, hreplaced, hplaces, Nat.add_assoc]
  exact balance

lemma of_mountsHandle {r : NodeRequest} {past : List (Event signature)} {e : Event signature}
    {handle : VolumeHandle} (h : mountsHandle (.answered r past e) = some handle) :
    ∃ operator target readOnly,
      e = ⟨.host (.fuseMount operator target readOnly), Except.ok handle.2⟩ := by
  obtain ⟨c, a⟩ := e
  rcases c with c | c | c | c | c | _ | _
  case host =>
    cases c
    case fuseMount =>
      rcases a with e | got
      · cases h
      · cases h
        exact ⟨_, _, _, rfl⟩
    all_goals cases h
  all_goals cases h

/-- The kernel numbers the mounts. -/
lemma handles_once (run : (nodeService sent).Run .init steps P) :
    ((mountedHandles steps).map Prod.snd).Nodup ∧
      ∀ handle ∈ mountedHandles steps, handle.2.id < P.state.nextId := by
  induction run with
  | start => exact ⟨List.nodup_nil, fun _ h => by cases h⟩
  | @step steps P P' l run last ih =>
    obtain ⟨once, below⟩ := ih
    have hsnoc : mountedHandles (steps ++ [⟨P, l, P'⟩]) =
        mountedHandles steps ++ (mountsHandle l).toList := by
      unfold mountedHandles
      rw [List.filterMap_append]
      cases hl : mountsHandle l <;> simp [hl]
    rw [hsnoc]
    have quiet : mountsHandle l = none → P.state.nextId ≤ P'.state.nextId →
        ((mountedHandles steps ++ (mountsHandle l).toList).map Prod.snd).Nodup ∧
        ∀ handle ∈ mountedHandles steps ++ (mountsHandle l).toList,
          handle.2.id < P'.state.nextId := by
      intro hl hle
      rw [hl, Option.toList_none, List.append_nil]
      refine ⟨once, fun handle h => ?_⟩
      have := below handle h
      omega
    obtain ⟨watched, _⟩ := (NodeState.Sound.invariant sent).run run fun _ _ => trivial
    cases hl : l with
    | arrives r =>
      rw [hl] at last
      have same := Service.step_arrives last
      rw [← hl]
      exact quiet (by rw [hl]; rfl) (by rw [same])
    | disturbed =>
      rw [hl] at last
      cases last with
      | disturb moved => exact moved.elim
    | answered r past e =>
      rw [hl] at last
      obtain ⟨_, _, g, _, hstep⟩ := mountStep_of_step watched last
      cases hm : mountsHandle (.answered r past e) with
      | none =>
        rw [← hl] at hm
        have := quiet hm hstep.later.nextId_le
        rw [hm] at this
        exact this
      | some handle =>
        obtain ⟨operator, target, readOnly, rfl⟩ := of_mountsHandle hm
        obtain ⟨_, _, _, _, answered, _⟩ := Service.step_answered last
        obtain ⟨hnew, hstate⟩ : handle.2 = ⟨P.state.nextId⟩ ∧ P'.state = _ := answered
        have hnext : P'.state.nextId = P.state.nextId + 1 := by rw [hstate]; rfl
        have hid : handle.2.id = P.state.nextId := congrArg MountHandle.id hnew
        rw [Option.toList_some]
        refine ⟨?_, fun handle' h => ?_⟩
        · rw [List.map_append]
          refine List.nodup_append.mpr ⟨once, List.nodup_singleton _, ?_⟩
          rintro _ hold _ hthis rfl
          obtain ⟨old, hmem, hsame⟩ := List.mem_map.mp hold
          have hlt := below old hmem
          rw [hsame, List.mem_singleton.mp hthis, hid] at hlt
          omega
        · rcases List.mem_append.mp h with h | h
          · have := below handle' h
            omega
          · rw [List.mem_singleton.mp h]
            omega

/-- Over every run of the node service, whatever is answered: every FUSE handle that a publish has
got is tracked, in the hands of one request, unmounted or replaced, only one of these and only
once; and an unpublish unmounts only what a publish of its own volume has mounted. -/
theorem fuse_handles_linear (run : (nodeService sent).Run .init steps P) :
    HandlesLinear steps P := by
  obtain ⟨once, _⟩ := handles_once run
  have nodup : (mountedHandles steps).Nodup := List.Nodup.of_map _ once
  have unmounted : unmountedHandles steps ⊆ mountedHandles steps := by
    intro handle h
    have there := List.count_pos_iff.mpr h
    have balance := handles_balance run handle
    exact List.count_pos_iff.mp (by omega)
  have unmountedNodup : (unmountedHandles steps).Nodup := by
    refine List.nodup_iff_count_le_one.mpr fun handle => ?_
    have balance := handles_balance run handle
    have atMost := List.nodup_iff_count_le_one.mp nodup handle
    omega
  refine ⟨once, handles_balance run, unmounted, unmountedNodup.map_on fun x hx y hy heq => ?_⟩
  exact List.inj_on_of_nodup_map once (unmounted hx) (unmounted hy) heq

/-- A volume that is published twice and then unpublished: its first handle is replaced. -/
theorem fuse_handles_replaced : ∃ steps P, (nodeService fun _ => True).Run .init steps P ∧
    mountedHandles steps = [("v", ⟨0⟩), ("v", ⟨1⟩)] ∧ unmountedHandles steps = [("v", ⟨1⟩)] ∧
    HandlesLinear steps P := by
  obtain ⟨done, s, hserial, hmounted, hunmounted⟩ : ∃ done s,
      (nodeService fun _ => True).serial (fun _ => NodeState.sampleServe) 40
        [.publish (publishFuse "v" "/t"), .publish (publishFuse "v" "/u"), unpublish "v" "/u"]
        .init = some (done, s) ∧
      (done.flatMap Response.trace).filterMap mountsHandle = [("v", ⟨0⟩), ("v", ⟨1⟩)] ∧
      (done.flatMap Response.trace).filterMap unmountsHandle = [("v", ⟨1⟩)] :=
    ⟨_, _, rfl, rfl, rfl⟩
  obtain ⟨steps, run, _, htrace⟩ := Service.Run.serial (fun _ => NodeState.answers_of_serve)
    (fun _ _ _ => trivial) .start hserial
  have labels : ∀ f : NodeLabel → Option VolumeHandle, (steps.filterMap fun x => f x.label) =
      (done.flatMap Response.trace).filterMap f := by
    intro f
    rw [← htrace, List.filterMap_map]
    rfl
  exact ⟨steps, _, run, (labels _).trans hmounted, (labels _).trans hunmounted,
    fuse_handles_linear run⟩

end

end Kubedal
