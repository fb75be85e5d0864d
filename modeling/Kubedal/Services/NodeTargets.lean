import Kubedal.Services.NodeMounts

/-!
# Several targets of one volume

The map of tracked mounts has one place for each volume id, so two targets of one volume
share it. `targets_apart` shows that this is the only way in which they meet: as long as a
request finds nothing but its own target in that place, the other targets keep their mounts
and their records.
-/

namespace Kubedal

open Interaction Kube Resource

/-- When a request uses the place of its volume in the map, its own target is there, or
nothing. -/
def NodeState.usesOwnTarget (s : NodeState) (r : NodeRequest) : Call → Bool
  | .mounts (.insert volumeId _) =>
    (s.mounts.lookup volumeId).all fun mount => mount.targetPath = r.targetPath
  | .mounts (.remove volumeId) =>
    (s.mounts.lookup volumeId).all fun mount => mount.targetPath = r.targetPath
  | _ => true

lemma NodeState.usesOwnTarget_insert {s : NodeState} {r : NodeRequest} {volumeId : String}
    {mount : Mount} : s.usesOwnTarget r (.mounts (.insert volumeId mount)) ↔
      ∀ m, s.mounts.lookup volumeId = some m → m.targetPath = r.targetPath := by
  simp [usesOwnTarget, Option.all_eq_true]

lemma NodeState.usesOwnTarget_remove {s : NodeState} {r : NodeRequest} {volumeId : String} :
    s.usesOwnTarget r (.mounts (.remove volumeId)) ↔
      ∀ m, s.mounts.lookup volumeId = some m → m.targetPath = r.targetPath := by
  simp [usesOwnTarget, Option.all_eq_true]

def UsesOwnTarget (P : NodePool) : NodeLabel → Prop
  | .answered r _ e => P.state.usesOwnTarget r e.call
  | _ => True

/-- A step of a request leaves the mounts on other paths where they are, and a publish also
leaves their records in the map. -/
def Apart (x : NodeTransition) : Prop :=
  ∀ r past e, x.label = .answered r past e → ∀ target, target ≠ r.targetPath →
    x.target.state.mountsOn target = x.source.state.mountsOn target ∧
      ((∃ r', r = .publish r') → ∀ volumeId mount,
        x.source.state.mounts.lookup volumeId = some mount → mount.targetPath = target →
        x.target.state.mounts.lookup volumeId = some mount)

/-- Handles are sound, and a request has only taken out a mount on its own target. -/
structure OwnTargets (s : NodeState) (xs : Stages) : Prop where
  sound : s.Sound xs
  removed : ∀ r mount, (r, .removed mount) ∈ xs → mount.targetPath = r.targetPath

namespace OwnTargets

variable {s s' : NodeState} {c : Call} {a : c.Reply} {r : NodeRequest} {g g' : MountStage}
  {xs before after : Stages}

/-- What a request takes out of the map. -/
lemma targetPath_of_removed (hstep : MountStep s c a r g g' s') (own : s.usesOwnTarget r c)
    {mount : Mount} (hg : g' = .removed mount) : mount.targetPath = r.targetPath := by
  cases hstep with
  | @remove r' call free =>
    subst call
    have hlookup : s.mounts.lookup r'.volumeId = some mount := by
      cases h : s.mounts.lookup r'.volumeId with
      | none =>
        rw [h] at hg
        cases hg
      | some m =>
        rw [h] at hg
        cases hg
        rfl
    exact NodeState.usesOwnTarget_remove.mp own mount hlookup
  | _ => cases hg

lemma step (h : OwnTargets s (before ++ (r, g) :: after)) (hstep : MountStep s c a r g g' s')
    (own : s.usesOwnTarget r c) : OwnTargets s' (before ++ (r, g') :: after) := by
  refine ⟨h.sound.step hstep, fun r' mount hx => ?_⟩
  rcases eq_or_mem_others hx with heq | hx
  · cases heq
    exact targetPath_of_removed hstep own rfl
  · exact h.removed r' mount (mem_of_others hx _)

lemma invariant (sent : NodeRequest → Prop) :
    MountInvariant sent UsesOwnTarget fun s xs _ => OwnTargets s xs where
  init := ⟨NodeState.Sound.init, fun _ _ h => (by cases h)⟩
  arrive := by
    intro s xs _ r _ h
    refine ⟨h.sound.arrive r, fun r' mount hx => ?_⟩
    rcases List.mem_append.mp hx with hx | hx
    · exact h.removed r' mount hx
    · cases List.mem_singleton.mp hx
  step := fun hG hstep _ h => h.step hstep hG
  finish := fun _ h => ⟨h.sound.finish, fun r' mount hx =>
    h.removed r' mount (mem_of_others hx _)⟩

/-- Dropping the mount that a request replaces leaves other targets alone. -/
lemma mountsOn_dropped {value : Option Mount} {target path : String}
    (dropped : s.Dropped value s') (hpath : path ≠ target)
    (hvalue : ∀ mount, value = some mount → mount.Sound s ∧ mount.targetPath = path) :
    s'.mountsOn target = s.mountsOn target := by
  -- a mount that is dropped with its handle is the one of its own path
  rcases dropped with rfl | ⟨handle, hhandle, rfl⟩
  · rfl
  · obtain ⟨mount, rfl, hmount⟩ := Option.bind_eq_some_iff.mp hhandle
    obtain ⟨hsound, htarget⟩ := hvalue mount rfl
    have howns := hsound.owns
    rw [hmount, htarget] at howns
    exact NodeState.mountsOn_detach_of_ne howns hpath

/-- A step leaves the mounts on other targets alone. -/
lemma mountsOn_step (h : OwnTargets s (before ++ (r, g) :: after))
    (hstep : MountStep s c a r g g' s') (own : s.usesOwnTarget r c) {target : String}
    (ht : target ≠ r.targetPath) : s'.mountsOn target = s.mountsOn target := by
  have hmem : (r, g) ∈ before ++ (r, g) :: after :=
    List.mem_append_right _ List.mem_cons_self
  have hself : s.TaskSound (r, g) := h.sound.tasks _ hmem
  cases hstep with
  | attach => exact NodeState.mountsOn_attach_of_ne (Ne.symm ht)
  | @insert r' handle m s₁ call _ _ dropped =>
    subst call
    show s₁.mountsOn target = s.mountsOn target
    exact mountsOn_dropped dropped (Ne.symm ht) fun mount hlookup =>
      ⟨h.sound.tracked _ mount hlookup, NodeState.usesOwnTarget_insert.mp own mount hlookup⟩
  | detachTop =>
    have htarget := h.removed _ _ hmem
    rw [htarget]
    exact NodeState.mountsOn_detachTop_of_ne (Ne.symm ht)
  | detach hhandle =>
    have howns := hself.owns
    rw [hhandle, h.removed _ _ hmem] at howns
    exact NodeState.mountsOn_detach_of_ne howns (Ne.symm ht)
  | fail _ dropped =>
    apply mountsOn_dropped dropped (Ne.symm ht)
    intro mount hmount
    cases hmount
    exact ⟨hself, h.removed _ _ hmem⟩
  | _ => rfl

/-- A step of a publish leaves the records of other targets alone. -/
lemma lookup_step {r : NodePublishVolumeRequest} (hstep : MountStep s c a (.publish r) g g' s')
    (own : s.usesOwnTarget (.publish r) c) {volumeId : String} {mount : Mount}
    (hlookup : s.mounts.lookup volumeId = some mount) (ht : mount.targetPath ≠ r.targetPath) :
    s'.mounts.lookup volumeId = some mount := by
  cases hstep with
  | quiet => exact hlookup
  | attach => exact hlookup
  | insert call _ _ _ =>
    subst call
    -- the record that the insert replaces, if there is one, is for the target of the request
    have hv : volumeId ≠ r.volumeId := by
      rintro rfl
      exact ht (NodeState.usesOwnTarget_insert.mp own mount hlookup)
    exact (AList.lookup_insert_ne hv).trans hlookup

end OwnTargets

/-! ## Unpublishing a tracked target -/

/-- One mount less on the path of `mount`, and no record of the volume. -/
def Unmounted (s : NodeState) (volumeId : String) (mount : Mount) (s' : NodeState) : Prop :=
  (s.mountsOn mount.targetPath).length = (s'.mountsOn mount.targetPath).length + 1 ∧
    s'.mounts.lookup volumeId = none

/-- The mount call that unmounts `mount`. -/
lemma unmount_exec {s s' : NodeState} {mount : Mount} {τ : List (Event signature)}
    (sound : mount.Sound s)
    (h : Prog.Exec NodeState.Answers mount.unmount s τ (.pure ()) s') :
    (s.mountsOn mount.targetPath).length = (s'.mountsOn mount.targetPath).length + 1 ∧
      s'.mounts = s.mounts := by
  unfold Mount.unmount at h
  -- an unmount that failed would have ended the request with its error
  cases hmode : mount.mountMode with
  | cached =>
    rw [hmode] at h
    obtain ⟨reply, s₁, τ', _, answered, rest⟩ := Prog.exec_call_pure h
    rcases reply with _ | ⟨e | _⟩
    · obtain ⟨_, hq, _⟩ := Prog.exec_throw_iff.mp rest
      cases hq
    · obtain ⟨_, hq, _⟩ := Prog.exec_throw_iff.mp rest
      cases hq
    · obtain ⟨_, _, rfl⟩ := Prog.exec_pure_iff.mp rest
      obtain ⟨there, rfl⟩ := answered
      have hlength := NodeState.length_mountsOn_detachTop there mount.targetPath
      rw [if_pos rfl] at hlength
      exact ⟨hlength, rfl⟩
  | fuse =>
    rw [hmode] at h
    unfold Mount.unmountFuse at h
    obtain ⟨handle, hhandle⟩ := Option.isSome_iff_exists.mp (sound.handle_of_fuse.mp hmode)
    rw [hhandle] at h
    obtain ⟨reply, s₁, τ', _, answered, rest⟩ := Prog.exec_call_pure h
    rcases reply with e | _
    · obtain ⟨_, hq, _⟩ := Prog.exec_throw_iff.mp rest
      cases hq
    · obtain ⟨_, _, rfl⟩ := Prog.exec_pure_iff.mp rest
      obtain ⟨there, rfl⟩ := answered
      have howns := sound.owns
      rw [hhandle] at howns
      have hlength := NodeState.length_mountsOn_detach howns there mount.targetPath
      rw [if_pos rfl] at hlength
      exact ⟨hlength, rfl⟩

/-- An unpublish that returns `Ok` unmounts the mount that is tracked for its volume. -/
lemma unpublish_exec {s s' : NodeState} {r : NodeUnpublishVolumeRequest} {mount : Mount}
    {τ : List (Event signature)} (hlookup : s.mounts.lookup r.volumeId = some mount)
    (sound : mount.Sound s)
    (h : Prog.Exec NodeState.Answers (nodeUnpublishVolume r) s τ (.pure ()) s') :
    Unmounted s r.volumeId mount s' := by
  unfold nodeUnpublishVolume at h
  obtain ⟨_, _, _, s₀, _, hcheck, hrest⟩ := Prog.exec_bind_pure h
  -- the checks make no call
  have hs₀ : s₀ = s := by
    cases hresult : checkPath r.volumeId r.targetPath with
    | ok u =>
      rw [hresult] at hcheck
      exact (Prog.exec_pure_iff.mp hcheck).2.2
    | error e =>
      rw [hresult] at hcheck
      cases (Prog.exec_throw_iff.mp hcheck).2.1
  subst hs₀
  obtain ⟨removed, _, _, s₁, _, hremove, hrest⟩ := Prog.exec_bind_pure hrest
  obtain ⟨reply, _, _, _, ⟨_, hreply, rfl⟩, hremove⟩ := Prog.exec_call_pure hremove
  obtain ⟨_, hremoved, rfl⟩ := Prog.exec_pure_iff.mp hremove
  cases hremoved
  rw [hreply, hlookup] at hrest
  obtain ⟨result, _, _, s₂, _, hunmount, hrest⟩ := Prog.exec_bind_pure hrest
  obtain ⟨_, _, _, s₃, _, hunlock, hrest⟩ := Prog.exec_bind_pure hrest
  obtain ⟨_, _, _, _, hs₃, hunlock⟩ := Prog.exec_call_pure hunlock
  obtain ⟨_, _, rfl⟩ := Prog.exec_pure_iff.mp hunlock
  -- the result of the unmount is the result of the request
  cases result with
  | error e => cases (Prog.exec_throw_iff.mp hrest).2.1
  | ok u =>
    obtain ⟨_, _, rfl⟩ := Prog.exec_pure_iff.mp hrest
    obtain ⟨q, hq, hunmount⟩ := Prog.exec_attempt hunmount
    cases q with
    | pure u =>
      have sound₁ : mount.Sound
          { s₀ with mounts := s₀.mounts.erase r.volumeId, locked := true } :=
        sound.later (NodeState.later_of_kernel rfl rfl)
      obtain ⟨hlength, hmounts⟩ := unmount_exec sound₁ hunmount
      rw [hs₃]
      refine ⟨hlength, ?_⟩
      show s₂.mounts.lookup r.volumeId = none
      rw [hmounts]
      exact AList.lookup_erase _ _
    | throw e => cases hq
    | call c k => cases hq

/-- No request unmounts another target than its own, no publish loses the record of another
target, and a successful unpublish of a tracked target unmounts it. -/
def TargetsApart (steps : List NodeTransition) (P : NodePool) : Prop :=
  (∀ x ∈ steps, Apart x) ∧
    ∀ volumeId mount, P.state.mounts.lookup volumeId = some mount → ∀ τ s',
      Prog.Exec NodeState.Answers (nodeUnpublishVolume ⟨volumeId, mount.targetPath⟩) P.state τ
        (.pure ()) s' → Unmounted P.state volumeId mount s'

/-- While requests find only their own target in the place of their volume, the targets of a
volume do not interfere. -/
theorem targets_apart {sent : NodeRequest → Prop} {steps : List NodeTransition} {P : NodePool}
    (run : (nodeService sent).Run .init steps P)
    (own : ∀ x ∈ steps, UsesOwnTarget x.source x.label) : TargetsApart steps P := by
  refine ⟨fun x hx r past e hlabel target ht => ?_, fun volumeId mount hlookup τ s' hexec => ?_⟩
  · obtain ⟨earlier, hearlier, hrun, hstep⟩ := run.of_mem hx
    obtain ⟨watched, hown⟩ := (OwnTargets.invariant sent).run hrun
      fun y hy => own y (hearlier.subset (List.mem_append_left _ hy))
    have hx := own x hx
    rw [hlabel] at hstep hx
    obtain ⟨before, after, g, hstages, hmount⟩ := mountStep_of_step watched hstep
    rw [hstages] at hown
    refine ⟨hown.mountsOn_step hmount hx ht, ?_⟩
    rintro ⟨r', rfl⟩ volumeId mount hlookup htarget
    apply OwnTargets.lookup_step hmount hx hlookup
    rw [htarget]
    exact ht
  · obtain ⟨_, hown⟩ := (OwnTargets.invariant sent).run run own
    exact unpublish_exec hlookup (hown.sound.tracked _ _ hlookup) hexec

/-! One volume published on two targets -/

/-- The second target takes the place of the first one, and unpublishing the first target
unmounts the second. -/
theorem targets_interfere :
    ¬ ∀ (sent : NodeRequest → Prop) (steps : List NodeTransition) (P : NodePool),
      (nodeService sent).Run .init steps P → TargetsApart steps P := by
  intro claim
  obtain ⟨done, s, τ, s', hserial, hmounted, hfollow, hunmounted⟩ : ∃ done s τ s',
      (nodeService fun _ => True).serial (fun _ => NodeState.sampleServe) 40
        [publishCached "v" "/a", publishCached "v" "/b"] .init = some (done, s) ∧
      (s.mountsOn "/b").length = 1 ∧
      (unpublish "v" "/a").program.follow NodeState.sampleServe 40 s = some (τ, .pure (), s') ∧
      (s'.mountsOn "/b").length = 0 :=
    ⟨_, _, _, _, rfl, rfl, rfl, rfl⟩
  obtain ⟨steps, hrun, _, _⟩ := Service.Run.serial (fun _ => NodeState.answers_of_serve)
    (fun _ _ _ => trivial) .start hserial
  obtain ⟨later, hrun', hlater, _⟩ := Service.Run.handle (r := unpublish "v" "/a")
    NodeState.answers_of_serve hrun trivial
    (Prog.exec_of_follow (fun _ _ _ _ h => h) hfollow) rfl
  -- if the steps of the unpublish were apart from `/b`, its mount would still be there
  have hsame : s'.mountsOn "/b" = s.mountsOn "/b" := by
    refine Service.Run.unchanged (F := fun s => s.mountsOn "/b") hrun hrun' fun x hx => ?_
    rcases hlater x hx with hlabel | ⟨past, e, hlabel, _⟩
    · obtain ⟨_, _, _, hstep⟩ := hrun'.of_mem (List.mem_append_right _ hx)
      rw [hlabel] at hstep
      exact congrArg (fun s => s.mountsOn "/b") (Service.step_arrives hstep)
    · exact ((claim _ _ _ hrun').1 x (List.mem_append_right _ hx) _ past e hlabel "/b"
        (by decide)).1
  rw [hsame, hmounted] at hunmounted
  cases hunmounted

/-- One target after the other. -/
theorem targets_apart_in_turn : ∃ (steps : List NodeTransition) (P : NodePool),
    (nodeService fun _ => True).Run .init steps P ∧ P.finished.length = 3 ∧
      (P.state.mountsOn "/b").length = 1 ∧ TargetsApart steps P := by
  obtain ⟨done, s, hserial, hlength, hmounted⟩ : ∃ done s,
      (nodeService fun _ => True).serial
        (fun r => serveIf (fun s => s.usesOwnTarget r) NodeState.sampleServe) 40
        [publishCached "v" "/a", unpublish "v" "/a", publishCached "v" "/b"] .init =
          some (done, s) ∧ done.length = 3 ∧ (s.mountsOn "/b").length = 1 :=
    ⟨_, _, rfl, rfl, rfl⟩
  obtain ⟨steps, hrun, hserved, _⟩ := Service.Run.serial
    (fun _ s c a s' h => NodeState.answers_of_serve s c a s' (of_serveIf h).2)
    (fun _ _ _ => trivial) .start hserial
  refine ⟨steps, _, hrun, hlength, hmounted, targets_apart hrun fun x hx => ?_⟩
  rcases hserved x hx with ⟨r, hlabel⟩ | ⟨r, past, c, a, hlabel, hserve⟩
  · rw [hlabel]
    trivial
  · rw [hlabel]
    exact (of_serveIf hserve).1

end Kubedal
