import Kubedal.Services.NodeRestart

/-!
# Unpublishing again

An unpublish gives up the record of the mount before it unmounts, so the record is gone when the
unmount fails.

* `UnmountFailed` is a step of a run in which an unpublish ends with an error, since its unmount
  has failed;
* `StillTracked` and `RetriesUnmount` are what another try would need;
* `failed_unpublish_forgets`: after such a step neither of them holds, in any run.
-/

namespace Kubedal

open Interaction Kube Resource

/-! ## What another try needs -/

/-- The step ends an unpublish of the volume, which returns an error after an unmount that has
failed. -/
structure UnmountFailed (r : NodeUnpublishVolumeRequest) (x : NodeTransition) (y : NodeResponse) :
    Prop where
  ends : x.target.finished = x.source.finished ++ [y]
  request : y.request = .unpublish r
  result : ∃ e, y.result = .error e
  failed : ∃ e ∈ y.past, e.call.Unmounts ∧ ¬ e.call.Succeeds e.reply

/-- The volume is tracked as it was when the request `y` got the mutex. -/
def StillTracked (r : NodeUnpublishVolumeRequest) (y : NodeResponse) (s : NodeState) : Prop :=
  ∀ removed, ⟨.mounts (.remove r.volumeId), removed⟩ ∈ y.past →
    s.mounts.lookup r.volumeId = removed

/-- The same unpublish again returns `Ok` only if it has tried to unmount, and nothing is left on
the target path. -/
def RetriesUnmount (r : NodeUnpublishVolumeRequest) (s : NodeState) : Prop :=
  ∀ τ s', Prog.Exec NodeState.Answers (nodeUnpublishVolume r) s τ (.pure ()) s' →
    (∃ e ∈ τ, e.call.Unmounts) ∧ s'.mountsOn r.targetPath = []

/-! ## The calls of an unpublish -/

section
variable {σ : Type} {R : σ → (c : Call) → c.Reply → σ → Prop} {s s' : σ}
  {r : NodeUnpublishVolumeRequest} {τ : List (Event signature)} {q : Handler Unit}
  {result : Except (Fault Status) Unit}

/-- An unpublish is refused at once, or it takes the volume out of the map first and gives the
mutex back last. In between it unmounts what it has taken. -/
lemma unpublish_past (h : Prog.Exec R (nodeUnpublishVolume r) s τ q s')
    (hq : q.outcome = some result) :
    τ = [] ∨ checkPath r.volumeId r.targetPath = .ok () ∧ ∃ removed τ',
      τ = ⟨.mounts (.remove r.volumeId), removed⟩ :: τ' ++ [⟨.mounts .unlock, ()⟩] ∧
        (removed = none → τ' = []) := by
  unfold nodeUnpublishVolume at h
  cases hchecked : checkPath r.volumeId r.targetPath with
  | error e =>
    rw [hchecked] at h
    exact .inl (Prog.exec_throw_iff.mp h).1
  | ok u =>
    rw [hchecked] at h
    have h' : Prog.Exec R (.call (Call.mounts (.remove r.volumeId)) fun removed =>
      (unmountRemoved removed).attempt >>= fun result =>
        mounts .unlock >>= fun _ => Prog.ofExcept result) s τ q s' := h
    obtain ⟨removed, s₁, τ₁, rfl, _, rest⟩ := Prog.exec_call_outcome h' hq
    refine .inr ⟨rfl, removed, ?_⟩
    -- an attempt has no error
    rcases Prog.exec_bind_outcome rest hq with
      ⟨e, attempted, _⟩ | ⟨unmounted, τ₂, τ₃, s₂, rfl, attempted, rest⟩
    · exact absurd attempted Prog.not_exec_attempt_throw
    · have hlast : Prog.Exec R (.call (Call.mounts .unlock) fun _ => Prog.ofExcept unmounted) s₂ τ₃
        q s' := rest
      obtain ⟨_, s₃, τ₄, rfl, _, rest⟩ := Prog.exec_call_outcome hlast hq
      have hτ₄ : τ₄ = [] := by
        cases unmounted with
        | ok u => exact (Prog.exec_pure_iff.mp rest).1
        | error e => exact (Prog.exec_throw_iff.mp rest).1
      refine ⟨τ₂, by rw [hτ₄]; rfl, fun hnone => ?_⟩
      rw [hnone] at attempted
      exact (Prog.exec_pure_iff.mp attempted).1

end

/-! ## After a failed unmount -/

section
variable {sent : NodeRequest → Prop} {steps : List NodeTransition} {P : NodePool}
  {r : NodeUnpublishVolumeRequest} {x : NodeTransition} {y : NodeResponse}

/-- The step gives the mutex back, and until then nobody could track the volume again. -/
lemma untracked_of_unmountFailed (run : (nodeService sent).Run .init steps P) (hx : x ∈ steps)
    (h : UnmountFailed r x y) :
    checkPath r.volumeId r.targetPath = .ok () ∧
      (∃ mount, ⟨.mounts (.remove r.volumeId), some mount⟩ ∈ y.past) ∧
      x.target.state.mounts.lookup r.volumeId = none ∧ x.target.state.locked = false := by
  obtain ⟨earlier, _, hrun, hstep⟩ := run.of_mem hx
  obtain ⟨failing, hfailing, unmounts, failed⟩ := h.failed
  -- the past of the request is a run of its program
  have hmem : y ∈ x.target.finished := by
    rw [h.ends]
    exact List.mem_append_right _ (List.mem_singleton_self y)
  obtain ⟨q, hq, exec⟩ := (hrun.step hstep).faithful.finished y hmem
  rw [h.request] at exec
  rcases unpublish_past exec hq with hnil | ⟨hchecked, removed, τ', hpast, hnone⟩
  · rw [hnil] at hfailing
    cases hfailing
  have hremoved : ∃ mount, removed = some mount := by
    cases removed with
    | some mount => exact ⟨mount, rfl⟩
    | none =>
      rw [hpast, hnone rfl] at hfailing
      simp only [List.cons_append, List.nil_append, List.mem_cons, List.not_mem_nil, or_false]
        at hfailing
      rcases hfailing with rfl | rfl
      all_goals exact unmounts.elim
  obtain ⟨mount, rfl⟩ := hremoved
  refine ⟨hchecked, ⟨mount, ?_⟩, ?_⟩
  · rw [hpast]
    exact List.mem_append_left _ List.mem_cons_self
  rcases Service.step_finishes hstep h.ends with ⟨_, hempty⟩ | ⟨past, e, hlabel, hy⟩
  · rw [hempty] at hfailing
    cases hfailing
  -- its last call is the one that gives the mutex back
  rw [hpast] at hy
  obtain ⟨_, he⟩ := List.append_inj' hy rfl
  cases he
  rw [h.request] at hlabel
  rw [hlabel] at hstep
  obtain ⟨watched, mutex⟩ := (NodeState.Mutex.invariant sent).run hrun fun _ _ => trivial
  obtain ⟨before, after, g, hstages, hmount⟩ := mountStep_of_step watched hstep
  rw [hstages] at mutex
  constructor
  · exact mutex.step_took hmount (by cases g <;> trivial)
  · obtain ⟨_, _, _, _, answered, _⟩ := Service.step_answered hstep
    have hstate : x.target.state = { x.source.state with locked := false } := answered
    rw [hstate]

/-- Another try finds nothing in the map. -/
lemma exec_unpublish_untracked {s : NodeState}
    (hchecked : checkPath r.volumeId r.targetPath = .ok ())
    (hlookup : s.mounts.lookup r.volumeId = none) (free : s.locked = false) :
    ∃ s', Prog.Exec NodeState.Answers (nodeUnpublishVolume r) s
      [⟨.mounts (.remove r.volumeId), none⟩, ⟨.mounts .unlock, ()⟩] (.pure ()) s' := by
  unfold nodeUnpublishVolume
  rw [hchecked]
  exact ⟨_, .step ⟨free, hlookup.symm, rfl⟩ (.step rfl (.refl _ _))⟩

/-- After an unpublish whose unmount has failed the volume is not tracked any more, and the same
request again returns `Ok` without another try. -/
theorem failed_unpublish_forgets (run : (nodeService sent).Run .init steps P) (hx : x ∈ steps)
    (h : UnmountFailed r x y) :
    ¬ StillTracked r y x.target.state ∧ ¬ RetriesUnmount r x.target.state := by
  obtain ⟨hchecked, ⟨mount, hremoved⟩, hlookup, free⟩ := untracked_of_unmountFailed run hx h
  constructor
  · intro tracked
    have hkept := tracked (some mount) hremoved
    rw [hlookup] at hkept
    cases hkept
  · intro retries
    obtain ⟨s', exec⟩ := exec_unpublish_untracked hchecked hlookup free
    obtain ⟨⟨e, he, unmounts⟩, _⟩ := retries _ _ exec
    simp only [List.mem_cons, List.not_mem_nil, or_false] at he
    rcases he with rfl | rfl
    all_goals exact unmounts.elim

end

/-! ## A target that is in use -/

/-- The target of an unpublish is busy; everything else succeeds. -/
def NodeState.busyServe :
    NodeRequest → NodeState → (c : Call) → Option (c.Reply × NodeState)
  | .unpublish _, s, .host (.unmount _) =>
    some (Joined.done (.error "Device or resource busy"), s)
  | _, s, c => s.sampleServe c

lemma NodeState.answers_of_busyServe (r : NodeRequest) (s : NodeState) (c : Call) (a : c.Reply)
    (s' : NodeState) (h : busyServe r s c = some (a, s')) : s.Answers c a s' := by
  unfold busyServe at h
  split at h
  · cases h
    rfl
  · exact NodeState.answers_of_serve _ _ _ _ h

/-- A volume is published, and cannot be unmounted when it is unpublished. -/
lemma busy_run : ∃ (steps : List NodeTransition) (x : NodeTransition) (y : NodeResponse),
    (nodeService fun _ => True).Run .init steps x.target ∧ x ∈ steps ∧
      UnmountFailed ⟨"v", "/t"⟩ x y ∧ (x.target.state.mountsOn "/t").length = 1 := by
  obtain ⟨done, s, τ, k, s₁, e, hserial, hstart, hfollow, hend, hpast, hleft⟩ :
      ∃ done s τ k s₁ e,
      (nodeService fun _ => True).serial NodeState.busyServe 40 [publishCached "v" "/t"] .init =
        some (done, s) ∧
      (unpublish "v" "/t").program.outcome = none ∧
      (unpublish "v" "/t").program.follow (NodeState.busyServe (unpublish "v" "/t")) 2 s =
        some (τ, .call (Call.mounts .unlock) k, s₁) ∧
      (k ()).outcome = some (.error e) ∧
      (∃ e ∈ τ, e.call.Unmounts ∧ ¬ e.call.Succeeds e.reply) ∧
      (s₁.mountsOn "/t").length = 1 :=
    ⟨_, _, _, _, _, _, rfl, rfl, rfl, rfl,
      ⟨_, List.mem_cons_of_mem _ List.mem_cons_self, trivial, id⟩, rfl⟩
  obtain ⟨steps, hpublished, _, _⟩ := Service.Run.serial NodeState.answers_of_busyServe
    (fun _ _ _ => trivial) .start hserial
  have arrived := hpublished.step (.arrive (r := unpublish "v" "/t") trivial)
  rw [Pool.resume_of_none hstart] at arrived
  obtain ⟨later, run, _, _⟩ := arrived.advance (fun _ _ _ _ h => h) [] [] rfl hstart
    (Prog.exec_of_follow (NodeState.answers_of_busyServe _) hfollow)
  rw [Pool.resume_of_none rfl, List.nil_append] at run
  have answered : (nodeService fun _ => True).answers s₁ (.mounts .unlock) ()
    { s₁ with locked := false } := rfl
  have last := run.step (.answer rfl answered)
  rw [Pool.resume_of_some hend] at last
  refine ⟨_, _, ⟨unpublish "v" "/t", τ ++ [⟨.mounts .unlock, ()⟩], .error e⟩, last,
    List.mem_append_right _ List.mem_cons_self, ⟨rfl, rfl, ⟨e, rfl⟩, ?_⟩, hleft⟩
  obtain ⟨failing, hfailing, unmounts⟩ := hpast
  exact ⟨failing, List.mem_append_left _ hfailing, unmounts⟩

/-- The mount is there and the volume is not tracked any more. -/
theorem failed_unpublish_not_retried :
    ¬ ∀ (sent : NodeRequest → Prop) (steps : List NodeTransition) (P : NodePool)
      (r : NodeUnpublishVolumeRequest) (x : NodeTransition) (y : NodeResponse),
      (nodeService sent).Run .init steps P → x ∈ steps → UnmountFailed r x y →
        StillTracked r y x.target.state ∧ RetriesUnmount r x.target.state := by
  intro claim
  obtain ⟨steps, x, y, run, hx, h, _⟩ := busy_run
  obtain ⟨_, ⟨mount, hremoved⟩, hlookup, _⟩ := untracked_of_unmountFailed run hx h
  have hkept := (claim _ _ _ _ _ _ run hx h).1 (some mount) hremoved
  rw [hlookup] at hkept
  cases hkept

theorem failed_unpublish_forgets_busy : ∃ (x : NodeTransition) (y : NodeResponse),
    UnmountFailed ⟨"v", "/t"⟩ x y ∧ (x.target.state.mountsOn "/t").length = 1 ∧
      ¬ StillTracked ⟨"v", "/t"⟩ y x.target.state ∧
      ¬ RetriesUnmount ⟨"v", "/t"⟩ x.target.state := by
  obtain ⟨steps, x, y, run, hx, h, hleft⟩ := busy_run
  exact ⟨x, y, h, hleft, failed_unpublish_forgets run hx h⟩

end Kubedal
