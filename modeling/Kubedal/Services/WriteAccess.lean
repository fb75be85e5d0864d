import Kubedal.Services.NodeAccess

/-!
# Which mounts can be written

The annotation of a volume, the request and the `DataNode` all have a say in whether a mount may
be written.

* `WritesLimited`: a tracked mount is for writing only if all of them allow it, and in all other
  cases what the driver has mounted in the kernel is read-only;
* `write_access_limited_iff`: this holds all along a run exactly when each request that mounts
  either asks for a read-only FUSE mount, or asks for writing and may write.
-/

namespace Kubedal

open Interaction Kube Resource

/-! ## Who has a say -/

/-- The mount access asks for writing. -/
def AsksForWriting : MountAccess → Prop
  | .cacheReadWrite => True
  | .cacheReadOnly => False
  | .fuseReadWrite => True
  | .fuseReadOnly => False

/-- The request asks for writing, by the annotation in its volume context. -/
def NodePublishVolumeRequest.AsksForWriting (request : NodePublishVolumeRequest) : Prop :=
  ∃ keys, dataMountKeys request.volumeContext = .ok keys ∧ Kubedal.AsksForWriting keys.mountMode

/-- The request asks for a FUSE mount that is read-only. -/
def NodePublishVolumeRequest.AsksForReadOnlyFuse (request : NodePublishVolumeRequest) : Prop :=
  ∃ keys, dataMountKeys request.volumeContext = .ok keys ∧ keys.mountMode = .fuseReadOnly

/-- The `DataNode` or the request itself rules writing out. -/
def ReadOnlyFor (request : NodePublishVolumeRequest) (node : DataNode) : Prop :=
  node.spec.readOnly = true ∨ request.readonly = true ∨
    ∃ mode, request.volumeCapability = some mode ∧ mode.ReaderOnly

/-- Everything that has a say allows writing. -/
def MayWrite (request : NodePublishVolumeRequest) (node : DataNode) : Prop :=
  request.AsksForWriting ∧ ¬ ReadOnlyFor request node

/-- The request was given `node` for the names in its volume context. -/
def GivenNode (request : NodePublishVolumeRequest) (past : List (Event signature))
    (node : DataNode) : Prop :=
  ∃ keys, dataMountKeys request.volumeContext = .ok keys ∧
    Saw past (.kube (.getDataNode keys.dataNodeNamespace keys.dataNodeName)) (Except.ok node)

/-! ## What is mounted and tracked -/

/-- In `steps`, `request` has published `mount` as `volumeId`, for `node`. -/
def PublishedIn (steps : List NodeTransition) (volumeId : String) (mount : Mount)
    (request : NodePublishVolumeRequest) (node : DataNode) : Prop :=
  ∃ x ∈ steps, ∃ past, x.label = .answered (.publish request) past
    ⟨.mounts (.insert volumeId mount), ()⟩ ∧ GivenNode request past node

/-- In `steps`, `request` has put the mount `k` into the mount table, for `node`. -/
def MountedIn (steps : List NodeTransition) (k : KernelMount)
    (request : NodePublishVolumeRequest) (node : DataNode) : Prop :=
  ∃ x ∈ steps, ∃ past e, x.label = .answered (.publish request) past e ∧
    x.target.state.kernel = k :: x.source.state.kernel ∧ GivenNode request past node

/-- A tracked mount is for writing only if the request and the `DataNode` that it was published
for allow it, and a mount in the kernel that was made for others is read-only. -/
structure WritesLimited (steps : List NodeTransition) (P : NodePool) : Prop where
  tracked : ∀ volumeId mount, P.state.mounts.lookup volumeId = some mount →
    (∃ request node, PublishedIn steps volumeId mount request node) ∧
      ∀ request node, PublishedIn steps volumeId mount request node →
        mount.accessMode = .readWrite → MayWrite request node
  mounted : ∀ k ∈ P.state.kernel, (∃ request node, MountedIn steps k request node) ∧
    ∀ request node, MountedIn steps k request node → ¬ MayWrite request node → k.readOnly = true

/-- A request that mounts asks for a read-only FUSE mount, or it asks for writing and may. -/
def AsksWithinLimits : NodeLabel → Prop
  | .answered (.publish request) past e => (mountMade e.call e.reply).isSome →
    request.AsksForReadOnlyFuse ∨
      request.AsksForWriting ∧ ∀ node, GivenNode request past node → ¬ ReadOnlyFor request node
  | _ => True

lemma asksForWriting_iff (access : MountAccess) :
    AsksForWriting access ↔ (modes access).2 = .readWrite := by
  cases access <;> simp [AsksForWriting, modes]

/-- The mount that a request records has the access mode of its annotation. -/
lemma accessMode_iff {request : NodePublishVolumeRequest} {past : List (Event signature)}
    {node : DataNode} {mount : Mount} (prepared : Prepared request past node mount) :
    mount.accessMode = .readWrite ↔ request.AsksForWriting := by
  obtain ⟨keys, pod, hkeys, _, _, hmodes⟩ := prepared.resolved
  have hmode : mount.accessMode = (modes keys.mountMode).2 := congrArg Prod.snd hmodes
  rw [hmode, ← asksForWriting_iff]
  constructor
  · intro h
    exact ⟨keys, hkeys, h⟩
  · rintro ⟨keys', hkeys', h⟩
    rw [hkeys] at hkeys'
    cases hkeys'
    exact h

lemma readOnlyFuse_iff {request : NodePublishVolumeRequest} {past : List (Event signature)}
    {node : DataNode} {mount : Mount} (prepared : Prepared request past node mount) :
    mount.mountMode = .fuse ∧ mount.accessMode = .readOnly ↔ request.AsksForReadOnlyFuse := by
  obtain ⟨keys, pod, hkeys, _, _, hmodes⟩ := prepared.resolved
  obtain ⟨hmode, haccess⟩ := Prod.mk.inj hmodes
  rw [hmode, haccess]
  constructor
  · intro h
    refine ⟨keys, hkeys, ?_⟩
    cases hmount : keys.mountMode <;> simp_all [modes]
  · rintro ⟨keys', hkeys', h⟩
    rw [hkeys] at hkeys'
    cases hkeys'
    rw [h]
    exact ⟨rfl, rfl⟩

lemma givenNode_of_prepared {request : NodePublishVolumeRequest} {past : List (Event signature)}
    {node : DataNode} {mount : Mount} (prepared : Prepared request past node mount) :
    GivenNode request past node := by
  obtain ⟨keys, pod, hkeys, hnode, _⟩ := prepared.resolved
  exact ⟨keys, hkeys, hnode⟩

/-! ## A request tracks what it has just mounted -/

/-- The last call has mounted. -/
def JustMounted (past : List (Event signature)) : Prop :=
  ∃ before e, past = before ++ [e] ∧ (mountMade e.call e.reply).isSome

/-- A mount is recorded right after it was made. -/
def trackMonitor : Monitor signature (List (Event signature)) :=
  Monitor.history (fun past c => c.tracks.isSome → JustMounted past) fun _ _ => True

section
variable {past : List (Event signature)}

lemma tracks_of_quiet {c : Call} (h : c.Quiet) : c.tracks.isSome → JustMounted past := by
  intro htracks
  rcases c with c | c | c | c | c | _ | _
  case mounts => exact h.elim
  all_goals cases htracks

/-- Quiet calls record nothing. -/
lemma wp_quiet_track {α : Type} {p : Handler α} {Q : List (Event signature) →
    Except (Fault Status) α → Prop} (hp : p.Uses Call.Quiet) (hQ : ∀ g r, Q g r) :
    p.wp trackMonitor past Q :=
  hp.wp_history (fun _ _ hc => tracks_of_quiet hc) fun _ _ _ => hQ _ _

lemma mountFuse_just (m : Mount) : m.mountFuse.wp trackMonitor past fun g result =>
    ∀ m', result = .ok m' → JustMounted g := by
  refine ⟨fun h => (by cases h), fun reply _ => ?_⟩
  rcases reply with e | handle
  · rintro m' ⟨⟩
  · rintro m' ⟨⟩
    exact ⟨past, _, rfl, rfl⟩

lemma mountCached_just (m : Mount) : m.mountCached.wp trackMonitor past fun g result =>
    result = .ok () → JustMounted g := by
  unfold Mount.mountCached
  refine Prog.wp_bind (wp_quiet_track (quiet_of_files (ensureDirectory_files _ _))
    fun _ result => ?_)
  rcases result with e | _
  · simp
  refine Prog.wp_bind (wp_quiet_track (uses_opendal _ trivial) fun _ listing => ?_)
  rcases listing with e | listing
  · simp
  refine Prog.wp_bind (wp_orReturn (fun entries _ => ?_) (by simp))
  refine Prog.wp_bind (wp_quiet_track (copyEntries_quiet m entries) fun g result => ?_)
  rcases result with e | _
  · simp
  refine ⟨fun h => (by cases h), fun bound _ => ?_⟩
  rcases bound with _ | ⟨e | _⟩
  · rintro ⟨⟩
  · rintro ⟨⟩
  · intro _
    exact ⟨g, _, rfl, rfl⟩

lemma mount_just (m : Mount) : m.mount.wp trackMonitor past fun g result =>
    ∀ m', result = .ok m' → JustMounted g := by
  unfold Mount.mount
  refine Prog.wp_bind (wp_quiet_track (uses_opendal _ trivial) fun _ checked => ?_)
  rcases checked with e | checked
  · simp
  refine Prog.wp_bind (wp_orReturn (fun _ _ => ?_) (by simp))
  refine Prog.wp_bind (wp_quiet_track (quiet_of_files (ensureDirectory_files _ _))
    fun _ result => ?_)
  rcases result with e | _
  · simp
  cases m.mountMode with
  | cached =>
    refine Prog.wp_bind (Prog.wp_mono (mountCached_just m) ?_)
    intro g result just
    rcases result with e | _
    · simp
    · rintro m' ⟨⟩
      exact just rfl
  | fuse => exact mountFuse_just m

/-- A publish request keeps to the rule. -/
lemma nodePublishVolume_just (request : NodePublishVolumeRequest) :
    (nodePublishVolume request).wp trackMonitor [] fun _ _ => True := by
  unfold nodePublishVolume
  refine Prog.wp_bind (wp_orReturn (fun _ _ => ?_) (by simp))
  refine Prog.wp_bind (wp_quiet_track
    (uses_prepareMount request (fun _ => trivial) fun _ => trivial) fun _ result => ?_)
  rcases result with e | m
  · trivial
  refine Prog.wp_bind (Prog.wp_mono (mount_just m) ?_)
  intro g result just
  rcases result with e | m'
  · trivial
  · exact ⟨fun _ => just m' rfl, fun _ _ => trivial⟩

end

/-! ## The steps of the service -/

section
variable {sent : NodeRequest → Prop} {steps : List NodeTransition} {P P' : NodePool}
  {request : NodePublishVolumeRequest} {past : List (Event signature)}

/-- What a request has mounted or recorded was prepared. -/
lemma publishAllows_of_step {e : Event signature} (run : (nodeService sent).Run .init steps P)
    (h : (nodeService sent).Step P (.answered (.publish request) past e) P') :
    PublishAllows request past e.call := by
  obtain ⟨q, hexec⟩ := run.exec_of_step h
  have allowed := Prog.wp_event nodePublishVolume_past hexec fun _ _ _ _ _ _ => trivial
  rw [publishMonitor, Monitor.history_after] at allowed
  exact allowed

lemma prepared_of_insert {volumeId : String} {mount : Mount}
    (run : (nodeService sent).Run .init steps P)
    (h : (nodeService sent).Step P
      (.answered (.publish request) past ⟨.mounts (.insert volumeId mount), ()⟩) P') :
    ∃ node, Prepared request past node mount :=
  PublishAllows.tracks (publishAllows_of_step run h) mount rfl

/-- The step before the one that records a mount has made it. -/
lemma mounted_of_insert {volumeId : String} {mount : Mount}
    (run : (nodeService sent).Run .init steps P)
    (h : (nodeService sent).Step P
      (.answered (.publish request) past ⟨.mounts (.insert volumeId mount), ()⟩) P') :
    ∃ before e, past = before ++ [e] ∧ (mountMade e.call e.reply).isSome ∧
      ∃ x ∈ steps, x.label = .answered (.publish request) before e := by
  obtain ⟨q, hexec⟩ := run.exec_of_step h
  have allowed := Prog.wp_event (nodePublishVolume_just request) hexec fun _ _ _ _ _ _ => trivial
  rw [trackMonitor, Monitor.history_after] at allowed
  obtain ⟨before, e, rfl, made⟩ := allowed rfl
  obtain ⟨_, _, _, hrunning, _⟩ := Service.step_answered h
  obtain ⟨x, hx, hlabel⟩ :=
    run.answeredInOrder.running _ (Pool.mem_of_waiting hrunning) before e [] rfl
  exact ⟨before, e, rfl, made, x, hx, hlabel⟩

/-- A call that has mounted has put a mount into the table, which is read-only if the request asks
for a read-only FUSE mount, and else can be written. -/
lemma kernel_of_mounted {e : Event signature} (run : (nodeService sent).Run .init steps P)
    (h : (nodeService sent).Step P (.answered (.publish request) past e) P')
    (made : (mountMade e.call e.reply).isSome) :
    ∃ k, P'.state.kernel = k :: P.state.kernel ∧
      (k.readOnly = true ↔ request.AsksForReadOnlyFuse) ∧ ∃ node, GivenNode request past node := by
  have allowed := publishAllows_of_step run h
  obtain ⟨_, _, _, _, answered, _⟩ := Service.step_answered h
  obtain ⟨c, a⟩ := e
  rcases c with c | c | c | c | c | _ | _
  case host =>
    rcases c with _ | _ | _ | _ | ⟨source, target, readOnly⟩ | _ | ⟨operator, target, readOnly⟩ | _
    case bindMount =>
      obtain ⟨node, mount, prepared, hmode, _⟩ := allowed.mounts trivial
      rcases a with _ | ⟨_ | _⟩
      · cases made
      · cases made
      have hstate : P'.state = P.state.attach target (.bind source) false := answered
      refine ⟨⟨P.state.nextId, target, .bind source, false⟩, by rw [hstate]; rfl, ?_, node,
        givenNode_of_prepared prepared⟩
      -- the flag for read-only has no effect on a bind mount
      rw [← readOnlyFuse_iff prepared, hmode]
      simp
    case fuseMount =>
      obtain ⟨node, mount, prepared, hmode, _, _, hreadOnly, _⟩ := allowed.mounts trivial
      rcases a with _ | handle
      · cases made
      obtain ⟨_, hstate⟩ : handle = ⟨P.state.nextId⟩ ∧
        P'.state = P.state.attach target (.fuse operator) readOnly := answered
      refine ⟨⟨P.state.nextId, target, .fuse operator, readOnly⟩, by rw [hstate]; rfl, ?_, node,
        givenNode_of_prepared prepared⟩
      rw [← readOnlyFuse_iff prepared, hreadOnly, decide_eq_true_iff]
      simp [hmode]
    all_goals cases made
  all_goals cases made

/-- The mount itself does not get the `DataNode`. -/
lemma GivenNode.of_mounted {e : Event signature} {node : DataNode}
    (h : GivenNode request (past ++ [e]) node) (made : (mountMade e.call e.reply).isSome) :
    GivenNode request past node := by
  obtain ⟨keys, hkeys, saw⟩ := h
  rcases List.mem_append.mp saw with saw | saw
  · exact ⟨keys, hkeys, saw⟩
  · rw [← List.mem_singleton.mp saw] at made
    cases made

/-- What is in the map was in it before, or has just been put there by a publish. -/
lemma lookup_of_step {l : NodeLabel} (run : (nodeService sent).Run .init steps P)
    (h : (nodeService sent).Step P l P') {volumeId : String} {mount : Mount}
    (hlookup : P'.state.mounts.lookup volumeId = some mount) :
    P.state.mounts.lookup volumeId = some mount ∨ ∃ request past,
      l = .answered (.publish request) past ⟨.mounts (.insert volumeId mount), ()⟩ := by
  rcases l with r | ⟨r, past, c, a⟩ | _
  · rw [Service.step_arrives h] at hlookup
    exact .inl hlookup
  · obtain ⟨watched, _⟩ := (NodeState.Sound.invariant sent).run run fun _ _ => trivial
    obtain ⟨before, after, g, _, hstep⟩ := mountStep_of_step watched h
    rcases hstep.lookup_eq hlookup with hold | ⟨request, _, rfl, _, _, _, _, hcall⟩
    · exact .inl hold
    · have hc : c = .mounts (.insert volumeId mount) := hcall
      subst hc
      exact .inr ⟨request, past, rfl⟩
  · cases h with
    | disturb moved => exact moved.elim

/-- Every tracked mount was published in the run. -/
lemma published_of_lookup (run : (nodeService sent).Run .init steps P) {volumeId : String}
    {mount : Mount} (hlookup : P.state.mounts.lookup volumeId = some mount) :
    ∃ request node, PublishedIn steps volumeId mount request node := by
  induction run with
  | start => cases hlookup
  | @step steps P P' l run last ih =>
    rcases lookup_of_step run last hlookup with hold | ⟨request, past, rfl⟩
    · obtain ⟨request, node, x, hx, hpublished⟩ := ih hold
      exact ⟨request, node, x, List.mem_append_left _ hx, hpublished⟩
    · obtain ⟨node, prepared⟩ := prepared_of_insert run last
      exact ⟨request, node, _, List.mem_append_right _ List.mem_cons_self, past, rfl,
        givenNode_of_prepared prepared⟩

/-- A mount is there before a call, or the call has made it. -/
lemma kernel_of_answers {s s' : NodeState} {c : Call} {a : c.Reply} (h : s.Answers c a s') :
    s'.kernel.Sublist s.kernel ∨ (mountMade c a).isSome ∧ ∃ k, s'.kernel = k :: s.kernel := by
  have same : s' = s → s'.kernel.Sublist s.kernel := fun heq => by rw [heq]
  rcases c with c | c | c | c | c | _ | _
  case host =>
    rcases c with _ | _ | _ | _ | ⟨source, target, readOnly⟩ | target |
      ⟨operator, target, readOnly⟩ | handle
    case bindMount =>
      rcases a with _ | ⟨_ | _⟩
      · exact .inl (same h)
      · exact .inl (same h)
      · have hs' : s' = s.attach target (.bind source) false := h
        exact .inr ⟨rfl, _, by rw [hs']; rfl⟩
    case fuseMount =>
      rcases a with _ | new
      · exact .inl (same h)
      · obtain ⟨_, hs'⟩ : new = ⟨s.nextId⟩ ∧ s' = s.attach target (.fuse operator) readOnly := h
        exact .inr ⟨rfl, _, by rw [hs']; rfl⟩
    case unmount =>
      rcases a with _ | ⟨_ | _⟩
      · exact .inl (same h)
      · exact .inl (same h)
      · rw [h.2]
        exact .inl List.eraseP_sublist
    case unmountHandle =>
      rcases a with _ | _
      · rcases h with rfl | rfl
        · exact .inl (List.Sublist.refl _)
        · exact .inl List.eraseP_sublist
      · rw [h.2]
        exact .inl List.eraseP_sublist
    all_goals exact .inl (same h)
  case mounts =>
    rcases c with ⟨volumeId, mount⟩ | volumeId | _
    case insert =>
      obtain ⟨_, s₁, rfl | ⟨handle, _, rfl⟩, hs'⟩ := h
      · rw [hs']
        exact .inl (List.Sublist.refl _)
      · rw [hs']
        exact .inl List.eraseP_sublist
    case remove =>
      rw [h.2.2]
      exact .inl (List.Sublist.refl _)
    case unlock =>
      have hs' : s' = { s with locked := false } := h
      rw [hs']
      exact .inl (List.Sublist.refl _)
  all_goals exact .inl (same h)

/-- Only a publish mounts. -/
lemma publish_of_kernel {r : NodeRequest} {e : Event signature}
    (run : (nodeService sent).Run .init steps P)
    (h : (nodeService sent).Step P (.answered r past e) P') {k : KernelMount}
    (hk : P'.state.kernel = k :: P.state.kernel) : ∃ request, r = .publish request := by
  obtain ⟨watched, _⟩ := (NodeState.Sound.invariant sent).run run fun _ _ => trivial
  obtain ⟨before, after, g, _, hstep⟩ := mountStep_of_step watched h
  cases r with
  | publish request => exact ⟨request, rfl⟩
  | unpublish request =>
    have shorter := hstep.kernel_length_le
    rw [hk, List.length_cons] at shorter
    omega

/-- Every mount in the kernel was made by a publish in the run. -/
lemma mounted_of_kernel (run : (nodeService sent).Run .init steps P) {k : KernelMount}
    (hk : k ∈ P.state.kernel) : ∃ request node, MountedIn steps k request node := by
  induction run with
  | start => cases hk
  | @step steps P P' l run last ih =>
    have earlier : k ∈ P.state.kernel →
        ∃ request node, MountedIn (steps ++ [⟨P, l, P'⟩]) k request node := by
      intro hk
      obtain ⟨request, node, x, hx, mounted⟩ := ih hk
      exact ⟨request, node, x, List.mem_append_left _ hx, mounted⟩
    rcases l with r | ⟨r, past, e⟩ | _
    · rw [Service.step_arrives last] at hk
      exact earlier hk
    · obtain ⟨_, _, _, _, answered, _⟩ := Service.step_answered last
      rcases kernel_of_answers answered with hsub | ⟨made, new, hnew⟩
      · exact earlier (hsub.subset hk)
      · rw [hnew] at hk
        rcases List.mem_cons.mp hk with rfl | hk
        · obtain ⟨request, rfl⟩ := publish_of_kernel run last hnew
          obtain ⟨_, _, _, node, given⟩ := kernel_of_mounted run last made
          exact ⟨request, node, _, List.mem_append_right _ List.mem_cons_self, past, e, rfl,
            hnew, given⟩
        · exact earlier hk
    · cases last with
      | disturb moved => exact moved.elim

end

/-! ## When writing is limited -/

/-- In every state along a run writing is limited, exactly when each request that mounts asks for a
read-only FUSE mount, or asks for writing while its `DataNode`, its flag and its access mode allow
that. -/
theorem write_access_limited_iff {sent : NodeRequest → Prop} {steps : List NodeTransition}
    {P : NodePool} (run : (nodeService sent).Run .init steps P) :
    (∀ earlier P', earlier <+: steps → (nodeService sent).Run .init earlier P' →
      WritesLimited earlier P') ↔ ∀ x ∈ steps, AsksWithinLimits x.label := by
  constructor
  · intro limited x hx
    obtain ⟨earlier, hearlier, hrun, hstep⟩ := run.of_mem hx
    rcases hlabel : x.label with r | ⟨r | r, past, e⟩ | _
    case answered.publish =>
      intro made
      have hrun' : (nodeService sent).Run .init (earlier ++ [x]) x.target := hrun.step hstep
      rw [hlabel] at hstep
      obtain ⟨k, hk, hreadOnly, node, given⟩ := kernel_of_mounted hrun hstep made
      by_cases hfuse : r.AsksForReadOnlyFuse
      · exact .inl hfuse
      -- what the request has mounted can be written
      · have may : ∀ node, GivenNode r past node → MayWrite r node := by
          intro node given
          have hmem : k ∈ x.target.state.kernel := by
            rw [hk]
            exact List.mem_cons_self
          obtain ⟨_, each⟩ := (limited _ _ hearlier hrun').mounted k hmem
          by_contra hnot
          have mounted : MountedIn (earlier ++ [x]) k r node :=
            ⟨x, List.mem_append_right _ List.mem_cons_self, past, e, hlabel, hk, given⟩
          exact hfuse (hreadOnly.mp (each r node mounted hnot))
        exact .inr ⟨(may node given).1, fun node given => (may node given).2⟩
    all_goals trivial
  · intro asks earlier P' hearlier hrun
    constructor
    · intro volumeId mount hlookup
      refine ⟨published_of_lookup hrun hlookup, ?_⟩
      rintro request node ⟨x, hx, past, hlabel, given⟩ hwrite
      obtain ⟨before, hbefore, hrun', hstep⟩ := hrun.of_mem hx
      rw [hlabel] at hstep
      obtain ⟨_, prepared⟩ := prepared_of_insert hrun' hstep
      have hasks := (accessMode_iff prepared).mp hwrite
      obtain ⟨past, e, rfl, made, y, hy, hlabel'⟩ := mounted_of_insert hrun' hstep
      have hpre : before <+: earlier := (List.prefix_append _ _).trans hbefore
      have within := asks y (hearlier.subset (hpre.subset hy))
      rw [hlabel'] at within
      rcases within made with hfuse | ⟨_, allowed⟩
      · rw [← readOnlyFuse_iff prepared] at hfuse
        rw [hfuse.2] at hwrite
        cases hwrite
      · exact ⟨hasks, allowed node (given.of_mounted made)⟩
    · intro k hk
      refine ⟨mounted_of_kernel hrun hk, ?_⟩
      rintro request node ⟨x, hx, past, e, hlabel, hkernel, given⟩ hnot
      obtain ⟨before, hbefore, hrun', hstep⟩ := hrun.of_mem hx
      have within := asks x (hearlier.subset hx)
      rw [hlabel] at within hstep
      obtain ⟨_, _, _, _, answered, _⟩ := Service.step_answered hstep
      rcases kernel_of_answers answered with hsub | ⟨made, _⟩
      · have hlength := hsub.length_le
        rw [hkernel, List.length_cons] at hlength
        omega
      · obtain ⟨k', hk', hreadOnly, _⟩ := kernel_of_mounted hrun' hstep made
        rw [hkernel] at hk'
        cases hk'
        rcases within made with hfuse | ⟨hasks, allowed⟩
        · exact hreadOnly.mpr hfuse
        · exact absurd ⟨hasks, allowed node given⟩ hnot

/-! ## A mount that can be written although it was not to be -/

/-- Published as `publishFuse` does, by a request with the flag `readonly`. -/
def publishReadonly (volumeId target : String) : NodePublishVolumeRequest :=
  { publishFuse volumeId target with readonly := true }

/-- Published from the cache, only for reading. -/
def publishCachedReadOnly (volumeId target : String) : NodePublishVolumeRequest :=
  ⟨volumeId, target, none, true, sampleContext "p" "cache-read-only"⟩

/-- A request that may not write and has left a mount that can be written. -/
lemma exists_writable {request : NodePublishVolumeRequest} {τ : List (Event signature)}
    {s : NodeState} {k : KernelMount} (hnot : ∀ node, ¬ MayWrite request node)
    (hfollow : (nodePublishVolume request).follow NodeState.sampleServe 40 .init =
      some (τ, .pure (), s))
    (hk : k ∈ s.kernel) (hwritable : k.readOnly = false) :
    ∃ (steps : List NodeTransition) (P : NodePool),
      (nodeService fun r => r = .publish request).Run .init steps P ∧
        ¬ WritesLimited steps P := by
  have idle : (nodeService fun r => r = .publish request).Run .init [] ⟨.init, [], []⟩ := .start
  have exec := Prog.exec_of_follow (fun _ _ _ _ h => h) hfollow
  have sent : (nodeService fun r => r = .publish request).admits ⟨.init, [], []⟩
      (.publish request) := rfl
  obtain ⟨later, run, _, _⟩ := idle.handle NodeState.answers_of_serve sent exec rfl
  refine ⟨_, _, run, fun limited => ?_⟩
  obtain ⟨⟨other, node, made⟩, each⟩ := limited.mounted k hk
  -- there is only one request in the run
  have hother : other = request := by
    obtain ⟨x, hx, past, e, hlabel, _⟩ := made
    obtain ⟨_, admitted⟩ := run.admits_of_answered hx hlabel
    cases admitted
    rfl
  subst hother
  have hreadOnly := each other node made (hnot node)
  rw [hwritable] at hreadOnly
  cases hreadOnly

/-- The flag `readonly` of a request has no effect on its FUSE mount, and no bind mount is
read-only. -/
theorem write_access_wider_than_allowed :
    (∃ (steps : List NodeTransition) (P : NodePool),
      (nodeService fun r => r = .publish (publishReadonly "v" "/t")).Run .init steps P ∧
        ¬ WritesLimited steps P) ∧
    ∃ (steps : List NodeTransition) (P : NodePool),
      (nodeService fun r => r = .publish (publishCachedReadOnly "v" "/t")).Run .init steps P ∧
        ¬ WritesLimited steps P := by
  constructor
  · obtain ⟨τ, s, k, hfollow, hk, hwritable⟩ : ∃ τ s k,
        (nodePublishVolume (publishReadonly "v" "/t")).follow NodeState.sampleServe 40 .init =
          some (τ, .pure (), s) ∧ k ∈ s.kernel ∧ k.readOnly = false :=
      ⟨_, _, _, rfl, .head _, rfl⟩
    exact exists_writable (fun node may => may.2 (.inr (.inl rfl))) hfollow hk hwritable
  · obtain ⟨τ, s, k, hfollow, hk, hwritable⟩ : ∃ τ s k,
        (nodePublishVolume (publishCachedReadOnly "v" "/t")).follow NodeState.sampleServe 40
          .init = some (τ, .pure (), s) ∧ k ∈ s.kernel ∧ k.readOnly = false :=
      ⟨_, _, _, rfl, .head _, rfl⟩
    exact exists_writable (fun node may => may.2 (.inr (.inl rfl))) hfollow hk hwritable

/-- Published over FUSE only for reading, by a request with the flag `readonly`. -/
def publishFuseReadOnly (volumeId target : String) : NodePublishVolumeRequest :=
  ⟨volumeId, target, none, true, sampleContext "p" "fuse-read-only"⟩

/-- A `DataNode` that was given in a served run can be written. -/
lemma given_writable {sent : NodeRequest → Prop} {steps : List NodeTransition} {P : NodePool}
    (run : (nodeService sent).Run .init steps P)
    (served : ∀ x ∈ steps, x.Served fun _ => NodeState.sampleServe) {x : NodeTransition}
    (hx : x ∈ steps) {request : NodePublishVolumeRequest} {past : List (Event signature)}
    {e : Event signature} (hlabel : x.label = .answered (.publish request) past e)
    {node : DataNode} (given : GivenNode request past node) : node.spec.readOnly = false := by
  obtain ⟨keys, _, saw⟩ := given
  obtain ⟨earlier, hearlier, run', hstep⟩ := run.of_mem hx
  rw [hlabel] at hstep
  obtain ⟨_, _, _, hrunning, _⟩ := Service.step_answered hstep
  obtain ⟨y, hy, past', hlabel'⟩ :=
    run'.answered.running _ (Pool.mem_of_waiting hrunning) _ saw
  have hy' : y ∈ steps := hearlier.subset (List.mem_append_left _ hy)
  rcases served y hy' with ⟨r, harrives⟩ | ⟨r, past'', c, a, hanswered, hserve⟩
  · rw [hlabel'] at harrives
    cases harrives
  · rw [hlabel'] at hanswered
    cases hanswered
    have hreply := congrArg (Option.map Prod.fst) hserve
    cases hreply
    rfl

/-- A request for reading and one for writing, each within its limits. -/
theorem write_access_limited_once : ∃ (steps : List NodeTransition) (P : NodePool),
    (nodeService fun r => r = .publish (publishFuseReadOnly "v" "/t") ∨
      r = .publish (publishFuse "w" "/u")).Run .init steps P ∧
    P.state.kernel.map KernelMount.readOnly = [false, true] ∧
    (∃ mount, P.state.mounts.lookup "w" = some mount ∧ mount.accessMode = .readWrite) ∧
    (∀ x ∈ steps, AsksWithinLimits x.label) ∧ WritesLimited steps P := by
  obtain ⟨done, s, mount, hserial, hkernel, hlookup, hwrite⟩ : ∃ done s mount,
      (nodeService fun r => r = .publish (publishFuseReadOnly "v" "/t") ∨
        r = .publish (publishFuse "w" "/u")).serial (fun _ => NodeState.sampleServe) 40
        [.publish (publishFuseReadOnly "v" "/t"), .publish (publishFuse "w" "/u")] .init =
          some (done, s) ∧
      s.kernel.map KernelMount.readOnly = [false, true] ∧
      s.mounts.lookup "w" = some mount ∧ mount.accessMode = .readWrite :=
    ⟨_, _, _, rfl, rfl, rfl, rfl⟩
  have sent : ∀ r ∈ [NodeRequest.publish (publishFuseReadOnly "v" "/t"),
      .publish (publishFuse "w" "/u")], r = .publish (publishFuseReadOnly "v" "/t") ∨
        r = .publish (publishFuse "w" "/u") := by simp
  obtain ⟨steps, run, served, _⟩ := Service.Run.serial (fun _ => NodeState.answers_of_serve)
    (fun _ => sent) .start hserial
  have within : ∀ x ∈ steps, AsksWithinLimits x.label := by
    intro x hx
    rcases hlabel : x.label with r | ⟨r | r, past, e⟩ | _
    case answered.publish =>
      intro _
      obtain ⟨_, admitted⟩ := run.admits_of_answered hx hlabel
      rcases admitted with hr | hr
      · cases hr
        exact .inl ⟨_, rfl, rfl⟩
      · cases hr
        refine .inr ⟨⟨_, rfl, trivial⟩, fun node given readOnly => ?_⟩
        have writable := given_writable run served hx hlabel given
        rcases readOnly with hnode | hflag | ⟨_, hmode, _⟩
        · rw [writable] at hnode
          cases hnode
        · cases hflag
        · cases hmode
    all_goals trivial
  exact ⟨steps, _, run, hkernel, ⟨mount, hlookup, hwrite⟩, within,
    (write_access_limited_iff run).mpr within steps _ (List.prefix_refl _) run⟩

end Kubedal
