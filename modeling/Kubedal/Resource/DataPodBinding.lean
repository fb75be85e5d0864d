import Kubedal.Resource.DataPodUpdates
import Kubedal.Resource.ReplicaObjects
import Kubedal.Utils.Session

/-!
# The binding of a `DataPod`

One `DataPod` that no user edits, and passes of its controller over what is stored, one after
another, while `DataNode`s come and go.

* `bindingService` is this system: requests fail, and passes are cut off, at any point;
* `Binds` says what a pass applies, `Settled` what a `DataPod` looks like afterwards;
* `binding_stable`: after the first successful pass nothing of the spec changes again.
-/

namespace Kubedal

open Interaction Kube Resource

/-! ## The system -/

/-- The `DataPod` that is stored under the name. -/
def Cluster.stored (s : Cluster) (ns name : String) : Except KubeError DataPod :=
  getFrom s.dataPods ns name

/-- What others do: anything to `DataNode`s and other objects, and nothing to the `DataPod`. -/
def LeavesStored (ns name : String) (s s' : Cluster) : Prop := s'.stored ns name = s.stored ns name

/-- The request fails for the client only. -/
def Cluster.LosesReply (selects : Selects) (s : Cluster) : (c : Call) → c.Reply → Cluster → Prop
  | .kube c, Except.error _, s' =>
    ∃ object, s.Replies selects c (.ok object) ∧ s' = s.nextKube c object
  | _, _, _ => False

/-- Passes over a `DataPod`, while others may do something at each call. -/
def bindingService (selects : Selects) (ns name : String) :
    Service signature Cluster DataPod (Fault Error) Action where
  program := fun self => self.reconcile
  admits := fun _ _ => True
  answers := fun s c a s' => ∃ s₁,
    (clusterEnv selects True s c a s₁ ∨ s.LosesReply selects c a s₁) ∧ LeavesStored ns name s₁ s'
  disturbs := LeavesStored ns name

abbrev BindingTurn := Turn signature DataPod (Fault Error) Action

/-- The `DataPod` that a turn is a pass over. -/
def BindingTurn.self : BindingTurn → Option DataPod
  | .handled y => some y.request
  | .cutOff self _ => some self
  | .disturbed => none

/-- The turn is a successful pass. -/
def BindingTurn.Succeeds : BindingTurn → Prop
  | .handled y => ∃ action, y.result = .ok action
  | _ => False

/-- A pass is given what is stored. -/
def GivenStored (ns name : String) (s : Cluster) (t : BindingTurn) : Prop :=
  ∀ self, t.self = some self → s.stored ns name = .ok self

/-! ## What a pass applies -/

/-- The patch gives the `DataPod` a path and a `DataNode`, which are those that it has if it has
any, and leaves the rest of its spec as it is. -/
structure Binds (ns : String) (pod : DataPod) (patch : DataPodPatch) : Prop where
  path : ∃ path, patch.spec.path = some path ∧ GivesPath pod path
  node : ∃ owner, patch.metadata.ownerReferences = some [owner] ∧
    patch.spec.dataNodeRef = some ⟨owner.name, some ns⟩ ∧
    ∀ ref, pod.spec.dataNodeRef = some ref → owner.name = ref.name
  dataNodeSelector : patch.spec.dataNodeSelector = pod.spec.dataNodeSelector
  request : patch.spec.request = pod.spec.request

/-- The spec has a path, and a reference to a `DataNode` in the namespace. -/
structure Settled (ns : String) (spec : DataPodSpec) : Prop where
  path : ∃ path, spec.path = some path ∧ path ≠ "" ∧ path ≠ "/"
  node : ∃ name, spec.dataNodeRef = some ⟨name, some ns⟩

lemma properPath_eq_some {spec : DataPodSpec} {path : String} :
    DataPod.properPath spec = some path ↔ spec.path = some path ∧ path ≠ "" ∧ path ≠ "/" := by
  unfold DataPod.properPath
  rw [Option.filter_eq_some_iff]
  simp

section
variable {ns name : String} {self : DataPod} {patch : DataPodPatch} {version : String}

lemma Binds.path_ne (h : Binds ns self patch) (identified : uidOf self ≠ some "") :
    ∃ path, patch.spec.path = some path ∧ path ≠ "" ∧ path ≠ "/" := by
  obtain ⟨path, hpath, gives⟩ := h.path
  refine ⟨path, hpath, ?_⟩
  rcases gives with proper | ⟨_, uid, huid, hgenerated⟩
  · exact (properPath_eq_some.mp proper).2
  · -- a generated path is longer than "/"
    rw [hgenerated]
    constructor
    · intro h
      have hlist := congrArg String.toList h
      rw [String.toList_append] at hlist
      cases hlist
    · intro h
      have hrest : "/" ++ uid = "/" ++ "" := by rw [h, String.append_empty]
      have hempty : uid = "" := (String.append_right_inj _).mp hrest
      exact identified (huid.trans (congrArg some hempty))

lemma Binds.settles (h : Binds ns self patch) (identified : uidOf self ≠ some "") :
    Settled ns (Cluster.applied self patch version).spec := by
  obtain ⟨path, hpath, hproper⟩ := h.path_ne identified
  obtain ⟨owner, _, href, _⟩ := h.node
  constructor
  · refine ⟨path, ?_, hproper⟩
    show patch.spec.path.or self.spec.path = some path
    rw [hpath]
    rfl
  · refine ⟨owner.name, ?_⟩
    show patch.spec.dataNodeRef.or self.spec.dataNodeRef = _
    rw [href]
    rfl

/-- A spec that is settled is applied as it is. -/
lemma Binds.keeps (h : Binds ns self patch) (settled : Settled ns self.spec) :
    (Cluster.applied self patch version).spec = self.spec := by
  obtain ⟨path, hpath, gives⟩ := h.path
  obtain ⟨path', hpath', hproper⟩ := settled.path
  obtain ⟨owner, _, href, hname⟩ := h.node
  obtain ⟨node, hnode⟩ := settled.node
  have hsame : path = path' := by
    have hself := properPath_eq_some.mpr ⟨hpath', hproper⟩
    rcases gives with proper | ⟨improper, _⟩
    · rw [hself] at proper
      exact (Option.some.inj proper).symm
    · rw [hself] at improper
      cases improper
  have samePath : patch.spec.path = self.spec.path := by rw [hpath, hpath', hsame]
  have sameNode : patch.spec.dataNodeRef = self.spec.dataNodeRef := by
    rw [href, hnode, hname _ hnode]
  have hor : ∀ {β : Type} (x : Option β), x.or x = x := fun x => by cases x <;> rfl
  show (⟨patch.spec.path.or self.spec.path, patch.spec.dataNodeRef.or self.spec.dataNodeRef,
    Cluster.mergeMaps patch.spec.dataNodeSelector self.spec.dataNodeSelector,
    patch.spec.request.or self.spec.request⟩ : DataPodSpec) = self.spec
  rw [samePath, sameNode, h.dataNodeSelector, h.request, hor, hor, hor, Cluster.mergeMaps_self]

end

/-! ## A pass -/

/-- The patch that a call has sent, and whether it was accepted. -/
def sentPatch : (c : Call) → c.Reply → List (DataPodPatch × Bool)
  | .kube (.applyDataPod _ _ patch), Except.ok _ => [(patch, true)]
  | .kube (.applyDataPod _ _ patch), Except.error _ => [(patch, false)]
  | _, _ => []

def sentPatches (τ : List (Event signature)) : List (DataPodPatch × Bool) :=
  τ.flatMap fun e => sentPatch e.call e.reply

/-- What is read: the `DataPod` itself, and `DataNode`s where they are looked for. -/
def ReadsAs (self : DataPod) : (c : Call) → c.Reply → Prop
  | .kube (.getDataPod _ _), Except.ok (pod : DataPod) => pod = self
  | .kube (.getDataNode ns name), Except.ok (node : DataNode) => At ns name node
  | .kube (.listDataNodes ns _), Except.ok (nodes : List DataNode) =>
    ∀ node ∈ nodes, InNamespace ns node
  | _, _ => True

/-- The calls of a pass that has sent `sent`: the `DataPod` is read and applied once. -/
def BindingCall (ns name : String) (self : DataPod) (sent : List (DataPodPatch × Bool)) :
    Call → Prop
  | .kube (.getDataPod ns' name') => sent = [] ∧ ns' = ns ∧ name' = name
  | .kube (.applyDataPod ns' name' patch) =>
    sent = [] ∧ ns' = ns ∧ name' = name ∧ Binds ns self patch
  | .kube (.createDataPod _ _) => False
  | _ => True

/-- A pass as a monitor that knows the patches it has sent. -/
def bindingMonitor (ns name : String) (self : DataPod) :
    Monitor signature (List (DataPodPatch × Bool)) where
  allows := BindingCall ns name self
  assumes := fun _ c a => ReadsAs self c a
  next := fun sent c a => sent ++ sentPatch c a

lemma bindingMonitor_after {ns name : String} {self : DataPod}
    (sent : List (DataPodPatch × Bool)) (τ : List (Event signature)) :
    (bindingMonitor ns name self).after sent τ = sent ++ sentPatches τ := by
  induction τ generalizing sent with
  | nil => simp [sentPatches]
  | cons e τ ih =>
    rw [Monitor.after_cons, ih]
    show (sent ++ sentPatch e.call e.reply) ++ sentPatches τ = sent ++ sentPatches (e :: τ)
    rw [List.append_assoc]
    rfl

section
variable {ns name : String} {self : DataPod} {sent : List (DataPodPatch × Bool)}

lemma newPath_binds
    {Q : List (DataPodPatch × Bool) → Except (Fault Error) (String × Bool) → Prop}
    (ok : ∀ path generated, GivesPath self path → Q sent (.ok (path, generated)))
    (error : ∀ e, Q sent (.error e)) :
    (DataPod.newPath self).wp (bindingMonitor ns name self) sent Q := by
  unfold DataPod.newPath
  cases hpath : DataPod.properPath self.spec with
  | some path => exact ok path false (.inl hpath)
  | none =>
    apply Prog.wp_bind
    apply wp_expect
    · intro uid huid
      exact ok _ true (.inr ⟨hpath, uid, huid, rfl⟩)
    · exact error _

/-- The `DataNode` is in the namespace, and it is the one that is referred to if there is one. -/
lemma chooseDataNode_binds
    {Q : List (DataPodPatch × Bool) → Except (Fault Error) DataNode → Prop}
    (ok : ∀ node : DataNode, node.metadata.ns = some ns →
      (∀ ref, self.spec.dataNodeRef = some ref → nameAny node = ref.name) → Q sent (.ok node))
    (error : ∀ e, Q sent (.error e)) :
    (DataPod.chooseDataNode self ns).wp (bindingMonitor ns name self) sent Q := by
  have unsent : sent ++ [] = sent := List.append_nil sent
  unfold DataPod.chooseDataNode
  cases href : self.spec.dataNodeRef with
  | some nodeRef =>
    apply wp_request trivial
    · intro (node : DataNode) found
      have hat : At ns nodeRef.name node := found
      show Q (sent ++ []) (.ok node)
      rw [unsent]
      apply ok node hat.1
      intro ref heq
      rw [href] at heq
      cases heq
      exact nameAny_of_at hat
    · intro e _
      show Q (sent ++ []) _
      rw [unsent]
      exact error _
  | none =>
    cases self.spec.dataNodeSelector with
    | none => exact error _
    | some selector =>
      apply Prog.wp_bind
      apply wp_request trivial
      · intro (nodes : List DataNode) listed
        have hin : ∀ node ∈ nodes, InNamespace ns node := listed
        show Prog.wp _ (expect _ nodes.head?) (sent ++ []) Q
        rw [unsent]
        apply wp_expect
        · intro node hnode
          apply ok node (hin node (List.mem_of_head? hnode))
          intro ref heq
          rw [href] at heq
          cases heq
        · exact error _
      · intro e _
        show Q (sent ++ []) _
        rw [unsent]
        exact error _

/-- A pass sends at most one patch, and if it is successful the patch was accepted. -/
lemma reconcilePod_binds (hat : At ns name self) :
    self.reconcile.wp (bindingMonitor ns name self) [] fun sent result =>
      ∀ action, result = .ok action → ∃ patch, sent = [(patch, true)] := by
  have failed : ∀ {e : Fault Error} {sent : List (DataPodPatch × Bool)} (action : Action),
      (.error e : Except (Fault Error) Action) = .ok action →
        ∃ patch, sent = [(patch, true)] := by
    intro e sent action h
    cases h
  have hns : namespaceOf self = some ns := hat.1
  unfold DataPod.reconcile
  rw [hns, nameAny_of_at hat]
  show Prog.wp _ (request _ >>= _) _ _
  apply Prog.wp_bind
  refine wp_request ⟨rfl, rfl, rfl⟩ (fun (dataPod : DataPod) read => ?_) fun _ _ => failed
  have hself : dataPod = self := read
  rw [hself]
  apply Prog.wp_bind
  refine newPath_binds (fun path generated gives => ?_) fun _ => failed
  apply Prog.wp_bind
  refine chooseDataNode_binds (fun node hnodeNs hnode => ?_) fun _ => failed
  apply Prog.wp_bind
  refine wp_orReturn (fun owner howner => ?_) fun _ _ => failed
  have hname : owner.name = nameAny node := ownerRef_name (eq_some_of_okOr howner)
  apply Prog.wp_bind
  refine wp_expect (fun podName _ => ?_) failed
  apply Prog.wp_bind
  have binds : Binds ns self (DataPod.overallPatch self podName path generated node owner) := by
    refine ⟨⟨path, rfl, gives⟩, ⟨owner, rfl, ?_, fun ref href => ?_⟩, rfl, rfl⟩
    · show some (⟨nameAny node, some (node.metadata.ns.getD "")⟩ : Ref) = _
      rw [hname, hnodeNs]
      rfl
    · rw [hname, hnode ref href]
  refine wp_request ⟨rfl, rfl, rfl, binds⟩ (fun (new : DataPod) _ => ?_) fun _ _ => failed
  -- the rest only says so in an event
  show Prog.wp _ _ [(_, true)] _
  apply Prog.wp_bind
  have events : (DataPod.publishChanged self self new).Uses
      (fun c => ∃ event regarding, c = Call.kube (.publishEvent event regarding)) :=
    uses_publishChanged fun event regarding => ⟨event, regarding, rfl⟩
  apply events.wp
  · rintro c ⟨event, regarding, rfl⟩
    trivial
  · rintro c a ⟨event, regarding, rfl⟩
    rcases a with e | object
    all_goals rfl
  · intro result
    rcases result with e | _
    · exact failed
    · exact fun _ _ => ⟨_, rfl⟩

end

/-! ## What a pass does to what is stored -/

/-- What is stored when a pass over `self` has sent `sent`. A patch that was not accepted may have
been applied all the same. -/
def StoredAfter (ns name : String) (self : DataPod) (s : Cluster) :
    List (DataPodPatch × Bool) → Prop
  | [] => s.stored ns name = .ok self
  | [(patch, accepted)] => Binds ns self patch ∧
    ((∃ version, s.stored ns name = .ok (Cluster.applied self patch version)) ∨
      accepted = false ∧ s.stored ns name = .ok self)
  | _ => False

section
variable {selects : Selects} {ns name : String} {self : DataPod} {s s' : Cluster}

lemma StoredAfter.leaves {sent : List (DataPodPatch × Bool)} (h : StoredAfter ns name self s sent)
    (leaves : LeavesStored ns name s s') : StoredAfter ns name self s' sent := by
  have hsame : s'.stored ns name = s.stored ns name := leaves
  unfold StoredAfter at h ⊢
  rw [hsame]
  exact h

/-- What is put in the place of the stored `DataPod` is stored. -/
lemma stored_putDataPod {old new : DataPod} (h : s.stored ns name = .ok old)
    (hnew : At ns name new) : (s.putDataPod ns name new).stored ns name = .ok new := by
  obtain ⟨hmem, hat⟩ := getFrom_ok h
  unfold Cluster.putDataPod
  rw [if_pos ⟨old, hmem, hat⟩]
  have hexists : ∃ d ∈ s.dataPods.map (fun d => if At ns name d then new else d), At ns name d :=
    ⟨new, List.mem_map.mpr ⟨old, hmem, if_pos hat⟩, hnew⟩
  obtain ⟨found, hfound⟩ := exists_getFrom hexists
  -- only the new one is found under the name
  obtain ⟨hfoundMem, hfoundAt⟩ := getFrom_ok hfound
  obtain ⟨d, _, hd⟩ := List.mem_map.mp hfoundMem
  have heq : found = new := by
    by_cases hdat : At ns name d
    · rw [if_pos hdat] at hd
      exact hd.symm
    · rw [if_neg hdat] at hd
      rw [hd] at hdat
      exact absurd hfoundAt hdat
  rw [heq] at hfound
  exact hfound

/-- An apply that gets through. -/
lemma stored_of_apply {patch : DataPodPatch} {object : DataPod} (h : s.stored ns name = .ok self)
    (replied : s.Replies selects (.applyDataPod ns name patch) (.ok object)) :
    ∃ version, (s.nextKube (.applyDataPod ns name patch) object).stored ns name =
      .ok (Cluster.applied self patch version) := by
  rcases applied_of_replies replied with
    ⟨old, version, hget, hobject⟩ | ⟨e, _, _, hget, _⟩
  · cases Except.ok.inj (h.symm.trans hget)
    refine ⟨version, ?_⟩
    rw [← hobject]
    apply stored_putDataPod h
    rw [hobject]
    exact (getFrom_ok h).2
  · cases h.symm.trans hget

lemma readsAs_of_replies {c : KubeCall} {object : c.Object} {sent : List (DataPodPatch × Bool)}
    (h : StoredAfter ns name self s sent) (call : BindingCall ns name self sent (.kube c))
    (replied : s.Replies selects c (.ok object)) :
    ReadsAs self (.kube c) (Except.ok object) := by
  cases c
  case getDataPod ns' name' =>
    obtain ⟨rfl, rfl, rfl⟩ := call
    have hstored : s.stored ns' name' = .ok self := h
    have hget : Except.ok object = s.stored ns' name' := replied
    rw [hstored] at hget
    exact Except.ok.inj hget
  case getDataNode ns' name' =>
    have hget : Except.ok object = getFrom s.dataNodes ns' name' := replied
    exact (getFrom_ok hget.symm).2
  case listDataNodes ns' params =>
    have hlist : Except.ok object = listFrom selects s.dataNodes ns' params := replied
    exact inNamespace_of_listFrom hlist.symm
  all_goals trivial

/-- A request that got through, whether its client knows or not. -/
lemma storedAfter_replied {c : KubeCall} {object : c.Object} {sent : List (DataPodPatch × Bool)}
    (h : StoredAfter ns name self s sent) (call : BindingCall ns name self sent (.kube c))
    (replied : s.Replies selects c (.ok object)) (a : Except KubeError c.Object) :
    StoredAfter ns name self (s.nextKube c object) (sent ++ sentPatch (.kube c) a) := by
  cases c
  case applyDataPod ns' name' patch =>
    obtain ⟨rfl, rfl, rfl, binds⟩ := call
    have applied := stored_of_apply h replied
    rcases a with e | object'
    · exact ⟨binds, .inl applied⟩
    · exact ⟨binds, .inl applied⟩
  case createDataPod => exact call.elim
  all_goals
    have unsent : sent ++ [] = sent := List.append_nil sent
    rcases a with e | object'
    all_goals
      show StoredAfter ns name self _ (sent ++ [])
      rw [unsent]
      exact h

/-- A request that failed changes nothing. -/
lemma storedAfter_failed {c : KubeCall} {e : KubeError} {sent : List (DataPodPatch × Bool)}
    (h : StoredAfter ns name self s sent) (call : BindingCall ns name self sent (.kube c)) :
    StoredAfter ns name self s (sent ++ sentPatch (.kube c) (Except.error e)) := by
  cases c
  case applyDataPod ns' name' patch =>
    obtain ⟨rfl, rfl, rfl, binds⟩ := call
    exact ⟨binds, .inr ⟨rfl, h⟩⟩
  all_goals
    have unsent : sent ++ [] = sent := List.append_nil sent
    show StoredAfter ns name self _ (sent ++ [])
    rw [unsent]
    exact h

/-- One answer of the system. -/
lemma storedAfter_answered {c : Call} {a : c.Reply} {sent : List (DataPodPatch × Bool)}
    (call : BindingCall ns name self sent c)
    (answered : (bindingService selects ns name).answers s c a s')
    (h : StoredAfter ns name self s sent) :
    ReadsAs self c a ∧ StoredAfter ns name self s' (sent ++ sentPatch c a) := by
  obtain ⟨s₁, answered, leaves⟩ := answered
  have both : ReadsAs self c a ∧ StoredAfter ns name self s₁ (sent ++ sentPatch c a) := by
    have unsent : sent ++ [] = sent := List.append_nil sent
    rcases c with c | c | c | c | c | _ | _
    case kube =>
      rcases a with e | object
      · refine ⟨?_, ?_⟩
        · cases c
          all_goals trivial
        · rcases answered with ⟨_, hs₁⟩ | ⟨object, replied, hs₁⟩
          · have hsame : s₁ = s := hs₁
            rw [hsame]
            exact storedAfter_failed h call
          · rw [hs₁]
            exact storedAfter_replied h call replied (Except.error e)
      · rcases answered with ⟨answered, hs₁⟩ | lost
        · have replied := replies_of_answers answered
          refine ⟨readsAs_of_replies h call replied, ?_⟩
          have hnext : s₁ = s.nextKube c object := hs₁
          rw [hnext]
          exact storedAfter_replied h call replied (Except.ok object)
        · exact lost.elim
    all_goals
      rcases answered with ⟨_, hs₁⟩ | lost
      · have hsame : s₁ = s := hs₁
        refine ⟨trivial, ?_⟩
        show StoredAfter ns name self s₁ (sent ++ [])
        rw [unsent, hsame]
        exact h
      · exact lost.elim
  exact ⟨both.1, both.2.leaves leaves⟩

/-- A pass over what is stored, as far as it gets. -/
lemma pass_stored {q : Reconcile Action} {τ : List (Event signature)}
    (hself : s.stored ns name = .ok self)
    (run : Prog.Exec (bindingService selects ns name).answers self.reconcile s τ q s') :
    StoredAfter ns name self s' (sentPatches τ) ∧
      ∀ action, q.outcome = some (.ok action) → ∃ patch, sentPatches τ = [(patch, true)] := by
  have related := Prog.wp_exec_related (fun s sent => StoredAfter ns name self s sent)
    (fun _ _ _ _ _ _ allowed answered h => storedAfter_answered allowed answered h)
    (reconcilePod_binds (getFrom_ok hself).2) run hself
  rw [bindingMonitor_after, List.nil_append] at related
  refine ⟨related.2, fun action hq => ?_⟩
  exact Prog.wp_outcome related.1 hq action rfl

end

/-! ## Sessions -/

/-- From the first successful pass on the stored spec is settled, and it stays the same. -/
def StaysBound (ns name : String) (turns : List (Cluster × BindingTurn)) (s : Cluster) : Prop :=
  ∀ earlier later, turns = earlier ++ later → (∃ x ∈ earlier, x.2.Succeeds) →
    ∃ pod pod', (Service.entered later s).stored ns name = .ok pod ∧ Settled ns pod.spec ∧
      s.stored ns name = .ok pod' ∧ pod'.spec = pod.spec

/-- A successful pass has applied one patch, with one owner, and the stored spec refers to the
`DataNode` of that name. -/
def AppliesOwner (ns name : String) (t : BindingTurn) (s' : Cluster) : Prop :=
  ∀ y, t = .handled y → (∃ action, y.result = .ok action) →
    ∃ patch owner pod ref, sentPatches y.past = [(patch, true)] ∧
      patch.metadata.ownerReferences = some [owner] ∧ s'.stored ns name = .ok pod ∧
      pod.spec.dataNodeRef = some ref ∧ owner.name = ref.name

section
variable {selects : Selects} {ns name : String} {self pod : DataPod} {s₀ s s' : Cluster}
  {t : BindingTurn} {turns : List (Cluster × BindingTurn)}

lemma StoredAfter.found {sent : List (DataPodPatch × Bool)} (h : StoredAfter ns name self s sent) :
    ∃ pod, s.stored ns name = .ok pod ∧ uidOf pod = uidOf self ∧
      (Settled ns self.spec → pod.spec = self.spec) := by
  rcases sent with _ | ⟨⟨patch, accepted⟩, _ | ⟨_, _⟩⟩
  · exact ⟨self, h, rfl, fun _ => rfl⟩
  · obtain ⟨binds, ⟨version, happlied⟩ | ⟨_, hself⟩⟩ := h
    · exact ⟨_, happlied, rfl, fun settled => binds.keeps settled⟩
    · exact ⟨self, hself, rfl, fun _ => rfl⟩
  · exact h.elim

/-- A turn keeps a settled spec, and the uid anyway. -/
lemma turn_keeps (takes : (bindingService selects ns name).Takes s t s')
    (given : GivenStored ns name s t) (hpod : s.stored ns name = .ok pod) :
    ∃ pod', s'.stored ns name = .ok pod' ∧ uidOf pod' = uidOf pod ∧
      (Settled ns pod.spec → pod'.spec = pod.spec) := by
  have sameSelf : ∀ self, t.self = some self → self = pod := by
    intro self hself
    have hstored := given self hself
    rw [hpod] at hstored
    exact (Except.ok.inj hstored).symm
  cases takes with
  | handle run ends =>
    have hself := sameSelf _ rfl
    rw [← hself] at hpod ⊢
    exact (pass_stored hpod run).1.found
  | cutOff run moved =>
    have hself := sameSelf _ rfl
    rw [← hself] at hpod ⊢
    exact ((pass_stored hpod run).1.leaves moved).found
  | disturb moved =>
    have hsame : s'.stored ns name = s.stored ns name := moved
    exact ⟨pod, hsame.trans hpod, rfl, fun _ => rfl⟩

/-- A successful pass settles the spec. -/
lemma turn_settles (takes : (bindingService selects ns name).Takes s t s')
    (given : GivenStored ns name s t)
    (identified : ∀ pod, s.stored ns name = .ok pod → uidOf pod ≠ some "")
    (succeeds : t.Succeeds) :
    (∃ pod, s'.stored ns name = .ok pod ∧ Settled ns pod.spec) ∧ AppliesOwner ns name t s' := by
  cases takes with
  | @handle _ self τ q result run ends =>
    obtain ⟨action, hresult⟩ := succeeds
    have hself : s.stored ns name = .ok self := given self rfl
    obtain ⟨after, accepted⟩ := pass_stored hself run
    obtain ⟨patch, hsent⟩ := accepted action (ends.trans (congrArg some hresult))
    rw [hsent] at after
    obtain ⟨binds, ⟨version, happlied⟩ | ⟨hfalse, _⟩⟩ := after
    · refine ⟨⟨_, happlied, binds.settles (identified self hself)⟩, ?_⟩
      intro y hy _
      cases hy
      obtain ⟨owner, howner, href, _⟩ := binds.node
      refine ⟨patch, owner, _, ⟨owner.name, some ns⟩, hsent, howner, happlied, ?_, rfl⟩
      show patch.spec.dataNodeRef.or self.spec.dataNodeRef = _
      rw [href]
      rfl
    · cases hfalse
  | cutOff run moved => exact succeeds.elim
  | disturb moved => exact succeeds.elim

/-- What holds in every state of a session. -/
structure BindingKept (ns name : String) (turns : List (Cluster × BindingTurn)) (s : Cluster) :
    Prop where
  identified : ∀ pod, s.stored ns name = .ok pod → uidOf pod ≠ some ""
  settled : (∃ x ∈ turns, x.2.Succeeds) → ∃ pod, s.stored ns name = .ok pod ∧ Settled ns pod.spec

lemma BindingKept.turn (h : BindingKept ns name turns s)
    (takes : (bindingService selects ns name).Takes s t s') (given : GivenStored ns name s t) :
    BindingKept ns name (turns ++ [(s, t)]) s' := by
  constructor
  · intro pod' hpod'
    cases hstored : s.stored ns name with
    | ok pod =>
      obtain ⟨pod'', hpod'', huid, _⟩ := turn_keeps takes given hstored
      rw [hpod'] at hpod''
      rw [Except.ok.inj hpod'', huid]
      exact h.identified pod hstored
    | error e =>
      -- without a stored `DataPod` there is no pass
      have nobody : ∀ self, t.self ≠ some self := by
        intro self hself
        have hgiven := given self hself
        rw [hstored] at hgiven
        cases hgiven
      cases takes with
      | handle run ends => exact absurd rfl (nobody _)
      | cutOff run moved => exact absurd rfl (nobody _)
      | disturb moved =>
        have hsame : s'.stored ns name = s.stored ns name := moved
        rw [hsame, hstored] at hpod'
        cases hpod'
  · rintro ⟨x, hx, succeeds⟩
    rcases List.mem_append.mp hx with hx | hx
    · obtain ⟨pod, hpod, settled⟩ := h.settled ⟨x, hx, succeeds⟩
      obtain ⟨pod', hpod', _, same⟩ := turn_keeps takes given hpod
      refine ⟨pod', hpod', ?_⟩
      rw [same settled]
      exact settled
    · rw [List.mem_singleton.mp hx] at succeeds
      exact (turn_settles takes given h.identified succeeds).1

/-- A `DataPod` that is reconciled from what is stored keeps the path, the `DataNode` and the rest
of the spec that it has after the first successful pass, and every successful pass makes that
`DataNode` an owner. Uids are not empty. -/
theorem binding_stable (session : (bindingService selects ns name).Session s₀ turns s)
    (given : ∀ x ∈ turns, GivenStored ns name x.1 x.2)
    (identified : ∀ pod, s₀.stored ns name = .ok pod → uidOf pod ≠ some "") :
    StaysBound ns name turns s ∧
      Service.EachTurn (fun _ _ t s' => AppliesOwner ns name t s') turns s := by
  have all : BindingKept ns name turns s ∧ StaysBound ns name turns s ∧
      Service.EachTurn (fun _ _ t s' => AppliesOwner ns name t s') turns s := by
    induction session with
    | start =>
      refine ⟨⟨identified, ?_⟩, ?_, Service.eachTurn_nil⟩
      · rintro ⟨x, hx, _⟩
        cases hx
      · rintro earlier later h ⟨x, hx, _⟩
        rw [(List.append_eq_nil_iff.mp h.symm).1] at hx
        cases hx
    | @turn turns s s' t earlierTurns takes ih =>
      have hgiven : GivenStored ns name s t :=
        given (s, t) (List.mem_append_right _ List.mem_cons_self)
      obtain ⟨kept, bound, owners⟩ := ih fun x hx => given x (List.mem_append_left _ hx)
      have kept' := kept.turn takes hgiven
      refine ⟨kept', ?_, Service.eachTurn_append.mpr ⟨owners, ?_⟩⟩
      · intro earlier later h succeeded
        rcases List.eq_nil_or_concat later with rfl | ⟨later, x, rfl⟩
        · rw [List.append_nil] at h
          rw [← h] at succeeded
          obtain ⟨pod, hpod, settled⟩ := kept'.settled succeeded
          exact ⟨pod, pod, hpod, settled, hpod, rfl⟩
        · -- the last turn keeps what the turns before it have kept
          have h' : turns ++ [(s, t)] = (earlier ++ later) ++ [x] := by simpa using h
          obtain ⟨hturns, hx⟩ := List.append_inj' h' rfl
          cases hx
          obtain ⟨pod, pod', hpod, settled, hpod', hspec⟩ := bound earlier later hturns succeeded
          obtain ⟨pod'', hpod'', _, same⟩ := turn_keeps takes hgiven hpod'
          refine ⟨pod, pod'', ?_, settled, hpod'', ?_⟩
          · cases later with
            | nil => exact hpod
            | cons y later => exact hpod
          · rw [← hspec]
            apply same
            rw [hspec]
            exact settled
      · intro y hy hok
        subst hy
        exact (turn_settles takes hgiven kept.identified hok).2 y rfl hok
  exact all.2

end

/-! ## A `DataPod` that is chosen by its selector -/

def labelledNode (name uid : String) : DataNode :=
  { sampleNode name uid with metadata :=
      { (sampleNode name uid).metadata with labels := some (.ofList [("app", "replica")]) } }

/-- A `DataPod` without a proper path, for the `DataNode`s labelled `app=replica`. -/
def selectingPod : DataPod where
  metadata := { name := some "pod", ns := some "default", uid := some "2" }
  spec := ⟨some "/", none, some (.ofList [("app", "replica")]), none⟩
  status := none

def selectingCluster (nodes : List DataNode) : Cluster where
  dataNodes := nodes
  dataPods := [selectingPod]
  replicaSets := []
  pvcs := []
  pods := []
  uids := ["1", "2", "3"]

/-- After the first pass the selector finds another `DataNode`. -/
theorem binding_stable_one : ∃ (turns : List (Cluster × BindingTurn)) (s : Cluster),
    (bindingService sampleSelects "default" "pod").Session
      (selectingCluster [labelledNode "n" "1"]) turns s ∧
    (∃ x ∈ turns, x.2.Succeeds) ∧ s.dataNodes = [labelledNode "m" "3"] ∧
    (∃ pod, s.stored "default" "pod" = .ok pod ∧
      pod.spec.dataNodeRef = some ⟨"n", some "default"⟩) ∧
    StaysBound "default" "pod" turns s := by
  obtain ⟨τ, action, s, pod, hfollow, hpod, href⟩ : ∃ τ action s pod,
      selectingPod.reconcile.follow (Cluster.serve sampleSelects) 40
        (selectingCluster [labelledNode "n" "1"]) = some (τ, .pure action, s) ∧
      s.stored "default" "pod" = .ok pod ∧ pod.spec.dataNodeRef = some ⟨"n", some "default"⟩ :=
    ⟨_, _, _, _, rfl, rfl, rfl⟩
  have sound : ∀ s c a s', Cluster.serve sampleSelects s c = some (a, s') →
      (bindingService sampleSelects "default" "pod").answers s c a s' := by
    intro s c a s' h
    exact ⟨s', .inl (clusterEnv_of_reliable (clusterEnv_of_serve h)), rfl⟩
  have handled : (bindingService sampleSelects "default" "pod").Takes
      (selectingCluster [labelledNode "n" "1"]) (.handled ⟨selectingPod, τ, .ok action⟩) s :=
    .handle (Prog.exec_of_follow sound hfollow) rfl
  have moved : (bindingService sampleSelects "default" "pod").Takes s .disturbed
      { s with dataNodes := [labelledNode "m" "3"] } := .disturb rfl
  have session := (Service.Session.start.turn handled).turn moved
  refine ⟨_, _, session, ⟨_, List.mem_cons_self, action, rfl⟩, rfl, ⟨pod, hpod, href⟩,
    (binding_stable session ?_ ?_).1⟩
  · intro x hx self hself
    rcases List.mem_cons.mp hx with rfl | hx
    · cases hself
      rfl
    · rw [List.mem_singleton.mp hx] at hself
      cases hself
  · intro pod' hpod'
    cases hpod'
    decide

end Kubedal
