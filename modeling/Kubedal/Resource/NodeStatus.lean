import Kubedal.Resource.ClaimOrigin
import Kubedal.Utils.Identity

/-!
# The status of a `DataNode`

`DataNode::reconcile` sets the status once, after the check of the operator, and by the name of the
node.

* `CheckPassed`: the pass has built the operator of the node it was handed, and the check of it has
  passed;
* `status_checked`: in every run of the reconcilers in which users edit no node, a status says that
  this has happened, for a node of the same namespace and name, and where that is the same node, for
  its own spec.
-/

namespace Kubedal

open Interaction Kube Resource

/-! ## What a pass has seen when it sets a status -/

/-- The node had no status, and the check of its operator has passed. -/
structure CheckPassed (self : DataNode) (past : List (Event signature)) : Prop where
  bare : self.status = none
  passed : ∃ operator, BuiltFor past self operator ∧
    Saw past (.opendal (.check operator)) (Except.ok ())

/-- The pass may set this status. -/
def MayInitialize (self : DataNode) (past : List (Event signature)) : Call → Prop
  | .kube (.applyDataNodeStatus ns name status) => status = ⟨true, ⟨"0"⟩⟩ ∧
    namespaceOf self = some ns ∧ name = nameAny self ∧ CheckPassed self past
  | _ => True

/-- The requests of a pass are monitored by their past. -/
def statusMonitor (self : DataNode) : Monitor signature (List (Event signature)) :=
  Monitor.history (MayInitialize self) fun _ _ => True

section
variable {self : DataNode} {past : List (Event signature)}

/-- A call that sets no status. -/
def NoStatus : Call → Prop
  | .kube (.applyDataNodeStatus _ _ _) => False
  | _ => True

lemma NoStatus.allowed {c : Call} (h : NoStatus c) (past : List (Event signature)) :
    MayInitialize self past c := by
  unfold MayInitialize
  split
  · exact h.elim
  · trivial

/-- The operator that the pass checks is built for its node. -/
lemma getOperator_built : (getOperator self).wp (statusMonitor self) past fun g result =>
    ∀ operator, result = .ok operator → BuiltFor g self operator := by
  have quiet : (getOperator self).Uses NoStatus :=
    uses_getOperator (fun _ _ _ _ => trivial) fun _ => trivial
  -- which request a publish is for does not matter to what it has built
  have built : (getOperator self).wp (publishMonitor ⟨"", "", none, false, ∅⟩) past _ :=
    getOperator_past
  refine Prog.wp_mono (quiet.wp_history_of (fun past c h => h.allowed past) built) ?_
  intro g result h operator hresult
  exact (h operator hresult).1

lemma BuiltFor.append {node : DataNode} {operator : Operator} {τ : List (Event signature)}
    (h : BuiltFor past node operator) : BuiltFor (past ++ τ) node operator := by
  refine ⟨h.backend, h.config, fun ref href => ?_⟩
  obtain ⟨ns, secret, hns, saw, hconfig⟩ := h.secret ref href
  exact ⟨ns, secret, hns, saw.append, hconfig⟩

/-- A pass over a `DataNode` sets its status only after a passed check. -/
theorem reconcileNode_initializes :
    self.reconcile.wp (statusMonitor self) [] fun _ _ => True := by
  unfold DataNode.reconcile
  split
  · trivial
  rename_i bare
  unfold DataNode.initialize
  refine Prog.wp_bind (wp_orReturn (fun ns hns => ?_) fun e _ => trivial)
  refine Prog.wp_bind (Prog.wp_mapError (Prog.wp_mono getOperator_built fun g result built => ?_))
  rcases result with e | operator
  · trivial
  have built := built operator rfl
  refine Prog.wp_bind ⟨trivial, fun checked _ => ?_⟩
  rcases checked with e | _
  · trivial
  -- the check has passed
  have passed : CheckPassed self (g ++ [⟨.opendal (.check operator), Except.ok ()⟩]) :=
    ⟨by simpa using bare, operator, built.append, saw_last _ _⟩
  have may : MayInitialize self (g ++ [⟨.opendal (.check operator), Except.ok ()⟩])
      (.kube (.applyDataNodeStatus ns (nameAny self) ⟨true, ⟨"0"⟩⟩)) :=
    ⟨rfl, eq_some_of_okOr hns, rfl, passed⟩
  refine Prog.wp_bind (wp_orReturn (fun _ _ => ?_) fun e _ => trivial)
  refine Prog.wp_bind (wp_request may (fun node _ => ?_) fun e _ => trivial)
  exact Prog.wp_bind (wp_request trivial (fun _ _ => trivial) fun e _ => trivial)

end

/-- What a pass may do to a status. -/
def Pass.SetsStatus : Pass → Call → Prop
  | .reconcileNode _, _ => True
  | _, c => NoStatus c

lemma program_setsStatus (r : Pass) : r.program.Uses r.SetsStatus := by
  cases r with
  | reconcileSet self =>
    apply uses_reconcileSet
    all_goals intros; trivial
  | reconcilePod self =>
    apply uses_reconcilePod
    all_goals intros; trivial
  | reconcileNode self =>
    apply uses_reconcileNode
    all_goals intros; trivial
  | cleanupSet self => exact uses_deleteRequested self fun _ _ => trivial
  | cleanupPod self => exact uses_deleteRequested self fun _ _ => trivial
  | cleanupNode self => exact uses_deleteRequested self fun _ _ => trivial

/-- Only a pass over a `DataNode` sets a status, and only after a passed check. -/
lemma node_of_applyStatus {σ : Type} {R : σ → (c : Call) → c.Reply → σ → Prop} {r : Pass}
    {s s' : σ} {past : List (Event signature)} {ns name : String} {status : DataNodeStatus}
    {q : Reconcile Action} {a : Except KubeError DataNode}
    (run : Prog.Exec (S := signature) R r.program s
      (past ++ [⟨.kube (.applyDataNodeStatus ns name status), a⟩]) q s') :
    ∃ self, r = .reconcileNode self ∧ status = ⟨true, ⟨"0"⟩⟩ ∧ namespaceOf self = some ns ∧
      name = nameAny self ∧ CheckPassed self past := by
  have sets := run.uses (program_setsStatus r) _ (List.mem_append_right _ List.mem_cons_self)
  cases r with
  | reconcileNode self =>
    have may := Prog.wp_event reconcileNode_initializes run fun _ _ _ _ _ _ => trivial
    rw [statusMonitor, Monitor.history_after] at may
    exact ⟨self, rfl, may⟩
  | reconcileSet _ => exact sets.elim
  | reconcilePod _ => exact sets.elim
  | cleanupSet _ => exact sets.elim
  | cleanupPod _ => exact sets.elim
  | cleanupNode _ => exact sets.elim

/-! ## The nodes of the cluster -/

/-- What can happen besides the passes, where nobody else writes statuses. -/
def Cluster.ChangesBare (s s' : Cluster) : Prop :=
  s.Changes s' ∧ ∀ node ∈ s'.dataNodes, node ∈ s.dataNodes ∨ node.status = none

/-- Every node has a uid that was given out, and every uid stands for one spec. -/
abbrev SpecsFixed (nodes : List DataNode) (uids : List String) : Prop :=
  Fixed uidOf DataNode.spec nodes uids

/-- The node is one of `nodes`, but for its status. -/
abbrev SameNode (nodes : List DataNode) (node : DataNode) : Prop :=
  SameAs uidOf DataNode.spec nodes node

section
variable {s s' : Cluster} {node : DataNode} {c : Call} {a : c.Reply}

lemma mem_putDataNode {ns name : String} {new : DataNode}
    (h : node ∈ (s.putDataNode ns name new).dataNodes) : node ∈ s.dataNodes ∨ node = new := by
  obtain ⟨k, hk, rfl⟩ := List.mem_map.mp h
  by_cases hat : At ns name k
  · rw [if_pos hat]
    exact .inr rfl
  · rw [if_neg hat]
    exact .inl hk

/-- A call takes back no uid. -/
lemma uids_next (s : Cluster) (c : Call) (a : c.Reply) : s.uids ⊆ (s.next c a).uids := by
  rcases c with c | c | c | c | c | _ | _
  case kube =>
    rcases a with e | object
    · exact List.Subset.refl _
    cases c
    case createDataPod => exact List.subset_append_right _ _
    case createPvc => exact List.subset_append_right _ _
    case createPod => exact List.subset_append_right _ _
    case applyDataPod ns name patch => exact putDataPod_uids s ns name object
    all_goals exact List.Subset.refl _
  all_goals exact List.Subset.refl _

/-- A node that was not there has been answered to the call. -/
lemma mem_next_dataNodes (h : node ∈ (s.next c a).dataNodes) :
    node ∈ s.dataNodes ∨ ∃ ns name status, (⟨c, a⟩ : Event signature) =
      ⟨.kube (.applyDataNodeStatus ns name status), Except.ok node⟩ := by
  rcases c with c | c | c | c | c | _ | _
  case kube =>
    rcases a with e | object
    · exact .inl h
    cases c
    case applyDataNodeStatus ns name status =>
      rcases mem_putDataNode h with h | rfl
      · exact .inl h
      · exact .inr ⟨ns, name, status, rfl⟩
    case applyDataPod ns name patch =>
      have same : (s.putDataPod ns name object).dataNodes = s.dataNodes := by
        unfold Cluster.putDataPod
        split <;> rfl
      exact .inl (same ▸ h)
    all_goals exact .inl h
  all_goals exact .inl h

/-- A status that is set leaves everything else of the node. -/
lemma of_applyStatus {selects : Selects} {ns name : String} {status : DataNodeStatus}
    (h : s.Answers selects True (.kube (.applyDataNodeStatus ns name status)) (Except.ok node)) :
    At ns name node ∧ node.status = some status ∧ SameNode s.dataNodes node := by
  have replied : Except.ok node =
      (getFrom s.dataNodes ns name).map fun node => { node with status := some status } :=
    replies_of_answers h
  cases hget : getFrom s.dataNodes ns name with
  | error e =>
    rw [hget] at replied
    cases replied
  | ok old =>
    rw [hget] at replied
    cases replied
    obtain ⟨hmem, hat⟩ := getFrom_ok hget
    exact ⟨hat, rfl, old, hmem, rfl, rfl⟩

end

/-! ## Runs of the reconcilers -/

section
variable {selects : Selects} {s₀ : Cluster} {steps : List ClusterTransition} {P : ClusterPool}
  {node : DataNode}

/-- A step leaves the nodes with their specs, or adds one. -/
lemma advances_of_nodeStep {P P' : ClusterPool} {l : Label signature Pass}
    (last : (reconcilers selects Cluster.ChangesBare).Step P l P')
    (fixed : SpecsFixed P.state.dataNodes P.state.uids) :
    Advances uidOf DataNode.spec P.state.dataNodes P.state.uids P'.state.dataNodes
      P'.state.uids := by
  have there : ∀ node ∈ P.state.dataNodes, SameNode P.state.dataNodes node := fun _ => .of_mem
  cases l with
  | arrives r =>
    rw [Service.step_arrives last]
    exact fixed.advances_of_same (List.Subset.refl _) there
  | disturbed =>
    cases last with
    | disturb moved =>
      cases moved.1 with
      | @addNode node uid named fresh =>
        exact fixed.advances_of_add named fresh (List.subset_cons_self _ _) List.mem_cons_self
      | removeNode uid =>
        exact fixed.advances_of_same (List.Subset.refl _) fun k h =>
          there k (List.mem_filter.mp h).1
      | addDataPod named fresh =>
        exact fixed.advances_of_same (List.subset_append_right _ _) there
      | addSet named fresh => exact fixed.advances_of_same (List.subset_cons_self _ _) there
      | removeSet uid => exact fixed.advances_of_same (List.Subset.refl _) there
      | collect => exact fixed.advances_of_same (List.Subset.refl _) there
  | answered r past e =>
    obtain ⟨c, a⟩ := e
    obtain ⟨_, _, _, _, ⟨answered, hstate⟩, _⟩ := Service.step_answered last
    rw [hstate]
    refine fixed.advances_of_same (uids_next _ _ _) fun node hnode => ?_
    rcases mem_next_dataNodes hnode with hnode | ⟨ns, name, status, heq⟩
    · exact there node hnode
    · cases heq
      exact (of_applyStatus answered).2.2

/-- A node without a status, or one that was answered to a call that sets it. -/
lemma status_origin (bare : ∀ node ∈ s₀.dataNodes, node.status = none)
    (run : (reconcilers selects Cluster.ChangesBare).Run s₀ steps P)
    (there : node ∈ P.state.dataNodes) :
    node.status = none ∨ ∃ x ∈ steps, ∃ r past ns name status, x.label =
      .answered r past ⟨.kube (.applyDataNodeStatus ns name status), Except.ok node⟩ := by
  induction run with
  | start => exact .inl (bare node there)
  | @step steps P P' l run last ih =>
    have earlier : node ∈ P.state.dataNodes → node.status = none ∨
        ∃ x ∈ steps ++ [⟨P, l, P'⟩], ∃ r past ns name status, x.label =
          .answered r past ⟨.kube (.applyDataNodeStatus ns name status), Except.ok node⟩ := by
      intro h
      refine (ih h).imp_right ?_
      rintro ⟨x, hx, set⟩
      exact ⟨x, List.mem_append_left _ hx, set⟩
    cases l with
    | arrives r =>
      rw [Service.step_arrives last] at there
      exact earlier there
    | disturbed =>
      cases last with
      | disturb moved =>
        rcases moved.2 node there with h | h
        · exact earlier h
        · exact .inl h
    | answered r past e =>
      obtain ⟨c, a⟩ := e
      obtain ⟨_, _, _, _, ⟨_, hstate⟩, _⟩ := Service.step_answered last
      rw [hstate] at there
      rcases mem_next_dataNodes there with h | ⟨ns, name, status, heq⟩
      · exact earlier h
      · rw [heq]
        exact .inr ⟨_, List.mem_append_right _ List.mem_cons_self, r, past, ns, name, status, rfl⟩

/-- Passes are handed nodes that are or were in the cluster. -/
def HandedNodes (steps : List ClusterTransition) : Prop :=
  ∀ x ∈ steps, ∀ self, x.label = .arrives (.reconcileNode self) →
    ∃ y ∈ steps, self ∈ y.source.state.dataNodes

/-- A pass over `self` has set the status of the node, which has the namespace and the name of
`self`, after the check for `self` has passed. -/
structure InitializedBy (steps : List ClusterTransition) (node self : DataNode)
    (past : List (Event signature)) : Prop where
  set : ∃ x ∈ steps, ∃ ns name, x.label = .answered (.reconcileNode self) past
    ⟨.kube (.applyDataNodeStatus ns name ⟨true, ⟨"0"⟩⟩), Except.ok node⟩
  named : ∃ ns, namespaceOf self = some ns ∧ At ns (nameAny self) node
  checked : CheckPassed self past
  spec : uidOf self = uidOf node → self.spec = node.spec

lemma InitializedBy.of_step (run : (reconcilers selects Cluster.ChangesBare).Run s₀ steps P)
    (init : SpecsFixed s₀.dataNodes s₀.uids) (handed : HandedNodes steps)
    (there : node ∈ P.state.dataNodes) {x : ClusterTransition} (hx : x ∈ steps) {r : Pass}
    {past : List (Event signature)} {ns name : String} {status : DataNodeStatus}
    (hlabel : x.label = .answered r past
      ⟨.kube (.applyDataNodeStatus ns name status), Except.ok node⟩) :
    node.status = some ⟨true, ⟨"0"⟩⟩ ∧ ∃ self past, InitializedBy steps node self past := by
  obtain ⟨earlier, hearlier, run', last⟩ := run.of_mem hx
  rw [hlabel] at last
  obtain ⟨q, exec⟩ := run'.exec_of_step last
  obtain ⟨self, rfl, rfl, hns, rfl, checked⟩ := node_of_applyStatus exec
  obtain ⟨_, _, _, hrunning, ⟨answered, _⟩, _⟩ := Service.step_answered last
  obtain ⟨hat, hstatus, _⟩ := of_applyStatus answered
  refine ⟨hstatus, self, past, ⟨x, hx, ns, _, hlabel⟩, ⟨ns, hns, hat⟩, checked, fun hid => ?_⟩
  -- what the pass was handed was in the cluster at some time
  obtain ⟨x₀, hx₀, harrives⟩ := run'.arrived.running _ (Pool.mem_of_waiting hrunning)
  have hpre : earlier <+: steps := (List.prefix_append _ _).trans hearlier
  obtain ⟨y, hy, hself⟩ := handed x₀ (hpre.subset hx₀) self harrives
  have fixed : SpecsFixed (seenIn Cluster.dataNodes steps P) P.state.uids :=
    run.fixed init fun _ _ _ => advances_of_nodeStep
  exact fixed.same self (mem_seenIn hy hself) node (List.mem_append_right _ there) hid

/-- Over every run of the reconcilers in which users add and remove objects, but edit none, and
whichever requests fail: a `DataNode` has a status only where a pass over a node of its namespace
and name has built the operator and has checked it with success, and where that node has its uid,
the operator was built for its spec. -/
theorem status_checked (init : SpecsFixed s₀.dataNodes s₀.uids)
    (bare : ∀ node ∈ s₀.dataNodes, node.status = none)
    (run : (reconcilers selects Cluster.ChangesBare).Run s₀ steps P) (handed : HandedNodes steps)
    (there : node ∈ P.state.dataNodes) :
    node.status = none ∨
      node.status = some ⟨true, ⟨"0"⟩⟩ ∧ ∃ self past, InitializedBy steps node self past := by
  rcases status_origin bare run there with h | ⟨x, hx, r, past, ns, name, status, hlabel⟩
  · exact .inl h
  · exact .inr (InitializedBy.of_step run init handed there hx hlabel)

end

/-! ## A status on another node -/

/-- The cluster as before, and a storage that is there. -/
def Cluster.serveStorage (s : Cluster) : (c : Call) → Option (c.Reply × Cluster)
  | .opendal c => some (sampleStorage [] c, s)
  | c => s.serve sampleSelects c

lemma Cluster.env_of_serveStorage (s : Cluster) (c : Call) (a : c.Reply) (s' : Cluster)
    (h : s.serveStorage c = some (a, s')) : clusterEnv sampleSelects True s c a s' := by
  unfold serveStorage at h
  split at h
  · cases h
    exact ⟨trivial, rfl⟩
  · exact clusterEnv_of_reliable (clusterEnv_of_serve h)

/-- One node, without a status. -/
def sampleNodes : Cluster := ⟨[sampleNode "n" "1"], [], [], [], [], ["1"]⟩

/-- Another node with its name. -/
def sampleSuccessor : DataNode := { sampleNode "n" "2" with spec := ⟨.s3, false, none, ∅⟩ }

lemma sampleNodes_removed : sampleNodes.ChangesBare (sampleNodes.withoutNode "1") :=
  ⟨.removeNode "1", by decide⟩

lemma sampleNodes_added : (sampleNodes.withoutNode "1").ChangesBare
    ⟨[sampleSuccessor], [], [], [], [], ["2", "1"]⟩ := by
  refine ⟨?_, by decide⟩
  have fresh : "2" ∉ (sampleNodes.withoutNode "1").uids := by decide
  exact .addNode rfl fresh

/-- A node is removed while its operator is checked, and the status is set on another node that was
added with its name. -/
theorem status_checked_successor : ∃ steps P node,
    (reconcilers sampleSelects Cluster.ChangesBare).Run sampleNodes steps P ∧
    node ∈ P.state.dataNodes ∧ node.spec = sampleSuccessor.spec ∧ node.status.isSome ∧
    (node.status = none ∨
      node.status = some ⟨true, ⟨"0"⟩⟩ ∧ ∃ self past, InitializedBy steps node self past) := by
  obtain ⟨τ₁, q₁, s₁, τ₂, action, s₂, node, hchecks, hwait, hs₁, hsets, hmem, hspec, hstatus⟩ :
      ∃ τ₁ q₁ s₁ τ₂ action s₂ node,
        Prog.follow Cluster.serveStorage 2 (sampleNode "n" "1").reconcile sampleNodes =
          some (τ₁, q₁, s₁) ∧
        q₁.outcome = none ∧ s₁ = sampleNodes ∧
        Prog.follow Cluster.serveStorage 10 q₁ ⟨[sampleSuccessor], [], [], [], [], ["2", "1"]⟩ =
          some (τ₂, .pure action, s₂) ∧
        node ∈ s₂.dataNodes ∧ node.spec = sampleSuccessor.spec ∧ node.status.isSome :=
    ⟨_, _, _, _, _, _, _, rfl, rfl, rfl, rfl, List.mem_singleton_self _, rfl, rfl⟩
  subst hs₁
  have exec₁ := Prog.exec_of_follow Cluster.env_of_serveStorage hchecks
  have exec₂ := Prog.exec_of_follow Cluster.env_of_serveStorage hsets
  -- the pass has checked the node
  have run₁ : (reconcilers sampleSelects Cluster.ChangesBare).Run sampleNodes _ _ :=
    .step .start (.arrive (r := .reconcileNode (sampleNode "n" "1")) trivial)
  rw [Pool.resume_of_none rfl] at run₁
  obtain ⟨steps₁, run₂, only₁, _⟩ := run₁.advance (fun _ _ _ _ h => h) [] [] rfl rfl exec₁
  rw [Pool.resume_of_none hwait] at run₂
  -- it is replaced
  have run₃ := run₂.step (.disturb sampleNodes_removed)
  have run₄ := run₃.step (.disturb sampleNodes_added)
  -- and the pass goes on
  obtain ⟨steps₂, run₅, only₂, _⟩ := run₄.advance (fun _ _ _ _ h => h) [] [] rfl hwait exec₂
  rw [Pool.resume_of_some rfl] at run₅
  have init : SpecsFixed sampleNodes.dataNodes sampleNodes.uids := by
    refine ⟨fun node h => ?_, fun node h node' h' _ => ?_⟩
    · rw [List.mem_singleton.mp h]
      exact ⟨"1", List.mem_singleton_self _, rfl⟩
    · rw [List.mem_singleton.mp h, List.mem_singleton.mp h']
  refine ⟨_, _, node, run₅, hmem, hspec, hstatus, status_checked init ?_ run₅ ?_ hmem⟩
  · intro node h
    rw [List.mem_singleton.mp h]
    rfl
  · intro x hx self h
    refine ⟨_, List.mem_append_left _ (List.mem_append_left _ (List.mem_append_left _
      (List.mem_append_left _ List.mem_cons_self))), ?_⟩
    simp only [List.nil_append, List.mem_append, List.mem_singleton] at hx
    rcases hx with (((rfl | hx) | rfl) | rfl) | hx
    · cases h
      exact List.mem_singleton_self _
    · obtain ⟨past, e, hlabel, _⟩ := only₁ x hx
      cases hlabel.symm.trans h
    · cases h
    · cases h
    · obtain ⟨past, e, hlabel, _⟩ := only₂ x hx
      cases hlabel.symm.trans h

end Kubedal
