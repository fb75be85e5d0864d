import Kubedal.Resource.ReplicaCollection

/-!
# The stages of a pass

How far a pass over a `DataReplicaSet` is with placing its replicas, told from the answers it
got, and which requests it makes in which stage.

* `PlaceStage.placing` carries the placements that a pass still has in mind;
* `passMonitor` is the protocol; `reconcileSet_stages` and `reconcilePod_stages` show that the
  controllers follow it.
-/

namespace Kubedal

open Interaction Kube Resource

/-! ## Stages -/

/-- The placements a pass has in mind when it has counted `count` replicas and is told the
nodes: each missing index with the last node that is left. -/
def Resource.DataReplicaSet.placements (self : DataReplicaSet) (count : ℕ) (source : DataNode)
    (nodes : List DataNode) : List (ℕ × DataNode) :=
  (List.range' count (self.spec.replicas - count)).zip
    (nodes.filter fun node => node.metadata.uid ≠ source.metadata.uid).reverse

/-- How far a pass is with placing replicas. -/
inductive PlaceStage where
  | start
  | counted (count : ℕ)
  /-- The source was found, and this is the name of its first owner. -/
  | found (count : ℕ) (owner : String)
  | sourced (count : ℕ) (source : DataNode)
  /-- What is left to place, each index on its node. -/
  | placing (todo : List (ℕ × DataNode))

namespace PlaceStage

def gotCount (g : PlaceStage) : Except KubeError (List DataPod) → PlaceStage
  | .ok pods => .counted pods.length
  | .error _ => g

def gotSource (g : PlaceStage) : Except KubeError DataPod → PlaceStage
  | .ok source =>
    match g, (ownerReferences source).head? with
    | .counted count, some owner => .found count owner.name
    | _, _ => g
  | .error _ => g

def gotNode (g : PlaceStage) : Except KubeError DataNode → PlaceStage
  | .ok node =>
    match g with
    | .found count _ => .sourced count node
    | _ => g
  | .error _ => g

def gotNodes (self : DataReplicaSet) (g : PlaceStage) :
    Except KubeError (List DataNode) → PlaceStage
  | .ok nodes =>
    match g with
    | .sourced count source => .placing (self.placements count source nodes)
    | _ => g
  | .error _ => g

def placed (g : PlaceStage) : Except KubeError DataPod → PlaceStage
  | .ok _ =>
    match g with
    | .placing (_ :: rest) => .placing rest
    | _ => g
  | .error _ => g

/-- The stage of a pass over the set after a call and its answer. -/
def next (self : DataReplicaSet) (g : PlaceStage) : (c : Call) → c.Reply → PlaceStage
  | .kube (.listDataPods _ _), a => g.gotCount a
  | .kube (.getDataPod _ _), a => g.gotSource a
  | .kube (.getDataNode _ _), a => g.gotNode a
  | .kube (.listDataNodes _ _), a => g.gotNodes self a
  | .kube (.createDataPod _ _), a => g.placed a
  | _, _ => g

end PlaceStage

/-! ## The protocol -/

/-- The `DataPod` that a pass over the set sends for the index and the node. -/
structure ReplicaOf (drs : DataReplicaSet) (index : ℕ) (node : DataNode) (pod : DataPod) :
    Prop where
  named : ∃ uid, drs.metadata.uid = some uid ∧
    pod.metadata.name = some (replicaName uid index)
  path : pod.spec.path = some ("/replica-" ++ toString index)
  nodeRef : pod.spec.dataNodeRef = some ⟨nameAny node, namespaceOf node⟩

/-- The patch leaves the path and the `DataNode` as the `DataPod` has them. -/
structure KeepsPlace (dataPod : DataPod) (ns : String) (patch : DataPodPatch) : Prop where
  path : ∀ path, DataPod.properPath dataPod.spec = some path → patch.spec.path = some path
  nodeRef : ∀ ref, dataPod.spec.dataNodeRef = some ref →
    patch.spec.dataNodeRef = some ⟨ref.name, some ns⟩

/-- The calls of a pass in a stage. -/
def Pass.Allows : Pass → PlaceStage → Call → Prop
  | .reconcileSet self, _, .kube (.getDataPod ns name) =>
    namespaceOf self = some ns ∧ name = self.spec.sourcePod.name
  | .reconcileSet self, g, .kube (.getDataNode ns name) =>
    namespaceOf self = some ns ∧ ∃ count, g = .found count name
  | .reconcileSet self, _, .kube (.listDataNodes ns params) =>
    namespaceOf self = some ns ∧ params = {}
  | .reconcileSet self, g, .kube (.createDataPod ns pod) =>
    namespaceOf self = some ns ∧
      ∃ index node rest, g = .placing ((index, node) :: rest) ∧ ReplicaOf self index node pod
  | .reconcilePod self, _, .kube (.applyDataPod ns name patch) =>
    namespaceOf self = some ns ∧ name = nameAny self ∧ KeepsPlace self ns patch
  | .reconcilePod _, _, .kube (.createDataPod _ _) => False
  | .reconcileSet _, _, .kube (.applyDataPod _ _ _) => False
  | _, _, .kube (.applyDataNodeStatus _ _ _) => False
  | _, _, _ => True

/-- The stage of a pass after a call and its answer. -/
def Pass.next : Pass → PlaceStage → (c : Call) → c.Reply → PlaceStage
  | .reconcileSet self, g, c, a => g.next self c a
  | _, g, _, _ => g

/-- A `DataNode` is returned only under its own name. -/
def FoundAt : (c : Call) → c.Reply → Prop
  | .kube (.getDataNode ns name), r => ∀ node : DataNode, r = Except.ok node → At ns name node
  | _, _ => True

/-- A pass together with its stage, as a monitor. -/
def passMonitor : Monitor signature (Pass × PlaceStage) where
  allows := fun g c => g.1.Allows g.2 c
  assumes := fun _ c a => FoundAt c a
  next := fun g c a => (g.1, g.1.next g.2 c a)

/-- Where a pass starts. -/
def Pass.start (r : Pass) : Pass × PlaceStage := (r, .start)

@[simp] lemma passMonitor_after_fst (g : Pass × PlaceStage) (τ : List (Event signature)) :
    (passMonitor.after g τ).1 = g.1 := by
  induction τ generalizing g with
  | nil => rfl
  | cons e τ ih => exact ih _

lemma foundAt_of_answers {selects : Selects} {s : Cluster} {c : Call} {a : c.Reply}
    (h : s.Answers selects True c a) : FoundAt c a := by
  rcases c with c | c | c | c | c | _ | _
  case kube =>
    cases c
    case getDataNode ns name =>
      intro node hnode
      subst hnode
      have hget : .ok node = getFrom s.dataNodes ns name := replies_of_answers h
      exact (getFrom_ok hget.symm).2
    all_goals trivial
  all_goals trivial

/-! ## The controller of `DataReplicaSet`s follows the protocol -/

/-- The call does nothing that a stage depends on. -/
def Call.Unstaged : Call → Prop
  | .kube (.createPvc _ _) => True
  | .kube (.createPod _ _) => True
  | .sampleAlphanumeric _ => True
  | _ => False

section
variable {self : DataReplicaSet} {g : PlaceStage} {ns : String}

lemma wp_unstaged {α : Type} {p : Reconcile α}
    {Q : Pass × PlaceStage → Except (Fault Error) α → Prop} (hp : p.Uses Call.Unstaged)
    (hQ : ∀ result, Q (.reconcileSet self, g) result) :
    p.wp passMonitor (.reconcileSet self, g) Q := by
  refine hp.wp (fun c hc => ?_) (fun c a hc => ?_) hQ
  all_goals
    rcases c with c | c | c | c | c | _ | _
    case kube =>
      cases c
      all_goals trivial
    all_goals trivial

lemma createReplicaDataPod_stages {index : ℕ} {node : DataNode} {rest : List (ℕ × DataNode)}
    {Q : Pass × PlaceStage → Except (Fault Error) DataPod → Prop}
    (hns : namespaceOf self = some ns)
    (ok : ∀ pod, Q (.reconcileSet self, .placing rest) (.ok pod))
    (error : ∀ e, Q (.reconcileSet self, .placing ((index, node) :: rest)) (.error e)) :
    (createReplicaDataPod index self node ns).wp passMonitor
      (.reconcileSet self, .placing ((index, node) :: rest)) Q := by
  unfold createReplicaDataPod
  refine Prog.wp_bind (wp_orReturn (fun uid huid => ?_) fun _ _ => error _)
  refine Prog.wp_bind (wp_orReturn (fun drsNs _ => ?_) fun _ _ => error _)
  refine Prog.wp_bind (wp_orReturn (fun owner _ => ?_) fun _ _ => error _)
  refine wp_request ⟨hns, index, node, rest, rfl, ?_⟩ (fun pod _ => ok pod) fun e _ => error _
  exact ⟨⟨uid, eq_some_of_okOr huid, rfl⟩, rfl, rfl⟩

/-- The loop makes the placements one by one. -/
lemma createReplicas_stages (hns : namespaceOf self = some ns) (indices : List ℕ)
    (nodes : List DataNode) (acc : List (DataPod × PersistentVolumeClaim)) :
    (createReplicas self ns indices nodes acc).wp passMonitor
      (.reconcileSet self, .placing (indices.zip nodes.reverse)) fun g _ =>
        ∃ todo, g = (.reconcileSet self, .placing todo) := by
  induction indices generalizing nodes acc with
  | nil => exact ⟨_, rfl⟩
  | cons index rest ih =>
    unfold createReplicas
    cases hlast : nodes.getLast? with
    | none => exact ⟨_, rfl⟩
    | some node =>
      -- the last node is the first of the reversed list
      have hnodes : nodes.reverse = node :: nodes.dropLast.reverse := by
        obtain ⟨front, rfl⟩ := List.getLast?_eq_some_iff.mp hlast
        simp
      rw [hnodes, List.zip_cons_cons]
      refine Prog.wp_bind (createReplicaDataPod_stages hns (fun pod => ?_) fun e => ⟨_, rfl⟩)
      refine Prog.wp_bind (wp_unstaged (uses_createReplicaPvc trivial fun _ _ => trivial)
        fun result => ?_)
      rcases result with e | pvc
      · exact ⟨_, rfl⟩
      · exact ih _ _

lemma fetchSource_stages {count : ℕ}
    {Q : Pass × PlaceStage → Except (Fault Error) (DataPod × DataNode) → Prop}
    (hns : namespaceOf self = some ns)
    (ok : ∀ source node, Q (.reconcileSet self, .sourced count node) (.ok (source, node)))
    (error : ∀ g e, Q (.reconcileSet self, g) (.error e)) :
    (self.fetchSource ns).wp passMonitor (.reconcileSet self, .counted count) Q := by
  unfold DataReplicaSet.fetchSource
  refine Prog.wp_bind (wp_request ⟨hns, rfl⟩ (fun (source : DataPod) _ => ?_)
    fun e _ => error _ _)
  refine Prog.wp_bind (wp_orReturn (fun owner howner => ?_) fun _ _ => error _ _)
  have hstage : passMonitor.next (.reconcileSet self, .counted count)
      (.kube (.getDataPod ns self.spec.sourcePod.name)) (Except.ok source) =
        (.reconcileSet self, .found count owner.name) := by
    show (Pass.reconcileSet self, PlaceStage.gotSource (.counted count) (.ok source)) = _
    simp only [PlaceStage.gotSource, eq_some_of_okOr howner]
  rw [hstage]
  exact Prog.wp_bind (wp_request ⟨hns, count, rfl⟩ (fun (node : DataNode) _ => ok source node)
    fun e _ => error _ _)

lemma createMissing_stages (hns : namespaceOf self = some ns) (count : ℕ) :
    (self.createMissing ns count).wp passMonitor (.reconcileSet self, .counted count)
      fun _ _ => True := by
  unfold DataReplicaSet.createMissing
  refine Prog.wp_bind (fetchSource_stages hns (fun source node => ?_) fun _ _ => trivial)
  refine Prog.wp_bind (wp_request ⟨hns, rfl⟩ (fun (nodes : List DataNode) _ => ?_)
    fun e _ => trivial)
  refine Prog.wp_bind (Prog.wp_mono (createReplicas_stages hns _ _ _) fun g result hg => ?_)
  obtain ⟨todo, rfl⟩ := hg
  rcases result with e | replicas
  · trivial
  refine Prog.wp_bind (wp_unstaged (uses_createReplicaPvc trivial fun _ _ => trivial)
    fun result => ?_)
  rcases result with e | pvc
  · trivial
  refine Prog.wp_bind (wp_unstaged (uses_createReplicaPod trivial fun _ _ => trivial)
    fun result => ?_)
  rcases result with e | pod
  all_goals trivial

lemma compareCount_stages (hns : namespaceOf self = some ns) (count : ℕ) :
    (self.compareCount ns count).wp passMonitor (.reconcileSet self, .counted count)
      fun _ _ => True := by
  unfold DataReplicaSet.compareCount
  split
  · trivial
  split
  · refine Prog.wp_bind (Prog.wp_mono (createMissing_stages hns count) fun g result _ => ?_)
    rcases result with e | _
    all_goals trivial
  · trivial

/-- A pass over a set goes through the stages. -/
lemma reconcileSet_stages (self : DataReplicaSet) :
    self.reconcile.wp passMonitor (.reconcileSet self, .start) fun _ _ => True := by
  unfold DataReplicaSet.reconcile
  split
  · trivial
  unfold DataReplicaSet.reconcileReplicas
  refine Prog.wp_bind (wp_orReturn (fun ns hns => ?_) fun _ _ => trivial)
  refine Prog.wp_bind (wp_request trivial (fun (pods : List DataPod) _ => ?_) fun e _ => trivial)
  exact compareCount_stages (eq_some_of_okOr hns) pods.length

end

/-! ## The controller of `DataPod`s follows the protocol -/

/-- The call is none of those that a pass over a `DataPod` has to be careful with. -/
def Call.Harmless : Call → Prop
  | .kube (.createDataPod _ _) => False
  | .kube (.applyDataPod _ _ _) => False
  | .kube (.applyDataNodeStatus _ _ _) => False
  | _ => True

section
variable {self : DataPod} {ns : String}

lemma allows_of_harmless {c : Call} (h : c.Harmless) :
    passMonitor.allows (.reconcilePod self, .start) c := by
  rcases c with c | c | c | c | c | _ | _
  case kube =>
    cases c
    all_goals trivial
  all_goals trivial

lemma wp_harmless {α : Type} {p : Reconcile α}
    {Q : Pass × PlaceStage → Except (Fault Error) α → Prop} (hp : p.Uses Call.Harmless)
    (hQ : ∀ result, Q (.reconcilePod self, .start) result) :
    p.wp passMonitor (.reconcilePod self, .start) Q :=
  hp.wp (fun _ hc => allows_of_harmless hc) (fun _ _ _ => rfl) hQ

/-- A path that is given is kept. -/
lemma newPath_stages :
    (DataPod.newPath self).wp passMonitor (.reconcilePod self, .start) fun g result =>
      g = (.reconcilePod self, .start) ∧ ∀ path generated, result = .ok (path, generated) →
        ∀ proper, DataPod.properPath self.spec = some proper → path = proper := by
  unfold DataPod.newPath
  cases DataPod.properPath self.spec with
  | some proper =>
    refine ⟨rfl, fun path generated hresult proper' hproper => ?_⟩
    cases hresult
    exact Option.some.inj hproper
  | none =>
    refine wp_harmless ((uses_expect _ _).bind fun _ => trivial) fun result => ⟨rfl, ?_⟩
    exact fun _ _ _ _ h => (by cases h)

/-- A `DataNode` that is referred to is looked up by its name. -/
lemma chooseDataNode_stages :
    (DataPod.chooseDataNode self ns).wp passMonitor (.reconcilePod self, .start) fun g result =>
      g = (.reconcilePod self, .start) ∧ ∀ node, result = .ok node →
        ∀ ref, self.spec.dataNodeRef = some ref → At ns ref.name node := by
  unfold DataPod.chooseDataNode
  cases self.spec.dataNodeRef with
  | some nodeRef =>
    refine wp_request trivial (fun (node : DataNode) found => ⟨rfl, ?_⟩) fun e _ => ⟨rfl, by simp⟩
    rintro node' ⟨⟩ ref ⟨⟩
    exact found node rfl
  | none =>
    cases self.spec.dataNodeSelector with
    | some selector =>
      refine wp_harmless ((uses_request _ trivial).bind fun _ => uses_expect _ _) fun result => ?_
      exact ⟨rfl, fun node _ ref href => (by cases href)⟩
    | none => exact ⟨rfl, fun node _ ref href => (by cases href)⟩

/-- A pass over a `DataPod` keeps its path, unless it has none, and its `DataNode`. -/
lemma reconcilePod_stages (self : DataPod) :
    self.reconcile.wp passMonitor (.reconcilePod self, .start) fun _ _ => True := by
  unfold DataPod.reconcile
  refine Prog.wp_bind (wp_orReturn (fun ns hns => ?_) fun _ _ => trivial)
  refine Prog.wp_bind (wp_request trivial (fun (dataPod : DataPod) _ => ?_) fun _ _ => trivial)
  refine Prog.wp_bind (Prog.wp_mono newPath_stages fun g result hpath => ?_)
  obtain ⟨rfl, hpath⟩ := hpath
  rcases result with e | ⟨path, generated⟩
  · trivial
  refine Prog.wp_bind (Prog.wp_mono chooseDataNode_stages fun g result hnode => ?_)
  obtain ⟨rfl, hnode⟩ := hnode
  rcases result with e | dataNode
  · trivial
  refine Prog.wp_bind (wp_orReturn (fun owner _ => ?_) fun _ _ => trivial)
  refine Prog.wp_bind (wp_expect (fun name _ => ?_) trivial)
  refine Prog.wp_bind (wp_request ⟨eq_some_of_okOr hns, rfl, ?_, ?_⟩
    (fun (newDataPod : DataPod) _ => ?_) fun _ _ => trivial)
  · intro proper hproper
    show some path = some proper
    rw [hpath path generated rfl proper hproper]
  · intro ref href
    have hat : At ns ref.name dataNode := hnode dataNode rfl ref href
    have hdns : dataNode.metadata.ns = some ns := hat.1
    show some (⟨nameAny dataNode, some (dataNode.metadata.ns.getD "")⟩ : Ref) = _
    rw [nameAny_of_at hat, hdns]
    rfl
  · refine Prog.wp_bind (wp_harmless (uses_publishChanged fun _ _ => trivial) fun result => ?_)
    rcases result with e | _
    all_goals trivial

end

end Kubedal
