import Kubedal.Resource.ReplicaStages

/-!
# Where the replicas are placed

Passes over `DataReplicaSet`s, while users create objects and change labels. Beside the cluster
the state records which `DataPod`s were created by passes: these are the replicas.

* `placementService` is this system;
* `Placed.Later`: what users do and what most requests do takes no place away;
* `spread_of_run`: the replicas of one set are on distinct `DataNode`s and not on that of the
  source, as long as every pass that lists the nodes would place replicas on vacant ones only.
-/

namespace Kubedal

open Interaction Kube Resource

/-! ## Places -/

/-- A `DataNode` by its namespace and name. -/
def place (node : DataNode) : Option String × String := (namespaceOf node, nameAny node)

/-- The `DataNode` that a `DataPod` refers to. -/
def Resource.DataPod.nodeRef (pod : DataPod) : Option (Option String × String) :=
  pod.spec.dataNodeRef.map fun ref => (ref.ns.or (namespaceOf pod), ref.name)

def Resource.DataPod.relabelled (pod : DataPod) (labels : Option (StringMap String)) : DataPod :=
  { pod with metadata := { pod.metadata with labels := labels } }

def Resource.DataReplicaSet.scaled (self : DataReplicaSet) (replicas : ℕ) : DataReplicaSet :=
  { self with spec := { self.spec with replicas := replicas } }

namespace Cluster

/-- No `DataPod` has the name of the replica with this index. -/
def NameFree (s : Cluster) (ns uid : String) (index : ℕ) : Prop :=
  ∀ pod ∈ s.dataPods, ¬ At ns (replicaName uid index) pod

instance (s : Cluster) (ns uid : String) : DecidablePred (s.NameFree ns uid) :=
  fun index => inferInstanceAs
    (Decidable (∀ pod ∈ s.dataPods, ¬ At ns (replicaName uid index) pod))

/-- The placements a pass gets to: it fails at the first name that is taken. -/
def reached (s : Cluster) (ns uid : String) (todo : List (ℕ × DataNode)) :
    List (ℕ × DataNode) :=
  todo.takeWhile fun x => s.NameFree ns uid x.1

/-- What users do: they create `DataPod`s and `DataNode`s and change labels of `DataPod`s. A
list of `DataNode`s is in no particular order. -/
inductive Edits (s : Cluster) : Cluster → Prop where
  | createDataPod {pod : DataPod} {ns name uid : String} (named : At ns name pod)
      (free : ∀ d ∈ s.dataPods, ¬ At ns name d) (identified : uidOf pod = some uid)
      (fresh : uid ∉ s.uids) : Edits s (s.addDataPod pod)
  | relabel (labels : DataPod → Option (StringMap String)) :
      Edits s { s with dataPods := s.dataPods.map fun pod => pod.relabelled (labels pod) }
  | createDataNode {before after : List DataNode} {node : DataNode} {uid : String}
      (others : s.dataNodes = before ++ after) (free : ∀ n ∈ s.dataNodes, place n ≠ place node)
      (identified : uidOf node = some uid) (fresh : uid ∉ s.uids) :
      Edits s { s with dataNodes := before ++ node :: after, uids := uid :: s.uids }

end Cluster

/-! ## The system -/

/-- The cluster, and the uids of the `DataPod`s that passes have created. -/
structure Placed where
  cluster : Cluster
  made : List String

namespace Placed

/-- The replicas, as they are now. -/
def replicas (s : Placed) : List DataPod :=
  s.cluster.dataPods.filter fun pod => ∃ uid ∈ s.made, uidOf pod = some uid

/-- The `DataNode`s that the replicas refer to. -/
def occupied (s : Placed) : List (Option (Option String × String)) :=
  s.replicas.map DataPod.nodeRef

/-- How a call of a pass is answered; what it creates is recorded. -/
def Answers (selects : Selects) (s : Placed) (c : Call) (a : c.Reply) (s' : Placed) : Prop :=
  clusterEnv selects True s.cluster c a s'.cluster ∧
    s'.made = s.made ++ ((newDataPod ⟨c, a⟩).bind uidOf).toList

/-- A step of a user. -/
def Disturbs (s s' : Placed) : Prop := s.cluster.Edits s'.cluster ∧ s'.made = s.made

end Placed

abbrev PlacedPool := Pool signature Placed Pass (Fault Error) Action

abbrev PlacedTransition := Service.Transition signature Placed Pass (Fault Error) Action

/-- Passes, and users who create objects and change labels; any request may fail. -/
def placementService (selects : Selects) (admits : PlacedPool → Pass → Prop) :
    Service signature Placed Pass (Fault Error) Action where
  program := Pass.program
  admits := admits
  answers := Placed.Answers selects
  disturbs := Placed.Disturbs

/-! ## What takes no place away -/

/-- Every name that is taken stays so. -/
def Cluster.KeepsNames (s s' : Cluster) : Prop :=
  ∀ ns name, (∃ pod ∈ s.dataPods, At ns name pod) → ∃ pod ∈ s'.dataPods, At ns name pod

/-- No name is freed, no `DataNode` is removed, and what `DataPod`s refer to and are owned by
stays the same. -/
structure Cluster.Later (s s' : Cluster) : Prop where
  names : s.KeepsNames s'
  sources : ∀ ns name source, getFrom s.dataPods ns name = .ok source →
    ∃ source', getFrom s'.dataPods ns name = .ok source' ∧
      source'.nodeRef = source.nodeRef ∧ ownerReferences source' = ownerReferences source
  nodes : s.dataNodes ⊆ s'.dataNodes

/-- Uids are recorded, and no two `DataNode`s have the same name in a namespace. -/
structure Placed.Sound (s : Placed) : Prop where
  recorded : Recorded s.cluster.dataPods s.cluster.uids
  made : s.made ⊆ s.cluster.uids
  nodes : (s.cluster.dataNodes.map place).Nodup

section
variable {s s' : Cluster}

lemma Cluster.KeepsNames.free {ns uid : String} {index : ℕ} (h : s.KeepsNames s')
    (free : s'.NameFree ns uid index) : s.NameFree ns uid index := by
  intro pod hpod hat
  obtain ⟨pod', hpod', hat'⟩ := h ns _ ⟨pod, hpod, hat⟩
  exact free pod' hpod' hat'

/-- A pass gets to no more placements later on. -/
lemma Cluster.KeepsNames.reached {ns uid : String} (h : s.KeepsNames s')
    (todo : List (ℕ × DataNode)) : s'.reached ns uid todo ⊆ s.reached ns uid todo := by
  unfold Cluster.reached
  induction todo with
  | nil => exact List.Subset.refl _
  | cons x rest ih =>
    by_cases hfree' : s'.NameFree ns uid x.1
    · have hfree := h.free hfree'
      rw [List.takeWhile_cons_of_pos (by simpa using hfree'),
        List.takeWhile_cons_of_pos (by simpa using hfree)]
      exact List.cons_subset_cons _ ih
    · rw [List.takeWhile_cons_of_neg (by simpa using hfree')]
      exact List.nil_subset _

lemma Cluster.Later.of_eq (hpods : s'.dataPods = s.dataPods) (hnodes : s'.dataNodes = s.dataNodes) :
    s.Later s' := by
  refine ⟨fun ns name h => ?_, fun ns name source h => ⟨source, ?_, rfl, rfl⟩, ?_⟩
  · rw [hpods]
    exact h
  · rw [hpods]
    exact h
  · rw [hnodes]
    exact List.Subset.refl _

lemma Cluster.later_addDataPod (s : Cluster) (pod : DataPod) : s.Later (s.addDataPod pod) := by
  refine ⟨fun ns name h => ?_, fun ns name source h => ⟨source, ?_, rfl, rfl⟩,
    List.Subset.refl _⟩
  · obtain ⟨d, hd, hat⟩ := h
    exact ⟨d, List.mem_append_left _ hd, hat⟩
  · exact getFrom_append h _

lemma Cluster.Edits.later (h : s.Edits s') : s.Later s' := by
  cases h with
  | createDataPod => exact s.later_addDataPod _
  | relabel labels =>
    refine ⟨fun ns name h => ?_, fun ns name source h => ?_, List.Subset.refl _⟩
    · obtain ⟨d, hd, hat⟩ := h
      exact ⟨d.relabelled (labels d), List.mem_map_of_mem hd, hat⟩
    · refine ⟨source.relabelled (labels source), ?_, rfl, rfl⟩
      show getFrom (s.dataPods.map fun pod => pod.relabelled (labels pod)) ns name = _
      rw [getFrom_map (fun pod : DataPod => pod.relabelled (labels pod)) fun k => Iff.rfl, h]
      rfl
  | @createDataNode before after node uid others =>
    refine ⟨fun ns name h => h, fun ns name source h => ⟨source, h, rfl, rfl⟩, ?_⟩
    rw [others]
    intro n hn
    exact mem_of_others hn _

end

section
variable {selects : Selects} {s s' : Placed}

lemma Placed.mem_replicas {pod : DataPod} :
    pod ∈ s.replicas ↔ pod ∈ s.cluster.dataPods ∧ ∃ uid ∈ s.made, uidOf pod = some uid := by
  unfold Placed.replicas
  rw [List.mem_filter, decide_eq_true_eq]

/-- A `DataPod` with a new uid that is not recorded is not a replica. -/
lemma Placed.Sound.replicas_addDataPod {pod : DataPod} {uid : String} (h : s.Sound)
    (identified : uidOf pod = some uid) (fresh : uid ∉ s.cluster.uids)
    (hcluster : s'.cluster = s.cluster.addDataPod pod) (hmade : s'.made = s.made) :
    s'.replicas = s.replicas := by
  unfold Placed.replicas
  rw [hcluster, hmade]
  show List.filter _ (s.cluster.dataPods ++ [pod]) = _
  have hnot : ¬ ∃ uid ∈ s.made, uidOf pod = some uid := by
    rintro ⟨uid', huid', heq⟩
    rw [identified] at heq
    rw [Option.some.inj heq] at fresh
    exact fresh (h.made huid')
  rw [List.filter_append, List.filter_singleton, decide_eq_false hnot]
  simp

/-- A `DataPod` that a pass creates is a replica. -/
lemma Placed.Sound.replicas_made {pod : DataPod} {uid : String} (h : s.Sound)
    (identified : uidOf pod = some uid) (fresh : uid ∉ s.cluster.uids)
    (hcluster : s'.cluster = s.cluster.addDataPod pod) (hmade : s'.made = s.made ++ [uid]) :
    s'.replicas = s.replicas ++ [pod] := by
  unfold Placed.replicas
  rw [hcluster, hmade]
  show List.filter _ (s.cluster.dataPods ++ [pod]) = _
  rw [List.filter_append, List.filter_singleton, decide_eq_true ⟨uid, by simp, identified⟩]
  congr 1
  -- the others have uids that were recorded before
  apply List.filter_congr
  intro d hd
  apply decide_eq_decide.mpr
  constructor
  · rintro ⟨uid', huid', heq⟩
    rcases List.mem_append.mp huid' with huid' | huid'
    · exact ⟨uid', huid', heq⟩
    · rw [List.mem_singleton.mp huid'] at heq
      exact absurd (h.recorded d hd uid heq) fresh
  · rintro ⟨uid', huid', heq⟩
    exact ⟨uid', List.mem_append_left _ huid', heq⟩

/-- No user makes a replica, or changes more than its labels. -/
lemma Placed.Sound.replicas_of_disturbs {β : Type} (f : DataPod → β)
    (unlabelled : ∀ pod labels, f (pod.relabelled labels) = f pod) (h : s.Sound)
    (moved : s.Disturbs s') : s'.replicas.map f = s.replicas.map f := by
  obtain ⟨edits, hmade⟩ := moved
  generalize hcluster : s'.cluster = cluster at edits
  cases edits with
  | createDataPod _ _ identified fresh =>
    rw [h.replicas_addDataPod identified fresh hcluster hmade]
  | relabel labels =>
    unfold Placed.replicas
    rw [hcluster, hmade, List.filter_map, List.map_map]
    exact List.map_congr_left fun pod _ => unlabelled pod _
  | createDataNode =>
    unfold Placed.replicas
    rw [hcluster, hmade]

lemma Placed.Sound.occupied_of_disturbs (h : s.Sound) (moved : s.Disturbs s') :
    s'.occupied = s.occupied :=
  h.replicas_of_disturbs DataPod.nodeRef (fun _ _ => rfl) moved

lemma Placed.Sound.disturbs (h : s.Sound) (moved : s.Disturbs s') : s'.Sound := by
  obtain ⟨edits, hmade⟩ := moved
  generalize hcluster : s'.cluster = cluster at edits
  cases edits with
  | createDataPod _ _ identified fresh =>
    refine ⟨?_, ?_, ?_⟩
    · rw [hcluster]
      exact h.recorded.grows (.add identified fresh)
    · rw [hcluster, hmade]
      exact List.Subset.trans h.made (List.subset_append_right _ _)
    · rw [hcluster]
      exact h.nodes
  | relabel labels =>
    refine ⟨?_, ?_, ?_⟩
    · rw [hcluster]
      intro d' hd' uid huid
      obtain ⟨d, hd, rfl⟩ := List.mem_map.mp hd'
      exact h.recorded d hd uid huid
    · rw [hcluster, hmade]
      exact h.made
    · rw [hcluster]
      exact h.nodes
  | @createDataNode before after node uid others free =>
    refine ⟨?_, ?_, ?_⟩
    · rw [hcluster]
      intro d hd uid' huid
      exact List.mem_cons_of_mem _ (h.recorded d hd uid' huid)
    · rw [hcluster, hmade]
      exact List.Subset.trans h.made (List.subset_cons_self _ _)
    · rw [hcluster]
      show ((before ++ node :: after).map place).Nodup
      have hnodes := h.nodes
      rw [others, List.map_append] at hnodes
      rw [List.map_append, List.map_cons, List.nodup_middle, List.nodup_cons]
      refine ⟨fun hmem => ?_, hnodes⟩
      rw [← List.map_append, ← others] at hmem
      obtain ⟨n, hn, heq⟩ := List.mem_map.mp hmem
      exact free n hn heq

/-- Most requests change neither `DataPod`s nor `DataNode`s. -/
lemma Placed.answers_harmless {c : Call} {a : c.Reply} (h : c.Harmless)
    (answered : Placed.Answers selects s c a s') :
    s'.cluster.dataPods = s.cluster.dataPods ∧ s'.cluster.dataNodes = s.cluster.dataNodes ∧
      s.cluster.uids ⊆ s'.cluster.uids ∧ s'.made = s.made := by
  obtain ⟨⟨_, hcluster⟩, hmade⟩ := answered
  rw [hcluster, hmade]
  rcases c with c | c | c | c | c | _ | _
  case kube =>
    rcases a with e | object
    · refine ⟨rfl, rfl, List.Subset.refl _, ?_⟩
      cases c
      all_goals exact List.append_nil _
    cases c
    case createPvc => exact ⟨rfl, rfl, List.subset_append_right _ _, List.append_nil _⟩
    case createPod => exact ⟨rfl, rfl, List.subset_append_right _ _, List.append_nil _⟩
    all_goals first
      | exact h.elim
      | exact ⟨rfl, rfl, List.Subset.refl _, List.append_nil _⟩
  all_goals exact ⟨rfl, rfl, List.Subset.refl _, List.append_nil _⟩

lemma Placed.Sound.harmless {c : Call} {a : c.Reply} (h : s.Sound) (hc : c.Harmless)
    (answered : Placed.Answers selects s c a s') : s'.Sound := by
  obtain ⟨hpods, hnodes, huids, hmade⟩ := Placed.answers_harmless hc answered
  refine ⟨?_, ?_, ?_⟩
  · rw [hpods]
    exact fun d hd uid huid => huids (h.recorded d hd uid huid)
  · rw [hmade]
    exact List.Subset.trans h.made huids
  · rw [hnodes]
    exact h.nodes

lemma Placed.replicas_harmless {c : Call} {a : c.Reply} (hc : c.Harmless)
    (answered : Placed.Answers selects s c a s') : s'.replicas = s.replicas := by
  obtain ⟨hpods, _, _, hmade⟩ := Placed.answers_harmless hc answered
  unfold Placed.replicas
  rw [hpods, hmade]

end

/-! ## The replicas of one set -/

/-- The source of the set. -/
def Placed.IsSource (s : Placed) (drs : DataReplicaSet) (ns : String) (source : DataPod) : Prop :=
  getFrom s.cluster.dataPods ns drs.spec.sourcePod.name = .ok source

/-- The replicas are on distinct `DataNode`s, none of which is that of the source. -/
structure Spread (drs : DataReplicaSet) (ns : String) (s : Placed) : Prop where
  placed : ∀ p ∈ s.occupied, ∃ node ∈ s.cluster.dataNodes, p = some (place node)
  distinct : s.occupied.Nodup
  source : ∀ source, s.IsSource drs ns source → source.nodeRef ∉ s.occupied

/-- There is no replica on the node, and the source is not on it, unless the node is its first
owner. -/
structure Vacant (drs : DataReplicaSet) (ns : String) (s : Placed) (node : DataNode) : Prop where
  replicas : some (place node) ∉ s.occupied
  source : ∀ source, s.IsSource drs ns source → source.nodeRef = some (place node) →
    (ownerReferences source).head?.map OwnerReference.name = some (nameAny node)

/-- If this is the answer to the list of `DataNode`s that a pass asks for, then those that the
pass will get to are vacant. -/
def ListedVacant (drs self : DataReplicaSet) (ns uid : String) (s : Placed) (g : PlaceStage)
    (e : Event signature) : Prop :=
  ∀ params nodes count source,
    e = ⟨.kube (.listDataNodes ns params), (Except.ok nodes : Except KubeError (List DataNode))⟩ →
    g = .sourced count source →
    ∀ x ∈ s.cluster.reached ns uid (self.placements count source nodes), Vacant drs ns s x.2

/-- Whenever a pass lists the `DataNode`s, those that it will get to are vacant. -/
def ListsVacant (drs : DataReplicaSet) (ns uid : String) (P : PlacedPool)
    (l : Label signature Pass) : Prop :=
  ∀ self past e, l = .answered (.reconcileSet self) past e →
    ListedVacant drs self ns uid P.state
      (passMonitor.after (Pass.reconcileSet self).start past).2 e

/-- The set is reconciled with any number of replicas, one pass after the other. -/
def oneSet (drs : DataReplicaSet) (P : PlacedPool) (r : Pass) : Prop :=
  P.running = [] ∧ ∃ replicas, r = .reconcileSet (drs.scaled replicas)

/-! ### What holds in a stage -/

/-- Neither a replica nor the source is on the node. -/
structure Open (drs : DataReplicaSet) (ns : String) (s : Placed) (node : DataNode) : Prop where
  replicas : some (place node) ∉ s.occupied
  source : ∀ source, s.IsSource drs ns source → source.nodeRef ≠ some (place node)

/-- What holds between passes. -/
structure Orderly (drs : DataReplicaSet) (ns : String) (s : Placed) : Prop where
  sound : s.Sound
  spread : Spread drs ns s
  sourced : s.occupied ≠ [] → ∃ source, s.IsSource drs ns source

/-- The placements that are left are on distinct nodes, and those that the pass gets to are on
open ones. -/
structure Pending (drs : DataReplicaSet) (ns uid : String) (s : Placed)
    (todo : List (ℕ × DataNode)) : Prop where
  sourced : ∃ source, s.IsSource drs ns source
  listed : ∀ x ∈ todo, x.2 ∈ s.cluster.dataNodes ∧ InNamespace ns x.2
  distinct : (todo.map fun x => place x.2).Nodup
  vacant : ∀ x ∈ s.cluster.reached ns uid todo, Open drs ns s x.2

/-- What a pass knows in a stage. -/
def StageHolds (drs : DataReplicaSet) (ns uid : String) (s : Placed) : PlaceStage → Prop
  | .found _ owner => ∃ source, s.IsSource drs ns source ∧
    (ownerReferences source).head?.map OwnerReference.name = some owner
  | .sourced _ node => ∃ source, s.IsSource drs ns source ∧
    (ownerReferences source).head?.map OwnerReference.name = some (nameAny node) ∧
      node ∈ s.cluster.dataNodes ∧ InNamespace ns node
  | .placing todo => Pending drs ns uid s todo
  | _ => True

section
variable {selects : Selects} {drs self : DataReplicaSet} {ns uid : String} {s s' : Placed}
  {g : PlaceStage}

lemma Placed.IsSource.unique {source source' : DataPod} (h : s.IsSource drs ns source)
    (h' : s.IsSource drs ns source') : source' = source := by
  unfold Placed.IsSource at h h'
  rw [h] at h'
  exact (Except.ok.inj h').symm

/-- The source that is found later is the one that has been there. -/
lemma Placed.IsSource.later {source source' : DataPod} (h : s.IsSource drs ns source)
    (later : s.cluster.Later s'.cluster) (h' : s'.IsSource drs ns source') :
    source'.nodeRef = source.nodeRef ∧ ownerReferences source' = ownerReferences source := by
  obtain ⟨source'', hsource'', href, howners⟩ := later.sources _ _ _ h
  have hsame : source' = source'' := Placed.IsSource.unique hsource'' h'
  rw [hsame]
  exact ⟨href, howners⟩

lemma Orderly.later (h : Orderly drs ns s) (sound : s'.Sound) (later : s.cluster.Later s'.cluster)
    (hoccupied : s'.occupied = s.occupied) : Orderly drs ns s' := by
  refine ⟨sound, ⟨fun p hp => ?_, ?_, fun source hsource hmem => ?_⟩, fun hne => ?_⟩
  · rw [hoccupied] at hp
    obtain ⟨node, hnode, heq⟩ := h.spread.placed p hp
    exact ⟨node, later.nodes hnode, heq⟩
  · rw [hoccupied]
    exact h.spread.distinct
  · rw [hoccupied] at hmem
    obtain ⟨old, hold⟩ := h.sourced (List.ne_nil_of_mem hmem)
    rw [(hold.later later hsource).1] at hmem
    exact h.spread.source old hold hmem
  · rw [hoccupied] at hne
    obtain ⟨source, hsource⟩ := h.sourced hne
    obtain ⟨source', hsource', _⟩ := later.sources _ _ _ hsource
    exact ⟨source', hsource'⟩

lemma Pending.later {todo : List (ℕ × DataNode)} (h : Pending drs ns uid s todo)
    (later : s.cluster.Later s'.cluster) (hoccupied : s'.occupied = s.occupied) :
    Pending drs ns uid s' todo := by
  obtain ⟨source, hsource⟩ := h.sourced
  refine ⟨?_, fun x hx => ?_, h.distinct, fun x hx => ?_⟩
  · obtain ⟨source', hsource', _⟩ := later.sources _ _ _ hsource
    exact ⟨source', hsource'⟩
  · exact ⟨later.nodes (h.listed x hx).1, (h.listed x hx).2⟩
  · have hopen := h.vacant x (later.names.reached todo hx)
    refine ⟨?_, fun source' hsource' => ?_⟩
    · rw [hoccupied]
      exact hopen.replicas
    · rw [(hsource.later later hsource').1]
      exact hopen.source source hsource

lemma StageHolds.later (h : StageHolds drs ns uid s g) (later : s.cluster.Later s'.cluster)
    (hoccupied : s'.occupied = s.occupied) : StageHolds drs ns uid s' g := by
  rcases g with _ | count | ⟨count, owner⟩ | ⟨count, node⟩ | todo
  case found =>
    obtain ⟨source, hsource, howner⟩ := h
    obtain ⟨source', hsource', _, howners⟩ := later.sources _ _ _ hsource
    refine ⟨source', hsource', ?_⟩
    rw [howners]
    exact howner
  case sourced =>
    obtain ⟨source, hsource, howner, hnode, hin⟩ := h
    obtain ⟨source', hsource', _, howners⟩ := later.sources _ _ _ hsource
    refine ⟨source', hsource', ?_, later.nodes hnode, hin⟩
    rw [howners]
    exact howner
  case placing => exact Pending.later h later hoccupied
  all_goals trivial

end

/-! ### Placing a replica -/

/-- What the creation of a `DataPod` by a pass has done. -/
structure Placed.Created (s : Placed) (ns : String) (sent pod : DataPod) (s' : Placed) : Prop where
  identified : ∃ uid, uidOf pod = some uid ∧ uid ∉ s.cluster.uids ∧ s'.made = s.made ++ [uid]
  free : ∀ name, sent.metadata.name = some name → ∀ d ∈ s.cluster.dataPods, ¬ At ns name d
  name : pod.metadata.name = sent.metadata.name
  ns : namespaceOf pod = some ns
  spec : pod.spec = sent.spec
  cluster : s'.cluster = s.cluster.addDataPod pod

section
variable {selects : Selects} {drs self : DataReplicaSet} {ns uid : String} {s s' : Placed}
  {sent pod : DataPod} {index : ℕ} {node : DataNode} {rest : List (ℕ × DataNode)}

lemma Placed.created_of_answers
    (h : Placed.Answers selects s (.kube (.createDataPod ns sent)) (Except.ok pod) s') :
    s.Created ns sent pod s' := by
  obtain ⟨⟨answered, hcluster⟩, hmade⟩ := h
  have created : Creates s.cluster.dataPods s.cluster.uids ns sent.metadata
    (fun m => { sent with metadata := m }) (.ok pod) := replies_of_answers answered
  obtain ⟨name, podUid, version, hname, free, fresh, rfl⟩ := created
  refine ⟨⟨podUid, rfl, fresh, hmade⟩, fun name' hname' => ?_, rfl, rfl, rfl, hcluster⟩
  rw [hname] at hname'
  cases hname'
  exact free

lemma Placed.Sound.created (h : s.Sound) (new : s.Created ns sent pod s') : s'.Sound := by
  obtain ⟨podUid, identified, fresh, hmade⟩ := new.identified
  refine ⟨?_, ?_, ?_⟩
  · rw [new.cluster]
    exact h.recorded.grows (.add identified fresh)
  · rw [new.cluster, hmade]
    show s.made ++ [podUid] ⊆ (uidOf pod).toList ++ s.cluster.uids
    rw [identified]
    intro x hx
    rcases List.mem_append.mp hx with hx | hx
    · exact List.mem_cons_of_mem _ (h.made hx)
    · rw [List.mem_singleton.mp hx]
      exact List.mem_cons_self
  · rw [new.cluster]
    exact h.nodes

lemma Placed.Sound.replicas_created (h : s.Sound) (new : s.Created ns sent pod s') :
    s'.replicas = s.replicas ++ [pod] := by
  obtain ⟨podUid, identified, fresh, hmade⟩ := new.identified
  exact h.replicas_made identified fresh new.cluster hmade

lemma Placed.Sound.occupied_created (h : s.Sound) (new : s.Created ns sent pod s') :
    s'.occupied = s.occupied ++ [pod.nodeRef] := by
  unfold Placed.occupied
  rw [h.replicas_created new, List.map_append]
  rfl

/-- A replica refers to the node that it was created for. -/
lemma Placed.Created.nodeRef_eq (new : s.Created ns sent pod s')
    (replica : ReplicaOf self index node sent) (hnode : InNamespace ns node) :
    pod.nodeRef = some (place node) := by
  have hin : namespaceOf node = some ns := hnode
  unfold DataPod.nodeRef place
  rw [new.spec, replica.nodeRef, hin]
  rfl

lemma Placed.Created.later (new : s.Created ns sent pod s') : s.cluster.Later s'.cluster := by
  rw [new.cluster]
  exact s.cluster.later_addDataPod pod

/-- The placement at hand is one that the pass gets to. -/
lemma Placed.Created.reached (new : s.Created ns sent pod s')
    (replica : ReplicaOf self index node sent) (huid : self.metadata.uid = some uid) :
    s.cluster.reached ns uid ((index, node) :: rest) =
      (index, node) :: s.cluster.reached ns uid rest := by
  obtain ⟨uid', huid', hname⟩ := replica.named
  rw [huid] at huid'
  cases huid'
  exact List.takeWhile_cons_of_pos (decide_eq_true (new.free _ hname))

/-- The node of the placement at hand is open. -/
lemma Pending.open_head (h : Pending drs ns uid s ((index, node) :: rest))
    (new : s.Created ns sent pod s') (replica : ReplicaOf self index node sent)
    (huid : self.metadata.uid = some uid) : Open drs ns s node := by
  apply h.vacant (index, node)
  rw [new.reached replica huid]
  exact List.mem_cons_self

/-- A replica on an open node leaves the set orderly. -/
lemma Orderly.created (h : Orderly drs ns s)
    (pending : Pending drs ns uid s ((index, node) :: rest)) (new : s.Created ns sent pod s')
    (replica : ReplicaOf self index node sent) (huid : self.metadata.uid = some uid) :
    Orderly drs ns s' := by
  obtain ⟨hnode, hin⟩ := pending.listed _ List.mem_cons_self
  have hopen := pending.open_head new replica huid
  have hoccupied : s'.occupied = s.occupied ++ [some (place node)] := by
    rw [h.sound.occupied_created new, new.nodeRef_eq replica hin]
  obtain ⟨old, hold⟩ := pending.sourced
  refine ⟨h.sound.created new, ⟨fun p hp => ?_, ?_, fun source hsource hmem => ?_⟩, fun _ => ?_⟩
  · rw [hoccupied] at hp
    rcases List.mem_append.mp hp with hp | hp
    · obtain ⟨node', hnode', heq⟩ := h.spread.placed p hp
      exact ⟨node', new.later.nodes hnode', heq⟩
    · exact ⟨node, new.later.nodes hnode, List.mem_singleton.mp hp⟩
  · rw [hoccupied]
    refine List.nodup_append.mpr ⟨h.spread.distinct, List.nodup_singleton _, ?_⟩
    intro p hp p' hp' heq
    rw [List.mem_singleton.mp hp'] at heq
    rw [heq] at hp
    exact hopen.replicas hp
  · have href := (hold.later new.later hsource).1
    rw [hoccupied, href] at hmem
    rcases List.mem_append.mp hmem with hmem | hmem
    · exact h.spread.source old hold hmem
    · exact hopen.source old hold (List.mem_singleton.mp hmem)
  · obtain ⟨source', hsource', _⟩ := new.later.sources _ _ _ hold
    exact ⟨source', hsource'⟩

/-- The placements after it are on other nodes. -/
lemma Pending.created (h : Pending drs ns uid s ((index, node) :: rest)) (sound : s.Sound)
    (new : s.Created ns sent pod s') (replica : ReplicaOf self index node sent)
    (huid : self.metadata.uid = some uid) : Pending drs ns uid s' rest := by
  obtain ⟨old, hold⟩ := h.sourced
  have hdistinct := List.nodup_cons.mp h.distinct
  have hin : InNamespace ns node := (h.listed _ List.mem_cons_self).2
  refine ⟨?_, fun x hx => ?_, hdistinct.2, fun x hx => ?_⟩
  · obtain ⟨source', hsource', _⟩ := new.later.sources _ _ _ hold
    exact ⟨source', hsource'⟩
  · obtain ⟨hnode', hin'⟩ := h.listed x (List.mem_cons_of_mem _ hx)
    exact ⟨new.later.nodes hnode', hin'⟩
  · have hbefore : x ∈ s.cluster.reached ns uid rest := new.later.names.reached rest hx
    have hopen : Open drs ns s x.2 := by
      apply h.vacant x
      rw [new.reached replica huid]
      exact List.mem_cons_of_mem _ hbefore
    refine ⟨fun hmem => ?_, fun source hsource => ?_⟩
    · rw [sound.occupied_created new, new.nodeRef_eq replica hin] at hmem
      rcases List.mem_append.mp hmem with hmem | hmem
      · exact hopen.replicas hmem
      · have hplace : place x.2 = place node := Option.some.inj (List.mem_singleton.mp hmem)
        have hrest : x ∈ rest := (List.takeWhile_prefix _).subset hbefore
        exact hdistinct.1 (List.mem_map.mpr ⟨x, hrest, hplace⟩)
    · rw [(hold.later new.later hsource).1]
      exact hopen.source old hold

end

/-! ### Listing the nodes -/

lemma map_snd_zip_sublist {α β : Type} (l : List α) (r : List β) :
    ((l.zip r).map Prod.snd).Sublist r := by
  induction l generalizing r with
  | nil => exact List.nil_sublist _
  | cons a l ih =>
    cases r with
    | nil => exact List.nil_sublist _
    | cons b r => exact (ih r).cons_cons b

section
variable {selects : Selects} {drs self : DataReplicaSet} {ns uid : String} {s s' : Placed}
  {count : ℕ} {source : DataNode} {nodes : List DataNode}

/-- What is to be placed goes to listed nodes other than that of the source. -/
lemma of_mem_placements {x : ℕ × DataNode} (hx : x ∈ self.placements count source nodes) :
    x.2 ∈ nodes ∧ x.2.metadata.uid ≠ source.metadata.uid := by
  have hmem : x.2 ∈ (nodes.filter fun node =>
      node.metadata.uid ≠ source.metadata.uid).reverse :=
    (map_snd_zip_sublist _ _).subset (List.mem_map_of_mem hx)
  have hfilter := List.mem_filter.mp (List.mem_reverse.mp hmem)
  exact ⟨hfilter.1, of_decide_eq_true hfilter.2⟩

/-- Different placements are on different nodes. -/
lemma placements_nodup (h : (nodes.map place).Nodup) :
    ((self.placements count source nodes).map fun x => place x.2).Nodup := by
  have hsub : ((self.placements count source nodes).map Prod.snd).Sublist nodes.reverse :=
    (map_snd_zip_sublist _ _).trans List.filter_sublist.reverse
  have hplaces : ((self.placements count source nodes).map fun x => place x.2).Sublist
      (nodes.reverse.map place) := by
    have hmap := hsub.map place
    rw [List.map_map] at hmap
    exact hmap
  apply hplaces.nodup
  rw [List.map_reverse]
  exact List.nodup_reverse.mpr h

/-- A vacant node is open: the one that owns the source is not among those to place on. -/
lemma open_of_vacant (sound : s.Sound) (stage : StageHolds drs ns uid s (.sourced count source))
    {node : DataNode} (hnode : node ∈ s.cluster.dataNodes) (hin : InNamespace ns node)
    (hne : node.metadata.uid ≠ source.metadata.uid) (vacant : Vacant drs ns s node) :
    Open drs ns s node := by
  obtain ⟨pod, hpod, howner, hsource, hinSource⟩ := stage
  refine ⟨vacant.replicas, fun pod' hpod' href => ?_⟩
  have hfirst := vacant.source pod' hpod' href
  rw [hpod.unique hpod', howner] at hfirst
  have hplace : place source = place node := by
    have hns : namespaceOf source = namespaceOf node := Eq.trans hinSource (Eq.symm hin)
    unfold place
    rw [hns, Option.some.inj hfirst]
  have hsame : source = node := List.inj_on_of_nodup_map sound.nodes hsource hnode hplace
  rw [hsame] at hne
  exact hne rfl

/-- The placements that a pass has in mind when it is told the nodes. -/
lemma pending_of_listed (sound : s.Sound)
    (stage : StageHolds drs ns uid s (.sourced count source))
    (hlisted : listFrom selects s.cluster.dataNodes ns {} = .ok nodes)
    (vacant : ∀ x ∈ s.cluster.reached ns uid (self.placements count source nodes),
      Vacant drs ns s x.2) :
    Pending drs ns uid s (self.placements count source nodes) := by
  have hnodes : nodes = s.cluster.dataNodes.filter fun node => InNamespace ns node :=
    (Except.ok.inj hlisted).symm
  have listed : ∀ x ∈ self.placements count source nodes,
      x.2 ∈ s.cluster.dataNodes ∧ InNamespace ns x.2 := by
    intro x hx
    have hmem := (of_mem_placements hx).1
    rw [hnodes] at hmem
    obtain ⟨hnode, hin⟩ := List.mem_filter.mp hmem
    exact ⟨hnode, of_decide_eq_true hin⟩
  have sourced := stage
  obtain ⟨pod, hpod, _⟩ := sourced
  refine ⟨⟨pod, hpod⟩, listed, ?_, fun x hx => ?_⟩
  · apply placements_nodup
    rw [hnodes]
    exact (List.filter_sublist.map place).nodup sound.nodes
  · have htodo : x ∈ self.placements count source nodes := (List.takeWhile_prefix _).subset hx
    obtain ⟨hnode, hin⟩ := listed x htodo
    exact open_of_vacant sound stage hnode hin (of_mem_placements htodo).2 (vacant x hx)

end

/-! ### The passes over the set -/

section
variable {selects : Selects} {drs self : DataReplicaSet} {ns uid : String} {s s' : Placed}
  {g : PlaceStage} {c : Call} {a : c.Reply}

lemma StageHolds.gotSource {source : DataPod} (h : StageHolds drs ns uid s g)
    (hget : s.IsSource drs ns source) : StageHolds drs ns uid s (g.gotSource (.ok source)) := by
  unfold PlaceStage.gotSource
  -- the stage changes only if it is the right one and there is an owner
  split
  · rename_i source' hsource'
    cases hsource'
    split
    · rename_i owner howner
      refine ⟨source, hget, ?_⟩
      rw [howner]
      rfl
    · exact h
  · exact h

lemma StageHolds.gotNode {node : DataNode} {count : ℕ} {name : String}
    (h : StageHolds drs ns uid s (.found count name))
    (hget : getFrom s.cluster.dataNodes ns name = .ok node) :
    StageHolds drs ns uid s (.sourced count node) := by
  obtain ⟨source, hsource, howner⟩ := h
  obtain ⟨hmem, hat⟩ := getFrom_ok hget
  refine ⟨source, hsource, ?_, hmem, hat.1⟩
  rw [nameAny_of_at hat]
  exact howner

/-- What a pass learns from an answer to a harmless call. -/
lemma StageHolds.learns (h : StageHolds drs ns uid s g) (hns : namespaceOf self = some ns)
    (hsource : self.spec.sourcePod = drs.spec.sourcePod) (sound : s.Sound)
    (allowed : (Pass.reconcileSet self).Allows g c) (hc : c.Harmless)
    (answered : s.cluster.Answers selects True c a)
    (vacant : ListedVacant drs self ns uid s g ⟨c, a⟩) :
    StageHolds drs ns uid s (g.next self c a) := by
  rcases c with c | c | c | c | c | _ | _
  case kube =>
    rcases a with e | object
    · cases c
      all_goals exact h
    cases c
    case listDataPods => trivial
    case getDataPod ns' name =>
      obtain ⟨hns', rfl⟩ := allowed
      rw [hns] at hns'
      cases hns'
      have hget : .ok object = getFrom s.cluster.dataPods ns self.spec.sourcePod.name :=
        replies_of_answers answered
      rw [hsource] at hget
      exact h.gotSource hget.symm
    case getDataNode ns' name =>
      obtain ⟨hns', count, rfl⟩ := allowed
      rw [hns] at hns'
      cases hns'
      have hget : .ok object = getFrom s.cluster.dataNodes ns name := replies_of_answers answered
      exact h.gotNode hget.symm
    case listDataNodes ns' params =>
      obtain ⟨hns', rfl⟩ := allowed
      rw [hns] at hns'
      cases hns'
      have hlisted : .ok object = listFrom selects s.cluster.dataNodes ns {} :=
        replies_of_answers answered
      rcases g with _ | _ | _ | ⟨count, source⟩ | _
      case sourced => exact pending_of_listed sound h hlisted.symm (vacant _ object _ _ rfl rfl)
      all_goals exact h
    all_goals first
      | exact h
      | exact hc.elim
  all_goals exact h

/-- A pass over a set creates replicas, and changes no other `DataPod` or `DataNode`. -/
lemma harmless_or_create (allowed : (Pass.reconcileSet self).Allows g c) :
    c.Harmless ∨ ∃ ns pod, c = .kube (.createDataPod ns pod) := by
  rcases c with c | c | c | c | c | _ | _
  case kube =>
    cases c
    case createDataPod ns pod => exact .inr ⟨ns, pod, rfl⟩
    all_goals first
      | exact .inl trivial
      | exact allowed.elim
  all_goals exact .inl trivial

/-- One step of a pass over the set. -/
lemma Orderly.step (h : Orderly drs ns s) (stage : StageHolds drs ns uid s g)
    (hns : namespaceOf self = some ns) (huid : self.metadata.uid = some uid)
    (hsource : self.spec.sourcePod = drs.spec.sourcePod)
    (allowed : (Pass.reconcileSet self).Allows g c) (answered : Placed.Answers selects s c a s')
    (vacant : ListedVacant drs self ns uid s g ⟨c, a⟩) :
    Orderly drs ns s' ∧ StageHolds drs ns uid s' (g.next self c a) := by
  rcases harmless_or_create allowed with hc | ⟨ns', sent, rfl⟩
  · obtain ⟨hpods, hnodes, _, _⟩ := Placed.answers_harmless hc answered
    have later : s.cluster.Later s'.cluster := .of_eq hpods hnodes
    have hoccupied : s'.occupied = s.occupied :=
      congrArg (List.map DataPod.nodeRef) (Placed.replicas_harmless hc answered)
    refine ⟨h.later (h.sound.harmless hc answered) later hoccupied, ?_⟩
    exact (stage.learns hns hsource h.sound allowed hc answered.1.1 vacant).later later hoccupied
  · obtain ⟨hns', index, node, rest, rfl, replica⟩ := allowed
    rw [hns] at hns'
    cases hns'
    rcases a with e | pod
    -- a request that fails leaves everything as it is
    · have hcluster : s'.cluster = s.cluster := answered.1.2
      have hmade : s'.made = s.made ++ [] := answered.2
      have hsame : s' = s := by
        cases s
        cases s'
        simp only [List.append_nil] at hcluster hmade
        rw [hcluster, hmade]
      rw [hsame]
      exact ⟨h, stage⟩
    · have new : s.Created ns sent pod s' := Placed.created_of_answers answered
      exact ⟨h.created stage new replica huid, Pending.created stage h.sound new replica huid⟩

end

/-! ### Every run -/

/-- At most one pass is in progress, and what its stage says holds. -/
structure OnePass (drs : DataReplicaSet) (ns uid : String) (s : Placed)
    (phases : List (Pass × Pass × PlaceStage)) : Prop where
  orderly : Orderly drs ns s
  single : phases.length ≤ 1
  passes : ∀ x ∈ phases, (∃ replicas, x.1 = .reconcileSet (drs.scaled replicas)) ∧
    StageHolds drs ns uid s x.2.2

section
variable {selects : Selects} {drs : DataReplicaSet} {ns uid : String}

lemma passMonitor_allows {r : Pass} {past : List (Event signature)} {c : Call}
    (allowed : passMonitor.allows (passMonitor.after r.start past) c) :
    r.Allows (passMonitor.after r.start past).2 c := by
  have hfst : (passMonitor.after r.start past).1 = r := passMonitor_after_fst _ _
  have allowed' : (passMonitor.after r.start past).1.Allows
      (passMonitor.after r.start past).2 c := allowed
  rw [hfst] at allowed'
  exact allowed'

/-- The only pass takes a step. -/
lemma OnePass.step {P : PlacedPool} {before after : List (Pass × Pass × PlaceStage)} {r : Pass}
    {past : List (Event signature)} {c : Call} {a : c.Reply} {s' : Placed}
    (hns : namespaceOf drs = some ns) (huid : drs.metadata.uid = some uid)
    (vacant : ListsVacant drs ns uid P (.answered r past ⟨c, a⟩))
    (answered : Placed.Answers selects P.state c a s')
    (allowed : passMonitor.allows (passMonitor.after r.start past) c)
    (h : OnePass drs ns uid P.state
      (before ++ (r, passMonitor.after r.start past) :: after)) :
    OnePass drs ns uid s'
      (before ++ (r, passMonitor.next (passMonitor.after r.start past) c a) :: after) := by
  have hlength := h.single
  rw [List.length_append, List.length_cons] at hlength
  obtain ⟨⟨replicas, hr⟩, stage⟩ := h.passes _ (List.mem_append_right _ List.mem_cons_self)
  have hr' : r = .reconcileSet (drs.scaled replicas) := hr
  subst hr'
  have hscaledNs : namespaceOf (drs.scaled replicas) = some ns := hns
  have hscaledUid : (drs.scaled replicas).metadata.uid = some uid := huid
  obtain ⟨orderly, next⟩ := h.orderly.step stage hscaledNs hscaledUid rfl
    (passMonitor_allows allowed) answered (vacant _ _ _ rfl)
  refine ⟨orderly, ?_, fun x hx => ?_⟩
  · rw [List.length_append, List.length_cons]
    exact hlength
  · rcases eq_or_mem_others hx with rfl | hx
    · refine ⟨⟨replicas, rfl⟩, ?_⟩
      show StageHolds drs ns uid s' ((passMonitor.after _ past).1.next _ c a)
      rw [passMonitor_after_fst]
      exact next
    -- there is no other pass
    · have hpos := List.length_pos_of_mem hx
      rw [List.length_append] at hpos
      omega

/-- The invariant along all runs in which passes list vacant nodes. -/
lemma onePass_preserved (hns : namespaceOf drs = some ns) (huid : drs.metadata.uid = some uid) :
    Preserved (placementService selects (oneSet drs)) passMonitor Pass.start
      (fun _ _ _ => True) (ListsVacant drs ns uid) fun s phases _ =>
        OnePass drs ns uid s phases := by
  apply Preserved.of_step
  · rintro P r ⟨_, replicas, rfl⟩
    exact reconcileSet_stages _
  · exact fun _ _ _ _ answered _ => foundAt_of_answers answered.1.1
  · rintro P r ⟨hrunning, replicas, rfl⟩ h
    have hphases : P.phases passMonitor Pass.start = [] := by
      unfold Pool.phases
      rw [hrunning]
      rfl
    rw [hphases]
    refine ⟨h.orderly, Nat.le_refl 1, fun x hx => ?_⟩
    rw [List.mem_singleton.mp hx]
    exact ⟨⟨replicas, rfl⟩, trivial⟩
  · exact fun P before after r past c a s' _ hG answered allowed h =>
      h.step hns huid hG answered allowed
  · intro s before after x h
    refine ⟨h.orderly, ?_, fun y hy => h.passes y (mem_of_others hy x)⟩
    have hlength := h.single
    rw [List.length_append, List.length_cons] at hlength
    rw [List.length_append]
    omega
  · intro P s' moved _ h
    have later := moved.1.later
    have hoccupied := h.orderly.sound.occupied_of_disturbs moved
    refine ⟨h.orderly.later (h.orderly.sound.disturbs moved) later hoccupied, h.single, ?_⟩
    exact fun x hx => ⟨(h.passes x hx).1, (h.passes x hx).2.later later hoccupied⟩

/-- In every run in which passes that list the `DataNode`s place replicas on vacant ones only,
the replicas are always on distinct `DataNode`s, none of which is that of the source. -/
theorem spread_of_run {s₀ : Cluster} {steps : List PlacedTransition} {P : PlacedPool}
    (hns : namespaceOf drs = some ns) (huid : drs.metadata.uid = some uid)
    (recorded : Recorded s₀.dataPods s₀.uids) (nodes : (s₀.dataNodes.map place).Nodup)
    (run : (placementService selects (oneSet drs)).Run ⟨s₀, []⟩ steps P)
    (vacant : ∀ x ∈ steps, ListsVacant drs ns uid x.source x.label) :
    Spread drs ns P.state := by
  have hempty : (⟨s₀, []⟩ : Placed).occupied = [] := by
    unfold Placed.occupied Placed.replicas
    simp
  have init : OnePass drs ns uid ⟨s₀, []⟩ [] := by
    refine ⟨⟨⟨recorded, fun _ h => (by cases h), nodes⟩, ⟨fun p hp => ?_, ?_, ?_⟩, fun hne => ?_⟩,
      Nat.zero_le 1, fun _ h => (by cases h)⟩
    · rw [hempty] at hp
      cases hp
    · rw [hempty]
      exact List.nodup_nil
    · rw [hempty]
      exact fun _ _ => List.not_mem_nil
    · exact absurd hempty hne
  obtain ⟨_, h⟩ := (onePass_preserved hns huid).run init run vacant
  exact h.orderly.spread

end

/-! ## A set with one other node -/

/-- Serves the cluster, and records what is created. -/
def Placed.serve (selects : Selects) (s : Placed) (c : Call) : Option (c.Reply × Placed) :=
  (s.cluster.serve selects c).map fun x =>
    (x.1, ⟨x.2, s.made ++ ((newDataPod ⟨c, x.1⟩).bind uidOf).toList⟩)

lemma Placed.answers_of_serve {selects : Selects} {s s' : Placed} {c : Call} {a : c.Reply}
    (h : s.serve selects c = some (a, s')) : Placed.Answers selects s c a s' := by
  obtain ⟨x, hx, heq⟩ := Option.map_eq_some_iff.mp h
  cases heq
  exact ⟨clusterEnv_of_reliable (clusterEnv_of_serve hx), rfl⟩

/-- The source is on the node `n`, and there are also other nodes. -/
def samplePlaced (others : List DataNode) : Placed := ⟨sampleCluster 1 others [], []⟩

lemma samplePods_recorded (replicas : ℕ) (others : List DataNode) :
    Recorded (sampleCluster replicas others []).dataPods
      (sampleCluster replicas others []).uids := by
  intro pod hpod uid huid
  rw [List.mem_singleton.mp hpod] at huid
  cases huid
  show "2" ∈ ["0", "1", "2", "3", "4"]
  decide

/-- All but the source get the label that the set counts. -/
def Placed.labelled (s : Placed) : Placed where
  cluster := { s.cluster with
    dataPods := s.cluster.dataPods.map fun pod => pod.relabelled
      (if pod.metadata.name = some "source" then none else some (.ofList [("app", "replica")])) }
  made := s.made

lemma Placed.disturbs_labelled (s : Placed) : s.Disturbs s.labelled :=
  ⟨.relabel fun pod =>
    if pod.metadata.name = some "source" then none else some (.ofList [("app", "replica")]), rfl⟩

/-- When one more replica is asked for, both end up on the only other node. -/
theorem not_spread : ¬ ∀ (selects : Selects) (drs : DataReplicaSet) (ns uid : String)
    (s₀ : Cluster) (steps : List PlacedTransition) (P : PlacedPool), namespaceOf drs = some ns →
    drs.metadata.uid = some uid → Recorded s₀.dataPods s₀.uids →
    (s₀.dataNodes.map place).Nodup →
    (placementService selects (oneSet drs)).Run ⟨s₀, []⟩ steps P → Spread drs ns P.state := by
  intro claim
  obtain ⟨τ₁, q₁, result₁, s₁, τ₂, q₂, result₂, s₂, hfollow₁, hq₁, hfollow₂, hq₂, hoccupied⟩ :
      ∃ τ₁ q₁ result₁ s₁ τ₂ q₂ result₂ s₂,
      ((sampleSet 1).scaled 1).reconcile.follow (Placed.serve sampleSelects) 20
        (samplePlaced [sampleNode "m" "3"]) =
        some (τ₁, q₁, s₁) ∧
      q₁.outcome = some result₁ ∧
      ((sampleSet 1).scaled 2).reconcile.follow (Placed.serve sampleSelects) 20 s₁.labelled =
        some (τ₂, q₂, s₂) ∧
      q₂.outcome = some result₂ ∧
      s₂.occupied = [some (some "default", "m"), some (some "default", "m")] :=
    ⟨_, _, _, _, _, _, _, _, rfl, rfl, rfl, rfl, by rfl⟩
  have exec₁ := Prog.exec_of_follow (fun _ _ _ _ h => Placed.answers_of_serve h) hfollow₁
  have exec₂ := Prog.exec_of_follow (fun _ _ _ _ h => Placed.answers_of_serve h) hfollow₂
  have admitted : ∀ s done replicas, oneSet (sampleSet 1) ⟨s, [], done⟩
      (.reconcileSet ((sampleSet 1).scaled replicas)) := fun _ _ replicas => ⟨rfl, replicas, rfl⟩
  -- between the passes the replica gets the label
  obtain ⟨_, run₁, _⟩ := Service.Run.handle
    (V := placementService sampleSelects (oneSet (sampleSet 1))) (fun _ _ _ _ h => h) .start
    (admitted _ _ 1) exec₁ hq₁
  have labelled := run₁.step (.disturb s₁.disturbs_labelled)
  obtain ⟨_, run₂, _⟩ := labelled.handle (fun _ _ _ _ h => h) (admitted _ _ 2) exec₂ hq₂
  have spread := claim sampleSelects (sampleSet 1) "default" "0" _ _ _ rfl rfl
    (samplePods_recorded 1 _) (by decide) run₂
  have distinct := spread.distinct
  rw [hoccupied] at distinct
  exact absurd distinct (by decide)

/-- There is no replica yet, and the source is on the node that owns it. -/
def Placed.untouched (s : Placed) (c : Call) : Bool :=
  match c, getFrom s.cluster.dataPods "default" "source" with
  | .kube (.listDataNodes _ _), .ok source =>
    s.made = [] ∧ source.nodeRef = some (some "default", "n") ∧
      (ownerReferences source).head?.map OwnerReference.name = some "n"
  | .kube (.listDataNodes _ _), .error _ => false
  | _, _ => true

lemma Placed.vacant_of_untouched {s : Placed} {ns : String} {params : ListParams}
    (h : s.untouched (.kube (.listDataNodes ns params)) = true) (node : DataNode) :
    Vacant (sampleSet 1) "default" s node := by
  unfold Placed.untouched at h
  cases hget : getFrom s.cluster.dataPods "default" "source" with
  | error e =>
    rw [hget] at h
    cases h
  | ok source =>
    rw [hget] at h
    obtain ⟨hmade, href, howner⟩ := of_decide_eq_true h
    refine ⟨fun hmem => ?_, fun source' hsource' href' => ?_⟩
    · obtain ⟨pod, hpod, _⟩ := List.mem_map.mp hmem
      obtain ⟨_, uid, huid, _⟩ := Placed.mem_replicas.mp hpod
      rw [hmade] at huid
      cases huid
    · have hsource : s.IsSource (sampleSet 1) "default" source := hget
      rw [hsource.unique hsource'] at href' ⊢
      rw [href] at href'
      rw [howner]
      exact congrArg (Option.map Prod.snd) href'

/-- A pass in a cluster without replicas places two on the other nodes. -/
theorem spread_at_first : ∃ (steps : List PlacedTransition) (P : PlacedPool),
    (placementService sampleSelects (oneSet (sampleSet 1))).Run
        (samplePlaced [sampleNode "m" "3", sampleNode "k" "4"]) steps P ∧
      P.state.occupied = [some (some "default", "k"), some (some "default", "m")] ∧
      Spread (sampleSet 1) "default" P.state := by
  obtain ⟨τ, q, result, s, hfollow, hq, hoccupied⟩ : ∃ τ q result s,
      ((sampleSet 1).scaled 2).reconcile.follow
        (serveIf Placed.untouched (Placed.serve sampleSelects)) 20
        (samplePlaced [sampleNode "m" "3", sampleNode "k" "4"]) = some (τ, q, s) ∧
      q.outcome = some result ∧
      s.occupied = [some (some "default", "k"), some (some "default", "m")] :=
    ⟨_, _, _, _, rfl, rfl, by rfl⟩
  have exec := Prog.exec_of_follow
    (R := fun s c a s' => s.untouched c = true ∧ Placed.Answers sampleSelects s c a s')
    (fun _ _ _ _ h => ⟨(of_serveIf h).1, Placed.answers_of_serve (of_serveIf h).2⟩) hfollow
  obtain ⟨steps, run, served, _⟩ := Service.Run.handle
    (V := placementService sampleSelects (oneSet (sampleSet 1))) (fun _ _ _ _ h => h.2) .start
    ⟨rfl, 2, rfl⟩ exec hq
  refine ⟨_, _, run, hoccupied, spread_of_run rfl rfl (samplePods_recorded 1 _)
    (by decide) run ?_⟩
  intro x hx self past e hlabel params nodes count source he _ y _
  rcases served x hx with harrives | ⟨past', e', hlabel', huntouched, _⟩
  · rw [hlabel] at harrives
    cases harrives
  · rw [hlabel] at hlabel'
    cases hlabel'
    subst he
    exact Placed.vacant_of_untouched huntouched y.2

end Kubedal
