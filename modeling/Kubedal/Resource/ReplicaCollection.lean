import Kubedal.Resource.DataPodController
import Kubedal.Resource.ReplicaObjects
import Kubedal.Utils.Pool

/-!
# Deleting a `DataReplicaSet`

The three controllers at work on one cluster, with passes interleaved in any way, while users
add and remove objects and the garbage collector removes those whose owners are gone.

* `clusterService` is this system;
* `nothing_left`: what a deleted set had created is collected, unless a pass over one of its
  `DataPod`s has made a `DataNode` an owner that still exists.
-/

namespace Kubedal

open Interaction Kube Resource

/-! ## The system -/

/-- A pass of a controller: what `finalizer` calls on the object it is handed. -/
inductive Pass where
  | reconcileSet (self : DataReplicaSet)
  | cleanupSet (self : DataReplicaSet)
  | reconcilePod (self : DataPod)
  | cleanupPod (self : DataPod)
  | reconcileNode (self : DataNode)
  | cleanupNode (self : DataNode)

def Pass.program : Pass → Reconcile Action
  | .reconcileSet self => self.reconcile
  | .cleanupSet self => self.cleanup
  | .reconcilePod self => self.reconcile
  | .cleanupPod self => self.cleanup
  | .reconcileNode self => self.reconcile
  | .cleanupNode self => self.cleanup

namespace Cluster

/-- The metadata of all objects. -/
def metadatas (s : Cluster) : List ObjectMeta :=
  s.dataNodes.map DataNode.metadata ++ s.dataPods.map DataPod.metadata ++
    s.replicaSets.map DataReplicaSet.metadata ++ s.pvcs.map PersistentVolumeClaim.metadata ++
      s.pods.map Pod.metadata

/-- There is an object with this uid. -/
def Exists (s : Cluster) (uid : String) : Prop := ∃ m ∈ s.metadatas, m.uid = some uid

/-- The garbage collector removes an object that has owners none of which exists. -/
def Collectable (s : Cluster) (m : ObjectMeta) : Prop :=
  m.owners ≠ [] ∧ ∀ ref ∈ m.owners, ¬ s.Exists ref.uid

instance (s : Cluster) (uid : String) : Decidable (s.Exists uid) :=
  inferInstanceAs (Decidable (∃ m ∈ s.metadatas, m.uid = some uid))

instance (s : Cluster) : DecidablePred s.Collectable :=
  fun m => inferInstanceAs (Decidable (m.owners ≠ [] ∧ ∀ ref ∈ m.owners, ¬ s.Exists ref.uid))

/-- Some of the objects are collected. -/
def Collects {K : Type} [Kube.Resource K] (s : Cluster) (objects objects' : List K) : Prop :=
  objects'.Sublist objects ∧
    ∀ k ∈ objects, k ∉ objects' → s.Collectable (Kube.Resource.metadata k)

def withoutNode (s : Cluster) (uid : String) : Cluster :=
  { s with dataNodes := s.dataNodes.filter fun node => uidOf node ≠ some uid }

def withoutSet (s : Cluster) (uid : String) : Cluster :=
  { s with replicaSets := s.replicaSets.filter fun drs => uidOf drs ≠ some uid }

/-- What can happen besides the passes: users add and remove objects, and the garbage collector
removes some. -/
inductive Changes (s : Cluster) : Cluster → Prop where
  | addNode {node : DataNode} {uid : String} (named : uidOf node = some uid)
      (fresh : uid ∉ s.uids) :
      Changes s { s with dataNodes := s.dataNodes ++ [node], uids := uid :: s.uids }
  | removeNode (uid : String) : Changes s (s.withoutNode uid)
  | addDataPod {pod : DataPod} {uid : String} (named : uidOf pod = some uid)
      (fresh : uid ∉ s.uids) : Changes s (s.addDataPod pod)
  | addSet {drs : DataReplicaSet} {uid : String} (named : uidOf drs = some uid)
      (fresh : uid ∉ s.uids) :
      Changes s { s with replicaSets := s.replicaSets ++ [drs], uids := uid :: s.uids }
  | removeSet (uid : String) : Changes s (s.withoutSet uid)
  | collect {dataPods : List DataPod} {pvcs : List PersistentVolumeClaim} {pods : List Pod}
      (ofDataPods : s.Collects s.dataPods dataPods) (ofPvcs : s.Collects s.pvcs pvcs)
      (ofPods : s.Collects s.pods pods) :
      Changes s { s with dataPods := dataPods, pvcs := pvcs, pods := pods }

/-- The garbage collection has run to completion. -/
structure Settled (s : Cluster) : Prop where
  dataPods : ∀ pod ∈ s.dataPods, ¬ s.Collectable pod.metadata
  pvcs : ∀ pvc ∈ s.pvcs, ¬ s.Collectable pvc.metadata
  pods : ∀ pod ∈ s.pods, ¬ s.Collectable pod.metadata

/-- The uids of all objects were given out. -/
structure WellRecorded (s : Cluster) : Prop where
  dataPods : Recorded s.dataPods s.uids
  pvcs : Recorded s.pvcs s.uids
  pods : Recorded s.pods s.uids

end Cluster

abbrev ClusterPool := Pool signature Cluster Pass (Fault Error) Action

abbrev ClusterTransition := Service.Transition signature Cluster Pass (Fault Error) Action

/-- Passes over any objects, in any interleaving; any request may fail. -/
def clusterService (selects : Selects) : Service signature Cluster Pass (Fault Error) Action where
  program := Pass.program
  admits := fun _ _ => True
  answers := clusterEnv selects True
  disturbs := Cluster.Changes

/-! ## What the set has created -/

def newDataPod : Event signature → Option DataPod
  | ⟨.kube (.createDataPod _ _), Except.ok pod⟩ => some pod
  | _ => none

def newPvc : Event signature → Option PersistentVolumeClaim
  | ⟨.kube (.createPvc _ _), Except.ok pvc⟩ => some pvc
  | _ => none

def newPod : Event signature → Option Pod
  | ⟨.kube (.createPod _ _), Except.ok pod⟩ => some pod
  | _ => none

/-- The new object, if this step is one of a pass over the set. -/
def createdBy {K : Type} (uid : String) (new : Event signature → Option K) :
    Label signature Pass → Option K
  | .answered (.reconcileSet self) _ e => if self.metadata.uid = some uid then new e else none
  | _ => none

/-- What the set has created. -/
def created {K : Type} (uid : String) (new : Event signature → Option K)
    (steps : List ClusterTransition) : List K :=
  (steps.map Service.Transition.label).filterMap (createdBy uid new)

/-- The uid of the `DataNode` that this step makes the owner of the `DataPod`. -/
def nodeApplied (dataPod : DataPod) : Label signature Pass → Option String
  | .answered _ _ ⟨.kube (.applyDataPod _ _ patch), Except.ok pod⟩ =>
    if uidOf (K := DataPod) pod = uidOf dataPod then
      (patch.metadata.ownerReferences.getD []).head?.map OwnerReference.uid
    else none
  | _ => none

/-- The uid of the `DataNode` that was last made an owner of the `DataPod`. -/
def lastNode (dataPod : DataPod) (steps : List ClusterTransition) : Option String :=
  ((steps.map Service.Transition.label).filterMap (nodeApplied dataPod)).getLast?

/-- Nothing that the set has created is left. -/
structure NothingLeft (uid : String) (steps : List ClusterTransition) (s : Cluster) : Prop where
  dataPods : ∀ c ∈ created uid newDataPod steps, ∀ pod ∈ s.dataPods, uidOf pod ≠ uidOf c
  pvcs : ∀ c ∈ created uid newPvc steps, ∀ pvc ∈ s.pvcs, uidOf pvc ≠ uidOf c
  pods : ∀ c ∈ created uid newPod steps, ∀ pod ∈ s.pods, uidOf pod ≠ uidOf c

/-- The set has been deleted: its cleanup has returned `Ok`, and it is gone. -/
structure SetDeleted (uid : String) (P : ClusterPool) : Prop where
  cleaned : ∃ y ∈ P.finished, ∃ self : DataReplicaSet, y.request = .cleanupSet self ∧
    self.metadata.uid = some uid ∧ ∃ action, y.result = .ok action
  gone : ¬ P.state.Exists uid

lemma lastNode_append (dataPod : DataPod) (steps : List ClusterTransition)
    (x : ClusterTransition) :
    lastNode dataPod (steps ++ [x]) =
      (nodeApplied dataPod x.label).or (lastNode dataPod steps) := by
  unfold lastNode
  rw [List.map_append, List.filterMap_append, List.getLast?_append]
  cases hx : nodeApplied dataPod x.label <;> simp [hx]

lemma mem_created_append {K : Type} {uid : String} {new : Event signature → Option K}
    {steps : List ClusterTransition} {x : ClusterTransition} {c : K} :
    c ∈ created uid new (steps ++ [x]) ↔
      c ∈ created uid new steps ∨ createdBy uid new x.label = some c := by
  simp [created]

lemma created_disturbed {K : Type} {uid : String} {new : Event signature → Option K}
    {steps : List ClusterTransition} {x : ClusterTransition} (hx : x.label = .disturbed) :
    created uid new (steps ++ [x]) = created uid new steps := by
  simp [created, createdBy, hx]

/-! ## The calls of the controllers -/

/-- What a pass says about owners in its requests. -/
def Pass.Sends (r : Pass) : Call → Prop
  | .kube (.createDataPod _ pod) => ∃ self, r = .reconcileSet self ∧ OwnedOnlyBy self pod.metadata
  | .kube (.createPvc _ pvc) => ∃ self, r = .reconcileSet self ∧ OwnedOnlyBy self pvc.metadata
  | .kube (.createPod _ pod) => ∃ self, r = .reconcileSet self ∧ OwnedOnlyBy self pod.metadata
  | .kube (.applyDataPod _ _ patch) => ∃ owner, patch.metadata.ownerReferences = some [owner]
  | _ => True

lemma program_sends (r : Pass) : r.program.Uses r.Sends := by
  cases r with
  | reconcileSet self =>
    apply uses_reconcileSet
    case hd => exact fun _ _ _ h => ⟨self, rfl, h.owned⟩
    case hc => exact fun _ _ h => ⟨self, rfl, h⟩
    case hj => exact fun _ _ h => ⟨self, rfl, h⟩
    all_goals intros; trivial
  | reconcilePod self =>
    apply uses_reconcilePod
    case ha => exact fun _ _ _ owner h => ⟨owner, h.owners⟩
    all_goals intros; trivial
  | reconcileNode self =>
    apply uses_reconcileNode
    all_goals intros; trivial
  | cleanupSet self => exact uses_deleteRequested self fun _ _ => trivial
  | cleanupPod self => exact uses_deleteRequested self fun _ _ => trivial
  | cleanupNode self => exact uses_deleteRequested self fun _ _ => trivial

/-! ## What a call does to the objects -/

section
variable {selects : Selects} {s : Cluster} {c : Call} {a : c.Reply}

lemma putDataPod_uids (s : Cluster) (ns name : String) (pod : DataPod) :
    s.uids ⊆ (s.putDataPod ns name pod).uids := by
  unfold Cluster.putDataPod
  split
  · exact List.Subset.refl _
  · exact List.subset_append_right _ _

lemma of_createDataPod {ns : String} {sent pod : DataPod}
    (h : s.Answers selects True (.kube (.createDataPod ns sent)) (Except.ok pod)) :
    ∃ uid version, uidOf pod = some uid ∧ uid ∉ s.uids ∧
      pod.metadata = sent.metadata.stored ns uid version := by
  have created : Creates s.dataPods s.uids ns sent.metadata (fun m => { sent with metadata := m })
    (.ok pod) := replies_of_answers h
  exact created.ok fun _ => rfl

lemma of_createPvc {ns : String} {sent pvc : PersistentVolumeClaim}
    (h : s.Answers selects True (.kube (.createPvc ns sent)) (Except.ok pvc)) :
    ∃ uid version, uidOf pvc = some uid ∧ uid ∉ s.uids ∧
      pvc.metadata = sent.metadata.stored ns uid version := by
  have created : Creates s.pvcs s.uids ns sent.metadata (fun m => { sent with metadata := m })
    (.ok pvc) := replies_of_answers h
  exact created.ok fun _ => rfl

lemma of_createPod {ns : String} {sent pod : Pod}
    (h : s.Answers selects True (.kube (.createPod ns sent)) (Except.ok pod)) :
    ∃ uid version, uidOf pod = some uid ∧ uid ∉ s.uids ∧
      pod.metadata = sent.metadata.stored ns uid version := by
  have created : Creates s.pods s.uids ns sent.metadata (fun m => { sent with metadata := m })
    (.ok pod) := replies_of_answers h
  exact created.ok fun _ => rfl

/-- No claim and no pod is ever changed. -/
structure OthersGrow (s s' : Cluster) : Prop where
  pvcs : Grows s.pvcs s.uids s'.pvcs s'.uids
  pods : Grows s.pods s.uids s'.pods s'.uids

lemma OthersGrow.of_eq {s' : Cluster} (hpvcs : s'.pvcs = s.pvcs) (hpods : s'.pods = s.pods)
    (huids : s.uids ⊆ s'.uids) : OthersGrow s s' := ⟨.of_eq hpvcs huids, .of_eq hpods huids⟩

lemma next_othersGrow (answered : s.Answers selects True c a) : OthersGrow s (s.next c a) := by
  rcases c with c | c | c | c | c | _ | _
  case kube =>
    -- a request that failed changes nothing, and of the others few write claims or pods
    rcases a with e | object
    · exact .of_eq rfl rfl (List.Subset.refl _)
    rcases c with _ | _ | _ | _ | _ | _ | _ | _ | _ | _ | ⟨ns, name, patch⟩ | _ | _
    case createDataPod => exact .of_eq rfl rfl (List.subset_append_right _ _)
    case createPvc =>
      obtain ⟨uid, version, huid, fresh, _⟩ := of_createPvc answered
      exact ⟨.add huid fresh, .of_eq rfl (List.subset_append_right _ _)⟩
    case createPod =>
      obtain ⟨uid, version, huid, fresh, _⟩ := of_createPod answered
      exact ⟨.of_eq rfl (List.subset_append_right _ _), .add huid fresh⟩
    case applyDataPod =>
      exact .of_eq (Cluster.putDataPod_pvcs s ns name object)
        (Cluster.putDataPod_pods s ns name object) (putDataPod_uids s ns name object)
    all_goals exact .of_eq rfl rfl (List.Subset.refl _)
  all_goals exact .of_eq rfl rfl (List.Subset.refl _)

/-- The event is a successful apply of a `DataPod`. -/
def IsApply : Event signature → Prop
  | ⟨.kube (.applyDataPod _ _ _), Except.ok _⟩ => True
  | _ => False

/-- Only an apply changes a `DataPod`. -/
lemma next_grows_dataPods (other : ¬ IsApply ⟨c, a⟩)
    (answered : s.Answers selects True c a) :
    Grows s.dataPods s.uids (s.next c a).dataPods (s.next c a).uids := by
  rcases c with c | c | c | c | c | _ | _
  case kube =>
    rcases a with e | object
    · exact .of_eq rfl (List.Subset.refl _)
    rcases c with _ | _ | _ | _ | _ | _ | _ | _ | _ | _ | ⟨ns, name, patch⟩ | _ | _
    case createDataPod =>
      obtain ⟨uid, version, huid, fresh, _⟩ := of_createDataPod answered
      exact .add huid fresh
    case createPvc => exact .of_eq rfl (List.subset_append_right _ _)
    case createPod => exact .of_eq rfl (List.subset_append_right _ _)
    case applyDataPod => exact absurd trivial other
    all_goals exact .of_eq rfl (List.Subset.refl _)
  all_goals exact .of_eq rfl (List.Subset.refl _)

end

/-! ## What a step does to the objects -/

section
variable {selects : Selects} {P P' : ClusterPool} {l : Label signature Pass}

lemma state_of_answered {r : Pass} {past : List (Event signature)} {e : Event signature}
    (h : (clusterService selects).Step P (.answered r past e) P') :
    P.state.Answers selects True e.call e.reply ∧ P'.state = P.state.next e.call e.reply := by
  obtain ⟨_, _, _, _, answered, _⟩ := Service.step_answered h
  exact answered

lemma othersGrow_of_step (h : (clusterService selects).Step P l P') :
    OthersGrow P.state P'.state := by
  cases l with
  | arrives r =>
    rw [Service.step_arrives h]
    exact .of_eq rfl rfl (List.Subset.refl _)
  | answered r past e =>
    obtain ⟨answered, hstate⟩ := state_of_answered h
    rw [hstate]
    exact next_othersGrow answered
  | disturbed =>
    cases h with
    | disturb moved =>
      cases moved with
      | addNode => exact .of_eq rfl rfl (List.subset_cons_self _ _)
      | addSet => exact .of_eq rfl rfl (List.subset_cons_self _ _)
      | addDataPod => exact .of_eq rfl rfl (List.subset_append_right _ _)
      | collect _ ofPvcs ofPods =>
        exact ⟨.of_subset ofPvcs.1.subset (List.Subset.refl _),
          .of_subset ofPods.1.subset (List.Subset.refl _)⟩
      | _ => exact .of_eq rfl rfl (List.Subset.refl _)

lemma grows_dataPods (h : (clusterService selects).Step P l P')
    (other : ∀ r past e, l = .answered r past e → ¬ IsApply e) :
    Grows P.state.dataPods P.state.uids P'.state.dataPods P'.state.uids := by
  cases l with
  | arrives r =>
    rw [Service.step_arrives h]
    exact .of_eq rfl (List.Subset.refl _)
  | answered r past e =>
    obtain ⟨answered, hstate⟩ := state_of_answered h
    rw [hstate]
    exact next_grows_dataPods (other r past e rfl) answered
  | disturbed =>
    cases h with
    | disturb moved =>
      cases moved with
      | addNode => exact .of_eq rfl (List.subset_cons_self _ _)
      | addSet => exact .of_eq rfl (List.subset_cons_self _ _)
      | addDataPod named fresh => exact .add named fresh
      | collect ofDataPods _ _ => exact .of_subset ofDataPods.1.subset (List.Subset.refl _)
      | _ => exact .of_eq rfl (List.Subset.refl _)

end

/-! ## What is known about the objects of the set -/

/-- The object is still in its place, and its owners are the set and the `DataNode` that was last
made one. -/
structure ReplicaKept (uid : String) (c : DataPod) (node : Option String) (pod : DataPod) :
    Prop where
  name : pod.metadata.name = c.metadata.name
  ns : pod.metadata.ns = c.metadata.ns
  owners : OwnedThrough Cluster.manager uid node pod.metadata

/-- What is known about the objects that the set has created in `steps`. -/
structure CreatedKept (uid : String) (steps : List ClusterTransition) (s : Cluster) : Prop where
  recorded : s.WellRecorded
  dataPods : ∀ c ∈ created uid newDataPod steps,
    Remembered s.dataPods s.uids c (ReplicaKept uid c (lastNode c steps))
  pvcs : ∀ c ∈ created uid newPvc steps,
    Remembered s.pvcs s.uids c fun pvc => SoleOwner uid pvc.metadata
  pods : ∀ c ∈ created uid newPod steps,
    Remembered s.pods s.uids c fun pod => SoleOwner uid pod.metadata

lemma of_createdBy {K : Type} {uid : String} {new : Event signature → Option K}
    {l : Label signature Pass} {c : K} (h : createdBy uid new l = some c) :
    ∃ self past e, self.metadata.uid = some uid ∧ l = .answered (.reconcileSet self) past e ∧
      new e = some c := by
  unfold createdBy at h
  split at h
  · rename_i self past e
    split at h
    · exact ⟨self, past, e, ‹_›, rfl, h⟩
    · cases h
  · cases h

lemma of_newDataPod {e : Event signature} {c : DataPod} (h : newDataPod e = some c) :
    ∃ ns sent, e = ⟨.kube (.createDataPod ns sent), Except.ok c⟩ := by
  unfold newDataPod at h
  split at h
  · cases h
    exact ⟨_, _, rfl⟩
  · cases h

lemma of_newPvc {e : Event signature} {c : PersistentVolumeClaim} (h : newPvc e = some c) :
    ∃ ns sent, e = ⟨.kube (.createPvc ns sent), Except.ok c⟩ := by
  unfold newPvc at h
  split at h
  · cases h
    exact ⟨_, _, rfl⟩
  · cases h

lemma of_newPod {e : Event signature} {c : Pod} (h : newPod e = some c) :
    ∃ ns sent, e = ⟨.kube (.createPod ns sent), Except.ok c⟩ := by
  unfold newPod at h
  split at h
  · cases h
    exact ⟨_, _, rfl⟩
  · cases h

/-- A created object is owned by the set that the pass is over. -/
lemma soleOwner_of_creates {r : Pass} {self : DataReplicaSet} {uid : String} {m : ObjectMeta}
    (h : ∃ self, r = .reconcileSet self ∧ OwnedOnlyBy self m) (hr : r = .reconcileSet self)
    (huid : self.metadata.uid = some uid) : SoleOwner uid m := by
  obtain ⟨self', hself, uid', huid', sole⟩ := h
  rw [hr] at hself
  cases hself
  rw [huid] at huid'
  cases huid'
  exact sole

section
variable {selects : Selects} {s₀ : Cluster} {steps : List ClusterTransition} {P P' : ClusterPool}
  {l : Label signature Pass} {uid : String}

lemma sends_of_step {r : Pass} {past : List (Event signature)} {e : Event signature}
    (run : (clusterService selects).Run s₀ steps P)
    (h : (clusterService selects).Step P (.answered r past e) P') : r.Sends e.call :=
  run.uses_of_step h (program_sends r)

lemma remembered_pvc {c : PersistentVolumeClaim} (run : (clusterService selects).Run s₀ steps P)
    (h : (clusterService selects).Step P l P') (recorded : Recorded P.state.pvcs P.state.uids)
    (created : createdBy uid newPvc l = some c) :
    Remembered P'.state.pvcs P'.state.uids c fun pvc => SoleOwner uid pvc.metadata := by
  obtain ⟨self, past, e, huid, rfl, hnew⟩ := of_createdBy created
  obtain ⟨ns, sent, rfl⟩ := of_newPvc hnew
  obtain ⟨answered, hstate⟩ := state_of_answered h
  obtain ⟨new, version, hnew, fresh, hmeta⟩ := of_createPvc answered
  have sole := soleOwner_of_creates (sends_of_step run h) rfl huid
  rw [hstate]
  apply recorded.remembered hnew fresh
  rw [hmeta]
  exact sole

lemma remembered_pod {c : Pod} (run : (clusterService selects).Run s₀ steps P)
    (h : (clusterService selects).Step P l P') (recorded : Recorded P.state.pods P.state.uids)
    (created : createdBy uid newPod l = some c) :
    Remembered P'.state.pods P'.state.uids c fun pod => SoleOwner uid pod.metadata := by
  obtain ⟨self, past, e, huid, rfl, hnew⟩ := of_createdBy created
  obtain ⟨ns, sent, rfl⟩ := of_newPod hnew
  obtain ⟨answered, hstate⟩ := state_of_answered h
  obtain ⟨new, version, hnew, fresh, hmeta⟩ := of_createPod answered
  have sole := soleOwner_of_creates (sends_of_step run h) rfl huid
  rw [hstate]
  apply recorded.remembered hnew fresh
  rw [hmeta]
  exact sole

lemma remembered_dataPod {c : DataPod} (run : (clusterService selects).Run s₀ steps P)
    (h : (clusterService selects).Step P l P') (recorded : Recorded P.state.dataPods P.state.uids)
    (created : createdBy uid newDataPod l = some c) (node : Option String) :
    Remembered P'.state.dataPods P'.state.uids c (ReplicaKept uid c node) := by
  obtain ⟨self, past, e, huid, rfl, hnew⟩ := of_createdBy created
  obtain ⟨ns, sent, rfl⟩ := of_newDataPod hnew
  obtain ⟨answered, hstate⟩ := state_of_answered h
  obtain ⟨new, version, hnew, fresh, hmeta⟩ := of_createDataPod answered
  have sole := soleOwner_of_creates (sends_of_step run h) rfl huid
  rw [hstate]
  refine recorded.remembered hnew fresh ⟨rfl, rfl, ?_⟩
  rw [hmeta]
  exact sole.ownedThrough ns new version

/-- An apply keeps the place of the `DataPod`, and the `DataNode` is the new owner. -/
lemma ReplicaKept.applied {c old : DataPod} {node : Option String} {patch : DataPodPatch}
    {owner : OwnerReference} (h : ReplicaKept uid c node old)
    (hpatch : patch.metadata.ownerReferences = some [owner]) (version : String) :
    ReplicaKept uid c (some owner.uid) (Cluster.applied old patch version) := by
  have howners := h.owners.applyOwners owner
  refine ⟨h.name, h.ns, howners.congr ?_ ?_⟩
  all_goals
    unfold Cluster.applied
    rw [hpatch]
    rfl

lemma nodeApplied_of_apply {c pod : DataPod} {r : Pass} {past : List (Event signature)}
    {ns name : String} {patch : DataPodPatch} {owner : OwnerReference}
    (hpatch : patch.metadata.ownerReferences = some [owner]) :
    nodeApplied c (.answered r past ⟨.kube (.applyDataPod ns name patch), Except.ok pod⟩) =
      if uidOf pod = uidOf c then some owner.uid else none := by
  show (if uidOf pod = uidOf c then
    (patch.metadata.ownerReferences.getD []).head?.map OwnerReference.uid else none) = _
  rw [hpatch]
  rfl

/-- What a successful apply does to the `DataPod`s that the set has created. -/
lemma remembered_apply {c : DataPod} {r : Pass} {past : List (Event signature)} {ns name : String}
    {patch : DataPodPatch} {pod : DataPod} (run : (clusterService selects).Run s₀ steps P)
    (h : (clusterService selects).Step P
      (.answered r past ⟨.kube (.applyDataPod ns name patch), Except.ok pod⟩) P')
    (kept : Remembered P.state.dataPods P.state.uids c (ReplicaKept uid c (lastNode c steps))) :
    Remembered P'.state.dataPods P'.state.uids c (ReplicaKept uid c (lastNode c (steps ++
      [⟨P, .answered r past ⟨.kube (.applyDataPod ns name patch), Except.ok pod⟩, P'⟩]))) := by
  obtain ⟨owner, hpatch⟩ : ∃ owner, patch.metadata.ownerReferences = some [owner] :=
    sends_of_step run h
  obtain ⟨answered, hstate⟩ := state_of_answered h
  rw [hstate, lastNode_append, nodeApplied_of_apply hpatch]
  show Remembered (P.state.putDataPod ns name pod).dataPods
    (P.state.putDataPod ns name pod).uids c _
  obtain ⟨known, hknown, hc⟩ := kept.known
  rcases of_applyDataPod answered with
    ⟨new, hnew, fresh, hput⟩ | ⟨old, version, hold, hat, hpod, hput⟩
  -- a `DataPod` that the apply has created is not the one of the set
  · have hne : uidOf pod ≠ uidOf c := by
      intro heq
      rw [hnew, hc] at heq
      rw [Option.some.inj heq] at fresh
      exact fresh hknown
    rw [hput, if_neg hne]
    exact kept.grows (.add hnew fresh)
  · rw [hput]
    refine ⟨kept.known, fun d' hd' heq => ?_⟩
    obtain ⟨d, hd, rfl⟩ := List.mem_map.mp hd'
    have hsame : uidOf pod = uidOf old := by
      rw [hpod]
      rfl
    -- is the `DataPod` that was applied to the one of the set?
    by_cases hmine : uidOf pod = uidOf c
    · rw [if_pos hmine]
      have keptOld := kept.holds old hold (hsame.symm.trans hmine)
      by_cases hatd : At ns name d
      · rw [if_pos hatd, hpod]
        exact keptOld.applied hpatch version
      -- there is no other `DataPod` with this uid
      · rw [if_neg hatd] at heq
        have keptD := kept.holds d hd heq
        refine absurd ⟨?_, ?_⟩ hatd
        · exact (keptD.ns.trans keptOld.ns.symm).trans hat.1
        · exact (keptD.name.trans keptOld.name.symm).trans hat.2
    · rw [if_neg hmine]
      by_cases hatd : At ns name d
      · rw [if_pos hatd] at heq
        exact absurd heq hmine
      · rw [if_neg hatd] at heq ⊢
        exact kept.holds d hd heq

lemma recorded_apply {r : Pass} {past : List (Event signature)} {ns name : String}
    {patch : DataPodPatch} {pod : DataPod} (h : (clusterService selects).Step P
      (.answered r past ⟨.kube (.applyDataPod ns name patch), Except.ok pod⟩) P')
    (recorded : Recorded P.state.dataPods P.state.uids) :
    Recorded P'.state.dataPods P'.state.uids := by
  obtain ⟨answered, hstate⟩ := state_of_answered h
  rw [hstate]
  show Recorded (P.state.putDataPod ns name pod).dataPods (P.state.putDataPod ns name pod).uids
  rcases of_applyDataPod answered with
    ⟨new, hnew, fresh, hput⟩ | ⟨old, version, hold, _, hpod, hput⟩
  · rw [hput]
    exact recorded.grows (.add hnew fresh)
  · rw [hput]
    intro d' hd' uid huid
    obtain ⟨d, hd, rfl⟩ := List.mem_map.mp hd'
    by_cases hatd : At ns name d
    · rw [if_pos hatd, hpod] at huid
      exact recorded old hold uid huid
    · rw [if_neg hatd] at huid
      exact recorded d hd uid huid

lemma nodeApplied_of_not_apply {c : DataPod}
    (other : ∀ r past e, l = .answered r past e → ¬ IsApply e) :
    nodeApplied c l = none := by
  unfold nodeApplied
  split
  · exact absurd trivial (other _ _ _ rfl)
  · rfl

/-- What is known of the `DataPod`s after a step. -/
lemma CreatedKept.step_dataPods (run : (clusterService selects).Run s₀ steps P)
    (h : (clusterService selects).Step P l P') (kept : CreatedKept uid steps P.state) :
    Recorded P'.state.dataPods P'.state.uids ∧
      ∀ c ∈ created uid newDataPod (steps ++ [⟨P, l, P'⟩]),
        Remembered P'.state.dataPods P'.state.uids c
          (ReplicaKept uid c (lastNode c (steps ++ [⟨P, l, P'⟩]))) := by
  -- an apply is the only step that changes a `DataPod`
  by_cases happly : ∃ r past e, l = .answered r past e ∧ IsApply e
  · obtain ⟨r, past, ⟨call, reply⟩, rfl, happly⟩ := happly
    rcases call with call | _ | _ | _ | _ | _ | _
    case kube =>
      rcases reply with e | object
      · rcases call with _ | _ | _ | _ | _ | _ | _ | _ | _ | _ | _ | _ | _ <;> exact happly.elim
      rcases call with _ | _ | _ | _ | _ | _ | _ | _ | _ | _ | ⟨ns, name, patch⟩ | _ | _
      case applyDataPod =>
        refine ⟨recorded_apply h kept.recorded.dataPods, fun c hc => ?_⟩
        rcases mem_created_append.mp hc with hc | hc
        · exact remembered_apply run h (kept.dataPods c hc)
        · obtain ⟨_, _, _, _, hlabel, hnew⟩ := of_createdBy hc
          cases hlabel
          cases hnew
      all_goals exact happly.elim
    all_goals exact happly.elim
  · have other : ∀ r past e, l = .answered r past e → ¬ IsApply e :=
      fun r past e hl he => happly ⟨r, past, e, hl, he⟩
    have grown := grows_dataPods h other
    refine ⟨kept.recorded.dataPods.grows grown, fun c hc => ?_⟩
    rcases mem_created_append.mp hc with hc | hc
    · rw [lastNode_append, nodeApplied_of_not_apply other, Option.none_or]
      exact (kept.dataPods c hc).grows grown
    · exact remembered_dataPod run h kept.recorded.dataPods hc _

lemma CreatedKept.step (run : (clusterService selects).Run s₀ steps P)
    (h : (clusterService selects).Step P l P') (kept : CreatedKept uid steps P.state) :
    CreatedKept uid (steps ++ [⟨P, l, P'⟩]) P'.state := by
  obtain ⟨recorded, dataPods⟩ := kept.step_dataPods run h
  have others := othersGrow_of_step h
  refine ⟨⟨recorded, kept.recorded.pvcs.grows others.pvcs, kept.recorded.pods.grows others.pods⟩,
    dataPods, fun c hc => ?_, fun c hc => ?_⟩
  · rcases mem_created_append.mp hc with hc | hc
    · exact (kept.pvcs c hc).grows others.pvcs
    · exact remembered_pvc run h kept.recorded.pvcs hc
  · rcases mem_created_append.mp hc with hc | hc
    · exact (kept.pods c hc).grows others.pods
    · exact remembered_pod run h kept.recorded.pods hc

lemma createdKept_of_run (recorded : s₀.WellRecorded)
    (run : (clusterService selects).Run s₀ steps P) : CreatedKept uid steps P.state := by
  induction run with
  | start =>
    refine ⟨recorded, ?_, ?_, ?_⟩
    all_goals
      intro c hc
      cases hc
  | step run last ih => exact ih.step run last

/-- An object is collected if its only owner is gone. -/
lemma collectable_of_soleOwner {s : Cluster} {m : ObjectMeta} (h : SoleOwner uid m)
    (gone : ¬ s.Exists uid) : s.Collectable m := by
  obtain ⟨ref, hrefs, rfl⟩ := h
  unfold Cluster.Collectable ObjectMeta.owners
  rw [hrefs]
  refine ⟨List.cons_ne_nil _ _, fun ref' href' => ?_⟩
  rw [List.mem_singleton.mp href']
  exact gone

/-- A `DataPod` is collected if the set and the `DataNode` are gone. -/
lemma ReplicaKept.collectable {s : Cluster} {c pod : DataPod} {node : Option String}
    (h : ReplicaKept uid c node pod) (gone : ¬ s.Exists uid)
    (nodeGone : ∀ name, node = some name → ¬ s.Exists name) : s.Collectable pod.metadata := by
  refine ⟨h.owners.owned, fun ref href => ?_⟩
  rcases h.owners.refs ref href with heq | ⟨heq, _⟩
  · rw [heq]
    exact gone
  · exact nodeGone _ heq

/-- Once a set is deleted and the garbage collection has run to completion, nothing that the set
has created is left, provided that the `DataNode`s that were last made owners of its `DataPod`s
are gone as well. -/
theorem nothing_left (recorded : s₀.WellRecorded) (run : (clusterService selects).Run s₀ steps P)
    (deleted : SetDeleted uid P) (settled : P.state.Settled)
    (nodesGone : ∀ c ∈ created uid newDataPod steps, ∀ node,
      lastNode c steps = some node → ¬ P.state.Exists node) :
    NothingLeft uid steps P.state := by
  have kept : CreatedKept uid steps P.state := createdKept_of_run recorded run
  refine ⟨fun c hc pod hpod heq => ?_, fun c hc pvc hpvc heq => ?_, fun c hc pod hpod heq => ?_⟩
  -- otherwise the garbage collector would not be done
  · have known := (kept.dataPods c hc).holds pod hpod heq
    exact settled.dataPods pod hpod (known.collectable deleted.gone (nodesGone c hc))
  · have known := (kept.pvcs c hc).holds pvc hpvc heq
    exact settled.pvcs pvc hpvc (collectable_of_soleOwner known deleted.gone)
  · have known := (kept.pods c hc).holds pod hpod heq
    exact settled.pods pod hpod (collectable_of_soleOwner known deleted.gone)

end

/-! ## A set with one replica -/

/-- The replica that a pass over the set creates on the node `m`. -/
def sampleReplica : DataPod where
  metadata :=
    { name := some (replicaName "0" 0)
      ns := some "default"
      uid := some "00"
      resourceVersion := some ""
      ownerReferences := some [⟨"kubedal.arunaengine.org/v1alpha1", "DataReplicaSet", "set", "0"⟩]
      managedFields := [⟨"", ["0"]⟩] }
  spec := ⟨some "/replica-0", some ⟨"m", some "default"⟩, none, none⟩
  status := none

/-- The set is reconciled, then its replica, and then the set is cleaned up. -/
def samplePasses : List Pass :=
  [.reconcileSet (sampleSet 1), .reconcilePod sampleReplica, .cleanupSet (sampleSet 1)]

namespace Cluster

/-- Without all that can be collected. -/
def collected (s : Cluster) : Cluster :=
  { s with
    dataPods := s.dataPods.filter fun pod => ¬ s.Collectable pod.metadata
    pvcs := s.pvcs.filter fun pvc => ¬ s.Collectable pvc.metadata
    pods := s.pods.filter fun pod => ¬ s.Collectable pod.metadata }

lemma collects_filter {K : Type} [Kube.Resource K] (s : Cluster) (objects : List K) :
    s.Collects objects
      (objects.filter fun k => ¬ s.Collectable (Kube.Resource.metadata k)) := by
  refine ⟨List.filter_sublist, fun k hk hnot => ?_⟩
  by_contra hkept
  exact hnot (List.mem_filter.mpr ⟨hk, by simpa using hkept⟩)

lemma changes_collected (s : Cluster) : s.Changes s.collected :=
  .collect (s.collects_filter s.dataPods) (s.collects_filter s.pvcs) (s.collects_filter s.pods)

end Cluster

instance : DecidablePred Cluster.Settled := fun s =>
  decidable_of_iff ((∀ pod ∈ s.dataPods, ¬ s.Collectable pod.metadata) ∧
    (∀ pvc ∈ s.pvcs, ¬ s.Collectable pvc.metadata) ∧ ∀ pod ∈ s.pods, ¬ s.Collectable pod.metadata)
    ⟨fun h => ⟨h.1, h.2.1, h.2.2⟩, fun h => ⟨h.dataPods, h.pvcs, h.pods⟩⟩

lemma sampleCluster_recorded :
    (sampleCluster 1 [sampleNode "m" "3"] []).WellRecorded := by
  refine ⟨fun pod hpod uid huid => ?_, fun _ h => (by cases h), fun _ h => (by cases h)⟩
  rw [List.mem_singleton.mp hpod] at huid
  cases huid
  decide

/-- The passes one after another, and then the set is removed. -/
lemma exists_deletion : ∃ steps done s, (clusterService sampleSelects).Run
      (sampleCluster 1 [sampleNode "m" "3"] []) steps ⟨s, [], done⟩ ∧
    (∃ y ∈ done, ∃ self : DataReplicaSet, y.request = .cleanupSet self ∧
      self.metadata.uid = some "0" ∧ ∃ action, y.result = .ok action) ∧
    created "0" newDataPod steps = [sampleReplica] ∧ lastNode sampleReplica steps = some "3" ∧
    (s.collected.Settled ∧ ¬ s.collected.Exists "0" ∧
      ∃ pod ∈ s.collected.dataPods, uidOf pod = uidOf sampleReplica) ∧
    ((s.withoutNode "3").collected.Settled ∧
      ¬ (s.withoutNode "3").collected.Exists "0" ∧
      ¬ (s.withoutNode "3").collected.Exists "3") := by
  obtain ⟨done, s, y₁, y₂, τ, action, hserial, hdone, hcreated, hnode, hleft, hgone⟩ :
      ∃ done s y₁ y₂ τ action,
      (clusterService sampleSelects).serial (fun _ => Cluster.serve sampleSelects) 20
        samplePasses (sampleCluster 1 [sampleNode "m" "3"] []) = some (done, s) ∧
      done = [y₁, y₂, ⟨.cleanupSet (sampleSet 1), τ, .ok action⟩] ∧
      (done.flatMap Response.trace).filterMap (createdBy "0" newDataPod) = [sampleReplica] ∧
      ((done.flatMap Response.trace).filterMap (nodeApplied sampleReplica)).getLast? = some "3" ∧
      ((s.withoutSet "0").collected.Settled ∧
        ¬ (s.withoutSet "0").collected.Exists "0" ∧
        ∃ pod ∈ (s.withoutSet "0").collected.dataPods,
          uidOf pod = uidOf sampleReplica) ∧
      (((s.withoutSet "0").withoutNode "3").collected.Settled ∧
        ¬ ((s.withoutSet "0").withoutNode "3").collected.Exists "0" ∧
        ¬ ((s.withoutSet "0").withoutNode "3").collected.Exists "3") :=
    ⟨_, _, _, _, _, _, rfl, rfl, by rfl, by rfl, by decide, by decide⟩
  obtain ⟨steps, run, _, htrace⟩ := Service.Run.serial
    (fun _ _ _ _ _ h => clusterEnv_of_reliable (clusterEnv_of_serve h))
    (fun _ _ _ => trivial) .start hserial
  rw [List.nil_append, List.nil_append] at run
  have removed := run.step (.disturb (.removeSet "0"))
  refine ⟨_, done, _, removed, ⟨⟨.cleanupSet (sampleSet 1), τ, .ok action⟩, ?_, _, rfl, rfl,
    action, rfl⟩, ?_, ?_, hleft, hgone⟩
  · rw [hdone]
    simp
  · rw [created_disturbed rfl]
    unfold created
    rw [htrace, hcreated]
  · rw [lastNode_append]
    unfold lastNode
    rw [htrace, hnode]
    rfl

/-- The replica has the `DataNode` as its owner too, and is left. -/
theorem replica_left :
    ¬ ∀ (selects : Selects) (uid : String) (s₀ : Cluster) (steps : List ClusterTransition)
        (P : ClusterPool), s₀.WellRecorded → (clusterService selects).Run s₀ steps P →
      SetDeleted uid P → P.state.Settled → NothingLeft uid steps P.state := by
  intro claim
  obtain ⟨steps, done, s, run, cleaned, hcreated, _, ⟨settled, gone, pod, hpod, heq⟩, _⟩ :=
    exists_deletion
  have collected := run.step (.disturb s.changes_collected)
  have left := claim _ "0" _ _ _ sampleCluster_recorded collected ⟨cleaned, gone⟩ settled
  refine left.dataPods sampleReplica (mem_created_append.mpr (.inl ?_)) pod hpod heq
  rw [hcreated]
  exact List.mem_singleton_self _

/-- When the `DataNode` is removed as well, the replica is collected. -/
theorem replica_collected_with_node :
    ∃ steps P,
      (clusterService sampleSelects).Run (sampleCluster 1 [sampleNode "m" "3"] []) steps P ∧
      created "0" newDataPod steps = [sampleReplica] ∧ NothingLeft "0" steps P.state := by
  obtain ⟨steps, done, s, run, cleaned, hcreated, hnode, _, settled, gone, nodeGone⟩ :=
    exists_deletion
  have removed := run.step (.disturb (.removeNode "3"))
  have collected := removed.step (.disturb (s.withoutNode "3").changes_collected)
  refine ⟨_, _, collected, ?_, nothing_left sampleCluster_recorded collected ⟨cleaned, gone⟩ settled
    fun c hc node hlast => ?_⟩
  · rw [created_disturbed rfl, created_disturbed rfl]
    exact hcreated
  · rw [created_disturbed rfl, created_disturbed rfl, hcreated] at hc
    rw [List.mem_singleton.mp hc, lastNode_append, lastNode_append, hnode] at hlast
    cases hlast
    exact nodeGone

end Kubedal
