import Kubedal.Resource.ReplicaCollection

/-!
# While a `DataReplicaSet` is there

The garbage collector removes what has lost all its owners. The owners of a replica change while
it is there: each pass over it applies a `DataNode` for an owner, in the place of the one before.

* `NothingLost`: all that the set has created is there, with the set for an owner;
* `nothing_lost`: this holds in every run as long as the set is there, whatever else is removed.
-/

namespace Kubedal

open Interaction Kube Resource

/-! ## An owner that is kept -/

/-- The object with this uid is an owner that others than the manager have set. -/
structure KeptBy (manager uid : String) (m : ObjectMeta) : Prop where
  owner : ∃ ref ∈ m.owners, ref.uid = uid
  others : m.OthersHold manager uid

section
variable {m : ObjectMeta} {manager uid : String} {refs : List OwnerReference}

/-- The manager applies other owners. -/
lemma KeptBy.applyOwners (h : KeptBy manager uid m) :
    KeptBy manager uid (m.applyOwners manager refs) := by
  obtain ⟨ref, href, huid⟩ := h.owner
  have kept : ref ∈ m.keptOwners manager := by
    refine List.mem_filter.mpr ⟨href, decide_eq_true (.inr ?_)⟩
    rw [huid]
    exact h.others
  constructor
  -- a reference with the uid may be overwritten, by one with the same uid
  · refine ⟨(refs.find? fun r => r.uid = ref.uid).getD ref,
      List.mem_append_left _ (List.mem_map.mpr ⟨ref, kept, rfl⟩), ?_⟩
    cases hfind : refs.find? fun r => r.uid = ref.uid with
    | none => exact huid
    | some r =>
      have same : r.uid = ref.uid := by simpa using List.find?_some hfind
      exact same.trans huid
  · obtain ⟨e, he, hne, hmem⟩ := h.others
    exact ⟨e, List.mem_append_left _ (List.mem_filter.mpr ⟨he, decide_eq_true hne⟩), hne, hmem⟩

lemma exists_owner_of_soleOwner (h : SoleOwner uid m) : ∃ ref ∈ m.owners, ref.uid = uid := by
  obtain ⟨ref, hrefs, huid⟩ := h
  refine ⟨ref, ?_, huid⟩
  unfold ObjectMeta.owners
  rw [hrefs]
  exact List.mem_singleton_self _

/-- The owner that an object is created with is set by another manager. -/
lemma keptBy_of_soleOwner (h : SoleOwner uid m) (ns new version : String)
    (other : "" ≠ manager) : KeptBy manager uid (m.stored ns new version) := by
  refine ⟨exists_owner_of_soleOwner h, ?_⟩
  obtain ⟨ref, hrefs, rfl⟩ := h
  refine ⟨_, List.mem_singleton_self _, other, ?_⟩
  rw [hrefs]
  exact List.mem_singleton_self _

/-- The garbage collector leaves an object with an owner that is there. -/
lemma not_collectable {s : Cluster} (there : s.Exists uid) (h : ∃ ref ∈ m.owners, ref.uid = uid) :
    ¬ s.Collectable m := by
  intro collectable
  obtain ⟨ref, href, huid⟩ := h
  apply collectable.2 ref href
  rw [huid]
  exact there

lemma Cluster.Collects.keeps {K : Type} [Kube.Resource K] {s : Cluster} {objects objects' : List K}
    {k : K} (h : s.Collects objects objects') (there : s.Exists uid) (hk : k ∈ objects)
    (owned : ∃ ref ∈ (Kube.Resource.metadata k).owners, ref.uid = uid) : k ∈ objects' := by
  by_contra hnot
  exact not_collectable there owned (h.2 k hk hnot)

end

/-! ## The places of `DataPod`s -/

/-- The namespace and the name. -/
def placeOf (pod : DataPod) : Option String × Option String := (namespaceOf pod, pod.metadata.name)

/-- No two `DataPod`s of a namespace have the same name. -/
def PlacesApart (pods : List DataPod) : Prop :=
  ∀ pod ∈ pods, ∀ pod' ∈ pods, placeOf pod = placeOf pod' → pod = pod'

section
variable {pods : List DataPod} {pod : DataPod} {ns name : String}

lemma placeOf_eq_iff : placeOf pod = (some ns, some name) ↔ At ns name pod := by
  unfold placeOf
  rw [Prod.mk.injEq]
  exact Iff.rfl

lemma PlacesApart.append (h : PlacesApart pods) (free : ∀ k ∈ pods, ¬ At ns name k)
    (hat : At ns name pod) : PlacesApart (pods ++ [pod]) := by
  have differs : ∀ k ∈ pods, placeOf k ≠ placeOf pod := by
    intro k hk heq
    rw [placeOf_eq_iff.mpr hat] at heq
    exact free k hk (placeOf_eq_iff.mp heq)
  intro p hp q hq heq
  rcases List.mem_append.mp hp with hp | hp
  · rcases List.mem_append.mp hq with hq | hq
    · exact h p hp q hq heq
    · rw [List.mem_singleton.mp hq] at heq
      exact absurd heq (differs p hp)
  · rw [List.mem_singleton.mp hp] at heq ⊢
    rcases List.mem_append.mp hq with hq | hq
    · exact absurd heq.symm (differs q hq)
    · exact (List.mem_singleton.mp hq).symm

/-- Putting a `DataPod` in the place of another. -/
lemma PlacesApart.map (h : PlacesApart pods) (hat : At ns name pod) :
    PlacesApart (pods.map fun k => if At ns name k then pod else k) := by
  have stays : ∀ k, placeOf (if At ns name k then pod else k) = placeOf k := by
    intro k
    by_cases hk : At ns name k
    · rw [if_pos hk, placeOf_eq_iff.mpr hat, placeOf_eq_iff.mpr hk]
    · rw [if_neg hk]
  intro p hp q hq heq
  obtain ⟨k, hk, rfl⟩ := List.mem_map.mp hp
  obtain ⟨k', hk', rfl⟩ := List.mem_map.mp hq
  rw [stays, stays] at heq
  rw [h k hk k' hk' heq]

end

/-! ## What a call leaves -/

/-- The `DataPod` has the uid and the place of `c`, and the set for an owner. -/
structure StillHeld (uid : String) (c pod : DataPod) : Prop where
  same : uidOf pod = uidOf c
  place : placeOf pod = placeOf c
  kept : KeptBy Cluster.manager uid pod.metadata

section
variable {selects : Selects} {s : Cluster} {uid : String}

lemma StillHeld.applied {c old : DataPod} (h : StillHeld uid c old) (patch : DataPodPatch)
    (version : String) : StillHeld uid c (Cluster.applied old patch version) :=
  ⟨h.same, h.place, ⟨h.kept.applyOwners.owner, h.kept.applyOwners.others⟩⟩

end

/-- What a call can do to the `DataPod`s: one is created in a free place, or written in its
own. -/
inductive DataPodsMove (pods : List DataPod) : List DataPod → Prop where
  | same : DataPodsMove pods pods
  | added {ns name : String} {pod : DataPod} (hat : At ns name pod)
      (free : ∀ k ∈ pods, ¬ At ns name k) : DataPodsMove pods (pods ++ [pod])
  | applied {ns name : String} {old : DataPod} (hold : old ∈ pods) (hat : At ns name old)
      (patch : DataPodPatch) (version : String) :
      DataPodsMove pods
        (pods.map fun k => if At ns name k then Cluster.applied old patch version else k)

section
variable {selects : Selects} {s : Cluster} {c : Call} {a : c.Reply} {uid : String}
  {pods pods' : List DataPod}

lemma move_of_apply {ns name : String} {patch : DataPodPatch} {pod : DataPod}
    (h : s.Answers selects True (.kube (.applyDataPod ns name patch)) (Except.ok pod)) :
    DataPodsMove s.dataPods (s.putDataPod ns name pod).dataPods := by
  unfold Cluster.putDataPod
  rcases applied_of_replies (replies_of_answers h) with
    ⟨old, version, hget, hpod⟩ | ⟨e, new, version, hget, _, hpod⟩
  · obtain ⟨hold, hat⟩ := getFrom_ok hget
    rw [if_pos ⟨old, hold, hat⟩, hpod]
    exact .applied hold hat patch version
  · have free : ¬ ∃ k ∈ s.dataPods, At ns name k := by
      intro taken
      obtain ⟨k, hk⟩ := exists_getFrom taken
      rw [hget] at hk
      cases hk
    rw [if_neg free, hpod]
    exact .added ⟨rfl, rfl⟩ fun k hk hat => free ⟨k, hk, hat⟩

lemma next_moves (answered : s.Answers selects True c a) :
    DataPodsMove s.dataPods (s.next c a).dataPods := by
  by_cases keeps : c.KeepsDataPods
  · rw [Cluster.next_dataPods keeps]
    exact .same
  · rcases c with c | _ | _ | _ | _ | _ | _
    case kube =>
      rcases a with e | object
      · exact .same
      rcases c with _ | _ | _ | _ | _ | _ | ⟨ns, pod⟩ | _ | _ | _ | ⟨ns, name, patch⟩ | _ | _
      case createDataPod =>
        have created : Creates s.dataPods s.uids ns pod.metadata
          (fun m => { pod with metadata := m }) (.ok object) := replies_of_answers answered
        obtain ⟨name, new, version, hname, free, _, rfl⟩ := created
        exact .added ⟨rfl, hname⟩ free
      case applyDataPod => exact move_of_apply answered
      all_goals exact absurd trivial keeps
    all_goals exact absurd trivial keeps

lemma DataPodsMove.apart (h : DataPodsMove pods pods') (apart : PlacesApart pods) :
    PlacesApart pods' := by
  cases h with
  | same => exact apart
  | added hat free => exact apart.append free hat
  | applied hold hat patch version => exact apart.map hat

/-- What is written is the `DataPod` itself, as no other is in its place. -/
lemma DataPodsMove.stillHeld {created pod : DataPod} (h : DataPodsMove pods pods')
    (apart : PlacesApart pods) (hpod : pod ∈ pods) (held : StillHeld uid created pod) :
    ∃ pod' ∈ pods', StillHeld uid created pod' := by
  cases h with
  | same => exact ⟨pod, hpod, held⟩
  | added => exact ⟨pod, List.mem_append_left _ hpod, held⟩
  | @applied ns name old hold hat patch version =>
    refine ⟨_, List.mem_map_of_mem hpod, ?_⟩
    by_cases hhere : At ns name pod
    · rw [if_pos hhere]
      have same : pod = old :=
        apart pod hpod old hold ((placeOf_eq_iff.mpr hhere).trans (placeOf_eq_iff.mpr hat).symm)
      rw [← same]
      exact held.applied patch version
    · rw [if_neg hhere]
      exact held

/-- No call removes a pod. -/
lemma next_keeps_pods (s : Cluster) (c : Call) (a : c.Reply) : s.pods ⊆ (s.next c a).pods := by
  by_cases keeps : c.KeepsPods
  · rw [Cluster.next_pods keeps]
    exact List.Subset.refl _
  · rcases c with c | _ | _ | _ | _ | _ | _
    case kube =>
      rcases a with e | object
      · exact List.Subset.refl _
      rcases c with _ | _ | _ | _ | _ | _ | _ | _ | _ | _ | _ | _ | _
      case createPod => exact List.subset_append_left _ _
      all_goals exact absurd trivial keeps
    all_goals exact absurd trivial keeps

end

/-! ## What the set has created -/

/-- All that the set has created is there, and the set is an owner of it. -/
structure NothingLost (uid : String) (steps : List ClusterTransition) (s : Cluster) : Prop where
  dataPods : ∀ c ∈ created uid newDataPod steps, ∃ pod ∈ s.dataPods, StillHeld uid c pod
  pvcs : ∀ c ∈ created uid newPvc steps, c ∈ s.pvcs ∧ SoleOwner uid c.metadata
  pods : ∀ c ∈ created uid newPod steps, c ∈ s.pods ∧ SoleOwner uid c.metadata

section
variable {selects : Selects} {s₀ : Cluster} {steps : List ClusterTransition} {P P' : ClusterPool}
  {l : Label signature Pass} {uid : String}

lemma held_of_created {c : DataPod} (run : (clusterService selects).Run s₀ steps P)
    (h : (clusterService selects).Step P l P') (created : createdBy uid newDataPod l = some c) :
    c ∈ P'.state.dataPods ∧ StillHeld uid c c := by
  obtain ⟨self, past, e, huid, rfl, hnew⟩ := of_createdBy created
  obtain ⟨ns, sent, rfl⟩ := of_newDataPod hnew
  obtain ⟨answered, hstate⟩ := state_of_answered h
  obtain ⟨new, version, _, _, hmeta⟩ := of_createDataPod answered
  have sole := soleOwner_of_creates (sends_of_step run h) rfl huid
  rw [hstate]
  refine ⟨List.mem_append_right _ (List.mem_singleton_self _), rfl, rfl, ?_⟩
  rw [hmeta]
  exact keptBy_of_soleOwner sole ns new version (by decide)

lemma claim_of_created {c : PersistentVolumeClaim} (run : (clusterService selects).Run s₀ steps P)
    (h : (clusterService selects).Step P l P') (created : createdBy uid newPvc l = some c) :
    c ∈ P'.state.pvcs ∧ SoleOwner uid c.metadata := by
  obtain ⟨self, past, e, huid, rfl, hnew⟩ := of_createdBy created
  obtain ⟨ns, sent, rfl⟩ := of_newPvc hnew
  obtain ⟨answered, hstate⟩ := state_of_answered h
  obtain ⟨new, version, _, _, hmeta⟩ := of_createPvc answered
  have sole := soleOwner_of_creates (sends_of_step run h) rfl huid
  rw [hstate]
  refine ⟨List.mem_append_right _ (List.mem_singleton_self _), ?_⟩
  rw [hmeta]
  exact sole

lemma pod_of_created {c : Pod} (run : (clusterService selects).Run s₀ steps P)
    (h : (clusterService selects).Step P l P') (created : createdBy uid newPod l = some c) :
    c ∈ P'.state.pods ∧ SoleOwner uid c.metadata := by
  obtain ⟨self, past, e, huid, rfl, hnew⟩ := of_createdBy created
  obtain ⟨ns, sent, rfl⟩ := of_newPod hnew
  obtain ⟨answered, hstate⟩ := state_of_answered h
  obtain ⟨new, version, _, _, hmeta⟩ := of_createPod answered
  have sole := soleOwner_of_creates (sends_of_step run h) rfl huid
  rw [hstate]
  refine ⟨List.mem_append_right _ (List.mem_singleton_self _), ?_⟩
  rw [hmeta]
  exact sole

/-- Users leave no two `DataPod`s in one place: the API server refuses the second. -/
def UsersName (steps : List ClusterTransition) : Prop :=
  ∀ x ∈ steps, x.label = .disturbed → PlacesApart x.target.state.dataPods

lemma apart_of_step (h : (clusterService selects).Step P l P')
    (named : l = .disturbed → PlacesApart P'.state.dataPods)
    (apart : PlacesApart P.state.dataPods) : PlacesApart P'.state.dataPods := by
  cases l with
  | arrives r =>
    rw [Service.step_arrives h]
    exact apart
  | answered r past e =>
    obtain ⟨answered, hstate⟩ := state_of_answered h
    rw [hstate]
    exact (next_moves answered).apart apart
  | disturbed => exact named rfl

lemma stillHeld_of_step {c pod : DataPod} (h : (clusterService selects).Step P l P')
    (there : P.state.Exists uid) (apart : PlacesApart P.state.dataPods)
    (hpod : pod ∈ P.state.dataPods) (held : StillHeld uid c pod) :
    ∃ pod' ∈ P'.state.dataPods, StillHeld uid c pod' := by
  cases l with
  | arrives r =>
    rw [Service.step_arrives h]
    exact ⟨pod, hpod, held⟩
  | answered r past e =>
    obtain ⟨answered, hstate⟩ := state_of_answered h
    rw [hstate]
    exact (next_moves answered).stillHeld apart hpod held
  | disturbed =>
    refine ⟨pod, ?_, held⟩
    cases h with
    | disturb moved =>
      cases moved with
      | addDataPod => exact List.mem_append_left _ hpod
      | collect ofDataPods _ _ => exact ofDataPods.keeps there hpod held.kept.owner
      | _ => exact hpod

/-- A claim or a pod that the set owns is left alone. -/
lemma claims_of_step (h : (clusterService selects).Step P l P') (there : P.state.Exists uid) :
    (∀ c ∈ P.state.pvcs, SoleOwner uid c.metadata → c ∈ P'.state.pvcs) ∧
      ∀ c ∈ P.state.pods, SoleOwner uid c.metadata → c ∈ P'.state.pods := by
  cases l with
  | arrives r =>
    rw [Service.step_arrives h]
    exact ⟨fun _ hc _ => hc, fun _ hc _ => hc⟩
  | answered r past e =>
    obtain ⟨answered, hstate⟩ := state_of_answered h
    rw [hstate]
    exact ⟨fun _ hc _ => (P.state.next_pvcs e.call e.reply).subset hc,
      fun _ hc _ => next_keeps_pods P.state e.call e.reply hc⟩
  | disturbed =>
    cases h with
    | disturb moved =>
      cases moved with
      | collect _ ofPvcs ofPods =>
        exact ⟨fun c hc sole => ofPvcs.keeps there hc (exists_owner_of_soleOwner sole),
          fun c hc sole => ofPods.keeps there hc (exists_owner_of_soleOwner sole)⟩
      | _ => exact ⟨fun _ hc _ => hc, fun _ hc _ => hc⟩

lemma NothingLost.step (run : (clusterService selects).Run s₀ steps P)
    (h : (clusterService selects).Step P l P') (there : P.state.Exists uid)
    (apart : PlacesApart P.state.dataPods) (held : NothingLost uid steps P.state) :
    NothingLost uid (steps ++ [⟨P, l, P'⟩]) P'.state := by
  obtain ⟨pvcs, pods⟩ := claims_of_step h there
  constructor
  · intro c hc
    rcases mem_created_append.mp hc with hc | hc
    · obtain ⟨pod, hpod, stillHeld⟩ := held.dataPods c hc
      exact stillHeld_of_step h there apart hpod stillHeld
    · exact ⟨c, held_of_created run h hc⟩
  · intro c hc
    rcases mem_created_append.mp hc with hc | hc
    · obtain ⟨hmem, sole⟩ := held.pvcs c hc
      exact ⟨pvcs c hmem sole, sole⟩
    · exact claim_of_created run h hc
  · intro c hc
    rcases mem_created_append.mp hc with hc | hc
    · obtain ⟨hmem, sole⟩ := held.pods c hc
      exact ⟨pods c hmem sole, sole⟩
    · exact pod_of_created run h hc

/-- As long as the set is there, all that it has created is there as well: neither the garbage
collector nor a pass of any of the controllers takes it away, whatever `DataNode`s and other sets
are removed. -/
theorem nothing_lost (apart : PlacesApart s₀.dataPods) (named : UsersName steps)
    (there : ∀ x ∈ steps, x.source.state.Exists uid)
    (run : (clusterService selects).Run s₀ steps P) : NothingLost uid steps P.state := by
  have both : PlacesApart P.state.dataPods ∧ NothingLost uid steps P.state := by
    induction run with
    | start =>
      refine ⟨apart, ?_, ?_, ?_⟩
      all_goals
        intro c hc
        cases hc
    | @step steps P P' l run last ih =>
      obtain ⟨apart, held⟩ := ih (fun x hx => named x (List.mem_append_left _ hx))
        fun x hx => there x (List.mem_append_left _ hx)
      have hlast : (⟨P, l, P'⟩ : ClusterTransition) ∈ steps ++ [⟨P, l, P'⟩] :=
        List.mem_append_right _ (List.mem_singleton_self _)
      exact ⟨apart_of_step last (named _ hlast) apart,
        held.step run last (there _ hlast) apart⟩
  exact both.2

lemma next_replicaSets (s : Cluster) (c : Call) (a : c.Reply) :
    (s.next c a).replicaSets = s.replicaSets := by
  rcases c with c | c | c | c | c | _ | _
  case kube =>
    rcases a with e | object
    · rfl
    · rcases c with _ | _ | _ | _ | _ | _ | _ | _ | _ | _ | ⟨ns, name, patch⟩ | _ | _
      case applyDataPod =>
        show (s.putDataPod ns name object).replicaSets = s.replicaSets
        unfold Cluster.putDataPod
        split <;> rfl
      all_goals rfl
  all_goals rfl

/-- Only users add and remove sets. -/
lemma replicaSets_of_run (run : (clusterService selects).Run s₀ steps P)
    (quiet : ∀ x ∈ steps, x.label ≠ .disturbed) : P.state.replicaSets = s₀.replicaSets := by
  induction run with
  | start => rfl
  | @step steps P P' l run last ih =>
    have before := ih fun x hx => quiet x (List.mem_append_left _ hx)
    cases l with
    | arrives r =>
      rw [Service.step_arrives last]
      exact before
    | answered r past e =>
      obtain ⟨_, hstate⟩ := state_of_answered last
      rw [hstate, next_replicaSets]
      exact before
    | disturbed =>
      have hlast := quiet _ (List.mem_append_right _ (List.mem_singleton_self _))
      exact absurd rfl hlast

end

/-! ## A `DataNode` is removed -/

lemma placesApart_of_nodup {pods : List DataPod} (h : (pods.map placeOf).Nodup) :
    PlacesApart pods :=
  fun _ hpod _ hpod' heq => List.inj_on_of_nodup_map h hpod hpod' heq

lemma exists_of_set {s : Cluster} {drs : DataReplicaSet} {uid : String}
    (h : drs ∈ s.replicaSets) (huid : drs.metadata.uid = some uid) : s.Exists uid := by
  refine ⟨drs.metadata, ?_, huid⟩
  unfold Cluster.metadatas
  simp only [List.mem_append]
  exact .inl (.inl (.inr (List.mem_map_of_mem h)))

/-- The set has placed its replica on a `DataNode`, which is removed before the garbage collector
runs. The replica is left. -/
theorem replica_left_without_node : ∃ steps P,
    (clusterService sampleSelects).Run (sampleCluster 1 [sampleNode "m" "3"] []) steps P ∧
    created "0" newDataPod steps = [sampleReplica] ∧ lastNode sampleReplica steps = some "3" ∧
    ¬ P.state.Exists "3" ∧ NothingLost "0" steps P.state := by
  obtain ⟨done, s, hserial, hcreated, hnode, hplaces, hgone⟩ : ∃ done s,
      (clusterService sampleSelects).serial (fun _ => Cluster.serve sampleSelects) 20
        [.reconcileSet (sampleSet 1), .reconcilePod sampleReplica]
        (sampleCluster 1 [sampleNode "m" "3"] []) = some (done, s) ∧
      (done.flatMap Response.trace).filterMap (createdBy "0" newDataPod) = [sampleReplica] ∧
      ((done.flatMap Response.trace).filterMap (nodeApplied sampleReplica)).getLast? = some "3" ∧
      ((s.dataPods.map placeOf).Nodup ∧ (s.withoutNode "3").collected.dataPods = s.dataPods) ∧
      ¬ (s.withoutNode "3").collected.Exists "3" :=
    ⟨_, _, rfl, by rfl, by rfl, ⟨by decide, by rfl⟩, by decide⟩
  obtain ⟨steps, run, hserved, htrace⟩ := Service.Run.serial
    (fun _ _ _ _ _ h => clusterEnv_of_reliable (clusterEnv_of_serve h))
    (fun _ _ _ => trivial) .start hserial
  rw [List.nil_append, List.nil_append] at run
  have quiet : ∀ x ∈ steps, x.label ≠ .disturbed := by
    intro x hx hlabel
    rcases hserved x hx with ⟨r, h⟩ | ⟨r, past, c, a, h, _⟩
    all_goals
      rw [hlabel] at h
      cases h
  have apart : PlacesApart s.dataPods := placesApart_of_nodup hplaces.1
  have removed := run.step (.disturb (.removeNode "3"))
  have collected := removed.step (.disturb (s.withoutNode "3").changes_collected)
  have stays : ∀ earlier P, earlier <+: steps → (clusterService sampleSelects).Run
      (sampleCluster 1 [sampleNode "m" "3"] []) earlier P →
      sampleSet 1 ∈ P.state.replicaSets := by
    intro earlier P hearlier run
    rw [replicaSets_of_run run fun x hx => quiet x (hearlier.subset hx)]
    exact List.mem_singleton_self _
  refine ⟨_, _, collected, ?_, ?_, hgone, nothing_lost ?_ ?_ ?_ collected⟩
  · rw [created_disturbed rfl, created_disturbed rfl]
    unfold created
    rw [htrace, hcreated]
  · rw [lastNode_append, lastNode_append]
    show lastNode sampleReplica steps = some "3"
    unfold lastNode
    rw [htrace]
    exact hnode
  · exact placesApart_of_nodup (by decide)
  · intro x hx hlabel
    simp only [List.append_assoc, List.mem_append, List.mem_singleton] at hx
    rcases hx with hx | rfl | rfl
    · exact absurd hlabel (quiet x hx)
    · exact apart
    · show PlacesApart (s.withoutNode "3").collected.dataPods
      rw [hplaces.2]
      exact apart
  · intro x hx
    simp only [List.append_assoc, List.mem_append, List.mem_singleton] at hx
    rcases hx with hx | rfl | rfl
    · obtain ⟨earlier, hearlier, run', _⟩ := run.of_mem hx
      have before : earlier <+: steps := (List.prefix_append _ _).trans hearlier
      exact exists_of_set (stays earlier _ before run') rfl
    · exact exists_of_set (stays steps _ List.prefix_rfl run) rfl
    · have set : sampleSet 1 ∈ (s.withoutNode "3").replicaSets := stays steps _ List.prefix_rfl run
      exact exists_of_set set rfl

end Kubedal
