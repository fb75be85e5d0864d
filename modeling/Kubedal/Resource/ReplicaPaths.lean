import Kubedal.Resource.ReplicaPlacement

/-!
# Paths that controllers choose

Passes over any number of `DataReplicaSet`s and `DataPod`s of a namespace, in any interleaving,
while users create objects and change labels. A replica gets the path `/replica-<index>`, and a
`DataPod` without a path gets one from its uid.

* `OutOfTheWay` is the invariant: replicas differ in `DataNode` or path, and no pass is about to
  place a replica where there is one, or where a pass over another set is about to place one;
* `paths_apart_of_run`: chosen paths never collide, as long as this is so whenever a pass lists
  the `DataNode`s.
-/

namespace Kubedal

open Interaction Kube Resource

/-! ## Slots -/

/-- The `DataNode` and the path in the spec of a `DataPod`. -/
abbrev Slot := Option Ref × Option String

def Resource.DataPod.slot (pod : DataPod) : Slot := (pod.spec.dataNodeRef, pod.spec.path)

/-- Where a placement puts the files of the replica. -/
def slotOf (x : ℕ × DataNode) : Slot :=
  (some ⟨nameAny x.2, namespaceOf x.2⟩, some ("/replica-" ++ toString x.1))

def podPlace (pod : DataPod) : Option String × Option String :=
  (namespaceOf pod, pod.metadata.name)

namespace Placed

/-- Where the files of the replicas are. -/
def slots (s : Placed) : List Slot := s.replicas.map DataPod.slot

/-- A controller has chosen the path: the `DataPod` is a replica, or the path is its uid. -/
def Chosen (s : Placed) (pod : DataPod) : Prop :=
  pod ∈ s.replicas ∨ ∃ uid, uidOf pod = some uid ∧ pod.spec.path = some ("/" ++ uid)

/-- No two `DataPod`s with a chosen path have the same `DataNode` and path. -/
def PathsApart (s : Placed) : Prop :=
  ∀ d ∈ s.cluster.dataPods, ∀ d' ∈ s.cluster.dataPods, s.Chosen d → s.Chosen d' →
    uidOf d ≠ uidOf d' → d.slot ≠ d'.slot

end Placed

/-- Replicas with different indices have different paths. -/
lemma slotOf_ne {x y : ℕ × DataNode} (h : x.1 ≠ y.1) : slotOf x ≠ slotOf y := by
  intro heq
  have hpath : "/replica-" ++ toString x.1 = "/replica-" ++ toString y.1 :=
    Option.some.inj (congrArg Prod.snd heq)
  exact h (toString_injective ((String.append_right_inj _).mp hpath))

/-! ## The system -/

/-- A pass over a set, or over a `DataPod` of the cluster. -/
def inNamespace (ns : String) (P : PlacedPool) (r : Pass) : Prop :=
  (∃ self, r = .reconcileSet self ∧ namespaceOf self = some ns) ∨
    ∃ self, r = .reconcilePod self ∧ self ∈ P.state.cluster.dataPods ∧ ∃ name, At ns name self

/-- The set that the pass is over. -/
def Pass.setUid : Pass → Option String
  | .reconcileSet self => self.metadata.uid
  | _ => none

/-- The placements that a pass will get to. -/
def Cluster.aims (s : Cluster) (ns : String) : Pass × PlaceStage → List (ℕ × DataNode)
  | (.reconcileSet self, .placing todo) =>
    match self.metadata.uid with
    | some uid => s.reached ns uid todo
    | none => []
  | _ => []

/-- If this is the answer to the list of `DataNode`s that a pass asks for, then where it will get
to place replicas there is none, and no pass over another set will get to place one. -/
def ListedFree (ns : String) (s : Placed) (passes : List (Pass × Pass × PlaceStage))
    (self : DataReplicaSet) (g : PlaceStage) (e : Event signature) : Prop :=
  ∀ uid params nodes count source,
    e = ⟨.kube (.listDataNodes ns params), (Except.ok nodes : Except KubeError (List DataNode))⟩ →
    self.metadata.uid = some uid → g = .sourced count source →
    ∀ x ∈ s.cluster.reached ns uid (self.placements count source nodes),
      slotOf x ∉ s.slots ∧
        ∀ y ∈ passes, y.1.setUid ≠ some uid →
          ∀ z ∈ s.cluster.aims ns y.2, slotOf x ≠ slotOf z

/-- Whenever a pass lists the `DataNode`s, where it will get to place replicas is free. -/
def ListsFree (ns : String) (P : PlacedPool) (l : Label signature Pass) : Prop :=
  ∀ self past e, l = .answered (.reconcileSet self) past e →
    ListedFree ns P.state (P.phases passMonitor Pass.start) self
      (passMonitor.after (Pass.reconcileSet self).start past).2 e

/-! ## The invariant -/

/-- Names are unique, and the replicas are where no other replica is. -/
structure Laid (ns : String) (s : Placed) : Prop where
  sound : s.Sound
  names : (s.cluster.dataPods.map podPlace).Nodup
  shaped : ∀ p ∈ s.slots, ∃ (index : ℕ) (name : String),
    p = (some ⟨name, some ns⟩, some ("/replica-" ++ toString index))
  slots : s.slots.Nodup

/-- The `DataPod` of a pass is there, and if it is a replica it still is where it was. -/
def Known (ns : String) (s : Placed) (self : DataPod) : Prop :=
  ∃ d ∈ s.cluster.dataPods, At ns (nameAny self) d ∧ (d ∈ s.replicas → d.slot = self.slot)

/-- What holds of a pass in progress. -/
structure Fits (ns : String) (s : Placed) (x : Pass × Pass × PlaceStage) : Prop where
  same : x.2.1 = x.1
  ofSet : ∀ self, x.1 = .reconcileSet self → namespaceOf self = some ns
  ofPod : ∀ self, x.1 = .reconcilePod self → namespaceOf self = some ns ∧ Known ns s self
  either : (∃ self, x.1 = .reconcileSet self) ∨ ∃ self, x.1 = .reconcilePod self
  listed : ∀ todo, x.2.2 = .placing todo → ∀ y ∈ todo, InNamespace ns y.2
  free : ∀ y ∈ s.cluster.aims ns x.2, slotOf y ∉ s.slots

/-- Replicas and the passes in progress do not get in each other's way. -/
structure OutOfTheWay (ns : String) (s : Placed) (phases : List (Pass × Pass × PlaceStage)) :
    Prop where
  laid : Laid ns s
  fits : ∀ x ∈ phases, Fits ns s x
  apart : ∀ x ∈ phases, ∀ x' ∈ phases, x.1.setUid ≠ x'.1.setUid →
    ∀ y ∈ s.cluster.aims ns x.2, ∀ y' ∈ s.cluster.aims ns x'.2, slotOf y ≠ slotOf y'

/-- Every `DataPod` is still there, the replicas where they were. -/
structure Placed.Carries (s s' : Placed) : Prop where
  kept : ∀ d ∈ s.cluster.dataPods, ∃ d' ∈ s'.cluster.dataPods, uidOf d' = uidOf d ∧
    d'.metadata.name = d.metadata.name ∧ namespaceOf d' = namespaceOf d ∧
      (d ∈ s.replicas → d'.slot = d.slot)
  made : ∀ d ∈ s.cluster.dataPods, ∀ uid ∈ s'.made, uidOf d = some uid → uid ∈ s.made

section
variable {selects : Selects} {ns : String} {s s' : Placed}

lemma Placed.Carries.keepsNames (h : s.Carries s') : s.cluster.KeepsNames s'.cluster := by
  rintro ns' name ⟨d, hd, hat⟩
  obtain ⟨d', hd', _, hname, hns, _⟩ := h.kept d hd
  refine ⟨d', hd', hns.trans hat.1, ?_⟩
  show d'.metadata.name = some name
  rw [hname]
  exact hat.2

lemma Known.carries {self : DataPod} (h : Known ns s self) (carries : s.Carries s') :
    Known ns s' self := by
  obtain ⟨d, hd, hat, hslot⟩ := h
  obtain ⟨d', hd', huid, hname, hns, hkept⟩ := carries.kept d hd
  refine ⟨d', hd', ⟨hns.trans hat.1, ?_⟩, fun hreplica => ?_⟩
  · show d'.metadata.name = some (nameAny self)
    rw [hname]
    exact hat.2
  · obtain ⟨_, uid, hmade, heq⟩ := Placed.mem_replicas.mp hreplica
    rw [huid] at heq
    have hd₀ : d ∈ s.replicas :=
      Placed.mem_replicas.mpr ⟨hd, uid, carries.made d hd uid hmade heq, heq⟩
    rw [hkept hd₀]
    exact hslot hd₀

lemma Cluster.KeepsNames.aims (h : s.cluster.KeepsNames s'.cluster) (x : Pass × PlaceStage) :
    s'.cluster.aims ns x ⊆ s.cluster.aims ns x := by
  obtain ⟨r, g⟩ := x
  unfold Cluster.aims
  split
  · split
    · exact h.reached _
    · exact List.Subset.refl _
  · exact List.Subset.refl _

/-- A name that is new is not among the others. -/
lemma Laid.names_append (h : Laid ns s) {pod : DataPod} {ns' name : String} (hat : At ns' name pod)
    (free : ∀ d ∈ s.cluster.dataPods, ¬ At ns' name d) :
    ((s.cluster.dataPods ++ [pod]).map podPlace).Nodup := by
  rw [List.map_append]
  refine List.nodup_append.mpr ⟨h.names, List.nodup_singleton _, ?_⟩
  intro p hp p' hp' heq
  obtain ⟨d, hd, rfl⟩ := List.mem_map.mp hp
  rw [List.map_singleton] at hp'
  rw [List.mem_singleton.mp hp'] at heq
  have hns : namespaceOf d = namespaceOf pod := congrArg Prod.fst heq
  have hname : d.metadata.name = pod.metadata.name := congrArg Prod.snd heq
  refine free d hd ⟨hns.trans hat.1, ?_⟩
  show d.metadata.name = some name
  rw [hname]
  exact hat.2

/-! ### What users do -/

lemma Placed.Sound.slots_of_disturbs (h : s.Sound) (moved : s.Disturbs s') : s'.slots = s.slots :=
  h.replicas_of_disturbs DataPod.slot (fun _ _ => rfl) moved

lemma Placed.carries_of_disturbs (moved : s.Disturbs s') : s.Carries s' := by
  obtain ⟨edits, hmade⟩ := moved
  generalize hcluster : s'.cluster = cluster at edits
  refine ⟨fun d hd => ?_, fun d _ uid huid _ => ?_⟩
  · rw [hcluster]
    cases edits with
    | createDataPod => exact ⟨d, List.mem_append_left _ hd, rfl, rfl, rfl, fun _ => rfl⟩
    | relabel labels =>
      exact ⟨d.relabelled (labels d), List.mem_map_of_mem hd, rfl, rfl, rfl, fun _ => rfl⟩
    | createDataNode => exact ⟨d, hd, rfl, rfl, rfl, fun _ => rfl⟩
  · rw [hmade] at huid
    exact huid

lemma Laid.disturbs (h : Laid ns s) (moved : s.Disturbs s') : Laid ns s' := by
  have hslots := h.sound.slots_of_disturbs moved
  refine ⟨h.sound.disturbs moved, ?_, ?_, ?_⟩
  · obtain ⟨edits, _⟩ := moved
    generalize s'.cluster = cluster at edits
    cases edits with
    | createDataPod hat free => exact h.names_append hat free
    | relabel labels =>
      show ((s.cluster.dataPods.map _).map podPlace).Nodup
      rw [List.map_map]
      exact h.names
    | createDataNode => exact h.names
  · rw [hslots]
    exact h.shaped
  · rw [hslots]
    exact h.slots

/-! ### What most requests do -/

lemma Placed.slots_harmless {c : Call} {a : c.Reply} (hc : c.Harmless)
    (answered : Placed.Answers selects s c a s') : s'.slots = s.slots :=
  congrArg (List.map DataPod.slot) (Placed.replicas_harmless hc answered)

lemma Placed.carries_harmless {c : Call} {a : c.Reply} (hc : c.Harmless)
    (answered : Placed.Answers selects s c a s') : s.Carries s' := by
  obtain ⟨hpods, _, _, hmade⟩ := Placed.answers_harmless hc answered
  refine ⟨fun d hd => ⟨d, ?_, rfl, rfl, rfl, fun _ => rfl⟩, fun d _ uid huid _ => ?_⟩
  · rw [hpods]
    exact hd
  · rw [hmade] at huid
    exact huid

lemma Laid.harmless {c : Call} {a : c.Reply} (h : Laid ns s) (hc : c.Harmless)
    (answered : Placed.Answers selects s c a s') : Laid ns s' := by
  have hslots := Placed.slots_harmless hc answered
  refine ⟨h.sound.harmless hc answered, ?_, ?_, ?_⟩
  · rw [(Placed.answers_harmless hc answered).1]
    exact h.names
  · rw [hslots]
    exact h.shaped
  · rw [hslots]
    exact h.slots

/-! ### What a creation does -/

section
variable {self : DataReplicaSet} {sent pod : DataPod} {index : ℕ} {node : DataNode}

lemma Placed.Created.slot_eq (new : s.Created ns sent pod s')
    (replica : ReplicaOf self index node sent) : pod.slot = slotOf (index, node) := by
  unfold DataPod.slot slotOf
  rw [new.spec, replica.nodeRef, replica.path]

lemma Placed.Sound.slots_created (h : s.Sound) (new : s.Created ns sent pod s')
    (replica : ReplicaOf self index node sent) :
    s'.slots = s.slots ++ [slotOf (index, node)] := by
  unfold Placed.slots
  rw [h.replicas_created new, List.map_append, List.map_singleton, new.slot_eq replica]

lemma Placed.Sound.carries_created (h : s.Sound) (new : s.Created ns sent pod s') :
    s.Carries s' := by
  obtain ⟨podUid, _, fresh, hmade⟩ := new.identified
  refine ⟨fun d hd => ⟨d, ?_, rfl, rfl, rfl, fun _ => rfl⟩, fun d hd uid huid heq => ?_⟩
  · rw [new.cluster]
    exact List.mem_append_left _ hd
  · rw [hmade] at huid
    rcases List.mem_append.mp huid with huid | huid
    · exact huid
    · rw [List.mem_singleton.mp huid] at heq
      exact absurd (h.recorded d hd podUid heq) fresh

lemma Laid.created (h : Laid ns s) (new : s.Created ns sent pod s')
    (replica : ReplicaOf self index node sent) (hin : InNamespace ns node)
    (free : slotOf (index, node) ∉ s.slots) : Laid ns s' := by
  have hslots := h.sound.slots_created new replica
  refine ⟨h.sound.created new, ?_, fun p hp => ?_, ?_⟩
  · rw [new.cluster]
    obtain ⟨uid, _, hname⟩ := replica.named
    refine h.names_append ⟨new.ns, ?_⟩ (new.free _ hname)
    show pod.metadata.name = _
    rw [new.name]
    exact hname
  · rw [hslots] at hp
    rcases List.mem_append.mp hp with hp | hp
    · exact h.shaped p hp
    · have hnodeNs : namespaceOf node = some ns := hin
      rw [List.mem_singleton.mp hp]
      unfold slotOf
      rw [hnodeNs]
      exact ⟨index, nameAny node, rfl⟩
  · rw [hslots]
    refine List.nodup_append.mpr ⟨h.slots, List.nodup_singleton _, ?_⟩
    intro p hp p' hp' heq
    rw [List.mem_singleton.mp hp'] at heq
    rw [heq] at hp
    exact free hp

end

end

/-! ### What an apply does -/

/-- What an apply to the `DataPod` `old` has done. -/
structure Placed.Applied (s : Placed) (ns name : String) (old pod : DataPod) (s' : Placed) :
    Prop where
  mem : old ∈ s.cluster.dataPods
  found : At ns name old
  sameUid : uidOf pod = uidOf old
  sameName : pod.metadata.name = old.metadata.name
  sameNs : namespaceOf pod = namespaceOf old
  dataPods : s'.cluster.dataPods = s.cluster.dataPods.map fun d => if At ns name d then pod else d
  dataNodes : s'.cluster.dataNodes = s.cluster.dataNodes
  uids : s'.cluster.uids = s.cluster.uids
  made : s'.made = s.made

section
variable {selects : Selects} {ns name : String} {s s' : Placed} {self old pod : DataPod}
  {patch : DataPodPatch}

/-- A pass over a `DataPod` that is there applies the patch to it. -/
lemma Known.applied (known : Known ns s self)
    (h : Placed.Answers selects s (.kube (.applyDataPod ns (nameAny self) patch))
      (Except.ok pod) s') :
    ∃ old version, pod = Cluster.applied old patch version ∧
      s.Applied ns (nameAny self) old pod s' := by
  obtain ⟨d, hd, hat, _⟩ := known
  obtain ⟨old, hold⟩ : ∃ old, getFrom s.cluster.dataPods ns (nameAny self) = .ok old :=
    exists_getFrom ⟨d, hd, hat⟩
  obtain ⟨hmem, hfound⟩ := getFrom_ok hold
  obtain ⟨⟨answered, hcluster⟩, hmade⟩ := h
  obtain ⟨version, hpod'⟩ : ∃ version, pod = Cluster.applied old patch version := by
    rcases applied_of_replies (replies_of_answers answered) with
      ⟨old', version, hget, hpod⟩ | ⟨e, _, _, hget, _⟩
    · cases Except.ok.inj (hold.symm.trans hget)
      exact ⟨version, hpod⟩
    · cases hold.symm.trans hget
  have hput : s'.cluster = s.cluster.putDataPod ns (nameAny self) pod := hcluster
  unfold Cluster.putDataPod at hput
  rw [if_pos ⟨old, hmem, hfound⟩] at hput
  refine ⟨old, version, hpod', hmem, hfound, ?_, ?_, ?_, ?_, ?_, ?_, ?_⟩
  · rw [hpod']
    rfl
  · rw [hpod']
    rfl
  · rw [hpod']
    rfl
  · rw [hput]
  · rw [hput]
  · rw [hput]
  · rw [hmade]
    exact List.append_nil _

/-- There is only one `DataPod` of the name. -/
lemma Laid.eq_of_at (h : Laid ns s) {d d' : DataPod} (hd : d ∈ s.cluster.dataPods)
    (hd' : d' ∈ s.cluster.dataPods) (hat : At ns name d) (hat' : At ns name d') : d = d' := by
  apply List.inj_on_of_nodup_map h.names hd hd'
  have hns : namespaceOf d = namespaceOf d' := Eq.trans hat.1 (Eq.symm hat'.1)
  have hname : d.metadata.name = d'.metadata.name := Eq.trans hat.2 (Eq.symm hat'.2)
  unfold podPlace
  rw [hns, hname]

/-- A replica stays where it is when a pass over it applies its patch. -/
lemma Laid.slot_applied (h : Laid ns s) (known : Known ns s self)
    (new : s.Applied ns (nameAny self) old pod s') (hold : old ∈ s.replicas)
    (keeps : KeepsPlace self ns patch) {version : String}
    (hpod : pod = Cluster.applied old patch version) : pod.slot = old.slot := by
  obtain ⟨d, hd, hat, hslot⟩ := known
  have hsame : d = old := h.eq_of_at hd new.mem hat new.found
  rw [hsame] at hslot
  have hself : old.slot = self.slot := hslot hold
  obtain ⟨index, node, hshape⟩ := h.shaped _ (List.mem_map_of_mem hold)
  rw [hself] at hshape
  have href : self.spec.dataNodeRef = some ⟨node, some ns⟩ := congrArg Prod.fst hshape
  have hpath : self.spec.path = some ("/replica-" ++ toString index) := congrArg Prod.snd hshape
  -- the path of a replica is a proper one
  have hproper : DataPod.properPath self.spec = some ("/replica-" ++ toString index) := by
    unfold DataPod.properPath
    rw [hpath, Option.filter_some, if_pos]
    rw [decide_eq_true_eq]
    have hlength : ("/replica-" ++ toString index).length = 9 + (toString index).length := by
      rw [String.length_append]
      rfl
    rintro (heq | heq)
    · rw [heq] at hlength
      have hzero : ("" : String).length = 0 := rfl
      omega
    · rw [heq] at hlength
      have hone : ("/" : String).length = 1 := rfl
      omega
  have hpatchPath := keeps.path _ hproper
  have hpatchRef := keeps.nodeRef _ href
  rw [hself, hshape, hpod]
  show (patch.spec.dataNodeRef.or old.spec.dataNodeRef, patch.spec.path.or old.spec.path) = _
  rw [hpatchPath, hpatchRef]
  rfl

lemma Laid.uidOf_applied (h : Laid ns s) (new : s.Applied ns name old pod s') {d : DataPod}
    (hd : d ∈ s.cluster.dataPods) : uidOf (if At ns name d then pod else d) = uidOf d := by
  by_cases hat : At ns name d
  · rw [if_pos hat, new.sameUid, h.eq_of_at hd new.mem hat new.found]
  · rw [if_neg hat]

lemma Laid.replicas_applied (h : Laid ns s) (new : s.Applied ns name old pod s') :
    s'.replicas = s.replicas.map fun d => if At ns name d then pod else d := by
  unfold Placed.replicas
  rw [new.dataPods, new.made, List.filter_map]
  congr 1
  apply List.filter_congr
  intro d hd
  show decide (∃ uid ∈ s.made, uidOf (if At ns name d then pod else d) = some uid) = _
  rw [h.uidOf_applied new hd]

/-- An apply of a pass over a `DataPod` leaves all replicas where they are. -/
lemma Laid.slot_if_applied (h : Laid ns s) (new : s.Applied ns name old pod s')
    (stays : old ∈ s.replicas → pod.slot = old.slot) {d : DataPod} (hd : d ∈ s.replicas) :
    (if At ns name d then pod else d).slot = d.slot := by
  by_cases hat : At ns name d
  · have hsame : d = old :=
      h.eq_of_at (Placed.mem_replicas.mp hd).1 new.mem hat new.found
    rw [if_pos hat, hsame]
    exact stays (hsame ▸ hd)
  · rw [if_neg hat]

lemma Laid.slots_applied (h : Laid ns s) (new : s.Applied ns name old pod s')
    (stays : old ∈ s.replicas → pod.slot = old.slot) : s'.slots = s.slots := by
  unfold Placed.slots
  rw [h.replicas_applied new, List.map_map]
  exact List.map_congr_left fun d hd => h.slot_if_applied new stays hd

lemma Laid.carries_applied (h : Laid ns s) (new : s.Applied ns name old pod s')
    (stays : old ∈ s.replicas → pod.slot = old.slot) : s.Carries s' := by
  refine ⟨fun d hd => ⟨if At ns name d then pod else d, ?_, h.uidOf_applied new hd, ?_, ?_,
    fun hreplica => h.slot_if_applied new stays hreplica⟩, fun d _ uid huid _ => ?_⟩
  · rw [new.dataPods]
    exact List.mem_map_of_mem hd
  · by_cases hat : At ns name d
    · rw [if_pos hat, new.sameName, h.eq_of_at hd new.mem hat new.found]
    · rw [if_neg hat]
  · by_cases hat : At ns name d
    · rw [if_pos hat, new.sameNs, h.eq_of_at hd new.mem hat new.found]
    · rw [if_neg hat]
  · rw [new.made] at huid
    exact huid

lemma Laid.applied (h : Laid ns s) (new : s.Applied ns name old pod s')
    (stays : old ∈ s.replicas → pod.slot = old.slot) : Laid ns s' := by
  have hslots := h.slots_applied new stays
  refine ⟨⟨?_, ?_, ?_⟩, ?_, ?_, ?_⟩
  · rw [new.dataPods, new.uids]
    intro d' hd' uid huid
    obtain ⟨d, hd, rfl⟩ := List.mem_map.mp hd'
    rw [h.uidOf_applied new hd] at huid
    exact h.sound.recorded d hd uid huid
  · rw [new.made, new.uids]
    exact h.sound.made
  · rw [new.dataNodes]
    exact h.sound.nodes
  · rw [new.dataPods, List.map_map]
    have hplaces : s.cluster.dataPods.map
        (podPlace ∘ fun d => if At ns name d then pod else d) =
          s.cluster.dataPods.map podPlace := by
      apply List.map_congr_left
      intro d hd
      show podPlace (if At ns name d then pod else d) = podPlace d
      by_cases hat : At ns name d
      · rw [if_pos hat, h.eq_of_at hd new.mem hat new.found]
        unfold podPlace
        rw [new.sameName, new.sameNs]
      · rw [if_neg hat]
    rw [hplaces]
    exact h.names
  · rw [hslots]
    exact h.shaped
  · rw [hslots]
    exact h.slots

end

/-! ### Passes and replicas do not get in each other's way -/

section
variable {selects : Selects} {ns : String} {s s' : Placed}
  {xs xs' before after : List (Pass × Pass × PlaceStage)}

/-- Only a pass over a set that has listed the nodes has placements in mind. -/
lemma mem_aims {x : Pass × PlaceStage} {z : ℕ × DataNode} (hz : z ∈ s.cluster.aims ns x) :
    ∃ self todo uid, x = (.reconcileSet self, .placing todo) ∧ self.metadata.uid = some uid ∧
      z ∈ s.cluster.reached ns uid todo := by
  unfold Cluster.aims at hz
  split at hz
  · rename_i self todo
    split at hz
    · rename_i uid huid
      exact ⟨self, todo, uid, rfl, huid, hz⟩
    · cases hz
  · cases hz

lemma free_of_reached {uid : String} {todo : List (ℕ × DataNode)} {z : ℕ × DataNode}
    (hz : z ∈ s.cluster.reached ns uid todo) : s.cluster.NameFree ns uid z.1 :=
  of_decide_eq_true (List.all_eq_true.mp List.all_takeWhile z hz)

/-- Passes that aim at less are still apart. -/
lemma OutOfTheWay.of_subset (h : OutOfTheWay ns s xs)
    (sub : ∀ x' ∈ xs', ∃ x ∈ xs, x.1 = x'.1 ∧ s'.cluster.aims ns x'.2 ⊆ s.cluster.aims ns x.2) :
    ∀ x ∈ xs', ∀ x' ∈ xs', x.1.setUid ≠ x'.1.setUid → ∀ y ∈ s'.cluster.aims ns x.2,
      ∀ y' ∈ s'.cluster.aims ns x'.2, slotOf y ≠ slotOf y' := by
  intro x hx x' hx' hne y hy y' hy'
  obtain ⟨x₀, hx₀, heq₀, hsub₀⟩ := sub x hx
  obtain ⟨x₁, hx₁, heq₁, hsub₁⟩ := sub x' hx'
  refine h.apart x₀ hx₀ x₁ hx₁ ?_ y (hsub₀ hy) y' (hsub₁ hy')
  rw [heq₀, heq₁]
  exact hne

/-- A step that moves no replica. -/
lemma OutOfTheWay.still (h : OutOfTheWay ns s xs) (laid : Laid ns s') (carries : s.Carries s')
    (hslots : s'.slots = s.slots) : OutOfTheWay ns s' xs := by
  have names : s.cluster.KeepsNames s'.cluster := carries.keepsNames
  refine ⟨laid, fun x hx => ?_, h.of_subset fun x hx => ⟨x, hx, rfl, names.aims x.2⟩⟩
  have fits := h.fits x hx
  refine ⟨fits.same, fits.ofSet, fun self hself => ?_, fits.either, fits.listed, fun y hy => ?_⟩
  · exact ⟨(fits.ofPod self hself).1, (fits.ofPod self hself).2.carries carries⟩
  · rw [hslots]
    exact fits.free y (names.aims x.2 hy)

/-- A pass comes to another stage. -/
lemma OutOfTheWay.moves {r : Pass} {g g' : Pass × PlaceStage}
    (h : OutOfTheWay ns s (before ++ (r, g) :: after)) (fits : Fits ns s (r, g'))
    (apart : ∀ y ∈ before ++ after, y.1.setUid ≠ r.setUid → ∀ z ∈ s.cluster.aims ns g',
      ∀ w ∈ s.cluster.aims ns y.2, slotOf z ≠ slotOf w) :
    OutOfTheWay ns s (before ++ (r, g') :: after) := by
  refine ⟨h.laid, fun x hx => ?_, fun x hx x' hx' hne y hy y' hy' => ?_⟩
  · rcases eq_or_mem_others hx with rfl | hx
    · exact fits
    · exact h.fits x (mem_of_others hx _)
  -- two different passes: one of them is the one that has moved, or none
  · rcases eq_or_mem_others hx with rfl | hx
    · rcases eq_or_mem_others hx' with rfl | hx'
      · exact absurd rfl hne
      · exact apart x' hx' (Ne.symm hne) y hy y' hy'
    · rcases eq_or_mem_others hx' with rfl | hx'
      · exact Ne.symm (apart x hx hne y' hy' y hy)
      · exact h.apart x (mem_of_others hx _) x' (mem_of_others hx' _) hne y hy y' hy'

/-- A pass comes to a stage in which it aims at nothing. -/
lemma OutOfTheWay.idles {r : Pass} {g g' : Pass × PlaceStage}
    (h : OutOfTheWay ns s (before ++ (r, g) :: after)) (same : g'.1 = r)
    (idle : ∀ todo, g'.2 ≠ .placing todo) : OutOfTheWay ns s (before ++ (r, g') :: after) := by
  have nothing : s.cluster.aims ns g' = [] := by
    apply List.eq_nil_iff_forall_not_mem.mpr
    intro z hz
    obtain ⟨self, todo, uid, heq, _⟩ := mem_aims hz
    exact idle todo (congrArg Prod.snd heq)
  have fits := h.fits (r, g) (List.mem_append_right _ List.mem_cons_self)
  apply h.moves
  · refine ⟨same, fits.ofSet, fits.ofPod, fits.either, fun todo htodo => absurd htodo (idle todo),
      fun y hy => ?_⟩
    rw [nothing] at hy
    cases hy
  · intro y _ _ z hz
    rw [nothing] at hz
    cases hz

/-! ### A pass creates the replica at hand -/

lemma aims_placing {self : DataReplicaSet} {uid : String} (huid : self.metadata.uid = some uid)
    (todo : List (ℕ × DataNode)) :
    s.cluster.aims ns (.reconcileSet self, .placing todo) = s.cluster.reached ns uid todo := by
  simp only [Cluster.aims, huid]

/-- The name of the new replica is taken. -/
lemma Placed.Created.taken {sent pod : DataPod} {uid : String} {index : ℕ}
    (new : s.Created ns sent pod s')
    (hname : sent.metadata.name = some (replicaName uid index)) :
    ¬ s'.cluster.NameFree ns uid index := by
  intro free
  refine free pod ?_ ⟨new.ns, ?_⟩
  · rw [new.cluster]
    exact List.mem_append_right _ List.mem_cons_self
  · show pod.metadata.name = _
    rw [new.name]
    exact hname

section
variable {self : DataReplicaSet} {sent pod : DataPod} {index : ℕ} {node : DataNode}
  {rest : List (ℕ × DataNode)}

/-- The pass was about to create the replica. -/
lemma Placed.Created.mem_aims (new : s.Created ns sent pod s')
    (replica : ReplicaOf self index node sent) :
    (index, node) ∈ s.cluster.aims ns (.reconcileSet self, .placing ((index, node) :: rest)) := by
  obtain ⟨uid, huid, _⟩ := replica.named
  rw [aims_placing huid, new.reached replica huid]
  exact List.mem_cons_self

/-- Every pass aims at no more than before. -/
lemma Placed.Created.aims_subset (new : s.Created ns sent pod s') (carries : s.Carries s')
    (replica : ReplicaOf self index node sent) :
    ∀ x' ∈ before ++ (.reconcileSet self, .reconcileSet self, .placing rest) :: after,
      ∃ x ∈ before ++
        (.reconcileSet self, .reconcileSet self, .placing ((index, node) :: rest)) :: after,
        x.1 = x'.1 ∧ s'.cluster.aims ns x'.2 ⊆ s.cluster.aims ns x.2 := by
  intro x' hx'
  have names : s.cluster.KeepsNames s'.cluster := carries.keepsNames
  obtain ⟨uid, huid, _⟩ := replica.named
  rcases eq_or_mem_others hx' with rfl | hx'
  · refine ⟨_, List.mem_append_right _ List.mem_cons_self, rfl, ?_⟩
    apply List.Subset.trans (names.aims _)
    rw [aims_placing huid, aims_placing huid, new.reached replica huid]
    exact List.subset_cons_self _ _
  · exact ⟨x', mem_of_others hx' _, rfl, names.aims x'.2⟩

/-- A pass over the same set will not get to the same index again, and a pass over another set
has been about to place replicas elsewhere. -/
lemma OutOfTheWay.elsewhere
    (h : OutOfTheWay ns s (before ++
      (.reconcileSet self, .reconcileSet self, .placing ((index, node) :: rest)) :: after))
    (new : s.Created ns sent pod s') (replica : ReplicaOf self index node sent)
    {r : Pass} {g g' : PlaceStage}
    (hx : (r, r, g) ∈ before ++
      (.reconcileSet self, .reconcileSet self, .placing ((index, node) :: rest)) :: after)
    (hsub : s'.cluster.aims ns (r, g') ⊆ s.cluster.aims ns (r, g)) :
    ∀ y ∈ s'.cluster.aims ns (r, g'), slotOf y ≠ slotOf (index, node) := by
  intro y hy
  obtain ⟨uid, huid, hname⟩ := replica.named
  by_cases hset : r.setUid = some uid
  · obtain ⟨self', todo, uid', heq, huid', hreached⟩ := mem_aims hy
    have hr : r = .reconcileSet self' := congrArg Prod.fst heq
    rw [hr] at hset
    have huids : uid' = uid := Option.some.inj (huid'.symm.trans hset)
    rw [huids] at hreached
    have hindex : y.1 ≠ index := by
      intro hindex
      have hnamefree := free_of_reached hreached
      rw [hindex] at hnamefree
      exact new.taken hname hnamefree
    exact slotOf_ne hindex
  · have hother : r.setUid ≠ (Pass.reconcileSet self).setUid :=
      fun hset' => hset (hset'.trans huid)
    exact h.apart _ hx _ (List.mem_append_right before List.mem_cons_self) hother y (hsub hy) _
      (new.mem_aims replica)

lemma OutOfTheWay.created
    (h : OutOfTheWay ns s (before ++
      (.reconcileSet self, .reconcileSet self, .placing ((index, node) :: rest)) :: after))
    (new : s.Created ns sent pod s') (replica : ReplicaOf self index node sent) :
    OutOfTheWay ns s'
      (before ++ (.reconcileSet self, .reconcileSet self, .placing rest) :: after) := by
  have fits := h.fits _ (List.mem_append_right before List.mem_cons_self)
  have carries := h.laid.sound.carries_created new
  have hslots := h.laid.sound.slots_created new replica
  have hin : InNamespace ns node := fits.listed _ rfl (index, node) List.mem_cons_self
  have hfree : slotOf (index, node) ∉ s.slots := fits.free _ (new.mem_aims replica)
  have sub : ∀ x' ∈ before ++ (.reconcileSet self, .reconcileSet self, .placing rest) :: after,
      ∃ x ∈ before ++
        (.reconcileSet self, .reconcileSet self, .placing ((index, node) :: rest)) :: after,
        x.1 = x'.1 ∧ s'.cluster.aims ns x'.2 ⊆ s.cluster.aims ns x.2 :=
    new.aims_subset carries replica
  refine ⟨h.laid.created new replica hin hfree, fun x' hx' => ?_, h.of_subset sub⟩
  obtain ⟨⟨r, r', g⟩, hx, heq, hsub⟩ := sub x' hx'
  have same : x'.2.1 = x'.1 := by
    rcases eq_or_mem_others hx' with rfl | hx'
    · rfl
    · exact (h.fits x' (mem_of_others hx' _)).same
  -- the replicas are now those of before and the new one
  have free : ∀ y ∈ s'.cluster.aims ns x'.2, slotOf y ∉ s'.slots := by
    intro y hy hmem
    rw [hslots] at hmem
    rcases List.mem_append.mp hmem with hmem | hmem
    · exact (h.fits _ hx).free y (hsub hy) hmem
    · obtain ⟨r₁, r₂, g'⟩ := x'
      cases (h.fits _ hx).same
      cases heq
      cases same
      exact h.elsewhere new replica hx hsub y hy (List.mem_singleton.mp hmem)
  rcases eq_or_mem_others hx' with rfl | hx'
  · refine ⟨rfl, fits.ofSet, fun self' hself => (by cases hself), fits.either, ?_, free⟩
    rintro todo ⟨⟩ y hy
    exact fits.listed _ rfl y (List.mem_cons_of_mem _ hy)
  · have fits' := h.fits x' (mem_of_others hx' _)
    refine ⟨fits'.same, fits'.ofSet, fun self' hself => ?_, fits'.either, fits'.listed, free⟩
    exact ⟨(fits'.ofPod self' hself).1, (fits'.ofPod self' hself).2.carries carries⟩

end

end

/-! ### One step of a pass -/

/-- A failed request leaves everything as it is. -/
lemma Placed.eq_of_error {selects : Selects} {s s' : Placed} {c : KubeCall} {e : KubeError}
    (answered : Placed.Answers selects s (.kube c) (Except.error e) s') : s' = s := by
  have hcluster : s'.cluster = s.cluster := answered.1.2
  have hmade : s'.made = s.made := by
    have happend := answered.2
    cases c
    all_goals exact happend.trans (List.append_nil _)
  cases s
  cases s'
  simp only at hcluster hmade
  rw [hcluster, hmade]

/-- After an answer to a harmless call, the stage is the one before, or one in which nothing is
to be placed, or the one in which the nodes have been listed. -/
lemma next_of_harmless (self : DataReplicaSet) (g : PlaceStage) {c : Call} (hc : c.Harmless)
    (a : c.Reply) : g.next self c a = g ∨ (∀ todo, g.next self c a ≠ .placing todo) ∨
      ∃ ns params nodes count source, (⟨c, a⟩ : Event signature) =
          ⟨.kube (.listDataNodes ns params), (Except.ok nodes : Except KubeError (List DataNode))⟩ ∧
        g = .sourced count source ∧
        g.next self c a = .placing (self.placements count source nodes) := by
  rcases c with c | c | c | c | c | _ | _
  case kube =>
    rcases a with e | object
    · cases c
      all_goals exact .inl rfl
    cases c
    case listDataPods => exact .inr (.inl fun todo h => (by cases h))
    case getDataPod ns name =>
      rcases g with _ | count | _ | _ | _
      case counted =>
        cases howner : (ownerReferences (K := DataPod) object).head? with
        | none =>
          left
          show PlaceStage.gotSource (.counted count) (.ok object) = _
          simp only [PlaceStage.gotSource, howner]
        | some owner =>
          refine .inr (.inl fun todo h => ?_)
          have hfound : PlaceStage.gotSource (.counted count) (.ok object) = .placing todo := h
          simp only [PlaceStage.gotSource, howner] at hfound
          cases hfound
      all_goals exact .inl rfl
    case getDataNode =>
      rcases g with _ | _ | _ | _ | _
      case found => exact .inr (.inl fun todo h => (by cases h))
      all_goals exact .inl rfl
    case listDataNodes ns params =>
      rcases g with _ | _ | _ | ⟨count, source⟩ | _
      case sourced => exact .inr (.inr ⟨ns, params, object, count, source, rfl, rfl, rfl⟩)
      all_goals exact .inl rfl
    all_goals first
      | exact .inl rfl
      | exact hc.elim
  all_goals exact .inl rfl

/-- A pass over a `DataPod` applies a patch to it, and changes no other `DataPod` or `DataNode`. -/
lemma harmless_or_apply {self : DataPod} {g : PlaceStage} {c : Call}
    (allowed : (Pass.reconcilePod self).Allows g c) :
    c.Harmless ∨ ∃ ns name patch, c = .kube (.applyDataPod ns name patch) := by
  rcases c with c | c | c | c | c | _ | _
  case kube =>
    cases c
    case applyDataPod ns name patch => exact .inr ⟨ns, name, patch, rfl⟩
    all_goals first
      | exact .inl trivial
      | exact allowed.elim
  all_goals exact .inl trivial

section
variable {selects : Selects} {ns : String} {s s' : Placed} {g : PlaceStage} {c : Call}
  {a : c.Reply} {before after : List (Pass × Pass × PlaceStage)}

/-- A pass has listed the nodes. -/
lemma OutOfTheWay.lists {self : DataReplicaSet} {params : ListParams} {nodes : List DataNode}
    {count : ℕ} {source : DataNode}
    (h : OutOfTheWay ns s
      (before ++ (.reconcileSet self, .reconcileSet self, .sourced count source) :: after))
    (hlisted : listFrom selects s.cluster.dataNodes ns params = .ok nodes)
    (free : ListedFree ns s
      (before ++ (.reconcileSet self, .reconcileSet self, .sourced count source) :: after) self
      (.sourced count source) ⟨.kube (.listDataNodes ns params), Except.ok nodes⟩) :
    OutOfTheWay ns s (before ++ (.reconcileSet self, .reconcileSet self,
      .placing (self.placements count source nodes)) :: after) := by
  have fits := h.fits _ (List.mem_append_right before List.mem_cons_self)
  -- what the pass aims at now is what the condition is about
  have aimed : ∀ x ∈ s.cluster.aims ns
      (.reconcileSet self, .placing (self.placements count source nodes)),
      slotOf x ∉ s.slots ∧
        ∀ y ∈ before ++ after, y.1.setUid ≠ (Pass.reconcileSet self).setUid →
          ∀ z ∈ s.cluster.aims ns y.2, slotOf x ≠ slotOf z := by
    intro x hx
    obtain ⟨self', todo, uid, heq, huid, hreached⟩ := mem_aims hx
    cases heq
    obtain ⟨hslot, hothers⟩ := free uid params nodes count source rfl huid rfl x hreached
    refine ⟨hslot, fun y hy hne => hothers y (mem_of_others hy _) fun hset => hne ?_⟩
    rw [hset]
    exact huid.symm
  apply h.moves
  · refine ⟨rfl, fits.ofSet, fits.ofPod, fits.either, ?_, fun y hy => (aimed y hy).1⟩
    rintro todo ⟨⟩ y hy
    exact inNamespace_of_listFrom hlisted y.2 (of_mem_placements hy).1
  · exact fun y hy hne z hz => (aimed z hz).2 y hy hne

/-- One step of a pass over a set. -/
lemma OutOfTheWay.step_set {self : DataReplicaSet}
    (h : OutOfTheWay ns s (before ++ (.reconcileSet self, .reconcileSet self, g) :: after))
    (allowed : (Pass.reconcileSet self).Allows g c) (answered : Placed.Answers selects s c a s')
    (free : ListedFree ns s (before ++ (.reconcileSet self, .reconcileSet self, g) :: after)
      self g ⟨c, a⟩) :
    OutOfTheWay ns s'
      (before ++ (.reconcileSet self, .reconcileSet self, g.next self c a) :: after) := by
  have fits := h.fits _ (List.mem_append_right before List.mem_cons_self)
  have hns : namespaceOf self = some ns := fits.ofSet self rfl
  rcases harmless_or_create allowed with hc | ⟨ns', sent, rfl⟩
  -- the stage changes first, and then nothing happens to the places
  · have moved : OutOfTheWay ns s
        (before ++ (.reconcileSet self, .reconcileSet self, g.next self c a) :: after) := by
      rcases next_of_harmless self g hc a with hsame | hidle | ⟨ns', params, nodes, count,
        source, hevent, rfl, hplacing⟩
      · rw [hsame]
        exact h
      · exact h.idles rfl hidle
      · rw [hplacing]
        cases hevent
        obtain ⟨hns', rfl⟩ := allowed
        rw [hns] at hns'
        cases hns'
        have hlisted : .ok nodes = listFrom selects s.cluster.dataNodes ns {} :=
          replies_of_answers answered.1.1
        exact h.lists hlisted.symm free
    exact moved.still (h.laid.harmless hc answered) (Placed.carries_harmless hc answered)
      (Placed.slots_harmless hc answered)
  · obtain ⟨hns', index, node, rest, rfl, replica⟩ := allowed
    rw [hns] at hns'
    cases hns'
    rcases a with e | pod
    · rw [Placed.eq_of_error answered]
      exact h
    · exact h.created (Placed.created_of_answers answered) replica

/-- One step of a pass over a `DataPod`. -/
lemma OutOfTheWay.step_pod {self : DataPod} {xs : List (Pass × Pass × PlaceStage)}
    (h : OutOfTheWay ns s xs) (hns : namespaceOf self = some ns) (known : Known ns s self)
    (allowed : (Pass.reconcilePod self).Allows g c)
    (answered : Placed.Answers selects s c a s') : OutOfTheWay ns s' xs := by
  rcases harmless_or_apply allowed with hc | ⟨ns', name, patch, rfl⟩
  · exact h.still (h.laid.harmless hc answered) (Placed.carries_harmless hc answered)
      (Placed.slots_harmless hc answered)
  · obtain ⟨hns', rfl, keeps⟩ := allowed
    rw [hns] at hns'
    cases hns'
    rcases a with e | pod
    · rw [Placed.eq_of_error answered]
      exact h
    · obtain ⟨old, version, hpod, new⟩ := known.applied answered
      have stays : old ∈ s.replicas → DataPod.slot pod = old.slot :=
        fun hold => h.laid.slot_applied known new hold keeps hpod
      exact h.still (h.laid.applied new stays) (h.laid.carries_applied new stays)
        (h.laid.slots_applied new stays)

end

/-! ## Every run -/

section
variable {selects : Selects} {ns : String}

/-- A new pass has nothing in mind yet. -/
lemma OutOfTheWay.arrives {P : PlacedPool} {r : Pass} {xs : List (Pass × Pass × PlaceStage)}
    (h : OutOfTheWay ns P.state xs) (admitted : inNamespace ns P r) :
    OutOfTheWay ns P.state (xs ++ [(r, r.start)]) := by
  have nothing : P.state.cluster.aims ns r.start = [] := by
    cases r
    all_goals rfl
  have new : Fits ns P.state (r, r.start) := by
    refine ⟨rfl, fun self hself => ?_, fun self hself => ?_, ?_, fun todo h => (by cases h), ?_⟩
    · rcases admitted with ⟨self', rfl, hns⟩ | ⟨self', rfl, _⟩
      · cases hself
        exact hns
      · cases hself
    · rcases admitted with ⟨self', rfl, hns⟩ | ⟨self', rfl, hmem, name, hat⟩
      · cases hself
      · cases hself
        refine ⟨hat.1, self, hmem, ?_, fun _ => rfl⟩
        rw [nameAny_of_at hat]
        exact hat
    · rcases admitted with ⟨self, hself, _⟩ | ⟨self, hself, _⟩
      · exact .inl ⟨self, hself⟩
      · exact .inr ⟨self, hself⟩
    · intro y hy
      rw [nothing] at hy
      cases hy
  refine ⟨h.laid, fun x hx => ?_, fun x hx x' hx' hne y hy y' hy' => ?_⟩
  · rcases List.mem_append.mp hx with hx | hx
    · exact h.fits x hx
    · rw [List.mem_singleton.mp hx]
      exact new
  · rcases List.mem_append.mp hx with hx | hx
    · rcases List.mem_append.mp hx' with hx' | hx'
      · exact h.apart x hx x' hx' hne y hy y' hy'
      · rw [List.mem_singleton.mp hx', nothing] at hy'
        cases hy'
    · rw [List.mem_singleton.mp hx, nothing] at hy
      cases hy

/-- Any pass takes a step. -/
lemma OutOfTheWay.step {P : PlacedPool} {before after : List (Pass × Pass × PlaceStage)} {r : Pass}
    {past : List (Event signature)} {c : Call} {a : c.Reply} {s' : Placed}
    (hphases : P.phases passMonitor Pass.start =
      before ++ (r, passMonitor.after r.start past) :: after)
    (free : ListsFree ns P (.answered r past ⟨c, a⟩))
    (answered : Placed.Answers selects P.state c a s')
    (allowed : passMonitor.allows (passMonitor.after r.start past) c)
    (h : OutOfTheWay ns P.state (before ++ (r, passMonitor.after r.start past) :: after)) :
    OutOfTheWay ns s'
      (before ++ (r, passMonitor.next (passMonitor.after r.start past) c a) :: after) := by
  obtain ⟨g, hg⟩ : ∃ g, passMonitor.after r.start past = (r, g) :=
    ⟨(passMonitor.after r.start past).2, Prod.ext (passMonitor_after_fst _ _) rfl⟩
  have fits := h.fits _ (List.mem_append_right before List.mem_cons_self)
  have allowed' : r.Allows g c := by
    have hallows := passMonitor_allows allowed
    rw [hg] at hallows
    exact hallows
  rcases fits.either with ⟨self, hr⟩ | ⟨self, hr⟩
  · have hr' : r = .reconcileSet self := hr
    subst hr'
    have listed := free self past ⟨c, a⟩ rfl
    rw [hphases, hg] at listed
    rw [hg] at h ⊢
    exact h.step_set allowed' answered listed
  · have hr' : r = .reconcilePod self := hr
    subst hr'
    obtain ⟨hns, known⟩ := fits.ofPod self rfl
    rw [hg] at h ⊢
    exact h.step_pod hns known allowed' answered

lemma OutOfTheWay.finish {s : Placed} {before after : List (Pass × Pass × PlaceStage)}
    {x : Pass × Pass × PlaceStage} (h : OutOfTheWay ns s (before ++ x :: after)) :
    OutOfTheWay ns s (before ++ after) :=
  ⟨h.laid, fun y hy => h.fits y (mem_of_others hy x), fun y hy y' hy' =>
    h.apart y (mem_of_others hy x) y' (mem_of_others hy' x)⟩

/-- The invariant along all runs in which passes list free places. -/
lemma apart_preserved :
    Preserved (placementService selects (inNamespace ns)) passMonitor Pass.start
      (fun _ _ _ => True) (ListsFree ns) fun s phases _ => OutOfTheWay ns s phases := by
  apply Preserved.of_step
  · rintro P r (⟨self, rfl, _⟩ | ⟨self, rfl, _⟩)
    · exact reconcileSet_stages self
    · exact reconcilePod_stages self
  · exact fun _ _ _ _ answered _ => foundAt_of_answers answered.1.1
  · exact fun P r admitted h => h.arrives admitted
  · exact fun P before after r past c a s' hphases free answered allowed h =>
      h.step hphases free answered allowed
  · exact fun s before after x h => h.finish
  · exact fun P s' moved _ h => h.still (h.laid.disturbs moved) (Placed.carries_of_disturbs moved)
      (h.laid.sound.slots_of_disturbs moved)

/-- A path that is made from a uid is not the path of a replica. -/
lemma Laid.uid_path_ne {s : Placed} (h : Laid ns s)
    (uuids : ∀ uid ∈ s.cluster.uids, ∀ index : ℕ, uid ≠ "replica-" ++ toString index)
    {d d' : DataPod} (hd : d ∈ s.cluster.dataPods) {uid : String} (huid : uidOf d = some uid)
    (hpath : d.spec.path = some ("/" ++ uid)) (hd' : d' ∈ s.replicas) : d.slot ≠ d'.slot := by
  intro heq
  obtain ⟨index, node, hshape⟩ := h.shaped _ (List.mem_map_of_mem hd')
  rw [hshape] at heq
  have hsame : some ("/" ++ uid) = some ("/replica-" ++ toString index) :=
    hpath.symm.trans (congrArg Prod.snd heq)
  have hsplit : "/" ++ uid = "/" ++ ("replica-" ++ toString index) := by
    rw [← String.append_assoc]
    exact Option.some.inj hsame
  exact uuids uid (h.sound.recorded d hd uid huid) index ((String.append_right_inj _).mp hsplit)

/-- Replicas in different places and uids that are unique: no chosen paths collide. -/
lemma Laid.pathsApart {s : Placed} (h : Laid ns s)
    (uuids : ∀ uid ∈ s.cluster.uids, ∀ index : ℕ, uid ≠ "replica-" ++ toString index) :
    s.PathsApart := by
  intro d hd d' hd' hchosen hchosen' hne heq
  rcases hchosen with hreplica | ⟨uid, huid, hpath⟩
  · rcases hchosen' with hreplica' | ⟨uid', huid', hpath'⟩
    · have hsame : d = d' := List.inj_on_of_nodup_map h.slots hreplica hreplica' heq
      rw [hsame] at hne
      exact hne rfl
    · exact h.uid_path_ne uuids hd' huid' hpath' hreplica heq.symm
  · rcases hchosen' with hreplica' | ⟨uid', huid', hpath'⟩
    · exact h.uid_path_ne uuids hd huid hpath hreplica' heq
    · have hpaths : "/" ++ uid = "/" ++ uid' := by
        have hsame : d.spec.path = d'.spec.path := congrArg Prod.snd heq
        rw [hpath, hpath'] at hsame
        exact Option.some.inj hsame
      rw [huid, huid', (String.append_right_inj _).mp hpaths] at hne
      exact hne rfl

/-- In every run in which passes that list the `DataNode`s go on to free places only, the paths
that controllers choose never collide. -/
theorem paths_apart_of_run {s₀ : Cluster} {steps : List PlacedTransition} {P : PlacedPool}
    (recorded : Recorded s₀.dataPods s₀.uids) (names : (s₀.dataPods.map podPlace).Nodup)
    (nodes : (s₀.dataNodes.map place).Nodup)
    (run : (placementService selects (inNamespace ns)).Run ⟨s₀, []⟩ steps P)
    (uuids : ∀ uid ∈ P.state.cluster.uids, ∀ index : ℕ, uid ≠ "replica-" ++ toString index)
    (free : ∀ x ∈ steps, ListsFree ns x.source x.label) : P.state.PathsApart := by
  have hempty : (⟨s₀, []⟩ : Placed).slots = [] := by
    unfold Placed.slots Placed.replicas
    simp
  have init : OutOfTheWay ns ⟨s₀, []⟩ [] := by
    refine ⟨⟨⟨recorded, fun _ h => (by cases h), nodes⟩, names, fun p hp => ?_, ?_⟩,
      fun _ h => (by cases h), fun _ h => (by cases h)⟩
    · rw [hempty] at hp
      cases hp
    · rw [hempty]
      exact List.nodup_nil
  obtain ⟨_, h⟩ := apart_preserved.run init run free
  exact h.laid.pathsApart uuids

end

/-! ## Two sets with one other node -/

/-- Another set for the same source. -/
def otherSet : DataReplicaSet :=
  { sampleSet 1 with metadata := { name := some "other", ns := some "default", uid := some "4" } }

/-- The source is on the node `n`, there is also the node `m`, and there are two sets. -/
def sampleShared : Cluster :=
  { sampleCluster 1 [sampleNode "m" "3"] [] with replicaSets := [sampleSet 1, otherSet] }

/-- Uids that do not begin like the name of a directory. -/
def OtherHead (uid : String) : Bool := uid.toList.head? ≠ some 'r'

lemma ne_of_otherHead {uids : List String} (h : uids.all OtherHead = true) :
    ∀ uid ∈ uids, ∀ index : ℕ, uid ≠ "replica-" ++ toString index := by
  intro uid hmem index heq
  have hhead : uid.toList.head? ≠ some 'r' := of_decide_eq_true (List.all_eq_true.mp h uid hmem)
  rw [heq, String.toList_append] at hhead
  exact hhead rfl

/-- Both sets put their first replica into the same directory of the same node. -/
theorem not_paths_apart : ¬ ∀ (selects : Selects) (ns : String) (s₀ : Cluster)
    (steps : List PlacedTransition) (P : PlacedPool), Recorded s₀.dataPods s₀.uids →
    (s₀.dataPods.map podPlace).Nodup → (s₀.dataNodes.map place).Nodup →
    (placementService selects (inNamespace ns)).Run ⟨s₀, []⟩ steps P →
    (∀ uid ∈ P.state.cluster.uids, ∀ index : ℕ, uid ≠ "replica-" ++ toString index) →
    P.state.PathsApart := by
  intro claim
  obtain ⟨done, s, d, d', hserial, hreplicas, hne, hslot, hheads⟩ : ∃ done s d d',
      (placementService sampleSelects (inNamespace "default")).serial
        (fun _ => Placed.serve sampleSelects) 20
        [.reconcileSet (sampleSet 1), .reconcileSet otherSet] ⟨sampleShared, []⟩ =
          some (done, s) ∧
      s.replicas = [d, d'] ∧ uidOf d ≠ uidOf d' ∧ d.slot = d'.slot ∧
      s.cluster.uids.all OtherHead = true :=
    ⟨_, _, _, _, rfl, by rfl, by decide, by decide, by decide⟩
  have admitted : ∀ P, ∀ r ∈ [Pass.reconcileSet (sampleSet 1), .reconcileSet otherSet],
      inNamespace "default" P r := by
    intro P r hr
    rcases List.mem_cons.mp hr with rfl | hr
    · exact .inl ⟨_, rfl, rfl⟩
    · rw [List.mem_singleton.mp hr]
      exact .inl ⟨_, rfl, rfl⟩
  obtain ⟨steps, run, _, _⟩ := Service.Run.serial
    (V := placementService sampleSelects (inNamespace "default"))
    (fun _ _ _ _ _ h => Placed.answers_of_serve h) admitted .start hserial
  have apart := claim sampleSelects "default" sampleShared _ _
    (samplePods_recorded 1 [sampleNode "m" "3"]) (by decide)
    (by decide) run (ne_of_otherHead hheads)
  have hd : d ∈ s.replicas := by
    rw [hreplicas]
    exact List.mem_cons_self
  have hd' : d' ∈ s.replicas := by
    rw [hreplicas]
    exact List.mem_cons_of_mem _ List.mem_cons_self
  exact apart d (Placed.mem_replicas.mp hd).1 d' (Placed.mem_replicas.mp hd').1 (.inl hd)
    (.inl hd') hne hslot

/-- There is no replica yet when the nodes are listed. -/
def Placed.unused (s : Placed) : Call → Bool
  | .kube (.listDataNodes _ _) => s.made = []
  | _ => true

lemma Placed.slots_of_unused {s : Placed} {ns : String} {params : ListParams}
    (h : s.unused (.kube (.listDataNodes ns params)) = true) : s.slots = [] := by
  have hmade : s.made = [] := of_decide_eq_true h
  unfold Placed.slots Placed.replicas
  rw [hmade]
  simp

/-- One set alone places its two replicas. -/
theorem paths_apart_at_first : ∃ (steps : List PlacedTransition) (P : PlacedPool),
    (placementService sampleSelects (inNamespace "default")).Run
        ⟨sampleCluster 2 [sampleNode "m" "3", sampleNode "k" "4"] [], []⟩ steps P ∧
      P.state.slots = [(some ⟨"k", some "default"⟩, some "/replica-0"),
        (some ⟨"m", some "default"⟩, some "/replica-1")] ∧
      P.state.PathsApart := by
  obtain ⟨τ, q, result, s, hfollow, hq, hslots, hheads⟩ : ∃ τ q result s,
      (sampleSet 2).reconcile.follow (serveIf Placed.unused (Placed.serve sampleSelects)) 20
        ⟨sampleCluster 2 [sampleNode "m" "3", sampleNode "k" "4"] [], []⟩ = some (τ, q, s) ∧
      q.outcome = some result ∧
      s.slots = [(some ⟨"k", some "default"⟩, some "/replica-0"),
        (some ⟨"m", some "default"⟩, some "/replica-1")] ∧
      s.cluster.uids.all OtherHead = true :=
    ⟨_, _, _, _, rfl, rfl, by rfl, by decide⟩
  have exec := Prog.exec_of_follow
    (R := fun s c a s' => s.unused c = true ∧ Placed.Answers sampleSelects s c a s')
    (fun _ _ _ _ h => ⟨(of_serveIf h).1, Placed.answers_of_serve (of_serveIf h).2⟩) hfollow
  obtain ⟨steps, run, served, _⟩ := Service.Run.handle
    (V := placementService sampleSelects (inNamespace "default")) (fun _ _ _ _ h => h.2) .start
    (r := .reconcileSet (sampleSet 2)) (.inl ⟨_, rfl, rfl⟩) exec hq
  refine ⟨_, _, run, hslots, paths_apart_of_run (samplePods_recorded 2 _) (by decide)
    (by decide) run (ne_of_otherHead hheads) ?_⟩
  intro x hx self past e hlabel uid params nodes count source he huid _ y _
  obtain ⟨earlier, hprefix, hearlier, _⟩ := run.of_mem hx
  rcases served x hx with harrives | ⟨past', e', hlabel', hunused, _⟩
  · rw [hlabel] at harrives
    cases harrives
  · rw [hlabel] at hlabel'
    cases hlabel'
    subst he
    rw [Placed.slots_of_unused hunused]
    refine ⟨List.not_mem_nil, fun z hz hother => ?_⟩
    -- there is no other pass than this one
    obtain ⟨t, ht, rfl⟩ := List.mem_map.mp hz
    obtain ⟨x', hx', harrived⟩ := hearlier.arrived.running t ht
    have hmem := hprefix.subset (List.mem_append_left _ hx')
    rcases served x' hmem with harrives | ⟨_, _, hanswered, _⟩
    · rw [harrived] at harrives
      have hset : t.request = .reconcileSet (sampleSet 2) := Label.arrives.inj harrives
      rw [hset] at hother
      exact absurd huid hother
    · rw [harrived] at hanswered
      cases hanswered

end Kubedal
