import Kubedal.Kube.ApiServer

/-!
# Uids and owners

What is known about an object by its uid: no other object ever gets it, so what holds of the
object holds as long as it is not written. For a server-side apply of owner references, which
of them are left afterwards.

* `Remembered.grows`: what is known of an object outlives the creation and the deletion of
  others;
* `OwnedThrough.applyOwners`: an apply replaces the owner that the manager has set before, and
  keeps the one set by others.
-/

namespace Kubedal.Kube

/-! ## Uids -/

section
variable {K : Type} [Resource K] {objects objects' : List K} {uids uids' : List String}

/-- Every uid that an object has was given out. -/
def Recorded (objects : List K) (uids : List String) : Prop :=
  ∀ k ∈ objects, ∀ uid, uidOf k = some uid → uid ∈ uids

/-- No object has been changed, and the new ones have uids that were not given out before. -/
structure Grows (objects : List K) (uids : List String) (objects' : List K)
    (uids' : List String) : Prop where
  old_or_new : ∀ k ∈ objects', k ∈ objects ∨ ∃ uid, uidOf k = some uid ∧ uid ∉ uids ∧ uid ∈ uids'
  uids : uids ⊆ uids'

/-- The uid of `k` was given out, and the object that has it satisfies `Q`. -/
structure Remembered (objects : List K) (uids : List String) (k : K) (Q : K → Prop) : Prop where
  known : ∃ uid ∈ uids, uidOf k = some uid
  holds : ∀ k' ∈ objects, uidOf k' = uidOf k → Q k'

lemma Grows.of_subset (h : objects' ⊆ objects) (huids : uids ⊆ uids') :
    Grows objects uids objects' uids' := ⟨fun _ hk => .inl (h hk), huids⟩

lemma Grows.of_eq (h : objects' = objects) (huids : uids ⊆ uids') :
    Grows objects uids objects' uids' := by
  rw [h]
  exact .of_subset (List.Subset.refl _) huids

/-- A new object. -/
lemma Grows.add {k : K} {uid : String} (hk : uidOf k = some uid) (fresh : uid ∉ uids) :
    Grows objects uids (objects ++ [k]) ((uidOf k).toList ++ uids) := by
  rw [hk]
  refine ⟨fun k' hk' => ?_, List.subset_cons_self _ _⟩
  rcases List.mem_append.mp hk' with hk' | hk'
  · exact .inl hk'
  · rw [List.mem_singleton.mp hk']
    exact .inr ⟨uid, hk, fresh, List.mem_cons_self⟩

/-- A created object. -/
lemma Creates.ok {ns : String} {m : ObjectMeta} {put : ObjectMeta → K} {k : K}
    (h : Creates objects uids ns m put (.ok k)) (hput : ∀ m, Resource.metadata (put m) = m) :
    ∃ uid version, uidOf k = some uid ∧ uid ∉ uids ∧
      Resource.metadata k = m.stored ns uid version := by
  obtain ⟨_, uid, version, _, _, fresh, rfl⟩ := h
  refine ⟨uid, version, ?_, fresh, hput _⟩
  unfold uidOf
  rw [hput]
  rfl

lemma Recorded.grows (h : Recorded objects uids) (grown : Grows objects uids objects' uids') :
    Recorded objects' uids' := by
  intro k hk uid huid
  rcases grown.old_or_new k hk with hk | ⟨uid', huid', _, hmem⟩
  · exact grown.uids (h k hk uid huid)
  · rw [huid] at huid'
    rw [Option.some.inj huid']
    exact hmem

lemma Remembered.grows {k : K} {Q : K → Prop} (h : Remembered objects uids k Q)
    (grown : Grows objects uids objects' uids') : Remembered objects' uids' k Q := by
  obtain ⟨uid, hmem, huid⟩ := h.known
  refine ⟨⟨uid, grown.uids hmem, huid⟩, fun k' hk' heq => ?_⟩
  rcases grown.old_or_new k' hk' with hk' | ⟨uid', huid', fresh, _⟩
  · exact h.holds k' hk' heq
  · rw [huid, huid'] at heq
    rw [Option.some.inj heq] at fresh
    exact absurd hmem fresh

/-- What holds of an object when it is created. -/
lemma Recorded.remembered {k : K} {uid : String} {Q : K → Prop} (h : Recorded objects uids)
    (hk : uidOf k = some uid) (fresh : uid ∉ uids) (hQ : Q k) :
    Remembered (objects ++ [k]) ((uidOf k).toList ++ uids) k Q := by
  refine ⟨⟨uid, ?_, hk⟩, fun k' hk' heq => ?_⟩
  · rw [hk]
    exact List.mem_cons_self
  · rcases List.mem_append.mp hk' with hk' | hk'
    · exact absurd (h k' hk' uid (heq.trans hk)) fresh
    · rw [List.mem_singleton.mp hk']
      exact hQ

end

/-! ## Owners -/

def ObjectMeta.owners (m : ObjectMeta) : List OwnerReference := m.ownerReferences.getD []

/-- There is one owner, with this uid. -/
def SoleOwner (uid : String) (m : ObjectMeta) : Prop :=
  ∃ ref, m.ownerReferences = some [ref] ∧ ref.uid = uid

/-- The owners are the one with this uid, which others have set, and the one that the manager
has set, if there is one. -/
structure OwnedThrough (manager uid : String) (other : Option String) (m : ObjectMeta) :
    Prop where
  owned : m.owners ≠ []
  refs : ∀ ref ∈ m.owners, ref.uid = uid ∨ other = some ref.uid ∧ m.Holds manager ref.uid
  others : ∀ held, m.OthersHold manager held → held = uid

section
variable {m : ObjectMeta} {manager uid : String} {other : Option String}

lemma SoleOwner.ownedThrough (h : SoleOwner uid m) (ns new version : String) :
    OwnedThrough manager uid other (m.stored ns new version) := by
  obtain ⟨ref, hrefs, rfl⟩ := h
  have howners : (m.stored ns new version).owners = [ref] := by
    show m.ownerReferences.getD [] = [ref]
    rw [hrefs]
    rfl
  refine ⟨?_, fun ref' href' => ?_, fun held hheld => ?_⟩
  · rw [howners]
    exact List.cons_ne_nil _ _
  · rw [howners] at href'
    rw [List.mem_singleton.mp href']
    exact .inl rfl
  · obtain ⟨e, he, _, hmem⟩ := hheld
    rw [List.mem_singleton.mp he] at hmem
    show held = ref.uid
    rw [hrefs] at hmem
    exact List.mem_singleton.mp hmem

lemma OwnedThrough.congr {m' : ObjectMeta} (h : OwnedThrough manager uid other m)
    (hrefs : m'.ownerReferences = m.ownerReferences)
    (hfields : m'.managedFields = m.managedFields) :
    OwnedThrough manager uid other m' := by
  have howners : m'.owners = m.owners := by
    unfold ObjectMeta.owners
    rw [hrefs]
  refine ⟨?_, fun ref href => ?_, fun held hheld => h.others held ?_⟩
  · rw [howners]
    exact h.owned
  · rw [howners] at href
    unfold ObjectMeta.Holds
    rw [hfields]
    exact h.refs ref href
  · unfold ObjectMeta.OthersHold at hheld ⊢
    rw [← hfields]
    exact hheld

/-- An owner after an apply has been applied, or has been there and is kept. -/
lemma ObjectMeta.mem_applyOwners {refs : List OwnerReference} {ref : OwnerReference}
    (h : ref ∈ (m.applyOwners manager refs).owners) :
    (∃ kept ∈ m.keptOwners manager, ref.uid = kept.uid) ∨ ref ∈ refs := by
  have h' : ref ∈ (m.keptOwners manager).map
      (fun kept => (refs.find? fun r => r.uid = kept.uid).getD kept) ++
        refs.filter fun r => r.uid ∉ (m.keptOwners manager).map OwnerReference.uid := h
  rcases List.mem_append.mp h' with h' | h'
  · obtain ⟨kept, hkept, rfl⟩ := List.mem_map.mp h'
    refine .inl ⟨kept, hkept, ?_⟩
    cases hfind : refs.find? fun r => r.uid = kept.uid with
    | none => rfl
    | some r => simpa using List.find?_some hfind
  · exact .inr (List.mem_filter.mp h').1

/-- What is applied is there afterwards. -/
lemma ObjectMeta.applyOwners_mem {refs : List OwnerReference} {ref : OwnerReference}
    (h : ref ∈ refs) : ∃ ref' ∈ (m.applyOwners manager refs).owners, ref'.uid = ref.uid := by
  show ∃ ref' ∈ (m.keptOwners manager).map
      (fun kept => (refs.find? fun r => r.uid = kept.uid).getD kept) ++
        refs.filter fun r => r.uid ∉ (m.keptOwners manager).map OwnerReference.uid, _
  by_cases hkept : ref.uid ∈ (m.keptOwners manager).map OwnerReference.uid
  · obtain ⟨kept, hmem, huid⟩ := List.mem_map.mp hkept
    refine ⟨_, List.mem_append_left _ (List.mem_map_of_mem hmem), ?_⟩
    cases hfind : refs.find? fun r => r.uid = kept.uid with
    | none => exact huid
    | some r =>
      have hr : r.uid = kept.uid := by simpa using List.find?_some hfind
      exact hr.trans huid
  · exact ⟨ref, List.mem_append_right _ (List.mem_filter.mpr ⟨h, by simpa using hkept⟩), rfl⟩

lemma ObjectMeta.applyOwners_holds {refs : List OwnerReference} {ref : OwnerReference}
    (h : ref ∈ refs) : (m.applyOwners manager refs).Holds manager ref.uid :=
  ⟨_, List.mem_append_right _ List.mem_cons_self, rfl, List.mem_map_of_mem h⟩

lemma ObjectMeta.othersHold_of_applyOwners {refs : List OwnerReference} {held : String}
    (h : (m.applyOwners manager refs).OthersHold manager held) : m.OthersHold manager held := by
  obtain ⟨e, he, hne, hmem⟩ := h
  rcases List.mem_append.mp he with he | he
  · exact ⟨e, (List.mem_filter.mp he).1, hne, hmem⟩
  · rw [List.mem_singleton.mp he] at hne
    exact absurd rfl hne

/-- The manager sets another owner. -/
lemma OwnedThrough.applyOwners (h : OwnedThrough manager uid other m) (owner : OwnerReference) :
    OwnedThrough manager uid (some owner.uid) (m.applyOwners manager [owner]) := by
  refine ⟨?_, fun ref href => ?_, fun held hheld => ?_⟩
  · have there : ∃ ref ∈ (m.applyOwners manager [owner]).owners, ref.uid = owner.uid :=
      ObjectMeta.applyOwners_mem (List.mem_singleton_self owner)
    obtain ⟨ref, href, _⟩ := there
    exact List.ne_nil_of_mem href
  · rcases ObjectMeta.mem_applyOwners href with ⟨kept, hkept, heq⟩ | href
    · left
      rw [heq]
      obtain ⟨hmem, hwhy⟩ := List.mem_filter.mp hkept
      rcases h.refs kept hmem with hown | ⟨_, hholds⟩
      · exact hown
      -- the manager had set it, so it is kept only if others have set it too
      · rcases of_decide_eq_true hwhy with hnot | hothers
        · exact absurd hholds hnot
        · exact h.others _ hothers
    · rw [List.mem_singleton.mp href]
      exact .inr ⟨rfl, ObjectMeta.applyOwners_holds (List.mem_singleton_self owner)⟩
  · exact h.others held (ObjectMeta.othersHold_of_applyOwners hheld)

end

end Kubedal.Kube
