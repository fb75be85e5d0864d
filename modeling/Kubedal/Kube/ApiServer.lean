import Kubedal.Kube.Objects

/-!
# The API server

How requests about objects of one kind are answered: by name, by label selector, with a
conflict if a name is taken, and by merging owner references on a server-side apply.
-/

namespace Kubedal.Kube

/-- What a label selector matches; `none` if it is refused. -/
abbrev Selects := String → Option (StringMap String → Bool)

section
variable {K : Type} [Resource K]

/-- The object is in the namespace. -/
def InNamespace (ns : String) (k : K) : Prop := namespaceOf k = some ns

instance (ns : String) : DecidablePred (InNamespace ns : K → Prop) :=
  fun k => inferInstanceAs (Decidable (namespaceOf k = some ns))

/-- The object is the one of that name in the namespace. -/
def At (ns name : String) (k : K) : Prop :=
  InNamespace ns k ∧ (Resource.metadata k).name = some name

instance (ns name : String) : DecidablePred (At ns name : K → Prop) :=
  fun k => inferInstanceAs (Decidable (InNamespace ns k ∧ (Resource.metadata k).name = some name))

/-- The object of that name. -/
def getFrom (objects : List K) (ns name : String) : Except KubeError K :=
  match objects.find? fun k => At ns name k with
  | some k => .ok k
  | none => .error .notFound

/-- The objects in the namespace that the parameters select. -/
def listFrom (selects : Selects) (objects : List K) (ns : String) (params : ListParams) :
    Except KubeError (List K) :=
  match params.labelSelector with
  | none => .ok (objects.filter fun k => InNamespace ns k)
  | some text =>
    match selects text with
    | some matched => .ok (objects.filter fun k =>
        InNamespace ns k ∧ matched ((Resource.metadata k).labels.getD ∅))
    | none => .error .failed

/-- The metadata of a new object. -/
def ObjectMeta.stored (m : ObjectMeta) (ns uid version : String) : ObjectMeta :=
  { m with
    ns := some ns
    uid := some uid
    resourceVersion := some version
    managedFields := [⟨"", (m.ownerReferences.getD []).map OwnerReference.uid⟩] }

/-- The answers to a request to create `put m`: it is refused if the name is taken, and else
gets a uid that is not in use. -/
def Creates (objects : List K) (uids : List String) (ns : String) (m : ObjectMeta)
    (put : ObjectMeta → K) : Except KubeError K → Prop
  | .error e =>
    m.name = none ∧ e = .failed ∨
      ∃ name, m.name = some name ∧ (∃ k ∈ objects, At ns name k) ∧ e = .conflict
  | .ok k =>
    ∃ name uid version, m.name = some name ∧ (∀ k ∈ objects, ¬ At ns name k) ∧ uid ∉ uids ∧
      k = put (m.stored ns uid version)

lemma getFrom_ok {objects : List K} {ns name : String} {k : K}
    (h : getFrom objects ns name = .ok k) : k ∈ objects ∧ At ns name k := by
  unfold getFrom at h
  split at h
  · rename_i k' hfind
    cases h
    exact ⟨List.mem_of_find?_eq_some hfind, by simpa using List.find?_some hfind⟩
  · cases h

lemma exists_getFrom {objects : List K} {ns name : String} (h : ∃ k ∈ objects, At ns name k) :
    ∃ k, getFrom objects ns name = .ok k := by
  obtain ⟨k, hk, hat⟩ := h
  unfold getFrom
  cases hfind : objects.find? fun k => At ns name k with
  | none => exact absurd (decide_eq_true hat) (List.find?_eq_none.mp hfind k hk)
  | some k' => exact ⟨k', rfl⟩

lemma inNamespace_of_listFrom {selects : Selects} {objects : List K} {ns : String}
    {params : ListParams} {listed : List K} (h : listFrom selects objects ns params = .ok listed) :
    ∀ k ∈ listed, InNamespace ns k := by
  intro k hk
  unfold listFrom at h
  split at h
  · cases h
    simpa using (List.mem_filter.mp hk).2
  · split at h
    · cases h
      have hselected := (List.mem_filter.mp hk).2
      simp only [decide_eq_true_eq] at hselected
      exact hselected.1
    · cases h

lemma nameAny_of_at {ns name : String} {k : K} (h : At ns name k) : nameAny k = name := by
  unfold nameAny
  rw [h.2]
  rfl

lemma getFrom_singleton {ns name : String} {k : K} (h : At ns name k) :
    getFrom [k] ns name = .ok k := by
  have hfind : [k].find? (fun k => decide (At ns name k)) = some k :=
    List.find?_cons_of_pos (decide_eq_true h)
  unfold getFrom
  rw [hfind]

lemma getFrom_append {objects : List K} {ns name : String} {k : K}
    (h : getFrom objects ns name = .ok k) (more : List K) :
    getFrom (objects ++ more) ns name = .ok k := by
  unfold getFrom at h ⊢
  rw [List.find?_append]
  split at h
  · rename_i k' hfind
    rw [hfind]
    exact h
  · cases h

/-- A change that leaves names as they are. -/
lemma getFrom_map {objects : List K} {ns name : String} (f : K → K)
    (hf : ∀ k, At ns name (f k) ↔ At ns name k) :
    getFrom (objects.map f) ns name = (getFrom objects ns name).map f := by
  unfold getFrom
  rw [List.find?_map]
  have hsame : ((fun k => decide (At ns name k)) ∘ f) = fun k => decide (At ns name k) := by
    funext k
    exact decide_eq_decide.mpr (hf k)
  rw [hsame]
  cases objects.find? fun k => At ns name k with
  | none => rfl
  | some k => rfl

/-- A uid that is longer than all in use. -/
def freshUid (uids : List String) : String :=
  String.ofList (List.replicate ((uids.map String.length).foldr max 0 + 1) '0')

lemma freshUid_notMem (uids : List String) : freshUid uids ∉ uids := by
  have longest : ∀ uid ∈ uids, uid.length ≤ (uids.map String.length).foldr max 0 := by
    induction uids with
    | nil => simp
    | cons u uids ih =>
      intro uid huid
      simp only [List.map_cons, List.foldr_cons]
      rcases List.mem_cons.mp huid with rfl | huid
      · omega
      · have := ih uid huid
        omega
  intro hmem
  have hlength := longest _ hmem
  simp only [freshUid, String.length_ofList, List.length_replicate] at hlength
  omega

/-- One of the possible answers to a request to create an object. -/
def create (objects : List K) (uids : List String) (ns : String) (m : ObjectMeta)
    (put : ObjectMeta → K) : Except KubeError K :=
  match m.name with
  | none => .error .failed
  | some name =>
    if ∃ k ∈ objects, At ns name k then .error .conflict
    else .ok (put (m.stored ns (freshUid uids) ""))

lemma creates_create (objects : List K) (uids : List String) (ns : String) (m : ObjectMeta)
    (put : ObjectMeta → K) : Creates objects uids ns m put (create objects uids ns m put) := by
  unfold create
  split
  · exact .inl ⟨‹_›, rfl⟩
  · rename_i name hname
    by_cases htaken : ∃ k ∈ objects, At ns name k
    · rw [if_pos htaken]
      exact .inr ⟨name, hname, htaken, rfl⟩
    · rw [if_neg htaken]
      refine ⟨name, freshUid uids, "", hname, fun k hk hat => htaken ⟨k, hk, hat⟩, ?_, rfl⟩
      exact freshUid_notMem uids

end

/-! ## Server-side apply -/

/-- The manager has set an owner reference with the uid. -/
def ObjectMeta.Holds (m : ObjectMeta) (manager uid : String) : Prop :=
  ∃ e ∈ m.managedFields, e.manager = manager ∧ uid ∈ e.ownerReferences

/-- Another manager has set an owner reference with the uid. -/
def ObjectMeta.OthersHold (m : ObjectMeta) (manager uid : String) : Prop :=
  ∃ e ∈ m.managedFields, e.manager ≠ manager ∧ uid ∈ e.ownerReferences

instance (m : ObjectMeta) (manager uid : String) : Decidable (m.Holds manager uid) :=
  inferInstanceAs (Decidable (∃ e ∈ m.managedFields, e.manager = manager ∧ uid ∈ e.ownerReferences))

instance (m : ObjectMeta) (manager uid : String) : Decidable (m.OthersHold manager uid) :=
  inferInstanceAs (Decidable (∃ e ∈ m.managedFields, e.manager ≠ manager ∧ uid ∈ e.ownerReferences))

/-- The owner references that stay when `manager` applies new ones: all but those that only
this manager had set. -/
def ObjectMeta.keptOwners (m : ObjectMeta) (manager : String) : List OwnerReference :=
  (m.ownerReferences.getD []).filter fun ref =>
    ¬ m.Holds manager ref.uid ∨ m.OthersHold manager ref.uid

/-- A server-side apply of owner references, which are merged by uid. -/
def ObjectMeta.applyOwners (m : ObjectMeta) (manager : String) (refs : List OwnerReference) :
    ObjectMeta :=
  let kept := m.keptOwners manager
  { m with
    ownerReferences := some
      (kept.map (fun ref => (refs.find? fun r => r.uid = ref.uid).getD ref) ++
        refs.filter fun ref => ref.uid ∉ kept.map OwnerReference.uid)
    managedFields :=
      m.managedFields.filter (fun e => e.manager ≠ manager) ++
        [⟨manager, refs.map OwnerReference.uid⟩] }

end Kubedal.Kube
