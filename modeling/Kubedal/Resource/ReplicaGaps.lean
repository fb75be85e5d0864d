import Kubedal.Resource.ReplicaPass
import Mathlib

/-!
# Gaps among the replicas

The indices of new replicas are counted from the number of those that exist. If the existing
ones are not the first ones, a new name may be taken.

* `takenIndices` are the indices whose names are taken, `Clashes` says that a trace has tried
  a name that was taken;
* `GapFree` is the exact condition for a pass to fill the set up;
* `gaps_repaired_iff` is about all passes from a cluster.
-/

namespace Kubedal

open Interaction Kube Resource

/-! ## Names that are taken -/

/-- The indices for which there is a `DataPod` with the name of the replica. -/
def Cluster.takenIndices (s : Cluster) (ns uid : String) : Set ℕ :=
  {i | ∃ d ∈ s.dataPods, At ns (replicaName uid i) d}

/-- The call asks for a `DataPod` with a name that is taken. -/
def TakesName (s : Cluster) : Call → Prop
  | .kube (.createDataPod ns pod) =>
    ∃ d ∈ s.dataPods, InNamespace ns d ∧ d.metadata.name = pod.metadata.name
  | _ => False

/-- A call of the trace asks for a name that is taken when it is made. -/
def Clashes (s : Cluster) (τ : List (Event signature)) : Prop :=
  ∃ past e later, τ = past ++ e :: later ∧ TakesName (s.after past) e.call

lemma replicaName_injective (uid : String) : Function.Injective (replicaName uid) := by
  intro m n h
  exact toString_injective ((String.append_right_inj _).mp h)

section
variable {s : Cluster} {ns uid : String}

lemma takenIndices_congr {s' : Cluster} (h : s'.dataPods = s.dataPods) :
    s'.takenIndices ns uid = s.takenIndices ns uid := by
  unfold Cluster.takenIndices
  rw [h]

/-- A new replica takes its index. -/
lemma takenIndices_addDataPod {pod : DataPod} {index : ℕ} (h : At ns (replicaName uid index) pod) :
    (s.addDataPod pod).takenIndices ns uid = insert index (s.takenIndices ns uid) := by
  ext i
  constructor
  · rintro ⟨d, hd, hat⟩
    rcases List.mem_append.mp hd with hd | hd
    · exact Set.mem_insert_of_mem _ ⟨d, hd, hat⟩
    · have hsame : d = pod := List.mem_singleton.mp hd
      rw [hsame] at hat
      have hname := hat.2.symm.trans h.2
      exact Set.mem_insert_iff.mpr (.inl (replicaName_injective uid (Option.some.inj hname)))
  · intro hi
    rcases Set.mem_insert_iff.mp hi with rfl | ⟨d, hd, hat⟩
    · exact ⟨pod, List.mem_append_right _ (List.mem_singleton_self _), h⟩
    · exact ⟨d, List.mem_append_left _ hd, hat⟩

/-- There are only so many `DataPod`s. -/
lemma takenIndices_finite : (s.takenIndices ns uid).Finite := by
  have hsub : (fun i => some (replicaName uid i)) '' s.takenIndices ns uid ⊆
      {name | name ∈ s.dataPods.map fun d => d.metadata.name} := by
    rintro name ⟨i, ⟨d, hd, hat⟩, rfl⟩
    exact List.mem_map.mpr ⟨d, hd, hat.2⟩
  have himage := (List.finite_toSet (s.dataPods.map fun d => d.metadata.name)).subset hsub
  exact himage.of_finite_image fun i _ j _ h => replicaName_injective uid (Option.some.inj h)

end

/-! ## Passes that try only free names -/

/-- Allows no call that asks for a name that is taken. -/
def freeNames (selects : Selects) : Monitor signature Cluster where
  allows := fun s c => ¬ TakesName s c
  assumes := fun s c a => s.Answers selects True c a
  next := Cluster.next

section
variable {selects : Selects} {s : Cluster} {drs : DataReplicaSet} {ns uid : String}

/-- A function that changes no `DataPod`. -/
lemma wp_keepsDataPods {α : Type} {p : Reconcile α} {Q : Cluster → Except (Fault Error) α → Prop}
    (hp : p.Uses Call.KeepsDataPods)
    (hQ : ∀ s' result, s'.dataPods = s.dataPods → Q s' result) :
    p.wp (freeNames selects) s Q := by
  apply hp.wp_invariant (fun s' => s'.dataPods = s.dataPods)
  · intro s' c hc _ taken
    rcases c with c | c | c | c | c | _ | _
    case kube =>
      cases c
      case createDataPod => exact hc
      all_goals exact taken
    all_goals exact taken
  · intro s' c a hc _ hs'
    exact (Cluster.next_dataPods hc s' a).trans hs'
  · rfl
  · exact hQ

lemma createReplicaDataPod_free {index : ℕ} {node : DataNode}
    {Q : Cluster → Except (Fault Error) DataPod → Prop} (huid : drs.metadata.uid = some uid)
    (free : index ∉ s.takenIndices ns uid)
    (ok : ∀ pod, At ns (replicaName uid index) pod → Q (s.addDataPod pod) (.ok pod))
    (error : ∀ e, Q s (.error e)) :
    (createReplicaDataPod index drs node ns).wp (freeNames selects) s Q := by
  unfold createReplicaDataPod
  rw [huid]
  apply Prog.wp_bind
  apply Prog.wp_bind
  refine wp_orReturn (fun drsNs _ => ?_) fun e _ => error _
  apply Prog.wp_bind
  refine wp_orReturn (fun owner _ => ?_) fun e _ => error _
  apply wp_request
  · rintro ⟨d, hd, hns, hname⟩
    exact free ⟨d, hd, hns, hname⟩
  · intro (pod : DataPod) assumed
    obtain ⟨name, podUid, version, hname, _, _, hpod⟩ :=
      (replies_of_answers assumed : s.Replies selects (.createDataPod ns _) (.ok pod))
    cases hname
    apply ok
    rw [hpod]
    exact ⟨rfl, rfl⟩
  · intro e _
    exact error _

/-- The loop tries the names of its indices. -/
lemma createReplicas_free (huid : drs.metadata.uid = some uid) (indices : List ℕ)
    (nodes : List DataNode) (acc : List (DataPod × PersistentVolumeClaim))
    (distinct : indices.Nodup) (free : ∀ i ∈ indices, i ∉ s.takenIndices ns uid) :
    (createReplicas drs ns indices nodes acc).wp (freeNames selects) s fun _ _ => True := by
  induction indices generalizing nodes acc s with
  | nil => trivial
  | cons index rest ih =>
    obtain ⟨notMem, distinct⟩ := List.nodup_cons.mp distinct
    unfold createReplicas
    split
    · apply Prog.wp_bind
      apply createReplicaDataPod_free huid (free index List.mem_cons_self)
      · intro pod hat
        apply Prog.wp_bind
        apply wp_keepsDataPods (uses_createReplicaPvc trivial fun _ _ => trivial)
        intro s' result hs'
        rcases result with e | pvc
        · trivial
        apply ih _ _ distinct
        -- the name that was added is none of those that are still to come
        intro i hi htaken
        rw [takenIndices_congr hs', takenIndices_addDataPod hat] at htaken
        rcases Set.mem_insert_iff.mp htaken with rfl | htaken
        · exact notMem hi
        · exact free i (List.mem_cons_of_mem _ hi) htaken
      · intro e
        trivial
    · trivial

/-- A pass that finds `count` replicas tries the names of the indices from there on. -/
lemma createMissing_free (huid : drs.metadata.uid = some uid) (count : ℕ)
    (free : ∀ i, count ≤ i → i < drs.spec.replicas → i ∉ s.takenIndices ns uid) :
    (drs.createMissing ns count).wp (freeNames selects) s fun _ _ => True := by
  unfold DataReplicaSet.createMissing
  apply Prog.wp_bind
  apply wp_keepsDataPods (uses_fetchSource trivial fun _ => trivial)
  intro s₁ result hs₁
  rcases result with e | ⟨source, node⟩
  · trivial
  apply Prog.wp_bind
  apply wp_keepsDataPods (uses_request (.listDataNodes ns {}) trivial)
  intro s₂ result hs₂
  rcases result with e | nodes
  · trivial
  apply Prog.wp_bind
  have loop : (createReplicas drs ns (List.range' count (drs.spec.replicas - count))
      (nodes.filter fun n => n.metadata.uid ≠ node.metadata.uid) []).wp (freeNames selects) s₂
        fun _ _ => True := by
    apply createReplicas_free huid _ _ _ List.nodup_range'
    intro i hi
    obtain ⟨hle, hlt⟩ := List.mem_range'_1.mp hi
    rw [takenIndices_congr (hs₂.trans hs₁)]
    exact free i hle (by omega)
  apply Prog.wp_mono loop
  intro s₃ result _
  rcases result with e | replicas
  · trivial
  apply Prog.wp_bind
  apply wp_keepsDataPods (uses_createReplicaPvc trivial fun _ _ => trivial)
  intro s₄ result _
  rcases result with e | pvc
  · trivial
  apply Prog.wp_bind
  apply wp_keepsDataPods (uses_createReplicaPod trivial fun _ _ => trivial)
  intro s₅ result _
  rcases result with e | pod
  all_goals trivial

/-- With the names free that a pass gets to, it tries only free names. -/
lemma reconcile_free (huid : drs.metadata.uid = some uid) (hns : namespaceOf drs = some ns)
    (free : ∀ i, s.counted selects drs ns ≤ i → i < drs.spec.replicas →
      i ∉ s.takenIndices ns uid) :
    drs.reconcile.wp (freeNames selects) s fun _ _ => True := by
  unfold DataReplicaSet.reconcile
  split
  · trivial
  unfold DataReplicaSet.reconcileReplicas
  rw [hns]
  show Prog.wp _ (request _ >>= _) _ _
  apply Prog.wp_bind
  apply wp_request
  · exact fun taken => taken
  · intro pods assumed
    have hcount : s.counted selects drs ns = pods.length := Cluster.counted_of_matched
      (replies_of_answers assumed : Except.ok pods = s.matched selects drs ns)
    rw [hcount] at free
    show Prog.wp _ (drs.compareCount ns pods.length) s _
    unfold DataReplicaSet.compareCount
    split
    · trivial
    split
    · apply Prog.wp_bind
      apply Prog.wp_mono (createMissing_free huid pods.length free)
      intro s' result _
      rcases result with e | _
      all_goals trivial
    · trivial
  · intro e _
    trivial

/-- A run of a function that tries only free names has no clash. -/
lemma not_clashes {α : Type} {p q : Reconcile α} {s' : Cluster} {τ : List (Event signature)}
    {Q : Cluster → Except (Fault Error) α → Prop} (h : p.wp (freeNames selects) s Q)
    (run : Prog.Exec (clusterEnv selects True) p s τ q s') : ¬ Clashes s τ := by
  rintro ⟨past, e, later, rfl, taken⟩
  obtain ⟨k, s₁, s₂, before, _, _⟩ := run.split
  have here := Prog.wp_exec_self (fun _ _ _ _ answered => answered) h before
  rw [← Cluster.eq_after before] at taken
  exact here.1 taken

end

/-! ## Sets with gaps -/

/-- A set, as the API server stores it, whose selector matches the replicas with the indices of
`indices` and no other `DataPod`. There are fewer than asked for, and `DataNode`s for all. -/
structure Gapped (selects : Selects) (drs : DataReplicaSet) (ns uid : String) (indices : Finset ℕ)
    (s : Cluster) : Prop where
  hasUid : drs.metadata.uid = some uid
  named : drs.metadata.name ≠ none
  namespaced : drs.metadata.ns = some ns
  /-- No two `DataPod`s of a namespace have the same name. -/
  distinct : (s.dataPods.map fun pod => (namespaceOf pod, pod.metadata.name)).Nodup
  matched : ∃ pods, s.matched selects drs ns = .ok pods ∧
    (∀ pod ∈ pods, ∃ i ∈ indices, At ns (replicaName uid i) pod) ∧
    ∀ i ∈ indices, ∃ pod ∈ pods, At ns (replicaName uid i) pod
  few : indices.card < drs.spec.replicas
  nodes : drs.spec.replicas ≤ (s.otherNodes drs ns).length

/-- There are replicas for the indices of `indices` only, and none that a pass gets to when it
counts on from their number. A set with a status is left alone. -/
def GapFree (drs : DataReplicaSet) (ns uid : String) (indices : Finset ℕ) (s : Cluster) : Prop :=
  drs.status = none ∧ s.takenIndices ns uid = indices ∧
      (∀ i ∈ indices, i < indices.card ∨ drs.spec.replicas ≤ i) ∨
    drs.status ≠ none ∧ (s.takenIndices ns uid).ncard = drs.spec.replicas

/-- The pass tries no name that is taken, and if it ends with all its requests accepted, there
are as many replicas as asked for. -/
def FillsUp (drs : DataReplicaSet) (ns uid : String) (s : Cluster) (τ : List (Event signature))
    (q : Reconcile Action) : Prop :=
  ¬ Clashes s τ ∧ (q.outcome ≠ none → (∀ e ∈ τ, Accepted e.call e.reply) →
    ((s.after τ).takenIndices ns uid).ncard = drs.spec.replicas)

section
variable {selects : Selects} {s s' : Cluster} {drs : DataReplicaSet} {ns uid : String}
  {indices : Finset ℕ} {τ : List (Event signature)} {q : Reconcile Action}

lemma matched_sublist {pods : List DataPod} (h : s.matched selects drs ns = .ok pods) :
    pods.Sublist s.dataPods := by
  unfold Cluster.matched listFrom at h
  simp only at h
  split at h
  · cases h
    exact List.filter_sublist
  · cases h

namespace Gapped

lemma subset (h : Gapped selects drs ns uid indices s) : ↑indices ⊆ s.takenIndices ns uid := by
  intro i hi
  obtain ⟨pods, hmatched, _, hexist⟩ := h.matched
  obtain ⟨pod, hpod, hat⟩ := hexist i (Finset.mem_coe.mp hi)
  exact ⟨pod, (matched_sublist hmatched).subset hpod, hat⟩

/-- The number of the matched `DataPod`s is that of their indices. -/
lemma counted (h : Gapped selects drs ns uid indices s) :
    s.counted selects drs ns = indices.card := by
  obtain ⟨pods, hmatched, hindex, hexist⟩ := h.matched
  rw [Cluster.counted_of_matched hmatched.symm]
  -- in one namespace, the names are distinct
  have hnames : (pods.map fun pod => pod.metadata.name).Nodup := by
    have hplaces := h.distinct.sublist ((matched_sublist hmatched).map _)
    have hmap : (pods.map fun pod => (namespaceOf pod, pod.metadata.name)) =
        (pods.map fun pod => pod.metadata.name).map fun name => (some ns, name) := by
      rw [List.map_map]
      apply List.map_congr_left
      intro pod hpod
      obtain ⟨i, _, hat⟩ := hindex pod hpod
      exact Prod.ext hat.1 rfl
    rw [hmap] at hplaces
    exact List.Nodup.of_map _ hplaces
  have himage : (pods.map fun pod => pod.metadata.name).toFinset =
      indices.image fun i => some (replicaName uid i) := by
    ext name
    rw [List.mem_toFinset, List.mem_map, Finset.mem_image]
    constructor
    · rintro ⟨pod, hpod, rfl⟩
      obtain ⟨i, hi, hat⟩ := hindex pod hpod
      exact ⟨i, hi, hat.2.symm⟩
    · rintro ⟨i, hi, rfl⟩
      obtain ⟨pod, hpod, hat⟩ := hexist i hi
      exact ⟨pod, hpod, hat.2⟩
  have hcard := congrArg Finset.card himage
  rw [List.toFinset_card_of_nodup hnames, List.length_map,
    Finset.card_image_of_injective _ fun i j h => replicaName_injective uid (Option.some.inj h)]
    at hcard
  exact hcard

/-- Since there are other nodes, the source and its node are there. -/
lemma ready (h : Gapped selects drs ns uid indices s) (hstatus : drs.status = none) :
    ∃ source node, Ready drs ns uid source node s := by
  have hsourced : ∃ node, s.sourceNode drs ns = some node := by
    cases hnode : s.sourceNode drs ns with
    | some node => exact ⟨node, rfl⟩
    | none =>
      have hnodes := h.nodes
      have hfew := h.few
      unfold Cluster.otherNodes at hnodes
      rw [hnode] at hnodes
      simp only [List.length_nil] at hnodes
      omega
  obtain ⟨node, hnode⟩ := hsourced
  obtain ⟨source, hsource⟩ := source_of_sourceNode hnode
  exact ⟨source, node, hstatus, h.hasUid, h.named, h.namespaced, hsource, hnode⟩

end Gapped

/-! ## What a pass leaves -/

/-- The placements take their indices. -/
lemma takenIndices_placed (placed : List Placement)
    (named : ∀ x ∈ placed, At ns (replicaName uid x.index) x.pod) :
    ((placed.flatMap Placement.objects).foldl Cluster.add s).takenIndices ns uid =
      s.takenIndices ns uid ∪ {i | i ∈ placed.map Placement.index} := by
  induction placed generalizing s with
  | nil => simp
  | cons x rest ih =>
    have hfirst : ((Placement.objects x).foldl Cluster.add s).takenIndices ns uid =
        insert x.index (s.takenIndices ns uid) := by
      show ((s.addDataPod x.pod).addPvc x.pvc).takenIndices ns uid = _
      rw [← takenIndices_addDataPod (named x List.mem_cons_self)]
      exact takenIndices_congr rfl
    rw [List.flatMap_cons, List.foldl_append, ih fun y hy => named y (List.mem_cons_of_mem _ hy),
      hfirst]
    ext i
    simp only [Set.mem_union, Set.mem_insert_iff, Set.mem_ofPred_eq, List.map_cons, List.mem_cons]
    tauto

/-- A pass with its requests accepted takes the indices from the count up to the number asked
for, which were free. -/
lemma takenIndices_pass (h : Gapped selects drs ns uid indices s) (hstatus : drs.status = none)
    (run : Prog.Exec (clusterEnv selects True) drs.reconcile s τ q s') (finished : q.outcome ≠ none)
    (accepted : ∀ e ∈ τ, Accepted e.call e.reply) :
    (s.after τ).takenIndices ns uid =
        s.takenIndices ns uid ∪ Finset.Ico indices.card drs.spec.replicas ∧
      Disjoint (s.takenIndices ns uid) (Finset.Ico indices.card drs.spec.replicas : Set ℕ) := by
  obtain ⟨source, node, ready⟩ := h.ready hstatus
  have few : s.counted selects drs ns < drs.spec.replicas := by
    rw [h.counted]
    exact h.few
  obtain ⟨final, _⟩ := of_traceMonitor (reconcile_traced ready few) run accepted
  obtain ⟨result, hresult⟩ := Option.ne_none_iff_exists'.mp finished
  obtain ⟨adds, placed, creates⟩ := Prog.wp_outcome final hresult
  -- there is a node for every index
  have hindices : {i | i ∈ placed.map Placement.index} =
      (Finset.Ico indices.card drs.spec.replicas : Set ℕ) := by
    have hlength := creates.length_eq
    have hnodes := h.nodes
    have hrange := creates.indices_eq
    rw [h.counted] at hlength hrange
    ext i
    rw [Set.mem_ofPred_eq, hrange, List.mem_range'_1, Finset.mem_coe, Finset.mem_Ico]
    omega
  have named : ∀ x ∈ placed, At ns (replicaName uid x.index) x.pod :=
    fun x hx => (creates.made x hx).named
  constructor
  · obtain ⟨sourcePvc, _, hobjects⟩ := creates.objects
    rw [adds, ← hindices, ← takenIndices_placed placed named]
    rcases hobjects with ⟨_, _, pod, hobjects⟩ | ⟨_, _, hobjects⟩
    all_goals
      rw [hobjects, List.foldl_append]
      exact takenIndices_congr rfl
  · rw [← hindices]
    apply Set.disjoint_right.mpr
    intro i hi ⟨d, hd, hat⟩
    obtain ⟨x, hx, rfl⟩ := List.mem_map.mp hi
    exact (creates.made x hx).free d hd hat

lemma ncard_pass (h : Gapped selects drs ns uid indices s) (hstatus : drs.status = none)
    (run : Prog.Exec (clusterEnv selects True) drs.reconcile s τ q s') (finished : q.outcome ≠ none)
    (accepted : ∀ e ∈ τ, Accepted e.call e.reply) :
    ((s.after τ).takenIndices ns uid).ncard =
      (s.takenIndices ns uid).ncard + (drs.spec.replicas - indices.card) := by
  obtain ⟨htaken, disjoint⟩ := takenIndices_pass h hstatus run finished accepted
  rw [htaken, Set.ncard_union_eq disjoint takenIndices_finite (Finset.finite_toSet _),
    Set.ncard_coe_finset, Nat.card_Ico]

/-- Without gaps, every pass fills the set up. -/
lemma GapFree.fillsUp (free : GapFree drs ns uid indices s)
    (h : Gapped selects drs ns uid indices s)
    (run : Prog.Exec (clusterEnv selects True) drs.reconcile s τ q s') :
    FillsUp drs ns uid s τ q := by
  rcases free with ⟨hstatus, htaken, hends⟩ | ⟨hstatus, hcard⟩
  · constructor
    · apply not_clashes (reconcile_free h.hasUid h.namespaced ?_) run
      intro i hle hlt hi
      rw [h.counted] at hle
      rw [htaken] at hi
      rcases hends i (Finset.mem_coe.mp hi) with hi | hi
      all_goals omega
    · intro finished accepted
      have hfew := h.few
      rw [ncard_pass h hstatus run finished accepted, htaken, Set.ncard_coe_finset]
      omega
  · rw [(run_of_status hstatus run).1]
    constructor
    · rintro ⟨past, e, later, hτ, _⟩
      simp at hτ
    · intro _ _
      exact hcard

/-! ## Passes in which only names are refused -/

/-- Only a request for a `DataPod` may fail. -/
def OnlyNamesRefused (c : Call) (a : c.Reply) : Prop :=
  (∃ ns pod, c = .kube (.createDataPod ns pod)) ∨ Accepted c a

/-- Without faults, a request for a `DataPod` is refused because its name is taken. -/
lemma clashes_of_refused {e : Event signature} {ns' : String} {pod : DataPod}
    (run : Prog.Exec (clusterEnv selects False) drs.reconcile s τ q s') (he : e ∈ τ)
    (hcall : e.call = .kube (.createDataPod ns' pod)) (refused : ¬ Accepted e.call e.reply) :
    Clashes s τ := by
  obtain ⟨past, later, rfl⟩ := List.append_of_mem he
  -- the `DataPod` has a name
  have allowed := Prog.wp_event (reconcileSet_stages drs) (run.mono fun _ _ _ _ answered =>
    clusterEnv_of_reliable answered) fun _ _ _ _ answered _ => foundAt_of_answers answered.1
  obtain ⟨k, s₁, s₂, before, answered, _⟩ := run.split
  refine ⟨past, e, later, rfl, ?_⟩
  rw [← Cluster.eq_after before]
  obtain ⟨c, a⟩ := e
  cases hcall
  have allowed' : (passMonitor.after (.reconcileSet drs, .start) past).1.Allows
    (passMonitor.after (.reconcileSet drs, .start) past).2 (.kube (.createDataPod ns' pod)) :=
    allowed
  rw [passMonitor_after_fst] at allowed'
  obtain ⟨_, index, node, rest, _, replica⟩ := allowed'
  obtain ⟨uid, _, hname⟩ := replica.named
  rcases a with e | object
  · rcases answered.1 with replied | ⟨h, _⟩
    · rcases replied with ⟨hnone, _⟩ | ⟨name, hsome, ⟨d, hd, hat⟩, _⟩
      · rw [hname] at hnone
        cases hnone
      · exact ⟨d, hd, hat.1, hat.2.trans hsome.symm⟩
    · exact h.elim
  · exact absurd ⟨object, rfl⟩ refused

/-- A pass that fills the set up, of which only requests for a `DataPod` could be refused, shows
that there are no gaps. -/
lemma GapFree.of_fillsUp (h : Gapped selects drs ns uid indices s)
    (run : Prog.Exec (clusterEnv selects False) drs.reconcile s τ q s')
    (finished : q.outcome ≠ none)
    (others : ∀ e ∈ τ, OnlyNamesRefused e.call e.reply) (fills : FillsUp drs ns uid s τ q) :
    GapFree drs ns uid indices s := by
  obtain ⟨clashless, fillsUp⟩ := fills
  have accepted : ∀ e ∈ τ, Accepted e.call e.reply := by
    intro e he
    rcases others e he with ⟨ns', pod, hcall⟩ | accepted
    · by_contra refused
      exact clashless (clashes_of_refused run he hcall refused)
    · exact accepted
  have run' := run.mono fun _ _ _ _ answered => clusterEnv_of_reliable answered
  by_cases hstatus : drs.status = none
  · left
    have hncard := fillsUp finished accepted
    rw [ncard_pass h hstatus run' finished accepted] at hncard
    obtain ⟨_, disjoint⟩ := takenIndices_pass h hstatus run' finished accepted
    have hfew := h.few
    -- there are as many indices taken as there are replicas that match
    have hcard : (s.takenIndices ns uid).ncard ≤ (indices : Set ℕ).ncard := by
      rw [Set.ncard_coe_finset]
      omega
    have hsame : (indices : Set ℕ) = s.takenIndices ns uid :=
      Set.eq_of_subset_of_ncard_le h.subset hcard takenIndices_finite
    refine ⟨hstatus, hsame.symm, fun i hi => ?_⟩
    by_contra between
    have hIco : i ∈ (Finset.Ico indices.card drs.spec.replicas : Set ℕ) := by
      rw [Finset.mem_coe, Finset.mem_Ico]
      omega
    exact Set.disjoint_left.mp disjoint (h.subset (Finset.mem_coe.mpr hi)) hIco
  · right
    have hncard := fillsUp finished accepted
    rw [(run_of_status hstatus run').1] at hncard
    exact ⟨hstatus, hncard⟩

end

/-! ## There is such a pass -/

/-- The environment without faults, in which names of `DataPod`s may be taken and other names are
drawn until they are free. -/
def lucky (selects : Selects) (s : Cluster) (c : Call) (a : c.Reply) (s' : Cluster) : Prop :=
  clusterEnv selects False s c a s' ∧ OnlyNamesRefused c a

/-- All that is asked of a trace here is that its pass comes to its end. -/
abbrev Ended : List (Event signature) → Prop := fun _ => True

/-- A suffix that gives a name which is none of those in use. -/
lemma exists_suffix (names : List String) (start : String) :
    ∃ text : String, start ++ toLowercase text ∉ names := by
  refine ⟨freshUid names, fun hmem => ?_⟩
  have longest : ∀ name ∈ names, name.length < (freshUid names).length := by
    intro name hname
    have hle : name.length ≤ (names.map String.length).foldr max 0 := by
      clear hmem
      induction names with
      | nil => cases hname
      | cons first rest ih =>
        simp only [List.map_cons, List.foldr_cons]
        rcases List.mem_cons.mp hname with rfl | hname
        · omega
        · have := ih hname
          omega
    simp only [freshUid, String.length_ofList, List.length_replicate]
    omega
  have hlong := longest _ hmem
  rw [String.length_append] at hlong
  have hsame : (toLowercase (freshUid names)).length = (freshUid names).length := by
    unfold toLowercase
    rw [String.length_ofList, List.length_map, String.length_toList]
  omega

section
variable {selects : Selects} {s : Cluster} {drs : DataReplicaSet} {ns uid : String} {β : Type}

lemma lucky_of_replies {c : KubeCall} {object : c.Object}
    (replied : s.Replies selects c (.ok object)) :
    lucky selects s (.kube c) (Except.ok object) (s.nextKube c object) :=
  ⟨⟨.inl replied, rfl⟩, .inr ⟨object, rfl⟩⟩

/-- A request for a `DataPod`, whose name may be taken. -/
lemma canEnd_requestDataPod {pod : DataPod} {f : DataPod → Reconcile β}
    (hpath : pod.spec.path ≠ none)
    (h : ∀ stored s', stored.spec.path ≠ none → (f stored).CanEnd (lucky selects) s' Ended) :
    (request (.createDataPod ns pod) >>= f).CanEnd (lucky selects) s Ended := by
  have replied := s.replies_reply selects (.createDataPod ns pod)
  have answered : lucky selects s (.kube (.createDataPod ns pod))
      (s.reply selects (.createDataPod ns pod))
      (s.next (.kube (.createDataPod ns pod)) (s.reply selects (.createDataPod ns pod))) :=
    ⟨⟨.inl replied, rfl⟩, .inl ⟨ns, pod, rfl⟩⟩
  refine Prog.CanEnd.call answered ?_
  generalize s.next _ _ = s'
  cases hreply : s.reply selects (.createDataPod ns pod) with
  | error e => exact Prog.canEnd_throw _ _ trivial
  | ok stored =>
    rw [hreply] at replied
    obtain ⟨name, uid, version, _, _, _, hstored⟩ := replied
    apply h
    rw [hstored]
    exact hpath

lemma canEnd_createReplicaDataPod {index : ℕ} {node : DataNode} {f : DataPod → Reconcile β}
    (h : ∀ pod s', pod.spec.path ≠ none → (f pod).CanEnd (lucky selects) s' Ended) :
    (createReplicaDataPod index drs node ns >>= f).CanEnd (lucky selects) s Ended := by
  unfold createReplicaDataPod
  cases drs.metadata.uid with
  | none => exact Prog.canEnd_throw _ _ trivial
  | some uid =>
    cases namespaceOf drs with
    | none => exact Prog.canEnd_throw _ _ trivial
    | some drsNs =>
      cases ownerRef drs with
      | none => exact Prog.canEnd_throw _ _ trivial
      | some owner => exact canEnd_requestDataPod (Option.some_ne_none _) h

/-- The request for an object with a name that was drawn. -/
lemma canEnd_createReplicaPvc {dataPod : DataPod} {node : DataNode} {access : MountAccess}
    {f : PersistentVolumeClaim → Reconcile β}
    (h : ∀ pvc s', (f pvc).CanEnd (lucky selects) s' Ended) :
    (createReplicaPvc dataPod node drs access ns >>= f).CanEnd (lucky selects) s Ended := by
  obtain ⟨text, hfree⟩ := exists_suffix (s.pvcs.filterMap fun pvc => pvc.metadata.name)
    ("pvc-" ++ drs.metadata.uid.getD (nameAny drs) ++ "-")
  have drawn : lucky selects s (.sampleAlphanumeric 8) text s := ⟨⟨trivial, rfl⟩, .inr trivial⟩
  refine Prog.CanEnd.call drawn ?_
  unfold replicaOwner
  cases ownerRef drs with
  | none => exact Prog.canEnd_throw _ _ trivial
  | some owner =>
    have hname : ∀ pvc ∈ s.pvcs, ¬ At ns ("pvc-" ++ drs.metadata.uid.getD (nameAny drs) ++ "-" ++
        toLowercase text) pvc := by
      intro pvc hpvc hat
      exact hfree (List.mem_filterMap.mpr ⟨pvc, hpvc, hat.2⟩)
    exact canEnd_request (lucky_of_replies
      ⟨_, freshUid s.uids, "", rfl, hname, freshUid_notMem _, rfl⟩) (h _ _)

lemma canEnd_createReplicaPod {source : DataPod} {sourcePvc : PersistentVolumeClaim}
    {replicas : List (DataPod × PersistentVolumeClaim)} {f : Pod → Reconcile β}
    (paths : ∀ replica ∈ replicas, replica.1.spec.path ≠ none)
    (h : ∀ pod s', (f pod).CanEnd (lucky selects) s' Ended) :
    (createReplicaPod drs source sourcePvc replicas ns >>= f).CanEnd (lucky selects) s Ended := by
  obtain ⟨text, hfree⟩ := exists_suffix (s.pods.filterMap fun pod => pod.metadata.name)
    (nameAny drs ++ "-")
  have drawn : lucky selects s (.sampleAlphanumeric 8) text s := ⟨⟨trivial, rfl⟩, .inr trivial⟩
  unfold createReplicaPod
  refine Prog.CanEnd.call drawn ?_
  unfold replicaOwner
  cases ownerRef drs with
  | none => exact Prog.canEnd_throw _ _ trivial
  | some owner =>
    cases source.spec.path with
    | none => exact Prog.canEnd_throw _ _ trivial
    | some path =>
      show Prog.CanEnd _ ((orReturn (mountReplicas source 0 replicas _) >>= _) >>= f) s _
      rw [mountReplicas_ok paths]
      have hname : ∀ pod ∈ s.pods, ¬ At ns (nameAny drs ++ "-" ++ toLowercase text) pod := by
        intro pod hpod hat
        exact hfree (List.mem_filterMap.mpr ⟨pod, hpod, hat.2⟩)
      exact canEnd_request (lucky_of_replies
      ⟨_, freshUid s.uids, "", rfl, hname, freshUid_notMem _, rfl⟩) (h _ _)

lemma canEnd_createReplicas {f : List (DataPod × PersistentVolumeClaim) → Reconcile β}
    (h : ∀ replicas s', (∀ replica ∈ replicas, replica.1.spec.path ≠ none) →
      (f replicas).CanEnd (lucky selects) s' Ended) (indices : List ℕ) (nodes : List DataNode)
    (acc : List (DataPod × PersistentVolumeClaim))
    (hacc : ∀ replica ∈ acc, replica.1.spec.path ≠ none) :
    (createReplicas drs ns indices nodes acc >>= f).CanEnd (lucky selects) s Ended := by
  induction indices generalizing nodes acc s with
  | nil => exact h acc s hacc
  | cons index rest ih =>
    unfold createReplicas
    split
    · rename_i node _
      apply Prog.CanEnd.assoc
      apply canEnd_createReplicaDataPod
      intro pod s₁ hpath
      apply Prog.CanEnd.assoc
      apply canEnd_createReplicaPvc
      intro pvc s₂
      apply ih
      intro replica hreplica
      rcases List.mem_append.mp hreplica with hreplica | hreplica
      · exact hacc replica hreplica
      · rw [List.mem_singleton.mp hreplica]
        exact hpath
    · exact h acc s hacc

lemma canEnd_fetchSource {source : DataPod} {node : DataNode} {f : DataPod × DataNode → Reconcile β}
    (ready : Ready drs ns uid source node s)
    (h : (f (source, node)).CanEnd (lucky selects) s Ended) :
    (drs.fetchSource ns >>= f).CanEnd (lucky selects) s Ended := by
  obtain ⟨owner, howner, hnode⟩ := owner_of_sourceNode ready.source ready.sourceNode
  have hpod : s.Replies selects (.getDataPod ns drs.spec.sourcePod.name) (.ok source) :=
    ready.source.symm
  have hown : s.Replies selects (.getDataNode ns owner.name) (.ok node) := hnode.symm
  unfold DataReplicaSet.fetchSource
  apply Prog.CanEnd.assoc
  apply canEnd_request (lucky_of_replies hpod)
  rw [howner]
  show Prog.CanEnd _ ((request (.getDataNode ns owner.name) >>= _) >>= f) s _
  apply Prog.CanEnd.assoc
  exact canEnd_request (lucky_of_replies hown) h

lemma canEnd_createMissing {source : DataPod} {node : DataNode} {f : Unit → Reconcile β}
    (ready : Ready drs ns uid source node s) (count : ℕ)
    (h : ∀ s', (f ()).CanEnd (lucky selects) s' Ended) :
    (drs.createMissing ns count >>= f).CanEnd (lucky selects) s Ended := by
  have hnodes : s.Replies selects (.listDataNodes ns {})
      (.ok (s.dataNodes.filter fun n => InNamespace ns n)) := rfl
  unfold DataReplicaSet.createMissing
  apply Prog.CanEnd.assoc
  apply canEnd_fetchSource ready
  apply Prog.CanEnd.assoc
  apply canEnd_request (lucky_of_replies hnodes)
  apply Prog.CanEnd.assoc
  apply canEnd_createReplicas
  · intro replicas s₁ paths
    apply Prog.CanEnd.assoc
    apply canEnd_createReplicaPvc
    intro pvc s₂
    apply Prog.CanEnd.assoc
    apply canEnd_createReplicaPod paths
    intro pod s₃
    exact h s₃
  · simp

/-- A pass can come to its end. -/
lemma Gapped.canEnd {indices : Finset ℕ} (h : Gapped selects drs ns uid indices s) :
    drs.reconcile.CanEnd (lucky selects) s Ended := by
  unfold DataReplicaSet.reconcile
  split
  · exact Prog.canEnd_pure _ _ trivial
  rename_i hstatus
  obtain ⟨source, node, ready⟩ := h.ready (by simpa using hstatus)
  obtain ⟨pods, hmatched, _⟩ := h.matched
  have hpods : s.Replies selects
      (.listDataPods ns ⟨some (renderSelector drs.spec.selector.labels)⟩) (.ok pods) :=
    hmatched.symm
  have hns : namespaceOf drs = some ns := h.namespaced
  unfold DataReplicaSet.reconcileReplicas
  rw [hns]
  show Prog.CanEnd _ (request _ >>= _) s _
  apply canEnd_request (lucky_of_replies hpods)
  unfold DataReplicaSet.compareCount
  split
  · exact Prog.canEnd_pure _ _ trivial
  split
  · apply canEnd_createMissing ready
    intro s'
    exact Prog.canEnd_pure _ _ trivial
  · exact Prog.canEnd_pure _ _ trivial

end

/-! ## The exact condition -/

/-- Every pass tries only free names and, if it is let, fills the set up, exactly if the indices of
the existing replicas leave no gap. -/
theorem gaps_repaired_iff {selects : Selects} {drs : DataReplicaSet} {ns uid : String}
    {indices : Finset ℕ} {s : Cluster} (h : Gapped selects drs ns uid indices s) :
    (∀ τ q s', Prog.Exec (clusterEnv selects True) drs.reconcile s τ q s' →
      FillsUp drs ns uid s τ q) ↔ GapFree drs ns uid indices s := by
  constructor
  · intro fills
    obtain ⟨τ, q, s', run, finished, _⟩ := h.canEnd
    have run' := run.mono fun _ _ _ _ answered => answered.1
    apply GapFree.of_fillsUp h run' finished
    · exact run.events fun _ _ _ _ answered => answered.2
    · exact fills τ q s' (run'.mono fun _ _ _ _ answered => clusterEnv_of_reliable answered)
  · intro free τ q s' run
    exact free.fillsUp h run

/-- There is only the replica with the index `i`, and two are asked for. -/
def sampleKept (i : ℕ) : Cluster :=
  sampleCluster 2 [sampleNode "m" "3", sampleNode "l" "4"]
    [samplePod (replicaName "0" i) "5" (.ofList [("app", "replica")])]

lemma replicaName_ne_source (i : ℕ) : replicaName "0" i ≠ "source" := by
  intro h
  have hlist : '0' :: ("-replica-".toList ++ (toString i).toList) = "source".toList := by
    rw [← h]
    simp [replicaName]
  exact absurd (List.cons.inj hlist).1 (by decide)

lemma sampleKept_gapped (i : ℕ) :
    Gapped sampleSelects (sampleSet 2) "default" "0" {i} (sampleKept i) where
  hasUid := rfl
  named := Option.some_ne_none _
  namespaced := rfl
  distinct := by
    show [(some "default", some "source"), (some "default", some (replicaName "0" i))].Nodup
    have hne := (replicaName_ne_source i).symm
    simp [hne]
  matched := by
    refine ⟨[samplePod (replicaName "0" i) "5" (.ofList [("app", "replica")])], rfl, ?_, ?_⟩
    · intro pod hpod
      rw [List.mem_singleton.mp hpod]
      exact ⟨i, Finset.mem_singleton_self i, rfl, rfl⟩
    · intro j hj
      rw [Finset.mem_singleton.mp hj]
      exact ⟨_, List.mem_singleton_self _, rfl, rfl⟩
  few := by
    show 1 < 2
    decide
  nodes := by
    show 2 ≤ 2
    decide

/-- The pass over a set with a gap asks for a name that is taken. -/
theorem gap_not_repaired : ¬ ∀ (selects : Selects) (drs : DataReplicaSet) (ns uid : String)
    (indices : Finset ℕ) (s s' : Cluster) (τ : List (Event signature)) (q : Reconcile Action),
    drs.status = none → Gapped selects drs ns uid indices s →
    Prog.Exec (clusterEnv selects True) drs.reconcile s τ q s' → ¬ Clashes s τ := by
  intro claim
  obtain ⟨past, c, k, s₁, hfollow, taken⟩ : ∃ past c k s₁,
      (sampleSet 2).reconcile.follow (Cluster.serve sampleSelects) 4 (sampleKept 1) =
        some (past, .call c k, s₁) ∧ TakesName s₁ c :=
    ⟨_, _, _, _, rfl, _, List.mem_cons_of_mem _ (List.mem_singleton_self _), rfl, rfl⟩
  have before := Prog.exec_of_follow (fun _ _ _ _ h => clusterEnv_of_reliable
    (clusterEnv_of_serve h)) hfollow
  obtain ⟨a, s₂, answered⟩ := clusterEnv_total sampleSelects True s₁ c
  have run := before.trans (.step answered (.refl (k a) s₂))
  rw [Cluster.eq_after before] at taken
  exact claim sampleSelects (sampleSet 2) "default" "0" {1} (sampleKept 1) s₂ _ _ rfl
    (sampleKept_gapped 1) run ⟨past, ⟨c, a⟩, [], rfl, taken⟩

/-- The replica with the index `0` leaves no gap. -/
theorem gaps_repaired_one : (sampleKept 0).takenIndices "default" "0" = {0} ∧
    ∀ τ q s', Prog.Exec (clusterEnv sampleSelects True) (sampleSet 2).reconcile (sampleKept 0) τ q
      s' → FillsUp (sampleSet 2) "default" "0" (sampleKept 0) τ q := by
  have taken : (sampleKept 0).takenIndices "default" "0" = {0} := by
    rw [← Finset.coe_singleton]
    apply Set.Subset.antisymm _ (sampleKept_gapped 0).subset
    rintro i ⟨d, hd, hat⟩
    rcases List.mem_cons.mp hd with rfl | hd
    · exact absurd (Option.some.inj hat.2).symm (replicaName_ne_source i)
    · rw [List.mem_singleton.mp hd] at hat
      have hsame : 0 = i := replicaName_injective "0" (Option.some.inj hat.2)
      exact Finset.mem_coe.mpr (Finset.mem_singleton.mpr hsame.symm)
  refine ⟨taken, (gaps_repaired_iff (sampleKept_gapped 0)).mpr (.inl ⟨rfl, ?_, fun i hi => ?_⟩)⟩
  · rw [taken, Finset.coe_singleton]
  · left
    rw [Finset.mem_singleton.mp hi]
    decide

end Kubedal
