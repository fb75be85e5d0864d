import Kubedal.Resource.ReplicaRetry

/-!
# When a `DataReplicaSet` is left alone

A pass that finds enough `DataPod`s with the labels of the selector returns without creating
anything. It counts labels, not owners.

* `Steady` is what such a pass takes for granted;
* `steady_iff`: it is so exactly if the labelled `DataPod`s are the owned ones, the source is not
  labelled, and there are no more than asked for.
-/

namespace Kubedal

open Interaction Kube Resource

/-! ## Labelled and owned `DataPod`s -/

/-- The `DataPod`s that are counted. -/
def Cluster.labelled (s : Cluster) (selects : Selects) (drs : DataReplicaSet) (ns : String) :
    List DataPod :=
  match s.matched selects drs ns with
  | .ok pods => pods
  | .error _ => []

/-- The set owns as many `DataPod`s as it asks for, and those that are counted are its own and
not the source. -/
structure Steady (selects : Selects) (drs : DataReplicaSet) (ns : String) (s : Cluster) : Prop where
  owned : (s.ownedDataPods drs).length = drs.spec.replicas
  counted : ∀ pod ∈ s.labelled selects drs ns,
    OwnedBy drs pod.metadata ∧ ¬ At ns drs.spec.sourcePod.name pod

/-- The labels of the selector are on the `DataPod`s that the set owns and on no others, not on
the source, and on no more than asked for. -/
structure LabelsAgree (selects : Selects) (drs : DataReplicaSet) (ns : String) (s : Cluster) :
    Prop where
  owned_iff : ∀ pod ∈ s.dataPods, pod ∈ s.labelled selects drs ns ↔ OwnedBy drs pod.metadata
  source : ∀ pod ∈ s.labelled selects drs ns, ¬ At ns drs.spec.sourcePod.name pod
  enough : (s.labelled selects drs ns).length ≤ drs.spec.replicas

section
variable {selects : Selects} {drs : DataReplicaSet} {ns : String} {s s' : Cluster}

/-- The labelled `DataPod`s are selected from all. -/
lemma labelled_eq_filter :
    ∃ p : DataPod → Bool, s.labelled selects drs ns = s.dataPods.filter p := by
  unfold Cluster.labelled Cluster.matched listFrom
  cases hselects : selects (renderSelector drs.spec.selector.labels) with
  | none => exact ⟨fun _ => false, by simp [hselects]⟩
  | some matched => exact ⟨_, by simp only [hselects]; rfl⟩

lemma counted_eq_length : s.counted selects drs ns = (s.labelled selects drs ns).length := by
  unfold Cluster.counted Cluster.labelled
  cases s.matched selects drs ns with
  | ok pods => rfl
  | error e => rfl

/-- What is labelled is owned, and with enough of it, it is all that is owned. -/
lemma Steady.labelled_eq (h : Steady selects drs ns s)
    (hle : drs.spec.replicas ≤ (s.labelled selects drs ns).length) :
    s.labelled selects drs ns = s.ownedDataPods drs := by
  obtain ⟨p, hp⟩ : ∃ p : DataPod → Bool, s.labelled selects drs ns = s.dataPods.filter p :=
    labelled_eq_filter
  have hfilter : s.labelled selects drs ns = (s.ownedDataPods drs).filter p := by
    rw [hp]
    unfold Cluster.ownedDataPods
    rw [List.filter_filter]
    apply List.filter_congr
    intro pod hpod
    by_cases hlabelled : p pod = true
    · have hmem : pod ∈ s.labelled selects drs ns := by
        rw [hp]
        exact List.mem_filter.mpr ⟨hpod, hlabelled⟩
      simp [hlabelled, (h.counted pod hmem).1]
    · simp [hlabelled]
  have hsub : (s.labelled selects drs ns).Sublist (s.ownedDataPods drs) := by
    rw [hfilter]
    exact List.filter_sublist
  apply hsub.eq_of_length_le
  rw [h.owned]
  exact hle

lemma LabelsAgree.labelled_eq (h : LabelsAgree selects drs ns s) :
    s.labelled selects drs ns = s.ownedDataPods drs := by
  obtain ⟨p, hp⟩ : ∃ p : DataPod → Bool, s.labelled selects drs ns = s.dataPods.filter p :=
    labelled_eq_filter
  rw [hp]
  unfold Cluster.ownedDataPods
  apply List.filter_congr
  intro pod hpod
  have hiff := h.owned_iff pod hpod
  rw [hp, List.mem_filter] at hiff
  by_cases howned : OwnedBy drs pod.metadata
  · simp [howned, (hiff.mpr howned).2]
  · have hnot : p pod = false := by
      by_contra hlabelled
      exact howned (hiff.mp ⟨hpod, by simpa using hlabelled⟩)
    simp [howned, hnot]

/-- With enough labelled `DataPod`s, the set is steady exactly if labels and owners agree. -/
lemma steady_iff_of_idle (hstatus : drs.status = none) (idle : Idle selects drs ns s) :
    Steady selects drs ns s ↔ LabelsAgree selects drs ns s := by
  have hle : drs.spec.replicas ≤ (s.labelled selects drs ns).length := by
    rcases idle with h | h
    · rw [hstatus] at h
      cases h
    · rw [← counted_eq_length]
      exact h
  have howned : ∀ pod, pod ∈ s.ownedDataPods drs ↔
      pod ∈ s.dataPods ∧ OwnedBy drs pod.metadata := by
    intro pod
    simp [Cluster.ownedDataPods]
  constructor
  · intro h
    have heq := h.labelled_eq hle
    refine ⟨fun pod hpod => ?_, fun pod hpod => (h.counted pod hpod).2, ?_⟩
    · rw [heq, howned]
      exact ⟨And.right, fun hown => ⟨hpod, hown⟩⟩
    · rw [heq, h.owned]
  · intro h
    have heq := h.labelled_eq
    refine ⟨?_, fun pod hpod => ⟨?_, h.source pod hpod⟩⟩
    · have henough := h.enough
      rw [← heq]
      omega
    · rw [heq] at hpod
      exact ((howned pod).mp hpod).2

end

/-! ## A pass that creates nothing -/

/-- Only the creation of a `Pod` adds one. -/
lemma pods_of_no_create {α : Type} {selects : Selects} {faults : Prop} {p q : Reconcile α}
    {s s' : Cluster} {τ : List (Event signature)}
    (run : Prog.Exec (clusterEnv selects faults) p s τ q s') (none : ∀ e ∈ τ, ¬ IsCreate e) :
    s'.pods = s.pods := by
  induction run with
  | refl p s => rfl
  | @step c k a s s₁ s₂ τ q answered rest ih =>
    have hrest := ih fun e he => none e (List.mem_cons_of_mem _ he)
    have hfirst : s₁.pods = s.pods := by
      rw [answered.2]
      by_cases hkeeps : c.KeepsPods
      · exact Cluster.next_pods hkeeps s a
      · rcases c with c | c | c | c | c | _ | _
        case kube =>
          cases c
          case createPod ns pod =>
            rcases a with e | object
            · rfl
            · exact absurd trivial (none _ List.mem_cons_self)
          all_goals exact absurd trivial hkeeps
        all_goals exact absurd trivial hkeeps
    rw [hrest, hfirst]

/-- Whenever a pass over a set without a status returns `Ok` and has created nothing, the set is
steady exactly if the labels were on the `DataPod`s that it owns, and on no more than asked
for. -/
theorem steady_iff {selects : Selects} {faults : Prop} {drs : DataReplicaSet} {ns : String}
    {s s' : Cluster} {τ : List (Event signature)} {action : Action} (hstatus : drs.status = none)
    (hns : drs.metadata.ns = some ns)
    (run : Prog.Exec (clusterEnv selects faults) drs.reconcile s τ (.pure action) s')
    (none : ∀ e ∈ τ, ¬ IsCreate e) :
    Steady selects drs ns s' ↔ LabelsAgree selects drs ns s := by
  have hends := Prog.wp_outcome (of_clusterMonitor (reconcile_adds hns) run) rfl
  rcases hends action rfl with ⟨idle, rfl⟩ | ⟨pod, _, hpods⟩
  · exact steady_iff_of_idle hstatus idle
  · -- a pass that is not idle creates the pod that copies
    have hsame := pods_of_no_create run none
    rw [hpods] at hsame
    simp at hsame

/-! A `DataPod` with the label of the replicas that does not belong to the set -/

/-- A cluster with one labelled `DataPod`, which has the owners. -/
def sampleLabelled (owners : List OwnerReference) : Cluster :=
  let pod := samplePod "p" "3" (.ofList [("app", "replica")])
  sampleCluster 1 [] [{ pod with metadata := { pod.metadata with ownerReferences := some owners } }]

/-- The only `DataPod` that is counted is none of the set. -/
theorem not_steady : ¬ ∀ (selects : Selects) (faults : Prop) (drs : DataReplicaSet) (ns : String)
    (s s' : Cluster) (τ : List (Event signature)) (action : Action), drs.status = none →
    drs.metadata.ns = some ns →
    Prog.Exec (clusterEnv selects faults) drs.reconcile s τ (.pure action) s' →
    (∀ e ∈ τ, ¬ IsCreate e) → Steady selects drs ns s' := by
  intro claim
  obtain ⟨τ, action, s', hfollow, hnone, howned⟩ : ∃ τ action s',
      (sampleSet 1).reconcile.follow (Cluster.serve sampleSelects) 10 (sampleLabelled []) =
        some (τ, .pure action, s') ∧
      (∀ e ∈ τ, ¬ IsCreate e) ∧ (s'.ownedDataPods (sampleSet 1)).length = 0 :=
    ⟨_, _, _, rfl, by simp [IsCreate], rfl⟩
  have run := Prog.exec_of_follow (fun _ _ _ _ => clusterEnv_of_serve) hfollow
  have steady := claim sampleSelects False (sampleSet 1) "default" _ _ _ _ rfl rfl run hnone
  have hone := steady.owned
  rw [howned] at hone
  cases hone

/-- The set owns the only `DataPod` that is counted. -/
theorem steady_when_owned : ∃ (τ : List (Event signature)) (action : Action) (s' : Cluster),
    Prog.Exec (clusterEnv sampleSelects False) (sampleSet 1).reconcile
      (sampleLabelled [⟨"", "DataReplicaSet", "set", "0"⟩]) τ (.pure action) s' ∧
      Steady sampleSelects (sampleSet 1) "default" s' := by
  obtain ⟨τ, action, s', hfollow, hnone⟩ : ∃ τ action s',
      (sampleSet 1).reconcile.follow (Cluster.serve sampleSelects) 10
        (sampleLabelled [⟨"", "DataReplicaSet", "set", "0"⟩]) = some (τ, .pure action, s') ∧
      ∀ e ∈ τ, ¬ IsCreate e :=
    ⟨_, _, _, rfl, by simp [IsCreate]⟩
  have run := Prog.exec_of_follow (fun _ _ _ _ => clusterEnv_of_serve) hfollow
  obtain ⟨source, pod, hpods, hlabelled, hnot, howned, hname⟩ : ∃ source pod : DataPod,
      (sampleLabelled [⟨"", "DataReplicaSet", "set", "0"⟩]).dataPods = [source, pod] ∧
      (sampleLabelled [⟨"", "DataReplicaSet", "set", "0"⟩]).labelled sampleSelects (sampleSet 1)
        "default" = [pod] ∧
      ¬ OwnedBy (sampleSet 1) source.metadata ∧ OwnedBy (sampleSet 1) pod.metadata ∧
      pod.metadata.name ≠ some "source" :=
    ⟨_, _, rfl, rfl, by decide, by decide, by decide⟩
  refine ⟨τ, action, s', run, (steady_iff rfl rfl run hnone).mpr ⟨?_, ?_, ?_⟩⟩
  · rw [hpods, hlabelled]
    intro d hd
    rcases List.mem_cons.mp hd with rfl | hd
    · have hne : d ≠ pod := fun heq => hnot (heq ▸ howned)
      simp [hne, hnot]
    · rw [List.mem_singleton.mp hd]
      simp [howned]
  · rw [hlabelled]
    intro d hd hat
    rw [List.mem_singleton.mp hd] at hat
    exact hname hat.2
  · rw [hlabelled]
    exact Nat.le_refl 1

end Kubedal
