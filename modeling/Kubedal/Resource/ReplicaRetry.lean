import Kubedal.Resource.ReplicaObjects

/-!
# Retrying a pass over a `DataReplicaSet`

What a second pass does after a first one that was cut off, or that was not.

* `Retriable` says that after a cut at any point a second pass returns `Ok` and leaves the set
  with the same objects as the whole first pass;
* `reconcile_retriable_iff`: this holds only for passes that find nothing to create.
-/

namespace Kubedal

open Interaction Kube Resource

/-! ## The same objects up to random names -/

/-- A name without the random suffix. -/
def withoutSuffix (name : String) : String :=
  String.ofList (name.toList.take (name.length - 8))

/-- The metadata without what the API server makes up. -/
def Kube.ObjectMeta.asSent (m : ObjectMeta) : ObjectMeta :=
  { m with uid := none, resourceVersion := none }

/-- The metadata without what is made up at random. -/
def Kube.ObjectMeta.unsuffixed (m : ObjectMeta) : ObjectMeta :=
  { m.asSent with name := m.name.map withoutSuffix }

def Kube.PersistentVolumeClaim.unsuffixed (pvc : PersistentVolumeClaim) : PersistentVolumeClaim :=
  { pvc with metadata := pvc.metadata.unsuffixed }

def Kube.Volume.unsuffixed (volume : Volume) : Volume :=
  { volume with
    persistentVolumeClaim := volume.persistentVolumeClaim.map fun claim =>
      { claim with claimName := withoutSuffix claim.claimName } }

def Kube.Pod.unsuffixed (pod : Pod) : Pod where
  metadata := pod.metadata.unsuffixed
  spec := pod.spec.map fun spec =>
    { spec with volumes := spec.volumes.map (List.map Volume.unsuffixed) }

/-- The set owns the same objects in both clusters, up to random names. -/
structure SameOwned (drs : DataReplicaSet) (s s' : Cluster) : Prop where
  dataPods : List.Perm
    ((s.ownedDataPods drs).map fun pod => { pod with metadata := pod.metadata.asSent })
    ((s'.ownedDataPods drs).map fun pod => { pod with metadata := pod.metadata.asSent })
  pvcs : List.Perm ((s.ownedPvcs drs).map PersistentVolumeClaim.unsuffixed)
    ((s'.ownedPvcs drs).map PersistentVolumeClaim.unsuffixed)
  pods : List.Perm ((s.ownedPods drs).map Pod.unsuffixed) ((s'.ownedPods drs).map Pod.unsuffixed)

lemma SameOwned.rfl {drs : DataReplicaSet} {s : Cluster} : SameOwned drs s s :=
  ⟨.refl _, .refl _, .refl _⟩

/-! ## Cutting a pass off -/

/-- The call did not fail. -/
def ApiSucceeds : Event signature → Prop
  | ⟨.kube _, Except.error _⟩ => False
  | _ => True

instance : DecidablePred ApiSucceeds
  | ⟨.kube _, Except.error _⟩ => .isFalse id
  | ⟨.kube _, Except.ok _⟩ => .isTrue trivial
  | ⟨.opendal _, _⟩ => .isTrue trivial
  | ⟨.host _, _⟩ => .isTrue trivial
  | ⟨.mounts _, _⟩ => .isTrue trivial
  | ⟨.volumes _, _⟩ => .isTrue trivial
  | ⟨.newUuid, _⟩ => .isTrue trivial
  | ⟨.sampleAlphanumeric _, _⟩ => .isTrue trivial

/-- The call has created an object. -/
def IsCreate : Event signature → Prop
  | ⟨.kube (.createDataPod _ _), Except.ok _⟩ => True
  | ⟨.kube (.createPvc _ _), Except.ok _⟩ => True
  | ⟨.kube (.createPod _ _), Except.ok _⟩ => True
  | _ => False

/-- A run of a reconciler in a cluster whose API server does not fail. -/
abbrev RunsTo {α : Type} (selects : Selects) (p : Reconcile α) (s : Cluster)
    (τ : List (Event signature)) (q : Reconcile α) (s' : Cluster) : Prop :=
  Prog.Exec (clusterEnv selects False) p s τ q s'

/-- However the pass with the calls `τ`, from `s` to `s'`, is cut off after the creation of an
object or at its end, another pass returns `Ok` and leaves the objects that are there in `s'`. -/
def Retriable (selects : Selects) (drs : DataReplicaSet) (s : Cluster)
    (τ : List (Event signature)) (s' : Cluster) : Prop :=
  ∀ past rest p cut, τ = past ++ rest → (rest = [] ∨ ∃ e ∈ past.getLast?, IsCreate e) →
    RunsTo selects drs.reconcile s past p cut →
    ∀ τ' q after result, RunsTo selects drs.reconcile cut τ' q after → q.outcome = some result →
      (∃ action, result = .ok action) ∧ SameOwned drs s' after

/-! ## The pods of a pass -/

section
variable {selects : Selects} {faults : Prop} {s : Cluster} {drs : DataReplicaSet} {ns : String}

lemma wp_keepsPods {α : Type} {p : Reconcile α} {Q : Cluster → Except (Fault Error) α → Prop}
    (hp : p.Uses Call.KeepsPods) (hQ : ∀ s' r, s'.pods = s.pods → Q s' r) :
    p.wp (clusterMonitor selects faults fun _ => True) s Q := by
  refine hp.wp_invariant (fun s' => s'.pods = s.pods) (fun _ _ _ _ => trivial) ?_ rfl hQ
  intro s' c a hc _ hs
  rw [← hs]
  exact Cluster.next_pods hc s' a

/-- The branch for too few replicas adds one pod when it returns. -/
lemma createMissing_adds (count : ℕ) :
    (drs.createMissing ns count).wp (clusterMonitor selects faults fun _ => True) s
      fun s' result => ∀ u, result = .ok u →
        ∃ pod, OwnedBy drs pod.metadata ∧ s'.pods = s.pods ++ [pod] := by
  unfold DataReplicaSet.createMissing
  refine Prog.wp_bind (wp_keepsPods (uses_fetchSource trivial fun _ => trivial) ?_)
  intro s₁ r h₁
  rcases r with e | ⟨source, node⟩
  · exact fun _ h => by cases h
  refine Prog.wp_bind (wp_keepsPods (uses_request _ trivial) ?_)
  intro s₂ r h₂
  rcases r with e | nodes
  · exact fun _ h => by cases h
  refine Prog.wp_bind (wp_keepsPods
    (uses_createReplicas trivial (fun _ _ => trivial) (fun _ _ => trivial) _ _ _) ?_)
  intro s₃ r h₃
  rcases r with e | replicas
  · exact fun _ h => by cases h
  refine Prog.wp_bind (wp_keepsPods (uses_createReplicaPvc trivial fun _ _ => trivial) ?_)
  intro s₄ r h₄
  rcases r with e | sourcePvc
  · exact fun _ h => by cases h
  refine Prog.wp_bind (createReplicaPod_meets trivial (fun pod owned => ?_) fun e => ?_)
  · intro u _
    refine ⟨pod, owned, ?_⟩
    show s₄.pods ++ [pod] = s.pods ++ [pod]
    rw [h₄, h₃, h₂, h₁]
  · exact fun _ h => by cases h

/-- A pass that returns `Ok` is idle, or it adds one pod. -/
lemma reconcile_adds (hns : drs.metadata.ns = some ns) :
    drs.reconcile.wp (clusterMonitor selects faults fun _ => True) s
      fun s' result => ∀ action, result = .ok action →
        Idle selects drs ns s ∧ s' = s ∨
          ∃ pod, OwnedBy drs pod.metadata ∧ s'.pods = s.pods ++ [pod] := by
  refine reconcile_meets hns trivial (fun idle _ _ _ => .inl ⟨idle, rfl⟩) (fun _ => ?_)
    fun _ _ _ h => by cases h
  apply Prog.wp_mono (createMissing_adds _)
  intro s' result h
  rcases result with e | u
  · exact fun _ h => by cases h
  · exact fun _ _ _ => .inr (h u rfl)

/-- An idle pass changes nothing at any time, and returns `Ok` if no request fails. -/
lemma reconcile_idle (hns : drs.metadata.ns = some ns) (idle : Idle selects drs ns s) :
    drs.reconcile.wp (clusterMonitor selects faults fun s' => s' = s) s
      fun s' result => s' = s ∧
        (¬ faults → (∃ pods, s.matched selects drs ns = .ok pods) →
          ∃ action, result = .ok action) := by
  refine reconcile_meets hns rfl (fun _ action => ⟨rfl, fun _ _ => ⟨action, rfl⟩⟩)
    (fun h => absurd idle h) fun h e => ⟨rfl, fun nofaults accepted => ?_⟩
  obtain ⟨pods, hpods⟩ := accepted
  rcases h with h | ⟨e, he⟩
  · exact absurd h nofaults
  · rw [hpods] at he
    cases he

end

/-! ## The last replica of a pass -/

/-- A run that can be cut off right after the creation of an object, when all `DataPod`s are
there that will be, but not all claims. -/
def CutPoint {α : Type} (selects : Selects) (drs : DataReplicaSet) (p : Reconcile α) (s : Cluster)
    (τ : List (Event signature)) (s' : Cluster) : Prop :=
  ∃ past e rest q cut, τ = past ++ e :: rest ∧ IsCreate e ∧ RunsTo selects p s (past ++ [e]) q cut ∧
    cut.dataPods = s'.dataPods ∧ (cut.ownedPvcs drs).length < (s'.ownedPvcs drs).length

/-- A run to the end, in which no request fails, changes no `DataPod` or can be cut off between
the last `DataPod` it creates and the claim for it. -/
def Settles {α : Type} (selects : Selects) (drs : DataReplicaSet) (p : Reconcile α) : Prop :=
  ∀ s τ q s' r, RunsTo selects p s τ q s' → q.outcome = some r → (∀ e ∈ τ, ApiSucceeds e) →
    s'.dataPods = s.dataPods ∨ CutPoint selects drs p s τ s'

section
variable {α β : Type} {selects : Selects} {drs : DataReplicaSet} {ns : String}

lemma ownedPvcs_le (drs : DataReplicaSet) {p q : Reconcile α} {s s' : Cluster}
    {τ : List (Event signature)}
    (run : RunsTo selects p s τ q s') :
    (s.ownedPvcs drs).length ≤ (s'.ownedPvcs drs).length := by
  have hgrown : s.pvcs <+: s'.pvcs := by
    refine run.invariant p.uses_any (fun x => s.pvcs <+: x.pvcs) ?_ List.prefix_rfl
    rintro x c a x' _ ⟨_, rfl⟩ h
    exact h.trans (Cluster.next_pvcs x c a)
  exact (hgrown.filter _).length_le

/-- The state of a cut-off run of the first part. -/
lemma CutPoint.bind_left {p : Reconcile α} {f : α → Reconcile β} {s s₁ s' : Cluster}
    {τ₁ τ₂ : List (Event signature)} {a : α} {q : Reconcile β}
    (h : CutPoint selects drs p s τ₁ s₁) (rest : RunsTo selects (f a) s₁ τ₂ q s')
    (heq : s'.dataPods = s₁.dataPods) :
    CutPoint selects drs (p >>= f) s (τ₁ ++ τ₂) s' := by
  obtain ⟨past, e, τ, q', cut, rfl, create, run, hpods, hpvcs⟩ := h
  refine ⟨past, e, τ ++ τ₂, _, cut, by simp, create, run.bind f, ?_, ?_⟩
  · rw [hpods, heq]
  · exact Nat.lt_of_lt_of_le hpvcs (ownedPvcs_le drs rest)

lemma CutPoint.bind_right {p : Reconcile α} {f : α → Reconcile β} {s s₁ s' : Cluster}
    {τ₁ τ₂ : List (Event signature)} {a : α} (run : RunsTo selects p s τ₁ (.pure a) s₁)
    (h : CutPoint selects drs (f a) s₁ τ₂ s') :
    CutPoint selects drs (p >>= f) s (τ₁ ++ τ₂) s' := by
  obtain ⟨past, e, τ, q', cut, rfl, create, run', hpods, hpvcs⟩ := h
  refine ⟨τ₁ ++ past, e, τ, q', cut, by simp, create, ?_, hpods, hpvcs⟩
  rw [List.append_assoc]
  exact (run.bind f).trans run'

lemma Settles.bind {p : Reconcile α} {f : α → Reconcile β} (hp : Settles selects drs p)
    (hf : ∀ a, Settles selects drs (f a)) : Settles selects drs (p >>= f) := by
  intro s τ q s' r run hq succeeds
  rcases Prog.exec_bind_outcome run hq with ⟨e, hthrow, rfl⟩ | ⟨a, τ₁, τ₂, s₁, rfl, hfirst, hrest⟩
  · rcases hp s τ _ s' _ hthrow rfl succeeds with
      heq | ⟨past, e', rest, q', cut, hτ, hcreate, hrun, h⟩
    · exact .inl heq
    · exact .inr ⟨past, e', rest, _, cut, hτ, hcreate, hrun.bind f, h⟩
  · have succeeds₁ := fun e he => succeeds e (List.mem_append_left _ he)
    have succeeds₂ := fun e he => succeeds e (List.mem_append_right _ he)
    rcases hf a s₁ τ₂ q s' r hrest hq succeeds₂ with heq | hcut
    · rcases hp s τ₁ _ s₁ _ hfirst rfl succeeds₁ with heq' | hcut'
      · exact .inl (heq.trans heq')
      · exact .inr (hcut'.bind_left hrest heq)
    · exact .inr (hcut.bind_right hfirst)

/-- A part that creates no `DataPod`. -/
lemma Settles.of_uses {p : Reconcile α} (hp : p.Uses Call.KeepsDataPods) :
    Settles selects drs p := by
  intro s τ q s' r run _ _
  left
  refine run.invariant hp (fun x => x.dataPods = s.dataPods) ?_ rfl
  rintro x c a x' hc ⟨_, rfl⟩ hx
  rw [← hx]
  exact Cluster.next_dataPods hc x a

/-- A run of a request that did not fail. -/
lemma exec_request {c : KubeCall} {s s' : Cluster} {τ : List (Event signature)}
    {q : Reconcile c.Object} {r : Except (Fault Error) c.Object}
    (run : RunsTo selects (request c) s τ q s') (hq : q.outcome = some r)
    (succeeds : ∀ e ∈ τ, ApiSucceeds e) :
    ∃ object, r = .ok object ∧ τ = [⟨.kube c, Except.ok object⟩] ∧
      s.Replies selects c (.ok object) ∧ s' = s.nextKube c object := by
  cases run with
  | refl => cases hq
  | @step _ _ a _ s₁ _ τ _ answered rest =>
    have hsucceeds := succeeds _ List.mem_cons_self
    rcases a with e | object
    · exact hsucceeds.elim
    · obtain ⟨rfl, rfl, rfl⟩ := rest.of_outcome rfl
      cases hq
      obtain ⟨replied | ⟨h, _⟩, rfl⟩ := answered
      · exact ⟨object, rfl, rfl, replied, rfl⟩
      · exact h.elim

lemma exec_randSuffix {s s' : Cluster} {τ : List (Event signature)} {q : Reconcile String}
    {r : Except (Fault Error) String} (run : RunsTo selects randSuffix s τ q s')
    (hq : q.outcome = some r) : (∃ suffix, r = .ok suffix) ∧ s' = s := by
  cases run with
  | refl => cases hq
  | step answered rest =>
    obtain ⟨rfl, rfl, rfl⟩ := rest.of_outcome rfl
    cases hq
    exact ⟨⟨_, rfl⟩, answered.2⟩

/-- A replica `DataPod` is created in one call, with an owner reference to the set. -/
lemma exec_createReplicaDataPod {index : ℕ} {node : DataNode} {s s' : Cluster}
    {τ : List (Event signature)} {pod : DataPod}
    (run : RunsTo selects (createReplicaDataPod index drs node ns) s τ (.pure pod) s')
    (succeeds : ∀ e ∈ τ, ApiSucceeds e) :
    (∃ owner, ownerRef drs = some owner) ∧ s' = s.addDataPod pod ∧ ∃ e, τ = [e] ∧ IsCreate e := by
  obtain ⟨uid, τ₀, τ₁, s₁, rfl, run₀, run₁⟩ := Prog.exec_bind_pure run
  obtain ⟨_, rfl, rfl⟩ := exec_orReturn run₀
  obtain ⟨drsNs, τ₀, τ₂, s₂, rfl, run₀, run₂⟩ := Prog.exec_bind_pure run₁
  obtain ⟨_, rfl, rfl⟩ := exec_orReturn run₀
  obtain ⟨owner, τ₀, τ₃, s₃, rfl, run₀, run₃⟩ := Prog.exec_bind_pure run₂
  obtain ⟨howner, rfl, rfl⟩ := exec_orReturn run₀
  obtain ⟨object, heq, rfl, _, rfl⟩ := exec_request run₃ (Prog.outcome_pure _) succeeds
  cases heq
  exact ⟨⟨owner, eq_some_of_okOr howner⟩, rfl, _, rfl, trivial⟩

/-- A claim is created whenever there is an owner reference to the set. -/
lemma exec_createReplicaPvc {pod : DataPod} {node : DataNode} {access : MountAccess}
    {owner : OwnerReference} (howner : ownerRef drs = some owner) {s s' : Cluster}
    {τ : List (Event signature)} {q : Reconcile PersistentVolumeClaim}
    {r : Except (Fault Error) PersistentVolumeClaim}
    (run : RunsTo selects (createReplicaPvc pod node drs access ns) s τ q s')
    (hq : q.outcome = some r) (succeeds : ∀ e ∈ τ, ApiSucceeds e) :
    ∃ pvc, r = .ok pvc ∧ OwnedBy drs pvc.metadata ∧ s' = s.addPvc pvc := by
  rcases Prog.exec_bind_outcome run hq with ⟨e, hthrow, _⟩ | ⟨suffix, τ₁, τ₂, s₁, rfl, run₁, run₂⟩
  · obtain ⟨⟨suffix, h⟩, _⟩ := exec_randSuffix hthrow rfl
    cases h
  · obtain ⟨_, rfl⟩ := exec_randSuffix run₁ rfl
    -- the set has an owner reference, since the `DataPod` was created with it
    have hreplica : replicaOwner drs = .pure owner := by
      unfold replicaOwner
      rw [howner]
      rfl
    rw [hreplica] at run₂
    obtain ⟨pvc, rfl, _, created, rfl⟩ := exec_request run₂ hq fun e he =>
      succeeds e (List.mem_append_right _ he)
    obtain ⟨name, uid, version, _, _, _, rfl⟩ := created
    exact ⟨_, rfl, ownedBy_of_ownerRef howner rfl, rfl⟩

/-- A replica is settled between its `DataPod` and its claim. -/
lemma Settles.replica {index : ℕ} {node : DataNode} {access : MountAccess}
    {f : DataPod → PersistentVolumeClaim → Reconcile α}
    (hf : ∀ pod pvc, Settles selects drs (f pod pvc)) :
    Settles selects drs (createReplicaDataPod index drs node ns >>= fun pod =>
      createReplicaPvc pod node drs access ns >>= fun pvc => f pod pvc) := by
  intro s τ q s' r run hq succeeds
  rcases Prog.exec_bind_outcome run hq with ⟨e, hthrow, _⟩ | ⟨pod, τ₁, τ₂, s₁, rfl, run₁, run₂⟩
  · -- a `DataPod` that is not created leaves the cluster as it is
    left
    have hmeets : (createReplicaDataPod index drs node ns).wp
        (clusterMonitor selects False fun _ => True) s
        fun s' r => ∀ e, r = .error e → s' = s :=
      createReplicaDataPod_meets trivial (fun _ _ _ h => by cases h) fun _ _ _ => rfl
    rw [of_clusterMonitor hmeets hthrow e rfl]
  · have succeeds₁ := fun e he => succeeds e (List.mem_append_left _ he)
    have succeeds₂ := fun e he => succeeds e (List.mem_append_right _ he)
    obtain ⟨⟨owner, howner⟩, rfl, e, rfl, create⟩ := exec_createReplicaDataPod run₁ succeeds₁
    right
    rcases Prog.exec_bind_outcome run₂ hq with ⟨e', hthrow, _⟩ | ⟨pvc, τ₂, τ₃, s₂, rfl, run₂', run₃⟩
    · obtain ⟨pvc, h, _⟩ := exec_createReplicaPvc howner hthrow rfl succeeds₂
      cases h
    · have succeeds₂' := fun e he => succeeds₂ e (List.mem_append_left _ he)
      have succeeds₃ := fun e he => succeeds₂ e (List.mem_append_right _ he)
      obtain ⟨pvc', h, owned, rfl⟩ := exec_createReplicaPvc howner run₂' rfl succeeds₂'
      cases h
      -- cut off before the claim of this replica, if no later one is created
      rcases hf pod pvc _ _ _ _ _ run₃ hq succeeds₃ with heq | hcut
      · refine ⟨[], e, τ₂ ++ τ₃, _, s.addDataPod pod, rfl, create, run₁.bind _, heq.symm, ?_⟩
        have hle := ownedPvcs_le drs run₃
        have hlt : ((s.addDataPod pod).ownedPvcs drs).length <
            (((s.addDataPod pod).addPvc pvc).ownedPvcs drs).length := by
          show (List.filter _ _).length < (List.filter _ (_ ++ [pvc])).length
          rw [List.filter_append, List.filter_singleton, decide_eq_true owned]
          simp
        omega
      · exact (hcut.bind_right run₂').bind_right run₁

lemma createReplicas_settles (indices : List ℕ) (nodes : List DataNode)
    (acc : List (DataPod × PersistentVolumeClaim)) :
    Settles selects drs (createReplicas drs ns indices nodes acc) := by
  induction indices generalizing nodes acc with
  | nil => exact .of_uses trivial
  | cons index rest ih =>
    unfold createReplicas
    split
    · exact .replica fun pod pvc => ih _ _
    · exact .of_uses trivial

lemma createMissing_settles (count : ℕ) : Settles selects drs (drs.createMissing ns count) := by
  refine .bind (.of_uses (uses_fetchSource trivial fun _ => trivial)) fun source => ?_
  refine .bind (.of_uses (uses_request _ trivial)) fun nodes => ?_
  refine .bind (createReplicas_settles _ _ _) fun replicas => ?_
  refine .bind (.of_uses (uses_createReplicaPvc trivial fun _ _ => trivial)) fun sourcePvc => ?_
  exact .bind (.of_uses (uses_createReplicaPod trivial fun _ _ => trivial)) fun pod =>
    .of_uses trivial

lemma reconcile_settles : Settles selects drs drs.reconcile := by
  unfold DataReplicaSet.reconcile
  split
  · exact .of_uses trivial
  · refine .bind (.of_uses (uses_orReturn _)) fun drsNs => ?_
    refine .bind (.of_uses (uses_request _ trivial)) fun pods => ?_
    unfold DataReplicaSet.compareCount
    split
    · exact .of_uses trivial
    · split
      · exact .bind (createMissing_settles _) fun u => .of_uses trivial
      · exact .of_uses trivial

/-- A pass in which no request fails has had its selector accepted. -/
lemma matched_of_succeeds {s s' : Cluster} {τ : List (Event signature)} {q : Reconcile Action}
    {r : Except (Fault Error) Action} (hns : drs.metadata.ns = some ns)
    (hstatus : drs.status.isSome = false) (run : RunsTo selects drs.reconcile s τ q s')
    (hq : q.outcome = some r) (succeeds : ∀ e ∈ τ, ApiSucceeds e) :
    ∃ pods, s.matched selects drs ns = .ok pods := by
  unfold DataReplicaSet.reconcile at run
  rw [if_neg (by simp [hstatus])] at run
  unfold DataReplicaSet.reconcileReplicas at run
  rw [show namespaceOf drs = some ns from hns] at run
  rcases Prog.exec_bind_outcome run hq with ⟨e, hthrow, _⟩ | ⟨drsNs, τ₁, τ₂, s₁, rfl, run₁, run₂⟩
  · obtain ⟨_, h, _⟩ := Prog.exec_pure_iff.mp hthrow
    cases h
  -- what comes next is the list of the `DataPod`s that the selector matches
  obtain ⟨hns', rfl, rfl⟩ := exec_orReturn run₁
  cases hns'
  have succeeds₂ := fun e he => succeeds e (List.mem_append_right _ he)
  rcases Prog.exec_bind_outcome run₂ hq with ⟨e, hthrow, _⟩ | ⟨pods, τ₃, τ₄, s₂, rfl, run₃, _⟩
  · obtain ⟨_, h, _⟩ := exec_request hthrow (Prog.outcome_throw _) succeeds₂
    cases h
  · obtain ⟨_, _, _, replied, _⟩ := exec_request run₃ (Prog.outcome_pure _) fun e he =>
      succeeds₂ e (List.mem_append_left _ he)
    exact ⟨_, replied.symm⟩

/-- Another pass can always be run to its end. -/
lemma exists_pass (selects : Selects) (drs : DataReplicaSet) (s : Cluster) :
    ∃ τ q s' r, RunsTo selects drs.reconcile s τ q s' ∧ q.outcome = some r := by
  obtain ⟨τ, q, s', run, hq⟩ := Prog.exists_exec (clusterEnv_total selects False) drs.reconcile s
  obtain ⟨r, hr⟩ := Option.ne_none_iff_exists'.mp hq
  exact ⟨τ, q, s', r, run, hr⟩

/-- After an idle pass, or a part of one, another pass returns `Ok` and changes nothing. -/
lemma retriable_of_idle {s s' : Cluster} {τ : List (Event signature)} {q : Reconcile Action}
    {r : Except (Fault Error) Action} (hns : drs.metadata.ns = some ns)
    (run : RunsTo selects drs.reconcile s τ q s') (hq : q.outcome = some r)
    (succeeds : ∀ e ∈ τ, ApiSucceeds e) (idle : Idle selects drs ns s) :
    Retriable selects drs s τ s' := by
  -- an idle pass changes nothing at any time
  have unchanged : ∀ τ q s', RunsTo selects drs.reconcile s τ q s' → s' = s := by
    intro τ q s' run
    have h := of_clusterMonitor (reconcile_idle hns idle) run
    cases q with
    | pure a => exact h.1
    | throw e => exact h.1
    | call c k => exact h.1
  intro past rest p cut _ _ hcut τ' q' s'' result hrun hresult
  have hcut' : cut = s := unchanged _ _ _ hcut
  subst hcut'
  rw [unchanged _ _ _ run, unchanged _ _ _ hrun]
  refine ⟨?_, .rfl⟩
  -- it returns at once, or after a list that cannot fail
  by_cases hstatus : drs.status.isSome
  · unfold DataReplicaSet.reconcile at hrun
    rw [if_pos hstatus] at hrun
    obtain ⟨_, rfl, _⟩ := Prog.exec_pure_iff.mp hrun
    cases hresult
    exact ⟨_, rfl⟩
  · have accepted := matched_of_succeeds hns (by simpa using hstatus) run hq succeeds
    have h := of_clusterMonitor (reconcile_idle hns idle) hrun
    exact (Prog.wp_outcome h hresult).2 id accepted

/-- A pass that is not idle cannot be retried at its end, or not right after the last `DataPod`
it has created. -/
lemma idle_of_retriable {s s' : Cluster} {τ : List (Event signature)} {q : Reconcile Action}
    {r : Except (Fault Error) Action} (hns : drs.metadata.ns = some ns)
    (run : RunsTo selects drs.reconcile s τ q s') (hq : q.outcome = some r)
    (succeeds : ∀ e ∈ τ, ApiSucceeds e) (retriable : Retriable selects drs s τ s') :
    Idle selects drs ns s := by
  by_contra hidle
  -- the pass after the whole one finds enough replicas, as it would add another pod otherwise
  have idle' : Idle selects drs ns s' := by
    obtain ⟨τ', q', s'', result, run', hresult⟩ := exists_pass selects drs s'
    obtain ⟨⟨action, rfl⟩, same⟩ :=
      retriable τ [] q s' (by simp) (.inl rfl) run _ _ _ _ run' hresult
    have adds := Prog.wp_outcome (of_clusterMonitor (reconcile_adds hns) run') hresult action rfl
    rcases adds with ⟨idle', _⟩ | ⟨pod, owned, hpods⟩
    · exact idle'
    · have hlength := same.pods.length_eq
      have hmore : (s''.ownedPods drs).length = (s'.ownedPods drs).length + 1 := by
        unfold Cluster.ownedPods
        rw [hpods, List.filter_append, List.filter_singleton, decide_eq_true owned]
        simp
      simp only [List.length_map] at hlength
      omega
  -- so there is a replica whose claim came after it
  rcases reconcile_settles s τ q s' r run hq succeeds with heq | hcut
  · exact hidle (idle'.congr heq.symm)
  · obtain ⟨past, e, rest, p, cut, rfl, create, hrun, hpods, hpvcs⟩ := hcut
    obtain ⟨τ', q', s'', result, run', hresult⟩ := exists_pass selects drs cut
    obtain ⟨_, same⟩ := retriable (past ++ [e]) rest p cut (by simp)
      (.inr ⟨e, by simp, create⟩) hrun _ _ _ _ run' hresult
    have hsame := of_clusterMonitor (reconcile_idle hns (idle'.congr hpods)) run'
    have hs'' : s'' = cut := (Prog.wp_outcome hsame hresult).1
    have hlength := same.pvcs.length_eq
    simp only [List.length_map, hs''] at hlength
    omega

end

/-- A pass in which no request fails can be retried from wherever it is cut off if and only if
it had nothing to create. -/
theorem reconcile_retriable_iff {selects : Selects} {drs : DataReplicaSet} {ns : String}
    {s s' : Cluster} {τ : List (Event signature)} {q : Reconcile Action}
    {r : Except (Fault Error) Action} (hns : drs.metadata.ns = some ns)
    (run : RunsTo selects drs.reconcile s τ q s') (hq : q.outcome = some r)
    (succeeds : ∀ e ∈ τ, ApiSucceeds e) :
    Retriable selects drs s τ s' ↔ Idle selects drs ns s :=
  ⟨idle_of_retriable hns run hq succeeds, retriable_of_idle hns run hq succeeds⟩

/-- With one more node and one replica asked for, the second pass is refused the name of the
replica that the first one has created. -/
theorem reconcile_not_retriable :
    ¬ ∀ (selects : Selects) (drs : DataReplicaSet) (ns : String) (s s' : Cluster)
      (τ : List (Event signature)) (q : Reconcile Action) (r : Except (Fault Error) Action),
      drs.metadata.ns = some ns → RunsTo selects drs.reconcile s τ q s' → q.outcome = some r →
      (∀ e ∈ τ, ApiSucceeds e) → Retriable selects drs s τ s' := by
  intro claim
  obtain ⟨τ, action, s', τ', e, s'', hfirst, hsecond, hsucceeds⟩ : ∃ τ action s' τ' e s'',
      Prog.follow (Cluster.serve sampleSelects) 20 (sampleSet 1).reconcile
        (sampleCluster 1 [sampleNode "m" "3"] []) = some (τ, .pure action, s') ∧
      Prog.follow (Cluster.serve sampleSelects) 20 (sampleSet 1).reconcile s' =
        some (τ', .throw e, s'') ∧
      (τ.all fun e => ApiSucceeds e) = true :=
    ⟨_, _, _, _, _, _, rfl, rfl, by rfl⟩
  have run := Prog.exec_of_follow (fun _ _ _ _ => clusterEnv_of_serve) hfirst
  have run' := Prog.exec_of_follow (fun _ _ _ _ => clusterEnv_of_serve) hsecond
  have succeeds : ∀ e ∈ τ, ApiSucceeds e := by simpa using hsucceeds
  have retriable := claim _ _ "default" _ _ _ _ _ rfl run rfl succeeds
  obtain ⟨⟨action, h⟩, _⟩ := retriable τ [] _ s' (by simp) (.inl rfl) run _ _ _ _ run' rfl
  cases h

/-- With the one replica that is asked for, a pass has nothing to create. -/
theorem reconcile_retriable_with_enough :
    ∃ (τ : List (Event signature)) (s' : Cluster), τ.length = 1 ∧
      Retriable sampleSelects (sampleSet 1)
        (sampleCluster 1 [] [samplePod "copy" "3" (.ofList [("app", "replica")])]) τ s' := by
  obtain ⟨τ, action, s', hpass, hsucceeds, hlength⟩ : ∃ τ action s',
      Prog.follow (Cluster.serve sampleSelects) 20 (sampleSet 1).reconcile
        (sampleCluster 1 [] [samplePod "copy" "3" (.ofList [("app", "replica")])]) =
          some (τ, .pure action, s') ∧
      (τ.all fun e => ApiSucceeds e) = true ∧ τ.length = 1 :=
    ⟨_, _, _, rfl, by rfl, by rfl⟩
  have run := Prog.exec_of_follow (fun _ _ _ _ => clusterEnv_of_serve) hpass
  have idle : Idle sampleSelects (sampleSet 1) "default"
      (sampleCluster 1 [] [samplePod "copy" "3" (.ofList [("app", "replica")])]) :=
    .inr (by decide)
  exact ⟨τ, s', hlength,
    (reconcile_retriable_iff rfl run rfl (by simpa using hsucceeds)).mpr idle⟩

end Kubedal
