import Kubedal.Resource.ReplicaCollection
import Kubedal.Resource.SyncPod
import Kubedal.Services.NodePublish
import Kubedal.Utils.Identity

/-!
# Where a claim comes from

The sync pod of a set mounts one claim for each replica, and one for the source.

* `SawReplica` and `SawSource`: what a pass has seen of the `DataPod` and the `DataNode` of a claim;
* `reconcileSet_claims`: a pass asks for such claims only, and for a pod only with the claims that
  it has made itself;
* `claim_origin`: where nobody else makes claims, every claim in the cluster goes back to one of
  these.
-/

namespace Kubedal

open Interaction Kube Resource

/-! ## What a pass has seen when it asks for a claim -/

/-- The pass has listed the node, and has created the `DataPod` on it. -/
structure SawReplica (self : DataReplicaSet) (past : List (Event signature)) (pod : DataPod)
    (node : DataNode) : Prop where
  listed : ∃ ns, namespaceOf self = some ns ∧ ∃ nodes : List DataNode, node ∈ nodes ∧
    Saw past (.kube (.listDataNodes ns {})) (Except.ok nodes)
  created : ∃ ns sent, Saw past (.kube (.createDataPod ns sent)) (Except.ok pod) ∧
    sent.spec.dataNodeRef = some ⟨nameAny node, namespaceOf node⟩

/-- The pass has fetched the source of the set, and the node that is its first owner. -/
structure SawSource (self : DataReplicaSet) (past : List (Event signature)) (pod : DataPod)
    (node : DataNode) : Prop where
  fetchedPod : ∃ ns, namespaceOf self = some ns ∧
    Saw past (.kube (.getDataPod ns self.spec.sourcePod.name)) (Except.ok pod)
  fetchedNode : ∃ ns owner, namespaceOf self = some ns ∧ (ownerReferences pod).head? = some owner ∧
    Saw past (.kube (.getDataNode ns owner.name)) (Except.ok node)

/-- The claim is for a `DataPod` and a `DataNode` that the pass has seen. -/
def ClaimMade (self : DataReplicaSet) (past : List (Event signature))
    (sent : PersistentVolumeClaim) : Prop :=
  ∃ pod node suffix owner, sent = replicaPvc pod node self .fuseReadWrite suffix owner ∧
    (SawReplica self past pod node ∨ SawSource self past pod node)

/-- The pass has made the claim for the `DataPod` on the node. -/
def HasClaimed (self : DataReplicaSet) (past : List (Event signature)) (pod : DataPod)
    (node : DataNode) (pvc : PersistentVolumeClaim) : Prop :=
  ∃ earlier ns suffix owner, earlier ++
    [⟨.kube (.createPvc ns (replicaPvc pod node self .fuseReadWrite suffix owner)), Except.ok pvc⟩]
      <+: past

/-- The pass has placed the replica on a node and has made its claim. -/
def ReplicaPlaced (self : DataReplicaSet) (past : List (Event signature)) (replica : Replica) :
    Prop :=
  ∃ node, SawReplica self past replica.1 node ∧ HasClaimed self past replica.1 node replica.2

/-- The pass has placed these replicas, in their order, and has created nothing else. -/
structure PlacedAll (drs : DataReplicaSet) (past : List (Event signature))
    (replicas : List Replica) : Prop where
  each : ∀ replica ∈ replicas, ReplicaPlaced drs past replica
  pods : past.filterMap newDataPod = replicas.map Prod.fst
  pvcs : past.filterMap newPvc = replicas.map Prod.snd

/-- The pod mounts the source and the replicas, which are all that the pass has placed. -/
structure PodMade (drs : DataReplicaSet) (past : List (Event signature)) (sent : Pod)
    (source : DataPod) (sourceNode : DataNode) (sourcePvc : PersistentVolumeClaim)
    (replicas : List Replica) : Prop where
  written : ∃ suffix owner sourcePath, source.spec.path = some sourcePath ∧
    sent = syncPod drs suffix owner sourcePath (wiredVolumes sourcePath sourcePvc replicas)
  paths : ∀ replica ∈ replicas, replica.1.spec.path ≠ none
  seen : SawSource drs past source sourceNode
  claimed : HasClaimed drs past source sourceNode sourcePvc
  placed : ∀ replica ∈ replicas, ReplicaPlaced drs past replica
  pods : past.filterMap newDataPod = replicas.map Prod.fst
  pvcs : past.filterMap newPvc = replicas.map Prod.snd ++ [sourcePvc]

/-- The pass may make the claim or the pod. -/
def MayMake (self : DataReplicaSet) (past : List (Event signature)) : Call → Prop
  | .kube (.createPvc _ sent) => ClaimMade self past sent
  | .kube (.createPod _ sent) => ∃ source sourceNode sourcePvc replicas,
    PodMade self past sent source sourceNode sourcePvc replicas
  | _ => True

/-- The requests of a pass are monitored by their past. -/
def claimMonitor (self : DataReplicaSet) : Monitor signature (List (Event signature)) :=
  Monitor.history (MayMake self) fun _ _ => True

section
variable {self : DataReplicaSet} {past τ : List (Event signature)} {pod : DataPod}
  {node : DataNode} {ns : String}

lemma SawReplica.append (h : SawReplica self past pod node) :
    SawReplica self (past ++ τ) pod node := by
  obtain ⟨⟨ns, hns, nodes, hnode, saw⟩, ns', sent, saw', hsent⟩ := h
  exact ⟨⟨ns, hns, nodes, hnode, saw.append⟩, ns', sent, saw'.append, hsent⟩

lemma SawSource.append (h : SawSource self past pod node) :
    SawSource self (past ++ τ) pod node := by
  obtain ⟨⟨ns, hns, saw⟩, ns', owner, hns', howner, saw'⟩ := h
  exact ⟨⟨ns, hns, saw.append⟩, ns', owner, hns', howner, saw'.append⟩

lemma HasClaimed.append {pvc : PersistentVolumeClaim} (h : HasClaimed self past pod node pvc) :
    HasClaimed self (past ++ τ) pod node pvc := by
  obtain ⟨earlier, ns, suffix, owner, made⟩ := h
  exact ⟨earlier, ns, suffix, owner, made.trans (List.prefix_append _ _)⟩

lemma ReplicaPlaced.append {replica : Replica} (h : ReplicaPlaced self past replica) :
    ReplicaPlaced self (past ++ τ) replica := by
  obtain ⟨node, seen, claimed⟩ := h
  exact ⟨node, seen.append, claimed.append⟩

/-- The pass goes on without creating a `DataPod` or a claim. -/
lemma PlacedAll.append {replicas : List Replica} (h : PlacedAll self past replicas)
    (pods : τ.filterMap newDataPod = []) (pvcs : τ.filterMap newPvc = []) :
    PlacedAll self (past ++ τ) replicas := by
  refine ⟨fun replica hreplica => (h.each replica hreplica).append, ?_, ?_⟩
  · rw [List.filterMap_append, pods, List.append_nil, h.pods]
  · rw [List.filterMap_append, pvcs, List.append_nil, h.pvcs]

/-- The pass goes on with one more replica. -/
lemma PlacedAll.add {replicas : List Replica} {replica : Replica} (h : PlacedAll self past replicas)
    (placed : ReplicaPlaced self (past ++ τ) replica)
    (pods : τ.filterMap newDataPod = [replica.1]) (pvcs : τ.filterMap newPvc = [replica.2]) :
    PlacedAll self (past ++ τ) (replicas ++ [replica]) := by
  refine ⟨fun other hother => ?_, ?_, ?_⟩
  · rcases List.mem_append.mp hother with hother | hother
    · exact (h.each other hother).append
    · rwa [List.mem_singleton.mp hother]
  · rw [List.filterMap_append, pods, h.pods, List.map_append]
    rfl
  · rw [List.filterMap_append, pvcs, h.pvcs, List.map_append]
    rfl

/-- A claim for what the pass has seen. -/
lemma createReplicaPvc_claims
    {Q : List (Event signature) → Except (Fault Error) PersistentVolumeClaim → Prop}
    (seen : SawReplica self past pod node ∨ SawSource self past pod node)
    (hok : ∀ τ pvc, HasClaimed self (past ++ τ) pod node pvc → τ.filterMap newDataPod = [] →
      τ.filterMap newPvc = [pvc] → Q (past ++ τ) (.ok pvc))
    (herror : ∀ τ e, Q (past ++ τ) (.error e)) :
    (createReplicaPvc pod node self .fuseReadWrite ns).wp (claimMonitor self) past Q := by
  unfold createReplicaPvc randSuffix replicaOwner
  refine Prog.wp_bind (Prog.wp_bind (wp_perform trivial fun sampled _ => ?_))
  refine Prog.wp_bind (wp_orReturn (fun owner _ => ?_) fun e _ => herror _ _)
  have claim : ClaimMade self (past ++ [⟨.sampleAlphanumeric 8, sampled⟩])
      (replicaPvc pod node self .fuseReadWrite (toLowercase sampled) owner) := by
    refine ⟨pod, node, _, owner, rfl, ?_⟩
    rcases seen with seen | seen
    · exact .inl seen.append
    · exact .inr seen.append
  refine wp_request claim (fun pvc _ => ?_) fun e _ => ?_
  · have claimed := hok ([⟨.sampleAlphanumeric 8, sampled⟩] ++ [⟨.kube (.createPvc ns
      (replicaPvc pod node self .fuseReadWrite (toLowercase sampled) owner)), Except.ok pvc⟩]) pvc
    rw [← List.append_assoc] at claimed
    exact claimed ⟨_, ns, _, owner, List.prefix_rfl⟩ rfl rfl
  · show Q (past ++ [_] ++ [_]) _
    rw [List.append_assoc]
    exact herror _ _

/-- A replica that is created on the node. -/
lemma createReplicaDataPod_claims {index : ℕ}
    {Q : List (Event signature) → Except (Fault Error) DataPod → Prop}
    (hok : ∀ τ (pod : DataPod), (∃ ns sent, Saw (past ++ τ) (.kube (.createDataPod ns sent))
      (Except.ok pod) ∧ sent.spec.dataNodeRef = some ⟨nameAny node, namespaceOf node⟩) →
      τ.filterMap newDataPod = [pod] → τ.filterMap newPvc = [] → Q (past ++ τ) (.ok pod))
    (herror : ∀ τ e, Q (past ++ τ) (.error e)) :
    (createReplicaDataPod index self node ns).wp (claimMonitor self) past Q := by
  have nothing : ∀ e, Q past (.error e) := fun e => by simpa using herror [] e
  unfold createReplicaDataPod
  refine Prog.wp_bind (wp_orReturn (fun uid _ => ?_) fun e _ => nothing _)
  refine Prog.wp_bind (wp_orReturn (fun drsNs _ => ?_) fun e _ => nothing _)
  refine Prog.wp_bind (wp_orReturn (fun owner _ => ?_) fun e _ => nothing _)
  exact wp_request trivial (fun pod _ => hok _ pod ⟨_, _, saw_last _ _, rfl⟩ rfl rfl)
    fun e _ => herror [_] _

lemma createReplicas_claims {indices : List ℕ} {available : List DataNode}
    {replicas : List Replica}
    {Q : List (Event signature) → Except (Fault Error) (List Replica) → Prop}
    (listed : ∀ node ∈ available, ∃ ns, namespaceOf self = some ns ∧ ∃ nodes : List DataNode,
      node ∈ nodes ∧ Saw past (.kube (.listDataNodes ns {})) (Except.ok nodes))
    (placed : PlacedAll self past replicas)
    (hok : ∀ τ replicas', PlacedAll self (past ++ τ) replicas' → Q (past ++ τ) (.ok replicas'))
    (herror : ∀ τ e, Q (past ++ τ) (.error e)) :
    (createReplicas self ns indices available replicas).wp (claimMonitor self) past Q := by
  have done : Q past (.ok replicas) := by simpa using hok [] replicas (by simpa using placed)
  induction indices generalizing past available replicas with
  | nil => exact done
  | cons index rest ih =>
    unfold createReplicas
    cases hlast : available.getLast? with
    | none => exact done
    | some node =>
      refine Prog.wp_bind (createReplicaDataPod_claims (fun τ pod created hpods hpvcs => ?_)
        fun τ e => herror τ _)
      obtain ⟨ns', hns, nodes, hnode, saw⟩ := listed node (List.mem_of_getLast? hlast)
      have seen : SawReplica self (past ++ τ) pod node :=
        ⟨⟨ns', hns, nodes, hnode, saw.append⟩, created⟩
      refine Prog.wp_bind (createReplicaPvc_claims (.inl seen)
        (fun τ' pvc claimed hpods' hpvcs' => ?_) fun τ' e => ?_)
      · have placed' : PlacedAll self (past ++ (τ ++ τ')) (replicas ++ [(pod, pvc)]) := by
          refine placed.add ?_ ?_ ?_
          · rw [← List.append_assoc]
            exact ⟨node, seen.append, claimed⟩
          · rw [List.filterMap_append, hpods, hpods', List.append_nil]
          · rw [List.filterMap_append, hpvcs, hpvcs', List.nil_append]
        have hok' : ∀ τ'' replicas', PlacedAll self (past ++ (τ ++ τ') ++ τ'') replicas' →
            Q (past ++ (τ ++ τ') ++ τ'') (.ok replicas') := by
          intro τ'' replicas' h
          rw [List.append_assoc] at h ⊢
          exact hok _ replicas' h
        rw [List.append_assoc]
        refine ih (fun node hnode => ?_) placed' hok' (fun τ'' e => ?_) ?_
        · have hmem := (List.dropLast_sublist _).subset hnode
          obtain ⟨ns', hns, nodes, hnode', saw⟩ := listed node hmem
          exact ⟨ns', hns, nodes, hnode', saw.append⟩
        · rw [List.append_assoc]
          exact herror _ e
        · have := hok' [] _ (by rw [List.append_nil]; exact placed')
          rw [List.append_nil] at this
          exact this
      · rw [List.append_assoc]
        exact herror _ e

/-- The source and its node, if they are returned; nothing is created. -/
lemma fetchSource_claims (hns : namespaceOf self = some ns) (none : PlacedAll self past []) :
    (self.fetchSource ns).wp (claimMonitor self) past fun past' result =>
      ∀ source, result = .ok source → SawSource self past' source.1 source.2 ∧
        PlacedAll self past' [] := by
  unfold DataReplicaSet.fetchSource
  refine Prog.wp_bind (wp_request trivial (fun source _ => ?_) fun e _ => by simp)
  refine Prog.wp_bind (wp_orReturn (fun owner howner => ?_) fun e _ => by simp)
  refine Prog.wp_bind (wp_request trivial (fun node _ => ?_) fun e _ => by simp)
  rintro _ ⟨⟩
  have saw : Saw (past ++ [⟨.kube (.getDataPod ns self.spec.sourcePod.name), Except.ok source⟩])
      (.kube (.getDataPod ns self.spec.sourcePod.name)) (Except.ok source) := saw_last _ _
  refine ⟨⟨⟨ns, hns, saw.append⟩, ns, owner, hns, eq_some_of_okOr howner, saw_last _ _⟩, ?_⟩
  exact (none.append rfl rfl).append rfl rfl

/-- The loop over the replicas fails if one of them has no path. -/
lemma paths_of_mountReplicas {source : DataPod} {i : ℕ} {replicas : List Replica}
    {mounted mounted' : SyncVolumes}
    (h : mountReplicas source i replicas mounted = .ok mounted') :
    ∀ replica ∈ replicas, replica.1.spec.path ≠ none := by
  induction replicas generalizing i mounted with
  | nil => exact fun _ h => by cases h
  | cons replica rest ih =>
    obtain ⟨pod, pvc⟩ := replica
    unfold mountReplicas at h
    cases hpath : pod.spec.path with
    | none =>
      rw [hpath] at h
      cases h
    | some path =>
      rw [hpath] at h
      intro replica hreplica
      rcases List.mem_cons.mp hreplica with rfl | hreplica
      · simp [hpath]
      · exact ih h replica hreplica

/-- The pod is asked for with the claims that the pass has made. -/
lemma createReplicaPod_claims {source : DataPod} {sourceNode : DataNode}
    {sourcePvc : PersistentVolumeClaim} {replicas : List Replica}
    (seen : SawSource self past source sourceNode)
    (claimed : HasClaimed self past source sourceNode sourcePvc)
    (placed : ∀ replica ∈ replicas, ReplicaPlaced self past replica)
    (pods : past.filterMap newDataPod = replicas.map Prod.fst)
    (pvcs : past.filterMap newPvc = replicas.map Prod.snd ++ [sourcePvc]) :
    (createReplicaPod self source sourcePvc replicas ns).wp (claimMonitor self) past
      fun _ _ => True := by
  unfold createReplicaPod randSuffix replicaOwner
  refine Prog.wp_bind (Prog.wp_bind (wp_perform trivial fun sampled _ => ?_))
  refine Prog.wp_bind (wp_orReturn (fun owner _ => ?_) fun e _ => trivial)
  refine Prog.wp_bind (wp_orReturn (fun sourcePath hpath => ?_) fun e _ => trivial)
  refine Prog.wp_bind (wp_orReturn (fun mounted hmounted => ?_) fun e _ => trivial)
  have paths := paths_of_mountReplicas hmounted
  rw [mountReplicas_ok paths] at hmounted
  cases hmounted
  refine wp_request ⟨source, sourceNode, sourcePvc, replicas, ?_⟩ (fun _ _ => trivial)
    fun _ _ => trivial
  refine ⟨⟨_, owner, sourcePath, eq_some_of_okOr hpath, rfl⟩, paths, seen.append, claimed.append,
    fun replica h => (placed replica h).append, ?_, ?_⟩
  · show (past ++ [_]).filterMap newDataPod = _
    rw [List.filterMap_append, pods]
    exact List.append_nil _
  · show (past ++ [_]).filterMap newPvc = _
    rw [List.filterMap_append, pvcs]
    exact List.append_nil _

lemma createMissing_claims (hns : namespaceOf self = some ns) (none : PlacedAll self past [])
    (count : ℕ) : (self.createMissing ns count).wp (claimMonitor self) past fun _ _ => True := by
  unfold DataReplicaSet.createMissing
  refine Prog.wp_bind (Prog.wp_mono (fetchSource_claims hns none) fun past₁ result h => ?_)
  rcases result with e | ⟨source, sourceNode⟩
  · trivial
  obtain ⟨seen, none₁⟩ := h _ rfl
  refine Prog.wp_bind (wp_request trivial (fun nodes _ => ?_) fun e _ => trivial)
  refine Prog.wp_bind (createReplicas_claims (fun node hnode => ?_) (none₁.append rfl rfl)
    (fun τ replicas placed => ?_) fun τ e => trivial)
  · exact ⟨ns, hns, nodes, (List.mem_filter.mp hnode).1, saw_last _ _⟩
  refine Prog.wp_bind (createReplicaPvc_claims (.inr seen.append.append)
    (fun τ' sourcePvc claimed hpods hpvcs => ?_) fun τ' e => trivial)
  refine Prog.wp_bind (Prog.wp_mono (createReplicaPod_claims seen.append.append.append claimed
    (fun replica h => (placed.each replica h).append) ?_ ?_) fun past₂ result _ => ?_)
  · rw [List.filterMap_append, placed.pods, hpods, List.append_nil]
  · rw [List.filterMap_append, placed.pvcs, hpvcs]
  · rcases result with e | _ <;> trivial

lemma compareCount_claims (hns : namespaceOf self = some ns) (none : PlacedAll self past [])
    (count : ℕ) : (self.compareCount ns count).wp (claimMonitor self) past fun _ _ => True := by
  unfold DataReplicaSet.compareCount
  split
  · trivial
  split
  · refine Prog.wp_bind (Prog.wp_mono (createMissing_claims hns none count) fun _ result _ => ?_)
    rcases result with e | _ <;> trivial
  · trivial

/-- A pass over a set asks for claims only for what it has seen, and for a pod only with the claims
that it has made. -/
theorem reconcileSet_claims :
    self.reconcile.wp (claimMonitor self) [] fun _ _ => True := by
  unfold DataReplicaSet.reconcile
  split
  · trivial
  unfold DataReplicaSet.reconcileReplicas
  refine Prog.wp_bind (wp_orReturn (fun ns hns => ?_) fun e _ => trivial)
  have none : PlacedAll self [] [] := ⟨by simp, rfl, rfl⟩
  exact Prog.wp_bind (wp_request trivial (fun pods _ => compareCount_claims
    (eq_some_of_okOr hns) (none.append rfl rfl) (List.length pods)) fun e _ => trivial)

end

/-! ## The claims of the cluster -/

/-- The reconcilers in a cluster where `changes` happen. -/
def reconcilers (selects : Selects) (changes : Cluster → Cluster → Prop) :
    Service signature Cluster Pass (Fault Error) Action :=
  { clusterService selects with disturbs := changes }

/-- In one of the steps a pass over a set has made the claim, for a `DataPod` and a `DataNode`
that it had seen. -/
def MadeBySet (labels : List (Label signature Pass)) (claim : PersistentVolumeClaim) : Prop :=
  ∃ self past ns sent, ClaimMade self past sent ∧
    .answered (.reconcileSet self) past ⟨.kube (.createPvc ns sent), Except.ok claim⟩ ∈ labels

section
variable {selects : Selects} {changes : Cluster → Cluster → Prop} {s₀ : Cluster}
  {steps : List ClusterTransition} {P : ClusterPool} {claim : PersistentVolumeClaim}

/-- A claim that was not there has been made by the call. -/
lemma mem_next_pvcs {s : Cluster} {c : Call} {a : c.Reply} (h : claim ∈ (s.next c a).pvcs) :
    claim ∈ s.pvcs ∨
      ∃ ns sent, (⟨c, a⟩ : Event signature) = ⟨.kube (.createPvc ns sent), Except.ok claim⟩ := by
  rcases c with c | c | c | c | c | _ | _
  case kube =>
    rcases a with e | object
    · exact .inl h
    cases c
    case createPvc ns sent =>
      rcases List.mem_append.mp h with h | h
      · exact .inl h
      · obtain rfl := List.mem_singleton.mp h
        exact .inr ⟨ns, sent, rfl⟩
    case applyDataPod ns name patch =>
      have same := Cluster.putDataPod_pvcs s ns name object
      exact .inl (same ▸ h)
    all_goals exact .inl h
  all_goals exact .inl h

/-- Only a pass over a set makes pods. -/
lemma set_of_createPod {σ : Type} {R : σ → (c : Call) → c.Reply → σ → Prop} {r : Pass}
    {s s' : σ} {past : List (Event signature)} {ns : String} {sent : Pod}
    {q : Reconcile Action} {a : Except KubeError Pod}
    (run : Prog.Exec (S := signature) R r.program s
      (past ++ [⟨.kube (.createPod ns sent), a⟩]) q s') :
    ∃ self, r = .reconcileSet self ∧ ∃ source sourceNode sourcePvc replicas,
      PodMade self past sent source sourceNode sourcePvc replicas := by
  obtain ⟨self, rfl, _⟩ :=
    run.uses (program_sends r) _ (List.mem_append_right _ List.mem_cons_self)
  have allowed := Prog.wp_event reconcileSet_claims run fun _ _ _ _ _ _ => trivial
  rw [claimMonitor, Monitor.history_after] at allowed
  exact ⟨self, rfl, allowed⟩

/-- Only a pass over a set makes claims. -/
lemma set_of_createPvc {σ : Type} {R : σ → (c : Call) → c.Reply → σ → Prop} {r : Pass}
    {s s' : σ} {past : List (Event signature)} {ns : String} {sent : PersistentVolumeClaim}
    {q : Reconcile Action} {a : Except KubeError PersistentVolumeClaim}
    (run : Prog.Exec (S := signature) R r.program s
      (past ++ [⟨.kube (.createPvc ns sent), a⟩]) q s') :
    ∃ self, r = .reconcileSet self ∧ ClaimMade self past sent := by
  obtain ⟨self, rfl, _⟩ :=
    run.uses (program_sends r) _ (List.mem_append_right _ List.mem_cons_self)
  have allowed := Prog.wp_event reconcileSet_claims run fun _ _ _ _ _ _ => trivial
  rw [claimMonitor, Monitor.history_after] at allowed
  exact ⟨self, rfl, allowed⟩

/-- Where nobody else makes claims or writes what `f` reads of one, every claim is there from the
start or was made by a pass over a set, as far as its uid and `f` go. -/
theorem claim_origin {β : Type} {f : PersistentVolumeClaim → β}
    (others : ∀ s s', changes s s' → ∀ k ∈ s'.pvcs, SameAs uidOf f s.pvcs k)
    (run : (reconcilers selects changes).Run s₀ steps P) (h : claim ∈ P.state.pvcs) :
    SameAs uidOf f s₀.pvcs claim ∨ ∃ made, uidOf claim = uidOf made ∧ f claim = f made ∧
      MadeBySet (steps.map Service.Transition.label) made := by
  induction run generalizing claim with
  | start => exact .inl (.of_mem h)
  | @step steps P P' l run last ih =>
    rw [List.map_append]
    have earlier : ∀ claim ∈ P.state.pvcs, SameAs uidOf f s₀.pvcs claim ∨
        ∃ made, uidOf claim = uidOf made ∧ f claim = f made ∧
          MadeBySet (steps.map Service.Transition.label ++ [l]) made := by
      intro claim h
      refine (ih h).imp_right ?_
      rintro ⟨made, huid, hf, self, past, ns, sent, asked, hmem⟩
      exact ⟨made, huid, hf, self, past, ns, sent, asked, List.mem_append_left _ hmem⟩
    cases l with
    | arrives r =>
      rw [Service.step_arrives last] at h
      exact earlier claim h
    | disturbed =>
      cases last with
      | disturb moved =>
        obtain ⟨old, hold, huid, hf⟩ := others _ _ moved claim h
        rcases earlier old hold with same | ⟨made, huid', hf', hmade⟩
        · exact .inl (same.congr huid hf)
        · exact .inr ⟨made, huid.trans huid', hf.trans hf', hmade⟩
    | answered r past e =>
      obtain ⟨c, a⟩ := e
      obtain ⟨_, _, _, _, ⟨_, hstate⟩, _⟩ := Service.step_answered last
      rw [hstate] at h
      rcases mem_next_pvcs h with h | ⟨ns, sent, heq⟩
      · exact earlier claim h
      · rw [heq] at last ⊢
        obtain ⟨q, exec⟩ := run.exec_of_step last
        obtain ⟨self, rfl, asked⟩ := set_of_createPvc exec
        exact .inr ⟨claim, rfl, rfl, self, past, ns, sent, asked,
          List.mem_append_right _ (List.mem_singleton.mpr rfl)⟩

end

end Kubedal
