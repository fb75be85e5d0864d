import Kubedal.Resource.ReplicaLabels

/-!
# The node of the source

A pass over a `DataReplicaSet` takes the first owner of the source for its `DataNode`, while the
controller of `DataPod`s records the `DataNode` in the spec and adds it to the owners that others
have set.

* `NamesNode` says that the two agree, `Unobstructed` is the condition on an apply;
* `names_node_of_run`: they agree for all `DataPod`s of a run whose applies meet the condition;
* `UsesNode` says which node a pass over the set uses, `source_node_identified` puts the two
  together.
-/

namespace Kubedal

open Interaction Kube Resource

/-! ## Owners after an apply -/

/-- A controller has applied the `DataPod`. -/
def Processed (pod : DataPod) : Prop :=
  ∃ e ∈ pod.metadata.managedFields, e.manager = Cluster.manager

/-- The first owner has the name of the `DataNode` in the spec. -/
def NamesNode (pod : DataPod) : Prop :=
  ∃ ref owner, pod.spec.dataNodeRef = some ref ∧ (ownerReferences pod).head? = some owner ∧
    owner.name = ref.name

/-- The first owner that an apply of `owner` keeps, if any, is the same or of the same name. -/
def Yields (m : ObjectMeta) (owner : OwnerReference) : Prop :=
  ∀ ref, (m.keptOwners Cluster.manager).head? = some ref →
    ref.uid = owner.uid ∨ ref.name = owner.name

lemma head_applyOwners {m : ObjectMeta} {owner : OwnerReference} (h : Yields m owner) :
    ∃ first, (m.applyOwners Cluster.manager [owner]).owners.head? = some first ∧
      first.name = owner.name := by
  have howners : (m.applyOwners Cluster.manager [owner]).owners =
      (m.keptOwners Cluster.manager).map
        (fun ref => ([owner].find? fun r => r.uid = ref.uid).getD ref) ++
      [owner].filter fun ref => ref.uid ∉ (m.keptOwners Cluster.manager).map OwnerReference.uid :=
    rfl
  rw [howners]
  cases hkept : m.keptOwners Cluster.manager with
  | nil => exact ⟨owner, by simp, rfl⟩
  | cons ref rest =>
    have hfirst := h ref (by rw [hkept]; rfl)
    rw [List.map_cons, List.cons_append, List.head?_cons]
    refine ⟨_, rfl, ?_⟩
    by_cases huid : owner.uid = ref.uid
    · simp [huid]
    · have hname : ref.name = owner.name := hfirst.resolve_left fun heq => huid heq.symm
      simp [huid, hname]

lemma namesNode_applied {old : DataPod} {patch : DataPodPatch} {owner : OwnerReference}
    {version : String} (sent : SentPatch patch owner) (h : Yields old.metadata owner) :
    NamesNode (Cluster.applied old patch version) := by
  obtain ⟨howners, ref, href, hname⟩ := sent
  obtain ⟨first, hfirst, hsame⟩ := head_applyOwners h
  refine ⟨ref, first, ?_, ?_, hsame.trans hname.symm⟩
  · show patch.spec.dataNodeRef.or old.spec.dataNodeRef = some ref
    rw [href]
    rfl
  · show (old.metadata.applyOwners Cluster.manager
      (patch.metadata.ownerReferences.getD [])).owners.head? = some first
    rw [howners]
    exact hfirst

/-- A `DataPod` that an apply creates has one owner. -/
lemma namesNode_appliedNew {ns name uid version : String} {patch : DataPodPatch}
    {owner : OwnerReference} (sent : SentPatch patch owner) :
    NamesNode (Cluster.appliedNew ns name uid patch version) := by
  obtain ⟨howners, ref, href, hname⟩ := sent
  refine ⟨ref, owner, href, ?_, hname.symm⟩
  show (ObjectMeta.applyOwners _ Cluster.manager
    (patch.metadata.ownerReferences.getD [])).owners.head? = some owner
  rw [howners]
  rfl

/-! ## The system -/

/-- What others do: they add `DataPod`s that no controller has applied, and leave the `DataNode`
and the owners of the other ones alone. -/
def LeavesProcessed (s s' : Cluster) : Prop :=
  ∀ pod ∈ s'.dataPods, Processed pod → ∃ old ∈ s.dataPods, Processed old ∧
    pod.spec.dataNodeRef = old.spec.dataNodeRef ∧
    pod.metadata.ownerReferences = old.metadata.ownerReferences

/-- Passes of the controllers over any objects, in any interleaving; any request may fail. -/
def ownersService (selects : Selects) : Service signature Cluster Pass (Fault Error) Action where
  program := Pass.program
  admits := fun _ _ => True
  answers := clusterEnv selects True
  disturbs := LeavesProcessed

/-- If the call has applied a `DataPod` that was there, its first owner yields to the one
applied. -/
def Unobstructed (s : Cluster) : (c : Call) → c.Reply → Prop
  | .kube (.applyDataPod ns name patch), Except.ok _ =>
    ∀ old, getFrom s.dataPods ns name = .ok old →
      ∀ owner ∈ patch.metadata.ownerReferences.getD [], Yields old.metadata owner
  | _, _ => True

/-- Every call of the run is unobstructed in the state it is answered in. -/
def AllUnobstructed (steps : List ClusterTransition) : Prop :=
  ∀ x ∈ steps, ∀ r past e, x.label = .answered r past e →
    Unobstructed x.source.state e.call e.reply

/-- Every `DataPod` that was applied names its `DataNode`. -/
def AllNameNode (s : Cluster) : Prop := ∀ pod ∈ s.dataPods, Processed pod → NamesNode pod

/-- A pass applies only patches of the controller of `DataPod`s. -/
def SendsPatch : Call → Prop
  | .kube (.applyDataPod _ _ patch) => ∃ owner, SentPatch patch owner
  | _ => True

lemma program_sendsPatch (r : Pass) : r.program.Uses SendsPatch := by
  cases r with
  | reconcileSet self =>
    apply uses_reconcileSet
    all_goals intros; trivial
  | reconcilePod self =>
    apply uses_reconcilePod
    case ha => exact fun _ _ _ owner h => ⟨owner, h⟩
    all_goals intros; trivial
  | reconcileNode self =>
    apply uses_reconcileNode
    all_goals intros; trivial
  | cleanupSet self => exact uses_deleteRequested self fun _ _ => trivial
  | cleanupPod self => exact uses_deleteRequested self fun _ _ => trivial
  | cleanupNode self => exact uses_deleteRequested self fun _ _ => trivial

section
variable {selects : Selects} {s s' : Cluster}

/-- A replica that is created has not been applied yet. -/
lemma not_processed_created {ns : String} {sent pod : DataPod}
    (h : s.Replies selects (.createDataPod ns sent) (.ok pod)) : ¬ Processed pod := by
  obtain ⟨name, uid, version, _, _, _, rfl⟩ := h
  rintro ⟨e, he, hmanager⟩
  rw [List.mem_singleton.mp he] at hmanager
  have hempty : ("" : String) = Cluster.manager := hmanager
  exact absurd hempty (by decide)

lemma namesNode_of_apply {ns name : String} {patch : DataPodPatch} {owner : OwnerReference}
    {pod : DataPod} (sent : SentPatch patch owner)
    (open' : Unobstructed s (.kube (.applyDataPod ns name patch)) (Except.ok pod))
    (h : s.Replies selects (.applyDataPod ns name patch) (.ok pod)) : NamesNode pod := by
  have howner : owner ∈ patch.metadata.ownerReferences.getD [] := by
    rw [sent.owners]
    exact List.mem_singleton_self owner
  rcases applied_of_replies h with
    ⟨old, version, hget, rfl⟩ | ⟨e, uid, version, _, _, rfl⟩
  · exact namesNode_applied sent (open' old hget owner howner)
  · exact namesNode_appliedNew sent

lemma allNameNode_put {ns name : String} {object : DataPod} (names : AllNameNode s)
    (applied : NamesNode object) : AllNameNode (s.putDataPod ns name object) := by
  intro pod hpod processed
  unfold Cluster.putDataPod at hpod
  split at hpod
  · obtain ⟨d, hd, heq⟩ := List.mem_map.mp hpod
    by_cases hat : At ns name d
    · rw [if_pos hat] at heq
      rw [← heq]
      exact applied
    · rw [if_neg hat] at heq
      rw [← heq] at processed ⊢
      exact names d hd processed
  · rcases List.mem_append.mp hpod with hpod | hpod
    · exact names pod hpod processed
    · rw [List.mem_singleton.mp hpod]
      exact applied

/-- One call keeps the names, if it is unobstructed. -/
lemma allNameNode_next {c : Call} {a : c.Reply} (names : AllNameNode s) (sends : SendsPatch c)
    (open' : Unobstructed s c a) (answered : s.Answers selects True c a) :
    AllNameNode (s.next c a) := by
  rcases c with c | c | c | c | c | _ | _
  case kube =>
    rcases a with e | object
    · exact names
    cases c
    case createDataPod ns sent =>
      intro pod hpod processed
      rcases List.mem_append.mp hpod with hpod | hpod
      · exact names pod hpod processed
      · rw [List.mem_singleton.mp hpod] at processed
        exact absurd processed (not_processed_created (replies_of_answers answered))
    case applyDataPod ns name patch =>
      obtain ⟨owner, sent⟩ := sends
      have applied : NamesNode object :=
        namesNode_of_apply sent open' (replies_of_answers answered)
      exact allNameNode_put names applied
    all_goals exact names
  all_goals exact names

/-- What others do keeps the names. -/
lemma allNameNode_disturbed (names : AllNameNode s) (leaves : LeavesProcessed s s') :
    AllNameNode s' := by
  intro pod hpod processed
  obtain ⟨old, hold, hprocessed, href, howners⟩ := leaves pod hpod processed
  obtain ⟨ref, owner, hnodeRef, hfirst, hname⟩ := names old hold hprocessed
  refine ⟨ref, owner, href.trans hnodeRef, ?_, hname⟩
  have hlist : ownerReferences pod = ownerReferences old :=
    congrArg (fun refs => refs.getD []) howners
  rw [hlist]
  exact hfirst

/-- In a run whose applies are unobstructed, every `DataPod` that was applied names its node. -/
lemma names_node_of_run {s₀ : Cluster} {steps : List ClusterTransition} {P : ClusterPool}
    (fresh : ∀ pod ∈ s₀.dataPods, ¬ Processed pod) (run : (ownersService selects).Run s₀ steps P)
    (unobstructed : AllUnobstructed steps) : AllNameNode P.state := by
  induction run with
  | start => exact fun pod hpod processed => absurd processed (fresh pod hpod)
  | @step steps P P' l run last ih =>
    have names := ih fun x hx => unobstructed x (List.mem_append_left _ hx)
    cases l with
    | arrives r =>
      rw [Service.step_arrives last]
      exact names
    | answered r past e =>
      have hlast :=
        unobstructed ⟨P, _, P'⟩ (List.mem_append_right _ List.mem_cons_self) r past e rfl
      have sends : SendsPatch e.call := run.uses_of_step last (program_sendsPatch r)
      obtain ⟨_, _, _, _, ⟨answered, hstate⟩, _⟩ := Service.step_answered last
      rw [hstate]
      exact allNameNode_next names sends hlast answered
    | disturbed =>
      cases last with
      | disturb moved => exact allNameNode_disturbed names moved

end

/-! ## The node that a pass uses -/

/-- The annotation of a claim that says on which `DataNode` its `DataPod` is. -/
def nodeAnnotation (m : ObjectMeta) : Option String :=
  (m.annotations.getD ∅).lookup "kubedal.arunaengine.org/data-node-name"

/-- The call uses the `DataNode` of that name as the one of the source: no other is asked for, the
claim for the source is on it, and a replica is on a `DataNode` with another uid. -/
def Call.UsesNode (ns node : String) (source : DataPod) (s : Cluster) : Call → Prop
  | .kube (.getDataNode ns' name) => ns' = ns ∧ name = node
  | .kube (.createPvc _ pvc) =>
    podAnnotation pvc.metadata = some (nameAny source) → nodeAnnotation pvc.metadata = some node
  | .kube (.createDataPod _ sent) =>
    ∃ sourceNode ∈ s.dataNodes, At ns node sourceNode ∧ ∃ target ∈ s.dataNodes,
      target.metadata.uid ≠ sourceNode.metadata.uid ∧
        sent.spec.dataNodeRef = some ⟨nameAny target, namespaceOf target⟩
  | _ => True

/-- Whatever fails, a pass over the set uses the `DataNode` in the spec of the source, if a
controller has applied the source. -/
def IdentifiesNode (selects : Selects) (drs : DataReplicaSet) (s : Cluster) : Prop :=
  ∀ ns source, namespaceOf drs = some ns →
    getFrom s.dataPods ns drs.spec.sourcePod.name = .ok source → Processed source →
      ∃ ref, source.spec.dataNodeRef = some ref ∧ ∀ τ q s',
        Prog.Exec (clusterEnv selects True) drs.reconcile s τ q s' →
          ∀ e ∈ τ, e.call.UsesNode ns ref.name source s

/-- The environment of a pass as a monitor that allows the calls that use the node. -/
def nodeMonitor (selects : Selects) (ns node : String) (source : DataPod) (s : Cluster) :
    Monitor signature Cluster where
  allows := fun _ c => c.UsesNode ns node source s
  assumes := fun s' c a => s'.Answers selects True c a
  next := Cluster.next

/-- What the calls of a pass keep: the `DataNode`s, and the source. -/
structure KeepsSource (drs : DataReplicaSet) (ns : String) (source : DataPod) (s s' : Cluster) :
    Prop where
  dataNodes : s'.dataNodes = s.dataNodes
  source : getFrom s'.dataPods ns drs.spec.sourcePod.name = .ok source

section
variable {selects : Selects} {drs : DataReplicaSet} {ns node : String} {source : DataPod}
  {s s' : Cluster}

lemma wp_node_request {c : KubeCall} {Q : Cluster → Except (Fault Error) c.Object → Prop}
    (allowed : Call.UsesNode ns node source s (.kube c))
    (ok : ∀ object, s'.Replies selects c (.ok object) → Q (s'.nextKube c object) (.ok object))
    (error : ∀ e, Q s' (.error e)) :
    (request c).wp (nodeMonitor selects ns node source s) s' Q := by
  apply wp_request allowed
  · intro object assumed
    exact ok object (replies_of_answers assumed)
  · intro e assumed
    exact error _

/-- The replica that is created has another name than the source. -/
lemma createReplicaDataPod_usesNode {index : ℕ} {sourceNode target : DataNode}
    {Q : Cluster → Except (Fault Error) DataPod → Prop}
    (keeps : KeepsSource drs ns source s s') (hsource : sourceNode ∈ s.dataNodes)
    (hnode : At ns node sourceNode) (htarget : target ∈ s.dataNodes)
    (other : target.metadata.uid ≠ sourceNode.metadata.uid)
    (ok : ∀ s'' pod, KeepsSource drs ns source s s'' → nameAny pod ≠ nameAny source →
      Q s'' (.ok pod))
    (error : ∀ e, Q s' (.error e)) :
    (createReplicaDataPod index drs target ns).wp (nodeMonitor selects ns node source s) s' Q := by
  unfold createReplicaDataPod
  apply Prog.wp_bind
  refine wp_orReturn (fun uid huid => ?_) fun _ _ => error _
  apply Prog.wp_bind
  refine wp_orReturn (fun drsNs _ => ?_) fun _ _ => error _
  apply Prog.wp_bind
  refine wp_orReturn (fun owner howner => ?_) fun _ _ => error _
  apply wp_node_request
  · exact ⟨sourceNode, hsource, hnode, target, htarget, other, rfl⟩
  · intro (pod : DataPod) created
    obtain ⟨name, podUid, version, hname, free, _, hpod⟩ := created
    cases hname
    apply ok
    · exact ⟨keeps.dataNodes, getFrom_append keeps.source _⟩
    · -- the source has a name that is taken
      intro heq
      obtain ⟨hmem, hat⟩ := getFrom_ok keeps.source
      have hname : nameAny pod = replicaName uid index := by
        rw [hpod]
        rfl
      rw [nameAny_of_at hat, hname] at heq
      rw [← heq] at hat
      exact free source hmem hat
  · exact error

lemma replicaPvc_annotations (dataPod : DataPod) (dataNode : DataNode) (drs : DataReplicaSet)
    (access : MountAccess) (suffix : String) (owner : OwnerReference) :
    podAnnotation (replicaPvc dataPod dataNode drs access suffix owner).metadata =
        some (nameAny dataPod) ∧
      nodeAnnotation (replicaPvc dataPod dataNode drs access suffix owner).metadata =
        some (nameAny dataNode) := by
  unfold podAnnotation nodeAnnotation replicaPvc
  constructor
  · simp [StringMap.ofList, AList.lookup_insert, AList.lookup_insert_ne]
  · simp only [StringMap.ofList, List.foldl_cons, List.foldl_nil, Option.getD_some]
    rw [AList.lookup_insert_ne (by decide), AList.lookup_insert_ne (by decide),
      AList.lookup_insert_ne (by decide), AList.lookup_insert_ne (by decide), AList.lookup_insert]

/-- A claim for the source has to be on the node. -/
lemma createReplicaPvc_usesNode {dataPod : DataPod} {dataNode : DataNode} {access : MountAccess}
    {Q : Cluster → Except (Fault Error) PersistentVolumeClaim → Prop}
    (keeps : KeepsSource drs ns source s s')
    (onNode : nameAny dataPod = nameAny source → nameAny dataNode = node)
    (ok : ∀ s'' pvc, KeepsSource drs ns source s s'' → Q s'' (.ok pvc))
    (error : ∀ e, Q s' (.error e)) :
    (createReplicaPvc dataPod dataNode drs access ns).wp (nodeMonitor selects ns node source s) s'
      Q := by
  unfold createReplicaPvc
  apply Prog.wp_bind
  have suffix : randSuffix.wp (nodeMonitor selects ns node source s) s' fun s'' result =>
      s'' = s' ∧ ∃ suffix, result = .ok suffix :=
    Prog.wp_bind (wp_perform trivial fun sampled _ => ⟨rfl, _, rfl⟩)
  apply Prog.wp_mono suffix
  intro s'' result h
  obtain ⟨rfl, suffix, rfl⟩ := h
  apply Prog.wp_bind
  refine wp_orReturn (fun owner howner => ?_) fun _ _ => error _
  apply wp_node_request
  · intro hpod
    obtain ⟨hforPod, hforNode⟩ := replicaPvc_annotations dataPod dataNode drs access suffix owner
    rw [hforPod] at hpod
    rw [hforNode, onNode (Option.some.inj hpod)]
  · intro pvc _
    exact ok _ pvc ⟨keeps.dataNodes, keeps.source⟩
  · exact error

/-- The loop places replicas on the nodes that it is given. -/
lemma createReplicas_usesNode {sourceNode : DataNode} (hsource : sourceNode ∈ s.dataNodes)
    (hnode : At ns node sourceNode) (indices : List ℕ) (nodes : List DataNode)
    (acc : List (DataPod × PersistentVolumeClaim))
    (others : ∀ target ∈ nodes, target ∈ s.dataNodes ∧
      target.metadata.uid ≠ sourceNode.metadata.uid)
    (keeps : KeepsSource drs ns source s s') :
    (createReplicas drs ns indices nodes acc).wp (nodeMonitor selects ns node source s) s'
      fun s'' _ => KeepsSource drs ns source s s'' := by
  induction indices generalizing nodes acc s' with
  | nil => exact keeps
  | cons index rest ih =>
    unfold createReplicas
    cases hlast : nodes.getLast? with
    | none => exact keeps
    | some target =>
      obtain ⟨htarget, other⟩ := others target (List.mem_of_getLast? hlast)
      apply Prog.wp_bind
      apply createReplicaDataPod_usesNode keeps hsource hnode htarget other
      · intro s₁ pod keeps₁ hname
        apply Prog.wp_bind
        apply createReplicaPvc_usesNode keeps₁
        · exact fun heq => absurd heq hname
        · intro s₂ pvc keeps₂
          apply ih _ _ _ keeps₂
          exact fun target htarget => others target (List.mem_of_mem_dropLast htarget)
        · exact fun _ => keeps₁
      · exact fun _ => keeps

/-- The first owner is asked for, which has the name of the node. -/
lemma fetchSource_usesNode {Q : Cluster → Except (Fault Error) (DataPod × DataNode) → Prop}
    (keeps : KeepsSource drs ns source s s')
    (first : ∀ owner, (ownerReferences source).head? = some owner → owner.name = node)
    (ok : ∀ sourceNode ∈ s.dataNodes, At ns node sourceNode → Q s' (.ok (source, sourceNode)))
    (error : ∀ e, Q s' (.error e)) :
    (drs.fetchSource ns).wp (nodeMonitor selects ns node source s) s' Q := by
  unfold DataReplicaSet.fetchSource
  apply Prog.wp_bind
  apply wp_node_request
  · trivial
  · intro (found : DataPod) hfound
    have hget : Except.ok found = getFrom s'.dataPods ns drs.spec.sourcePod.name := hfound
    rw [keeps.source] at hget
    rw [Except.ok.inj hget]
    apply Prog.wp_bind
    refine wp_orReturn (fun owner howner => ?_) fun _ _ => error _
    have hname : owner.name = node := first owner (eq_some_of_okOr howner)
    apply Prog.wp_bind
    apply wp_node_request
    · exact ⟨rfl, hname⟩
    · intro (sourceNode : DataNode) hsourceNode
      have hgetNode : .ok sourceNode = getFrom s'.dataNodes ns owner.name := hsourceNode
      rw [keeps.dataNodes, hname] at hgetNode
      obtain ⟨hmem, hat⟩ := getFrom_ok hgetNode.symm
      exact ok sourceNode hmem hat
    · exact error
  · exact error

lemma createMissing_usesNode (count : ℕ) (keeps : KeepsSource drs ns source s s')
    (first : ∀ owner, (ownerReferences source).head? = some owner → owner.name = node) :
    (drs.createMissing ns count).wp (nodeMonitor selects ns node source s) s' fun _ _ => True := by
  unfold DataReplicaSet.createMissing
  apply Prog.wp_bind
  apply fetchSource_usesNode keeps first
  · intro sourceNode hsource hnode
    apply Prog.wp_bind
    apply wp_node_request
    · trivial
    · intro (nodes : List DataNode) listed
      have hnodes : Except.ok nodes = .ok (s'.dataNodes.filter fun n => InNamespace ns n) := listed
      apply Prog.wp_bind
      apply Prog.wp_mono (createReplicas_usesNode hsource hnode _ _ _ ?_ keeps)
      · intro s₁ result keeps₁
        rcases result with e | replicas
        · trivial
        · apply Prog.wp_bind
          apply createReplicaPvc_usesNode keeps₁
          · exact fun _ => nameAny_of_at hnode
          · intro s₂ pvc _
            apply Prog.wp_bind
            have sync : (createReplicaPod drs source pvc replicas ns).Uses
                (Call.UsesNode ns node source s) :=
              uses_createReplicaPod trivial fun _ _ => trivial
            apply sync.wp_invariant (fun _ => True) (fun _ _ hc _ => hc)
            · exact fun _ _ _ _ _ _ => trivial
            · trivial
            · intro s₃ result _
              rcases result with e | _
              all_goals trivial
          · exact fun _ => trivial
      · -- the nodes are the listed ones with another uid
        intro target htarget
        obtain ⟨hmem, hother⟩ := List.mem_filter.mp htarget
        rw [Except.ok.inj hnodes, keeps.dataNodes] at hmem
        exact ⟨(List.mem_filter.mp hmem).1, by simpa using hother⟩
    · exact fun _ => trivial
  · exact fun _ => trivial

lemma reconcile_usesNode (hns : namespaceOf drs = some ns)
    (hsource : getFrom s.dataPods ns drs.spec.sourcePod.name = .ok source)
    (first : ∀ owner, (ownerReferences source).head? = some owner → owner.name = node) :
    drs.reconcile.wp (nodeMonitor selects ns node source s) s fun _ _ => True := by
  have keeps : KeepsSource drs ns source s s := ⟨rfl, hsource⟩
  unfold DataReplicaSet.reconcile
  split
  · trivial
  · unfold DataReplicaSet.reconcileReplicas
    rw [hns]
    show Prog.wp _ (request _ >>= _) _ _
    apply Prog.wp_bind
    apply wp_node_request
    · trivial
    · intro (pods : List DataPod) _
      show Prog.wp _ (drs.compareCount ns pods.length) s _
      unfold DataReplicaSet.compareCount
      split
      · trivial
      split
      · apply Prog.wp_bind
        apply Prog.wp_mono (createMissing_usesNode pods.length keeps first)
        intro s' result _
        rcases result with e | _
        all_goals trivial
      · trivial
    · exact fun _ => trivial

/-- A source that names its node is identified. -/
lemma identifiesNode_of_names (names : AllNameNode s) : IdentifiesNode selects drs s := by
  intro ns source hns hsource processed
  obtain ⟨ref, owner, href, hfirst, hname⟩ := names source (getFrom_ok hsource).1 processed
  refine ⟨ref, href, fun τ q s' run e he => ?_⟩
  have first : ∀ owner', (ownerReferences source).head? = some owner' → owner'.name = ref.name := by
    intro owner' howner'
    rw [hfirst] at howner'
    rw [← Option.some.inj howner']
    exact hname
  obtain ⟨past, later, rfl⟩ := List.append_of_mem he
  obtain ⟨k, s₁, s₂, before, _, _⟩ := run.split
  have allowed := Prog.wp_exec_self (fun _ _ _ _ answered => answered)
    (reconcile_usesNode hns hsource first) before
  exact allowed.1

end

/-- In every run whose applies are unobstructed, a pass over any set uses the `DataNode` of its
source. -/
theorem source_node_identified {selects : Selects} {s₀ : Cluster} {steps : List ClusterTransition}
    {P : ClusterPool} (fresh : ∀ pod ∈ s₀.dataPods, ¬ Processed pod)
    (run : (ownersService selects).Run s₀ steps P) (unobstructed : AllUnobstructed steps)
    (drs : DataReplicaSet) : IdentifiesNode selects drs P.state :=
  identifiesNode_of_names (names_node_of_run fresh run unobstructed)

/-! ## A replica as the source -/

instance : DecidablePred Processed := fun pod =>
  inferInstanceAs (Decidable (∃ e ∈ pod.metadata.managedFields, e.manager = Cluster.manager))

/-- A set whose source is the first replica of another one. -/
def replicaSourceSet : DataReplicaSet where
  metadata := { name := some "other", ns := some "default", uid := some "9" }
  spec := { (sampleSet 1).spec with sourcePod := ⟨"0-replica-0", none⟩ }
  status := none

/-- The replica that a pass over the sample set places on the node `m`. -/
def placedReplica : DataPod where
  metadata :=
    { name := some "0-replica-0"
      ns := some "default"
      uid := some (freshUid ["0", "1", "2", "3", "4"])
      resourceVersion := some ""
      ownerReferences := some [⟨"kubedal.arunaengine.org/v1alpha1", "DataReplicaSet", "set", "0"⟩]
      managedFields := [⟨"", ["0"]⟩] }
  spec := ⟨some "/replica-0", some ⟨"m", some "default"⟩, none, none⟩
  status := none

/-- The first owner of a replica is the set that has created it, so a `DataNode` with the name of
that set is asked for. -/
theorem replica_source_not_identified :
    ¬ ∀ (selects : Selects) (s₀ : Cluster) (steps : List ClusterTransition) (P : ClusterPool),
      (∀ pod ∈ s₀.dataPods, ¬ Processed pod) → (ownersService selects).Run s₀ steps P →
        ∀ drs, IdentifiesNode selects drs P.state := by
  intro claim
  -- the replica is placed, the controller of `DataPod`s applies it, and another set uses it
  obtain ⟨done, s, source, τ, q, s', e, hserial, hsource, hprocessed, hnode, hfollow, he, hcall⟩ :
      ∃ done s source τ q s' e,
      (ownersService sampleSelects).serial (fun _ => Cluster.serve sampleSelects) 40
        [.reconcileSet (sampleSet 1), .reconcilePod placedReplica]
        (sampleCluster 1 [sampleNode "m" "3"] []) = some (done, s) ∧
      getFrom s.dataPods "default" "0-replica-0" = .ok source ∧ Processed source ∧
      source.spec.dataNodeRef = some ⟨"m", some "default"⟩ ∧
      replicaSourceSet.reconcile.follow (Cluster.serve sampleSelects) 40 s = some (τ, q, s') ∧
      τ.getLast? = some e ∧ e.call = .kube (.getDataNode "default" "set") :=
    ⟨_, _, _, _, _, _, _, rfl, rfl, by decide, rfl, rfl, rfl, rfl⟩
  have sound : ∀ s c a s', Cluster.serve sampleSelects s c = some (a, s') →
      clusterEnv sampleSelects True s c a s' :=
    fun _ _ _ _ h => clusterEnv_of_reliable (clusterEnv_of_serve h)
  obtain ⟨steps, run, _, _⟩ := Service.Run.serial (fun _ => sound) (fun _ _ _ => trivial) .start
    hserial
  obtain ⟨ref, href, uses⟩ := claim _ _ _ _ (by decide) run replicaSourceSet "default" source rfl
    hsource hprocessed
  have hasked := uses _ _ _ (Prog.exec_of_follow sound hfollow) e (List.mem_of_getLast? he)
  rw [hcall] at hasked
  rw [hnode] at href
  cases href
  exact absurd hasked.2 (by decide)

/-- The call applies no `DataPod` that has an owner which others have set. -/
def Cluster.appliesAlone (s : Cluster) : Call → Bool
  | .kube (.applyDataPod ns name _) =>
    (getFrom s.dataPods ns name).toOption.all fun old =>
      (old.metadata.keptOwners Cluster.manager).isEmpty
  | _ => true

lemma unobstructed_of_appliesAlone {s : Cluster} {c : Call} {a : c.Reply}
    (h : s.appliesAlone c = true) : Unobstructed s c a := by
  unfold Unobstructed
  split
  · rename_i ns name patch applied
    intro old hold owner howner ref href
    have hall : (getFrom s.dataPods ns name).toOption.all fun old =>
        (old.metadata.keptOwners Cluster.manager).isEmpty := h
    rw [hold] at hall
    have hempty : old.metadata.keptOwners Cluster.manager = [] := List.isEmpty_iff.mp hall
    rw [hempty] at href
    cases href
  · trivial

/-- The `DataPod` of the sample cluster as a client has created it. -/
def ownerlessCluster : Cluster where
  dataNodes := [sampleNode "n" "1"]
  dataPods := [{ samplePod "source" "2" ∅ with metadata :=
    { (samplePod "source" "2" ∅).metadata with ownerReferences := none } }]
  replicaSets := [sampleSet 1]
  pvcs := []
  pods := []
  uids := ["0", "1", "2"]

/-- A `DataPod` without owners is applied. -/
theorem source_node_identified_one : ∃ (steps : List ClusterTransition) (P : ClusterPool),
    (ownersService sampleSelects).Run ownerlessCluster steps P ∧
      (∃ pod ∈ P.state.dataPods, Processed pod) ∧
      IdentifiesNode sampleSelects (sampleSet 1) P.state := by
  obtain ⟨done, s, hserial, hprocessed⟩ : ∃ done s,
      (ownersService sampleSelects).serial
        (fun _ => serveIf Cluster.appliesAlone (Cluster.serve sampleSelects)) 40
        [.reconcilePod (samplePod "source" "2" ∅)] ownerlessCluster = some (done, s) ∧
      ∃ pod ∈ s.dataPods, Processed pod :=
    ⟨_, _, rfl, by decide⟩
  have sound : ∀ s c a s', Cluster.serve sampleSelects s c = some (a, s') →
      clusterEnv sampleSelects True s c a s' :=
    fun _ _ _ _ h => clusterEnv_of_reliable (clusterEnv_of_serve h)
  obtain ⟨steps, run, hserved, _⟩ := Service.Run.serial
    (fun _ s c a s' h => sound s c a s' (of_serveIf h).2) (fun _ _ _ => trivial) .start hserial
  refine ⟨steps, _, run, hprocessed, source_node_identified (by decide) run ?_ _⟩
  intro x hx r past e hlabel
  rcases hserved x hx with ⟨r', harrives⟩ | ⟨r', past', c, a, hlabel', hserve⟩
  · rw [hlabel] at harrives
    cases harrives
  · rw [hlabel] at hlabel'
    cases hlabel'
    exact unobstructed_of_appliesAlone (of_serveIf hserve).1

end Kubedal
