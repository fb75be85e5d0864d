import Kubedal.Resource.ControllerPanics
import Kubedal.Services.NodeMonitor

/-!
# References between resources

A `Ref` names a resource in a namespace, which defaults to that of the object that holds it.

* `Reconciled.Resolves` and `Reconciled.Keeps` say that an object's reference is resolved by
  this rule and that no controller changes its namespace;
* `reference_honoured_iff`: for a `secretRef` both hold, for the other references exactly if
  they stay in the namespace of the object.
-/

namespace Kubedal

open Interaction Kube Resource

/-! ## References -/

namespace Reconciled

def metadata : Reconciled → ObjectMeta
  | .dp res => res.metadata
  | .dn res => res.metadata
  | .drs res => res.metadata

/-- The reference that the object holds. -/
def reference : Reconciled → Option Ref
  | .dp res => res.spec.dataNodeRef
  | .dn res => res.spec.secretRef
  | .drs res => some res.spec.sourcePod

/-- The namespace and the name that a call asks for, if it gets an object of the kind that the
object refers to. -/
def asks : Reconciled → Call → Option (String × String)
  | .dp _, .kube (.getDataNode ns name) => some (ns, name)
  | .dn _, .kube (.getSecret ns name) => some (ns, name)
  | .drs _, .kube (.getDataPod ns name) => some (ns, name)
  | _, _ => none

/-- The rule of `Ref`: its namespace, or else the one of the object. -/
def Names (x : Reconciled) (ref : Ref) (ns name : String) : Prop :=
  ref.ns.or x.metadata.ns = some ns ∧ ref.name = name

end Reconciled

/-! ## Resolution -/

/-- The `DataNode` that was fetched last. -/
def nextFetched (fetched : Option DataNode) : (c : Call) → c.Reply → Option DataNode
  | .kube (.getDataNode _ _), Except.ok node => some node
  | _, _ => fetched

/-- A run of a publish request as a monitor: secrets are those that the `DataNode` refers to. -/
def secretMonitor : Monitor signature (Option DataNode) where
  allows := fun fetched c => ∀ ns name, c = .kube (.getSecret ns name) →
    ∃ node ref, fetched = some node ∧ node.spec.secretRef = some ref ∧
      (Reconciled.dn node).Names ref ns name
  assumes := fun _ _ _ => True
  next := nextFetched

/-- The reference of the object is resolved by the rule, wherever it is resolved: by the
controller of the object in any cluster, and for a `DataNode` also by a publish request that has
fetched it. -/
structure Reconciled.Resolves (x : Reconciled) (ref : Ref) : Prop where
  reconciled : ∀ selects s event τ q s',
    Prog.Exec (clusterEnv selects True) (x.program event) s τ q s' → ∀ e ∈ τ, ∀ ns name,
      x.asks e.call = some (ns, name) → x.Names ref ns name
  published : ∀ node, x = .dn node → ∀ request past e later q,
    Prog.Exec (fun _ _ _ _ => True) (nodePublishVolume request) () (past ++ e :: later) q () →
      secretMonitor.after none past = some node → ∀ ns name,
        x.asks e.call = some (ns, name) → x.Names ref ns name

/-! ## Rewriting -/

/-- The object has the namespace and the name of `x`. -/
def SamePlace {K : Type} [Kube.Resource K] (x k : K) : Prop :=
  namespaceOf k = namespaceOf x ∧ (Kube.Resource.metadata k).name = (Kube.Resource.metadata x).name

instance {K : Type} [Kube.Resource K] (x : K) : DecidablePred (SamePlace x) :=
  fun k => inferInstanceAs (Decidable (namespaceOf k = namespaceOf x ∧
    (Kube.Resource.metadata k).name = (Kube.Resource.metadata x).name))

/-- The reference that the object of the namespace and the name of `x` holds now. -/
def Cluster.currentReference (s : Cluster) : Reconciled → Option Ref
  | .dp res => (s.dataPods.find? fun k => SamePlace res k).bind fun pod => pod.spec.dataNodeRef
  | .dn res => (s.dataNodes.find? fun k => SamePlace res k).bind fun node => node.spec.secretRef
  | .drs res => (s.replicaSets.find? fun k => SamePlace res k).map fun drs => drs.spec.sourcePod

/-- The object refers to something in the namespace. -/
def Cluster.RefersTo (s : Cluster) (x : Reconciled) (ns : String) : Prop :=
  ∃ ref, s.currentReference x = some ref ∧ ref.ns = some ns

/-- As long as the object holds the reference, no pass of a controller over any object changes
the namespace that is given in it. -/
def Reconciled.Keeps (x : Reconciled) (ref : Ref) : Prop :=
  ∀ selects s, s.currentReference x = some ref → ∀ (y : Reconciled) event τ q s',
    Prog.Exec (clusterEnv selects True) (y.program event) s τ q s' →
      ∀ ns, ref.ns = some ns → s'.RefersTo x ns

/-- The reference is resolved by the rule and kept. -/
def Reconciled.Honours (x : Reconciled) (ref : Ref) : Prop := x.Resolves ref ∧ x.Keeps ref

/-- The reference is a `secretRef`, stays in the namespace of the object, or is never followed. -/
def Reconciled.StaysHome (ref : Ref) : Reconciled → Prop
  | .dp res => ref.ns = none ∨ ref.ns = res.metadata.ns
  | .dn _ => True
  | .drs res => ref.ns = none ∨ ref.ns = res.metadata.ns ∨ res.status.isSome ∨
    res.spec.replicas = 0

/-- The API server has given the object a uid; it has a namespace and a name. -/
def Reconciled.Identified (x : Reconciled) : Prop :=
  ∃ ns name uid, x.metadata.ns = some ns ∧ x.metadata.name = some name ∧
    x.metadata.uid = some uid

/-! ## Where the controllers look -/

section
variable {C : Call → Prop}

/-- The calls of a controller are those of its two functions. -/
lemma uses_reconcileWith {K : Type} [Kube.Resource K] {reconcile cleanup : K → Reconcile Action}
    {event : FinalizerEvent} {res : K} (hr : (reconcile res).Uses C) (hc : (cleanup res).Uses C) :
    (reconcileWith reconcile cleanup event res).Uses C := by
  apply (uses_expect _ _).bind
  intro _
  cases event with
  | apply => exact hr
  | cleanup => exact hc

end

/-! ## What the rule comes to -/

section
variable {x : Reconciled} {ref : Ref}

/-- A reference that stays in the namespace of its object is resolved there. -/
lemma names_of_home {ns : String} (home : ref.ns = none ∨ ref.ns = x.metadata.ns)
    (hns : x.metadata.ns = some ns) : x.Names ref ns ref.name := by
  refine ⟨?_, rfl⟩
  rcases home with h | h
  · rw [h, hns]
    rfl
  · rw [h, hns]
    rfl

/-- In the namespace of its object, only a reference that stays there is resolved. -/
lemma home_of_names {ns name : String} (names : x.Names ref ns name)
    (hns : x.metadata.ns = some ns) : ref.ns = none ∨ ref.ns = x.metadata.ns := by
  cases href : ref.ns with
  | none => exact .inl rfl
  | some ns' =>
    have h : some ns' = some ns := by
      have hor := names.1
      rw [href] at hor
      exact hor
    exact .inr (h.trans hns.symm)

lemma resolves_of_home (hasRef : x.reference = some ref) (home : x.StaysHome ref) :
    ∀ event, (x.program event).Uses fun c =>
      ∀ ns name, x.asks c = some (ns, name) → x.Names ref ns name := by
  intro event
  cases x with
  | dp res =>
    refine uses_reconcileWith (uses_reconcilePod ?_ ?_ ?_ ?_ ?_) (uses_deleteRequested res ?_)
    · intro ns ref' hns href' ns' name' hasks
      cases hasks
      cases href'.symm.trans hasRef
      exact names_of_home home hns
    all_goals intros; contradiction
  | dn res =>
    refine uses_reconcileWith (uses_reconcileNode ?_ ?_ ?_ ?_) (uses_deleteRequested res ?_)
    · intro cred ns hcred hns ns' name' hasks
      cases hasks
      cases hcred.symm.trans hasRef
      exact ⟨eq_some_of_okOr hns, rfl⟩
    all_goals intros; contradiction
  | drs res =>
    refine uses_reconcileWith (uses_reconcileSet ?_ ?_ ?_ ?_ ?_ ?_ ?_ ?_)
      (uses_deleteRequested res ?_)
    · intro ns hns hstatus hreplicas ns' name' hasks
      cases hasks
      cases hasRef
      refine names_of_home ?_ hns
      rcases home with h | h | h | h
      · exact .inl h
      · exact .inr h
      · rw [hstatus] at h
        cases h
      · exact absurd h hreplicas
    all_goals intros; contradiction

end

/-! ## The secret of a published volume -/

/-- The call fetches neither a `DataNode` nor a secret. -/
def Call.Unrelated : Call → Prop
  | .kube (.getDataNode _ _) => False
  | .kube (.getSecret _ _) => False
  | _ => True

lemma nextFetched_unrelated {c : Call} (h : c.Unrelated) (fetched : Option DataNode)
    (a : c.Reply) : nextFetched fetched c a = fetched := by
  rcases c with c | c | c | c | c | _ | _
  case kube =>
    cases c
    case getDataNode => exact h.elim
    all_goals rfl
  all_goals rfl

lemma secretMonitor_allows {fetched : Option DataNode} {c : Call}
    (h : ∀ ns name, c ≠ .kube (.getSecret ns name)) : secretMonitor.allows fetched c :=
  fun ns name hc => absurd hc (h ns name)

/-- A program that fetches neither leaves what was fetched as it is. -/
lemma wp_unrelated {ε α : Type} {p : Async ε α} (hp : p.Uses Call.Unrelated)
    {fetched : Option DataNode} {Q : Option DataNode → Except (Fault ε) α → Prop}
    (hQ : ∀ result, Q fetched result) : p.wp secretMonitor fetched Q := by
  refine hp.wp (fun c hc ns name h => ?_) (fun c a hc => nextFetched_unrelated hc fetched a) hQ
  rw [h] at hc
  exact hc.elim

lemma mount_unrelated (m : Mount) : m.mount.Uses Call.Unrelated :=
  uses_mount m (fun _ => trivial) fun _ => trivial

lemma getFullDataMount_secret (volumeContext : StringMap String) :
    (getFullDataMount volumeContext).wp secretMonitor none fun fetched result =>
      ∀ source access, result = .ok (source, access) → fetched = some source.source := by
  unfold getFullDataMount
  refine Prog.wp_bind (wp_orReturn (fun keys _ => ?_) (by simp))
  refine Prog.wp_bind ⟨secretMonitor_allows (by simp), fun nodeReply _ => ?_⟩
  refine Prog.wp_bind (wp_orReturn (fun dataNode hnode => ?_) (by simp))
  rcases nodeReply with e | node
  · cases hnode
  cases hnode
  refine Prog.wp_bind ⟨secretMonitor_allows (by simp), fun podReply _ => ?_⟩
  refine Prog.wp_bind (wp_orReturn (fun dataPod _ => ?_) (by simp))
  dsimp only
  split
  · rintro source access ⟨⟩
    rfl
  · rename_i cred hcred
    refine Prog.wp_bind (wp_orReturn (fun secretNs hns => ?_) (by simp))
    refine Prog.wp_bind ⟨fun ns name hc => ?_, fun secretReply _ => ?_⟩
    · cases hc
      exact ⟨_, cred, rfl, hcred, eq_some_of_okOr hns, rfl⟩
    refine Prog.wp_bind (wp_orReturn (fun secret _ => ?_) (by simp))
    rintro source access ⟨⟩
    rfl

lemma getOperator_secret (node : DataNode)
    {Q : Option DataNode → Except (Fault Status) Operator → Prop}
    (hQ : ∀ result, Q (some node) result) :
    (getOperator node).wp secretMonitor (some node) Q := by
  have uses : (getOperator node).Uses fun c : Call => c.Unrelated ∨ ∃ cred ns,
      node.spec.secretRef = some cred ∧ secretNamespace node cred = .ok ns ∧
        c = Call.kube (.getSecret ns cred.name) :=
    uses_getOperator (fun cred ns hcred hns => .inr ⟨cred, ns, hcred, hns, rfl⟩)
      fun _ => .inl trivial
  refine uses.wp (fun c hc ns name h => ?_) (fun c a hc => ?_) hQ
  · rcases hc with hc | ⟨cred, ns', hcred, hns, heq⟩
    · rw [h] at hc
      exact hc.elim
    · cases h.symm.trans heq
      exact ⟨node, cred, rfl, hcred, eq_some_of_okOr hns, rfl⟩
  · rcases hc with hc | ⟨cred, ns', _, _, rfl⟩
    · exact nextFetched_unrelated hc _ a
    · rfl

/-- A publish request fetches no other secret than the one its `DataNode` refers to. -/
lemma nodePublishVolume_secret (r : NodePublishVolumeRequest) :
    (nodePublishVolume r).wp secretMonitor none fun _ _ => True := by
  have prepares : (prepareMount r).wp secretMonitor none fun _ _ => True := by
    unfold prepareMount
    refine Prog.wp_bind (Prog.wp_mono (getFullDataMount_secret _) fun fetched result h => ?_)
    rcases result with e | ⟨source, access⟩
    · trivial
    have hfetched := h source access rfl
    refine Prog.wp_bind (wp_unrelated (uses_getPodInfo _) fun result => ?_)
    rcases result with e | podInfo
    · trivial
    refine Prog.wp_bind (wp_unrelated (uses_checkAccess _ _ fun _ => trivial) fun result => ?_)
    rcases result with e | _
    · trivial
    unfold FullDataSource.intoParts
    refine Prog.wp_bind (Prog.wp_bind ?_)
    rw [hfetched]
    refine getOperator_secret _ fun result => ?_
    rcases result with e | operator
    · trivial
    · trivial
  unfold nodePublishVolume
  refine Prog.wp_bind (wp_orReturn (fun _ _ => ?_) fun _ _ => trivial)
  refine Prog.wp_bind (Prog.wp_mono prepares fun fetched result _ => ?_)
  rcases result with e | m
  · trivial
  refine Prog.wp_bind (wp_unrelated (mount_unrelated m) fun result => ?_)
  rcases result with e | m'
  · trivial
  exact ⟨secretMonitor_allows (by simp), fun _ _ => trivial⟩

/-! ## Resolving a reference -/

section
variable {x : Reconciled} {ref : Ref}

/-- A reference that stays at home is resolved by the rule. -/
lemma resolves_of_staysHome (hasRef : x.reference = some ref) (home : x.StaysHome ref) :
    x.Resolves ref where
  reconciled := by
    intro selects s event τ q s' run e he
    exact run.uses (resolves_of_home hasRef home event) e he
  published := by
    rintro node rfl request past e later q run hfetched ns name hasks
    have allowed := Prog.wp_event (nodePublishVolume_secret request) run fun _ _ _ _ _ _ => trivial
    rcases e with ⟨c, a⟩
    rcases c with c | c | c | c | c | _ | _
    case kube =>
      cases c
      case getSecret =>
        cases hasks
        obtain ⟨node', ref', hnode, href, names⟩ := allowed _ _ rfl
        cases hfetched.symm.trans hnode
        cases href.symm.trans hasRef
        exact names
      all_goals cases hasks
    all_goals cases hasks

end

section
variable {selects : Selects} {s : Cluster}

/-- A request for an object that is not there. -/
lemma exec_request_error {faults : Prop} {c : KubeCall} {e : KubeError}
    (h : s.Replies selects c (.error e)) :
    Prog.Exec (clusterEnv selects faults) (request c) s [⟨.kube c, Except.error e⟩]
      (.throw (.error (.kubeError e))) s :=
  .step ⟨.inl h, rfl⟩ (.refl _ _)

/-- With a namespace there is nothing to unwrap. -/
lemma reconcileWith_apply {K : Type} [Kube.Resource K] (reconcile cleanup : K → Reconcile Action)
    {res : K} {ns : String} (hns : namespaceOf res = some ns) :
    reconcileWith reconcile cleanup .apply res = reconcile res := by
  unfold reconcileWith
  rw [hns]
  rfl

end

/-- The controller of a `DataPod` asks for the `DataNode` in its own namespace, so only a
reference to this namespace is resolved. -/
lemma home_of_resolves_pod {pod : DataPod} {ref : Ref} (hasRef : pod.spec.dataNodeRef = some ref)
    (identified : (Reconciled.dp pod).Identified) (resolves : (Reconciled.dp pod).Resolves ref) :
    (Reconciled.dp pod).StaysHome ref := by
  obtain ⟨ns, name, uid, hns, hname, huid⟩ := identified
  -- a cluster that has the pod, and no node
  let s : Cluster := ⟨[], [pod], [], [], [], []⟩
  have hat : At ns name pod := ⟨hns, hname⟩
  have hget : .ok pod = getFrom s.dataPods ns (nameAny pod) := by
    rw [nameAny_of_at hat]
    exact (getFrom_singleton hat).symm
  have chooses : Prog.Exec (clusterEnv (fun _ => none) True) (DataPod.chooseDataNode pod ns) s
      [⟨.kube (.getDataNode ns ref.name),
        (Except.error .notFound : Except KubeError DataNode)⟩]
      (.throw (.error (.kubeError .notFound))) s := by
    unfold DataPod.chooseDataNode
    rw [hasRef]
    exact exec_request_error rfl
  have run := exec_reconcilePod_throw hat.1 huid hget chooses
  have hprogram : (Reconciled.dp pod).program .apply = pod.reconcile :=
    reconcileWith_apply _ DataPod.cleanup hat.1
  rw [← hprogram] at run
  have names := resolves.reconciled _ s .apply _ _ s run
    ⟨.kube (.getDataNode ns ref.name), (Except.error .notFound : Except KubeError DataNode)⟩
    (by simp) ns ref.name rfl
  exact home_of_names names hns

/-- The controller of a `DataReplicaSet` that has replicas to create asks for the source in the
namespace of the set. -/
lemma home_of_resolves_set {drs : DataReplicaSet}
    (identified : (Reconciled.drs drs).Identified)
    (resolves : (Reconciled.drs drs).Resolves drs.spec.sourcePod) :
    (Reconciled.drs drs).StaysHome drs.spec.sourcePod := by
  obtain ⟨ns, name, uid, hns, hname, huid⟩ := identified
  by_cases hstatus : drs.status.isSome
  · exact .inr (.inr (.inl hstatus))
  by_cases hreplicas : drs.spec.replicas = 0
  · exact .inr (.inr (.inr hreplicas))
  have hat : At ns name drs := ⟨hns, hname⟩
  -- a cluster without any object, where every selector can be used
  let s : Cluster := ⟨[], [], [], [], [], []⟩
  let selects : Selects := fun _ => some fun _ => true
  have lists : Prog.Exec (clusterEnv selects True)
      (request (.listDataPods ns ⟨some (renderSelector drs.spec.selector.labels)⟩)) s _
      (.pure ([] : List DataPod)) s := exec_request_ok rfl
  have fetches : Prog.Exec (clusterEnv selects True) (drs.fetchSource ns) s
      [⟨.kube (.getDataPod ns drs.spec.sourcePod.name),
        (Except.error .notFound : Except KubeError DataPod)⟩]
      (.throw (.error (.kubeError .notFound))) s := by
    have hget : s.Replies selects (.getDataPod ns drs.spec.sourcePod.name) (.error .notFound) :=
      rfl
    unfold DataReplicaSet.fetchSource
    exact (exec_request_error hget).bind _
  have compares : Prog.Exec (clusterEnv selects True) (drs.compareCount ns 0) s
      [⟨.kube (.getDataPod ns drs.spec.sourcePod.name),
        (Except.error .notFound : Except KubeError DataPod)⟩]
      (.throw (.error (.kubeError .notFound))) s := by
    unfold DataReplicaSet.compareCount
    rw [if_neg (fun h => hreplicas h.symm), if_pos (Nat.pos_of_ne_zero hreplicas)]
    exact (fetches.bind _).bind _
  obtain ⟨τ, q, run, hmem⟩ : ∃ τ q, Prog.Exec (clusterEnv selects True) drs.reconcile s τ q s ∧
      ⟨.kube (.getDataPod ns drs.spec.sourcePod.name),
        (Except.error .notFound : Except KubeError DataPod)⟩ ∈ τ := by
    unfold DataReplicaSet.reconcile
    rw [if_neg hstatus]
    exact ⟨_, _, (exec_namespace hat.1).andThen (lists.andThen compares), by simp⟩
  have hprogram : (Reconciled.drs drs).program .apply = drs.reconcile :=
    reconcileWith_apply _ DataReplicaSet.cleanup hat.1
  rw [← hprogram] at run
  have names := resolves.reconciled _ s .apply _ _ s run _ hmem ns drs.spec.sourcePod.name rfl
  rcases home_of_names names hns with h | h
  · exact .inl h
  · exact .inr (.inl h)

/-! ## Keeping a reference -/

/-- What is found in a namespace is in it. -/
def FoundIn : (c : Call) → c.Reply → Prop
  | .kube (.getDataNode ns _), r => ∀ node : DataNode, r = Except.ok node → InNamespace ns node
  | .kube (.listDataNodes ns _), r =>
    ∀ nodes : List DataNode, r = Except.ok nodes → ∀ node ∈ nodes, InNamespace ns node
  | _, _ => True

/-- The `dataNodeRef` that is applied is one into the namespace of the `DataPod`. -/
def Call.AppliesHome (c : Call) : Prop :=
  ∀ ns name patch, c = .kube (.applyDataPod ns name patch) →
    ∃ ref, patch.spec.dataNodeRef = some ref ∧ ref.ns = some ns

def homeMonitor : Monitor signature Unit where
  allows := fun _ c => c.AppliesHome
  assumes := fun _ c a => FoundIn c a
  next := fun _ _ _ => ()

lemma Call.appliesHome_of_ne {c : Call}
    (h : ∀ ns name patch, c ≠ .kube (.applyDataPod ns name patch)) : c.AppliesHome :=
  fun ns name patch hc => absurd hc (h ns name patch)

lemma foundIn_of_answers {selects : Selects} {s : Cluster} {c : Call} {a : c.Reply}
    (h : s.Answers selects True c a) : FoundIn c a := by
  rcases c with c | c | c | c | c | _ | _
  case kube =>
    cases c
    case getDataNode ns name =>
      intro node hnode
      subst hnode
      rcases h with h | ⟨_, e, he⟩
      · have hget : .ok node = getFrom s.dataNodes ns name := h
        exact (getFrom_ok hget.symm).2.1
      · cases he
    case listDataNodes ns params =>
      intro nodes hnodes node hnode
      subst hnodes
      rcases h with h | ⟨_, e, he⟩
      · have hlist : listFrom selects s.dataNodes ns params = .ok nodes := Eq.symm h
        exact inNamespace_of_listFrom hlist node hnode
      · cases he
    all_goals trivial
  all_goals trivial

lemma wp_home {α : Type} {p : Reconcile α} (hp : p.Uses Call.AppliesHome)
    {Q : Unit → Except (Fault Error) α → Prop} (hQ : ∀ result, Q () result) :
    p.wp homeMonitor () Q :=
  hp.wp (fun _ h => h) (fun _ _ _ => rfl) hQ

/-- The node that is chosen is in the namespace of the `DataPod`. -/
lemma chooseDataNode_home {self : DataPod} {ns : String} :
    (DataPod.chooseDataNode self ns).wp homeMonitor () fun _ result =>
      ∀ node, result = .ok node → InNamespace ns node := by
  unfold DataPod.chooseDataNode
  cases self.spec.dataNodeRef with
  | some nodeRef =>
    refine wp_request (Call.appliesHome_of_ne (by simp)) (fun (node : DataNode) found => ?_)
      fun e _ => by simp
    rintro node' ⟨⟩
    exact found node rfl
  | none =>
    cases self.spec.dataNodeSelector with
    | none => exact fun node h => (by cases h)
    | some selector =>
      refine Prog.wp_bind (wp_request (Call.appliesHome_of_ne (by simp))
        (fun (nodes : List DataNode) found => ?_) fun e _ => by simp)
      refine wp_expect (fun node hnode => ?_) (by simp)
      rintro node' ⟨⟩
      exact found nodes rfl node (List.mem_of_mem_head? hnode)

lemma reconcilePod_home (self : DataPod) :
    self.reconcile.wp homeMonitor () fun _ _ => True := by
  have ask : ∀ c, (∀ ns name patch, c ≠ .applyDataPod ns name patch) →
      Call.AppliesHome (.kube c) :=
    fun c h => Call.appliesHome_of_ne fun ns name patch hc => h ns name patch (Call.kube.inj hc)
  unfold DataPod.reconcile
  refine Prog.wp_bind (wp_orReturn (fun ns _ => ?_) fun _ _ => trivial)
  refine Prog.wp_bind (wp_request (ask _ (by simp)) (fun (dataPod : DataPod) _ => ?_)
    fun _ _ => trivial)
  refine Prog.wp_bind (wp_home (uses_newPath self) fun result => ?_)
  rcases result with e | ⟨path, generated⟩
  · trivial
  refine Prog.wp_bind (Prog.wp_mono chooseDataNode_home fun _ result hnode => ?_)
  rcases result with e | dataNode
  · trivial
  have hns : dataNode.metadata.ns = some ns := hnode dataNode rfl
  refine Prog.wp_bind (wp_orReturn (fun owner _ => ?_) fun _ _ => trivial)
  refine Prog.wp_bind (wp_expect (fun name _ => ?_) trivial)
  refine Prog.wp_bind (wp_request (fun ns' name' patch hc => ?_)
    (fun (newDataPod : DataPod) _ => ?_) fun _ _ => trivial)
  · cases hc
    refine ⟨_, rfl, ?_⟩
    show some (dataNode.metadata.ns.getD "") = some ns
    rw [hns]
    rfl
  · refine Prog.wp_bind (wp_home (uses_publishChanged fun _ _ => ask _ (by simp)) fun result => ?_)
    rcases result with e | _
    · trivial
    · trivial

/-- Every controller writes only references that stay at home. -/
lemma program_home (y : Reconciled) (event : FinalizerEvent) :
    (y.program event).wp homeMonitor () fun _ _ => True := by
  have ask : ∀ c, (∀ ns name patch, c ≠ .applyDataPod ns name patch) →
      Call.AppliesHome (.kube c) :=
    fun c h => Call.appliesHome_of_ne fun ns name patch hc => h ns name patch (Call.kube.inj hc)
  cases y with
  | dp res =>
    refine Prog.wp_bind (wp_expect (fun _ _ => ?_) trivial)
    cases event with
    | apply => exact reconcilePod_home res
    | cleanup =>
      exact wp_home (uses_deleteRequested res fun _ _ => ask _ (by simp)) fun _ => trivial
  | dn res =>
    refine wp_home (uses_reconcileWith (uses_reconcileNode ?_ ?_ ?_ ?_)
      (uses_deleteRequested res ?_)) fun _ => trivial
    · exact fun _ _ _ _ => ask _ (by simp)
    · exact fun _ => Call.appliesHome_of_ne (by simp)
    · exact fun _ _ _ => ask _ (by simp)
    · exact fun _ _ => ask _ (by simp)
    · exact fun _ _ => ask _ (by simp)
  | drs res =>
    refine wp_home (uses_reconcileWith (uses_reconcileSet ?_ ?_ ?_ ?_ ?_ ?_ ?_ ?_)
      (uses_deleteRequested res ?_)) fun _ => trivial
    all_goals intros; exact Call.appliesHome_of_ne (by simp)

section
variable {K : Type} [Kube.Resource K] {x k : K} {ns name : String}

/-- An object in the place of `x` is at the name of `x`, -/
lemma at_iff_samePlace {d : K} (hx : SamePlace x d) (hd : At ns name d) :
    At ns name k ↔ SamePlace x k := by
  obtain ⟨hns, hname⟩ := hx
  have hdns : namespaceOf d = some ns := hd.1
  have hxns : namespaceOf x = some ns := hns.symm.trans hdns
  have hxname : (Kube.Resource.metadata x).name = some name := hname.symm.trans hd.2
  unfold SamePlace At InNamespace
  rw [hxns, hxname]

/-- so what is put in its place can be found there. -/
lemma find?_put {objects : List K} {new d : K} (hnew : At ns name new)
    (hfind : objects.find? (fun k => SamePlace x k) = some d) :
    (objects.map fun k => if At ns name k then new else k).find? (fun k => SamePlace x k) =
      some (if At ns name d then new else d) := by
  -- replacing does not change which place an object is in
  have hsame : ∀ k, SamePlace x (if At ns name k then new else k) ↔ SamePlace x k := by
    intro k
    split
    · rename_i hk
      constructor
      · intro h
        exact (at_iff_samePlace h hnew).mp hk
      · intro h
        exact (at_iff_samePlace h hk).mp hnew
    · exact Iff.rfl
  have hfun : ((fun k => decide (SamePlace x k)) ∘ fun k => if At ns name k then new else k) =
      fun k => decide (SamePlace x k) := by
    funext k
    exact decide_eq_decide.mpr (hsame k)
  rw [List.find?_map, hfun, hfind]
  rfl

end

namespace Cluster.RefersTo

variable {selects : Selects} {s : Cluster} {c : Call} {a : c.Reply} {ns : String}

lemma add_dataPod {pod : DataPod} (h : s.RefersTo (.dp pod) ns) (new : DataPod) :
    (s.addDataPod new).RefersTo (.dp pod) ns := by
  obtain ⟨ref, hcurrent, href⟩ := h
  obtain ⟨d, hfind, hd⟩ := Option.bind_eq_some_iff.mp hcurrent
  refine ⟨ref, Option.bind_eq_some_iff.mpr ⟨d, ?_, hd⟩, href⟩
  show (s.dataPods ++ [new]).find? _ = some d
  rw [List.find?_append, hfind]
  rfl

/-- After an apply, what the reference is has been applied, or it is in another `DataPod`. -/
lemma put_dataPod {pod new : DataPod} {ns' name : String} {patch : DataPodPatch}
    (h : s.RefersTo (.dp pod) ns) (hns : pod.metadata.ns = some ns)
    (home : ∃ ref, patch.spec.dataNodeRef = some ref ∧ ref.ns = some ns')
    (answered : s.Answers selects True (.kube (.applyDataPod ns' name patch)) (Except.ok new)) :
    (s.putDataPod ns' name new).RefersTo (.dp pod) ns := by
  rcases of_applyDataPod answered with ⟨_, _, _, hput⟩ | ⟨old, version, _, hat, hnew, hput⟩
  · rw [hput]
    exact h.add_dataPod new
  obtain ⟨ref, hcurrent, href⟩ := h
  obtain ⟨d, hfind, hd⟩ := Option.bind_eq_some_iff.mp hcurrent
  obtain ⟨ref', hpatch, href'⟩ := home
  have hnewAt : At ns' name new := by
    rw [hnew]
    exact hat
  have hfind' := find?_put hnewAt hfind
  rw [hput]
  by_cases hd' : At ns' name d
  · rw [if_pos hd'] at hfind'
    refine ⟨ref', Option.bind_eq_some_iff.mpr ⟨new, hfind', ?_⟩, ?_⟩
    · rw [hnew]
      show patch.spec.dataNodeRef.or old.spec.dataNodeRef = some ref'
      rw [hpatch]
      rfl
    · have hplace : SamePlace pod d := by simpa using List.find?_some hfind
      have hdns : namespaceOf d = some ns := hplace.1.trans hns
      rw [href', ← hd'.1]
      exact hdns
  · rw [if_neg hd'] at hfind'
    exact ⟨ref, Option.bind_eq_some_iff.mpr ⟨d, hfind', hd⟩, href⟩

lemma next_dataPod {pod : DataPod} (h : s.RefersTo (.dp pod) ns)
    (hns : pod.metadata.ns = some ns) (home : c.AppliesHome)
    (answered : s.Answers selects True c a) : (s.next c a).RefersTo (.dp pod) ns := by
  have unchanged : c.KeepsDataPods → (s.next c a).RefersTo (.dp pod) ns := by
    intro keeps
    obtain ⟨ref, hcurrent, href⟩ := h
    refine ⟨ref, ?_, href⟩
    unfold Cluster.currentReference
    rw [Cluster.next_dataPods keeps]
    exact hcurrent
  rcases c with c | c | c | c | c | _ | _
  case kube =>
    rcases a with e | object
    · exact h
    · cases c
      case createDataPod => exact h.add_dataPod object
      case applyDataPod ns' name patch => exact h.put_dataPod hns (home ns' name patch rfl) answered
      all_goals exact unchanged trivial
  all_goals exact unchanged trivial

/-- Setting the status of a `DataNode` keeps its reference. -/
lemma put_dataNode {node new : DataNode} {ns' name : String} {status : DataNodeStatus}
    (h : s.RefersTo (.dn node) ns)
    (answered : s.Answers selects True (.kube (.applyDataNodeStatus ns' name status))
      (Except.ok new)) : (s.putDataNode ns' name new).RefersTo (.dn node) ns := by
  have replied : .ok new = (getFrom s.dataNodes ns' name).map fun node =>
      { node with status := some status } := replies_of_answers answered
  obtain ⟨ref, hcurrent, href⟩ := h
  obtain ⟨d, hfind, hd⟩ := Option.bind_eq_some_iff.mp hcurrent
  cases hget : getFrom s.dataNodes ns' name with
  | error e =>
    rw [hget] at replied
    cases replied
  | ok old =>
    rw [hget] at replied
    have hnew : new = { old with status := some status } := Except.ok.inj replied
    have hnewAt : At ns' name new := by
      rw [hnew]
      exact (getFrom_ok hget).2
    refine ⟨ref, Option.bind_eq_some_iff.mpr ⟨_, find?_put hnewAt hfind, ?_⟩, href⟩
    by_cases hd' : At ns' name d
    · -- the node that has been found is the one that was replaced
      have hplace : SamePlace node d := by simpa using List.find?_some hfind
      have hfun : (fun k : DataNode => decide (At ns' name k)) =
          fun k => decide (SamePlace node k) := by
        funext k
        exact decide_eq_decide.mpr (at_iff_samePlace hplace hd')
      unfold getFrom at hget
      rw [hfun, hfind] at hget
      cases hget
      rw [if_pos hd', hnew]
      exact hd
    · rw [if_neg hd']
      exact hd

lemma next_dataNode {node : DataNode} (h : s.RefersTo (.dn node) ns)
    (answered : s.Answers selects True c a) : (s.next c a).RefersTo (.dn node) ns := by
  have same : ∀ {s' : Cluster}, s'.dataNodes = s.dataNodes → s'.RefersTo (.dn node) ns := by
    intro s' hs'
    obtain ⟨ref, hcurrent, href⟩ := h
    refine ⟨ref, ?_, href⟩
    unfold Cluster.currentReference
    rw [hs']
    exact hcurrent
  rcases c with c | c | c | c | c | _ | _
  case kube =>
    rcases a with e | object
    · exact h
    · cases c
      case applyDataNodeStatus => exact h.put_dataNode answered
      case applyDataPod ns' name patch =>
        apply same
        show (s.putDataPod ns' name object).dataNodes = s.dataNodes
        unfold Cluster.putDataPod
        split <;> rfl
      all_goals exact same rfl
  all_goals exact same rfl

lemma next_replicaSet {drs : DataReplicaSet} (h : s.RefersTo (.drs drs) ns) :
    (s.next c a).RefersTo (.drs drs) ns := by
  have hsets : (s.next c a).replicaSets = s.replicaSets := by
    rcases c with c | c | c | c | c | _ | _
    case kube =>
      rcases a with e | object
      · rfl
      · cases c
        case applyDataPod ns' name patch =>
          show (s.putDataPod ns' name object).replicaSets = s.replicaSets
          unfold Cluster.putDataPod
          split <;> rfl
        all_goals rfl
    all_goals rfl
  obtain ⟨ref, hcurrent, href⟩ := h
  refine ⟨ref, ?_, href⟩
  unfold Cluster.currentReference
  rw [hsets]
  exact hcurrent

end Cluster.RefersTo

/-- Nothing that a controller does changes the namespace of a reference that stays at home. -/
lemma keeps_of_staysHome {x : Reconciled} {ref : Ref} (home : x.StaysHome ref) : x.Keeps ref := by
  intro selects s hcurrent y event τ q s' run ns href
  refine Prog.wp_exec_invariant (program_home y event) run
    (fun _ _ _ _ answered _ => foundIn_of_answers answered.1) (fun s _ => s.RefersTo x ns)
    (fun s₁ _ c a s₂ _ allowed answered h => ?_) ⟨ref, hcurrent, href⟩
  obtain ⟨answered, rfl⟩ := answered
  cases x with
  | dp pod =>
    have hns : pod.metadata.ns = some ns := by
      rcases home with hnone | hown
      · rw [hnone] at href
        cases href
      · rw [← hown]
        exact href
    exact h.next_dataPod hns allowed answered
  | dn node => exact h.next_dataNode answered
  | drs drs => exact h.next_replicaSet

/-- A reference is resolved by the rule of `Ref` and keeps its namespace, unless it is a
reference to a `DataNode`, or to the source of replicas, in another namespace. -/
theorem reference_honoured_iff {x : Reconciled} {ref : Ref} (hasRef : x.reference = some ref)
    (identified : x.Identified) : x.Honours ref ↔ x.StaysHome ref := by
  constructor
  · rintro ⟨resolves, _⟩
    cases x with
    | dp pod => exact home_of_resolves_pod hasRef identified resolves
    | dn node => trivial
    | drs drs =>
      cases hasRef
      exact home_of_resolves_set identified resolves
  · intro home
    exact ⟨resolves_of_staysHome hasRef home, keeps_of_staysHome home⟩

/-- A `DataPod` that refers to a `DataNode` in another namespace. -/
def sampleAbroad : DataPod where
  metadata := { name := some "p", ns := some "default", uid := some "4" }
  spec := ⟨none, some ⟨"m", some "storage"⟩, none, none⟩
  status := none

/-- The `DataNode` is looked for in the wrong namespace. -/
theorem reference_abroad : ¬ ∀ (x : Reconciled) (ref : Ref), x.reference = some ref →
    x.Identified → x.Honours ref := by
  intro claim
  have identified : (Reconciled.dp sampleAbroad).Identified := ⟨_, _, _, rfl, rfl, rfl⟩
  have honours := claim (.dp sampleAbroad) ⟨"m", some "storage"⟩ rfl identified
  rcases home_of_resolves_pod rfl identified honours.1 with h | h
  · cases h
  · have hne : (some "storage" : Option String) ≠ some "default" := by decide
    exact hne h

/-- The source of a set in its own namespace. -/
theorem reference_at_home :
    (Reconciled.drs (sampleSet 1)).Honours (sampleSet 1).spec.sourcePod := by
  refine (reference_honoured_iff rfl ⟨_, _, _, rfl, rfl, rfl⟩).mpr ?_
  exact .inl rfl

end Kubedal
