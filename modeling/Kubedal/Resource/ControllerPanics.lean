import Kubedal.Resource.DataPodController
import Kubedal.Resource.ReplicaObjects

/-!
# Panics of the controllers

The three controllers run in one task, which a panic ends. The functions that the runtime calls
unwrap the namespace of the object and leave it to the finalizer whether to reconcile it or to
clean up after it.

* `Reconciled` is an object with its controller;
* `Dangling` is a `DataPod` whose selector matches no `DataNode`;
* `never_panics_iff`: the controllers never panic, except at such a `DataPod`.
-/

namespace Kubedal

open Interaction Kube Resource

/-! ## What the runtime calls -/

/-- `kube::runtime::finalizer::Event`, without the object it carries. -/
inductive FinalizerEvent where
  | apply
  | cleanup
deriving DecidableEq

/-- The message of `Option::unwrap`. -/
def unwrapMessage : String := "called `Option::unwrap()` on a `None` value"

/-- What the three functions have in common, up to the name of their finalizer. -/
def reconcileWith {K : Type} [Kube.Resource K] (reconcile cleanup : K → Reconcile Action)
    (event : FinalizerEvent) (res : K) : Reconcile Action := do
  let _ ← expect unwrapMessage (namespaceOf res)
  match event with
  | .apply => reconcile res
  | .cleanup => cleanup res

def reconcileDp (event : FinalizerEvent) (res : DataPod) : Reconcile Action :=
  reconcileWith DataPod.reconcile DataPod.cleanup event res

def reconcileDn (event : FinalizerEvent) (res : DataNode) : Reconcile Action :=
  reconcileWith DataNode.reconcile DataNode.cleanup event res

def reconcileDrs (event : FinalizerEvent) (res : DataReplicaSet) : Reconcile Action :=
  reconcileWith DataReplicaSet.reconcile DataReplicaSet.cleanup event res

/-- An object that one of the controllers is called with. -/
inductive Reconciled where
  | dp (res : DataPod)
  | dn (res : DataNode)
  | drs (res : DataReplicaSet)

namespace Reconciled

def program (event : FinalizerEvent) : Reconciled → Reconcile Action
  | .dp res => reconcileDp event res
  | .dn res => reconcileDn event res
  | .drs res => reconcileDrs event res

end Reconciled

/-- The object, perhaps in another version, is one of those that the API server has, which all
have a name, a namespace and a uid. -/
def Served {K : Type} [Kube.Resource K] (objects : List K) (res : K) : Prop :=
  ∃ ns name uid, At ns name res ∧ uidOf res = some uid ∧
    ∃ k ∈ objects, At ns name k ∧ uidOf k = some uid

/-- The object is in the cluster. -/
def Reconciled.In (s : Cluster) : Reconciled → Prop
  | .dp res => Served s.dataPods res
  | .dn res => Served s.dataNodes res
  | .drs res => Served s.replicaSets res

/-- The result is a value or an error. -/
def Returned {α : Type} : Except (Fault Error) α → Prop
  | .ok _ => True
  | .error e => e.IsError

/-- However its calls are answered, and whichever of its requests fail, the controller returns. -/
def NeverPanics (selects : Selects) (s : Cluster) (p : Reconcile Action) : Prop :=
  p.Ensures (clusterEnv selects True) s fun _ result => Returned result

/-- The `DataPod` has no reference to a `DataNode`, and its selector matches none in its
namespace. -/
def Dangling (selects : Selects) (s : Cluster) (pod : DataPod) : Prop :=
  pod.spec.dataNodeRef = none ∧ ∃ ns selector, pod.metadata.ns = some ns ∧
    pod.spec.dataNodeSelector = some selector ∧
    listFrom selects s.dataNodes ns ⟨some (renderSelector selector)⟩ = .ok []

/-! ## The controllers that return whatever they are told -/

lemma fails_deleteRequested {K : Type} [Kube.Resource K] (self : K) :
    (deleteRequested self).Fails Fault.IsError := (fails_request _).bind fun _ => trivial

lemma fails_getOperator (node : DataNode) : (getOperator node).Fails Fault.IsError := by
  have fetches : (fetchSecret node).Fails Fault.IsError := by
    unfold fetchSecret
    split
    · trivial
    · apply (fails_orReturn _).bind
      intro secretNs
      apply (fails_perform _).bind
      intro reply
      exact (fails_orReturn _).bind fun _ => trivial
  unfold getOperator initService
  apply fetches.bind
  intro secret
  apply (fails_orReturn _).bind
  intro cfg
  apply (fails_perform _).bind
  intro built
  apply (fails_orReturn _).bind
  intro _
  trivial

lemma fails_reconcileNode (self : DataNode) : self.reconcile.Fails Fault.IsError := by
  unfold DataNode.reconcile
  split
  · trivial
  apply (fails_orReturn _).bind
  intro ns
  have built : ((getOperator self).mapError Fault.ofStatus).Fails Fault.IsError := by
    apply (fails_getOperator self).mapError
    intro e he
    cases e with
    | error status => trivial
    | panic message => exact he
  apply built.bind
  intro operator
  apply (fails_perform _).bind
  intro checked
  apply (fails_orReturn _).bind
  intro _
  apply (fails_request _).bind
  intro node
  exact (fails_request _).bind fun _ => trivial

section
variable {drs : DataReplicaSet} {ns : String}

lemma fails_randSuffix : randSuffix.Fails Fault.IsError := (fails_perform _).bind fun _ => trivial

lemma fails_createReplicaPvc (pod : DataPod) (node : DataNode) (access : MountAccess) :
    (createReplicaPvc pod node drs access ns).Fails Fault.IsError := by
  apply fails_randSuffix.bind
  intro suffix
  apply (fails_orReturn _).bind
  intro owner
  exact fails_request _

/-- Running out of nodes ends the loop. -/
lemma fails_createReplicas (indices : List ℕ) (nodes : List DataNode)
    (acc : List (DataPod × PersistentVolumeClaim)) :
    (createReplicas drs ns indices nodes acc).Fails Fault.IsError := by
  induction indices generalizing nodes acc with
  | nil => trivial
  | cons index rest ih =>
    unfold createReplicas
    split
    · refine Prog.Fails.bind ?_ fun pod => ?_
      · apply (fails_orReturn _).bind
        intro uid
        apply (fails_orReturn _).bind
        intro drsNs
        apply (fails_orReturn _).bind
        intro owner
        exact fails_request _
      · exact (fails_createReplicaPvc _ _ _).bind fun pvc => ih _ _
    · trivial

lemma fails_createMissing (count : ℕ) : (drs.createMissing ns count).Fails Fault.IsError := by
  refine Prog.Fails.bind ?_ fun source => ?_
  · unfold DataReplicaSet.fetchSource
    apply (fails_request _).bind
    intro (pod : DataPod)
    apply (fails_orReturn _).bind
    intro owner
    apply (fails_request _).bind
    intro node
    trivial
  apply (fails_request _).bind
  intro nodes
  apply (fails_createReplicas _ _ _).bind
  intro replicas
  apply (fails_createReplicaPvc _ _ _).bind
  intro pvc
  refine Prog.Fails.bind ?_ fun _ => trivial
  apply fails_randSuffix.bind
  intro suffix
  apply (fails_orReturn _).bind
  intro owner
  apply (fails_orReturn _).bind
  intro path
  apply (fails_orReturn _).bind
  intro mounted
  exact fails_request _

lemma fails_reconcileSet (self : DataReplicaSet) : self.reconcile.Fails Fault.IsError := by
  unfold DataReplicaSet.reconcile
  split
  · trivial
  apply (fails_orReturn _).bind
  intro drsNs
  apply (fails_request _).bind
  intro pods
  unfold DataReplicaSet.compareCount
  split
  · trivial
  split
  · exact (fails_createMissing _).bind fun _ => trivial
  · trivial

end

/-! ## The controller of `DataPod`s -/

section
variable {selects : Selects} {s : Cluster}

/-- A request to the API server, in a cluster. -/
lemma ensures_request {faults : Prop} {c : KubeCall}
    {Q : Cluster → Except (Fault Error) c.Object → Prop}
    (ok : ∀ object, s.Replies selects c (.ok object) → Q (s.nextKube c object) (.ok object))
    (error : ∀ e, Q s (.error (.error (.kubeError e)))) :
    (request c).Ensures (clusterEnv selects faults) s Q := by
  refine Prog.Ensures.bind (ensures_kube fun reply s' answered => ?_)
  obtain ⟨answered, rfl⟩ := answered
  rcases reply with e | object
  · exact Prog.ensures_throw (error e)
  · rcases answered with replied | ⟨_, e, he⟩
    · exact Prog.ensures_pure (ok object replied)
    · cases he

lemma ensures_returned {α : Type} {p : Reconcile α} (h : p.Fails Fault.IsError) :
    p.Ensures (clusterEnv selects True) s fun _ result => Returned result :=
  h.ensures (fun _ _ => trivial) fun _ _ he => he

/-- With a uid there is a path, and finding it makes no call. -/
lemma newPath_pure {self : DataPod} {uid : String} (huid : uidOf self = some uid) :
    ∃ path, DataPod.newPath self = .pure path := by
  unfold DataPod.newPath
  split
  · exact ⟨_, rfl⟩
  · rw [huid]
    exact ⟨_, rfl⟩

/-- The first of the nodes that the selector matches is taken, so there has to be one. -/
lemma chooseDataNode_returns {self : DataPod} {ns : String} (hns : self.metadata.ns = some ns)
    (bound : ¬ Dangling selects s self) :
    (DataPod.chooseDataNode self ns).Ensures (clusterEnv selects True) s
      fun _ result => Returned result := by
  unfold DataPod.chooseDataNode
  cases href : self.spec.dataNodeRef with
  | some nodeRef => exact ensures_returned (fails_request _)
  | none =>
    cases hselector : self.spec.dataNodeSelector with
    | none => exact Prog.ensures_throw trivial
    | some selector =>
      refine Prog.Ensures.bind (ensures_request (fun (nodes : List DataNode) hlist => ?_)
        fun _ => trivial)
      have hlist' : .ok nodes =
          listFrom selects s.dataNodes ns ⟨some (renderSelector selector)⟩ := hlist
      have hnodes : nodes ≠ [] := by
        rintro rfl
        exact bound ⟨href, ns, selector, hns, hselector, hlist'.symm⟩
      obtain ⟨node, rest, rfl⟩ := List.exists_cons_of_ne_nil hnodes
      exact Prog.ensures_pure trivial

lemma fails_publishChanged (self dataPod newDataPod : DataPod) :
    (DataPod.publishChanged self dataPod newDataPod).Fails Fault.IsError := by
  unfold DataPod.publishChanged
  split
  · exact (fails_request _).bind fun _ => trivial
  · trivial

/-- With a node to be found, nothing that is unwrapped is missing. -/
lemma reconcilePod_returns {self : DataPod} (served : Served s.dataPods self)
    (bound : ¬ Dangling selects s self) : NeverPanics selects s self.reconcile := by
  obtain ⟨ns, name, uid, hat, huid, _⟩ := served
  have hns : self.metadata.ns = some ns := hat.1
  unfold NeverPanics DataPod.reconcile
  refine Prog.Ensures.bind (ensures_orReturn (fun ns' hns' => ?_) fun _ _ => trivial)
  have heq : ns' = ns := Option.some.inj ((eq_some_of_okOr hns').symm.trans hns)
  subst heq
  refine Prog.Ensures.bind (ensures_request (fun (dataPod : DataPod) hget => ?_) fun _ => trivial)
  have hget' : .ok dataPod = getFrom s.dataPods ns' (nameAny self) := hget
  obtain ⟨_, _, hname⟩ := getFrom_ok hget'.symm
  obtain ⟨path, hpath⟩ := newPath_pure huid
  refine Prog.Ensures.bind ?_
  rw [hpath]
  refine Prog.ensures_pure ?_
  refine Prog.Ensures.bind ((chooseDataNode_returns hns bound).mono fun s₁ result h₁ => ?_)
  rcases result with e | dataNode
  · exact h₁
  -- from here on only the name of the copy is unwrapped
  apply ensures_returned
  apply (fails_orReturn _).bind
  intro owner
  apply (fails_expect hname).bind
  intro name
  apply (fails_request _).bind
  intro (newDataPod : DataPod)
  exact (fails_publishChanged _ _ _).bind fun _ => trivial

lemma exec_request_ok {faults : Prop} {c : KubeCall} {object : c.Object}
    (h : s.Replies selects c (.ok object)) :
    Prog.Exec (clusterEnv selects faults) (request c) s [⟨.kube c, Except.ok object⟩]
      (.pure object) (s.nextKube c object) :=
  .step ⟨.inl h, rfl⟩ (.refl _ _)

lemma exec_namespace {K : Type} [Kube.Resource K] {res : K} {ns : String} {e : Error}
    (hns : namespaceOf res = some ns) :
    Prog.Exec (clusterEnv selects True) (orReturn (okOr e (namespaceOf res))) s [] (.pure ns)
      s := by
  rw [hns]
  exact .refl _ _

/-- A pass over a `DataPod` that is there fails if no `DataNode` can be chosen. -/
lemma exec_reconcilePod_throw {self dataPod : DataPod} {ns uid : String} {e : Fault Error}
    {τ : List (Event signature)} (hns : namespaceOf self = some ns)
    (huid : uidOf self = some uid) (hget : .ok dataPod = getFrom s.dataPods ns (nameAny self))
    (chooses : Prog.Exec (clusterEnv selects True) (DataPod.chooseDataNode self ns) s τ (.throw e)
      s) :
    Prog.Exec (clusterEnv selects True) self.reconcile s
      (⟨.kube (.getDataPod ns (nameAny self)),
        (Except.ok dataPod : Except KubeError DataPod)⟩ :: τ) (.throw e) s := by
  obtain ⟨path, hpath⟩ := newPath_pure huid
  have fetches : Prog.Exec (clusterEnv selects True)
      (request (.getDataPod ns (nameAny self))) s _ (.pure dataPod) s := exec_request_ok hget
  have picks : Prog.Exec (clusterEnv selects True) (DataPod.newPath self) s [] (.pure path) s := by
    rw [hpath]
    exact .refl _ _
  unfold DataPod.reconcile
  exact (exec_namespace hns).andThen (fetches.andThen (picks.andThen (chooses.bind _)))

/-- A `DataPod` whose selector matches no node makes the controller panic. -/
lemma reconcilePod_panics {self : DataPod} (served : Served s.dataPods self)
    (dangling : Dangling selects s self) : ¬ NeverPanics selects s self.reconcile := by
  obtain ⟨ns, name, uid, hat, huid, k, hk, hkat, _⟩ := served
  obtain ⟨href, ns', selector, hns', hselector, hlist⟩ := dangling
  have hns : ns' = ns := Option.some.inj (hns'.symm.trans hat.1)
  subst hns
  have hself : nameAny self = name := nameAny_of_at hat
  -- there is a copy to be fetched
  obtain ⟨dataPod, hget⟩ : ∃ dataPod, getFrom s.dataPods ns' (nameAny self) = .ok dataPod := by
    rw [hself]
    exact exists_getFrom ⟨k, hk, hkat⟩
  have chooses : Prog.Exec (clusterEnv selects True) (DataPod.chooseDataNode self ns') s
      [⟨.kube (.listDataNodes ns' ⟨some (renderSelector selector)⟩),
        (Except.ok ([] : List DataNode) : Except KubeError (List DataNode))⟩]
      (.throw (.panic "No nodes found with provided selector")) s := by
    unfold DataPod.chooseDataNode
    rw [href, hselector]
    have lists : Prog.Exec (clusterEnv selects True)
        (request (.listDataNodes ns' ⟨some (renderSelector selector)⟩)) s _
        (.pure ([] : List DataNode)) s := exec_request_ok hlist.symm
    exact lists.andThen (.refl _ _)
  have run := exec_reconcilePod_throw hns' huid hget.symm chooses
  intro never
  exact never _ _ s _ run rfl

end

/-! ## All controllers -/

/-- The namespace is set, so it can be unwrapped. -/
lemma reconcileWith_eq {K : Type} [Kube.Resource K] {reconcile cleanup : K → Reconcile Action}
    {event : FinalizerEvent} {objects : List K} {res : K} (served : Served objects res) :
    reconcileWith reconcile cleanup event res =
      match event with
      | .apply => reconcile res
      | .cleanup => cleanup res := by
  obtain ⟨ns, _, _, hat, _⟩ := served
  have hns : namespaceOf res = some ns := hat.1
  unfold reconcileWith
  rw [hns]
  rfl

/-- The controllers never panic, except that of `DataPod`s at one whose selector matches no
`DataNode`. -/
theorem never_panics_iff {selects : Selects} {s : Cluster} {res : Reconciled}
    {event : FinalizerEvent} (served : res.In s) :
    NeverPanics selects s (res.program event) ↔
      ¬ (event = .apply ∧ ∃ pod, res = .dp pod ∧ Dangling selects s pod) := by
  rcases res with pod | node | drs
  · show NeverPanics selects s (reconcileWith _ _ event pod) ↔ _
    rw [reconcileWith_eq served]
    cases event with
    | apply =>
      constructor
      · rintro never ⟨_, pod', heq, dangling⟩
        cases heq
        exact reconcilePod_panics served dangling never
      · intro bound
        exact reconcilePod_returns served fun dangling => bound ⟨rfl, pod, rfl, dangling⟩
    | cleanup =>
      exact ⟨fun _ h => (by cases h.1), fun _ => ensures_returned (fails_deleteRequested pod)⟩
  · have never : NeverPanics selects s (reconcileWith DataNode.reconcile DataNode.cleanup event
        node) := by
      rw [reconcileWith_eq served]
      cases event with
      | apply => exact ensures_returned (fails_reconcileNode node)
      | cleanup => exact ensures_returned (fails_deleteRequested node)
    exact ⟨fun _ ⟨_, _, h, _⟩ => (by cases h), fun _ => never⟩
  · have never : NeverPanics selects s (reconcileWith DataReplicaSet.reconcile
        DataReplicaSet.cleanup event drs) := by
      rw [reconcileWith_eq served]
      cases event with
      | apply => exact ensures_returned (fails_reconcileSet drs)
      | cleanup => exact ensures_returned (fails_deleteRequested drs)
    exact ⟨fun _ ⟨_, _, h, _⟩ => (by cases h), fun _ => never⟩

/-- A `DataPod` with the selector `app=replica` and no reference. -/
def sampleSelecting : DataPod where
  metadata := { name := some "p", ns := some "default", uid := some "4" }
  spec := ⟨none, none, some (.ofList [("app", "replica")]), none⟩
  status := none

/-- The selector of a `DataPod` matches no node, and the controller panics. -/
theorem reconcile_panics : ¬ ∀ (selects : Selects) (s : Cluster) (res : Reconciled)
    (event : FinalizerEvent), res.In s → NeverPanics selects s (res.program event) := by
  intro claim
  have served : Served (sampleCluster 1 [] [sampleSelecting]).dataPods sampleSelecting := by
    refine ⟨"default", "p", "4", ⟨rfl, rfl⟩, rfl, sampleSelecting, ?_, ⟨rfl, rfl⟩, rfl⟩
    exact List.mem_cons_of_mem _ (List.mem_singleton_self _)
  have never := claim sampleSelects _ (.dp sampleSelecting) .apply served
  refine reconcilePod_panics served ⟨rfl, "default", _, rfl, rfl, ?_⟩ never
  rfl

/-- A `DataPod` with a reference to its node. -/
theorem never_panics_with_reference :
    NeverPanics sampleSelects (sampleCluster 1 [] []) (Reconciled.program .apply
      (.dp (samplePod "source" "2" ∅))) := by
  have served : Reconciled.In (sampleCluster 1 [] []) (.dp (samplePod "source" "2" ∅)) :=
    ⟨"default", "source", "2", ⟨rfl, rfl⟩, rfl, _, List.mem_singleton_self _, ⟨rfl, rfl⟩, rfl⟩
  refine (never_panics_iff served).mpr ?_
  rintro ⟨_, pod, heq, href, _⟩
  cases heq
  cases href

end Kubedal
