import Kubedal.Resource.DataNodeController

/-!
# The controller of `DataPod`s

`reconcile` gives a `DataPod` a path and a `DataNode`, and applies both, together with an
owner reference to the `DataNode`, in one forced server-side apply. What it decides by is the
object it is handed, while the rest of the patch is taken from a fresh copy.
-/

namespace Kubedal

open Interaction Kube Resource

namespace Resource.DataPod

/-- The path of the spec, unless it is absent, empty or "/". -/
def properPath (spec : DataPodSpec) : Option String :=
  spec.path.filter fun path => ¬ (path = "" ∨ path = "/")

/-- The path to set, and whether it is generated. -/
def newPath (self : DataPod) : Reconcile (String × Bool) :=
  match properPath self.spec with
  | some path => return (path, false)
  | none => do
    let uid ← expect "DataPods uid is missing." (uidOf self)
    return ("/" ++ uid, true)

/-- The `DataNode` by reference, or the first one that the selector matches. -/
def chooseDataNode (self : DataPod) (ns : String) : Reconcile DataNode :=
  match self.spec.dataNodeRef with
  | some nodeRef => request (.getDataNode ns nodeRef.name)
  | none =>
    match self.spec.dataNodeSelector with
    | some selector => do
      let nodes : List DataNode ← request (.listDataNodes ns ⟨some (renderSelector selector)⟩)
      expect "No nodes found with provided selector" nodes.head?
    | none => throw (.error (.reconcilerError
        ("DataPod " ++ nameAny self ++ " has no DataNode reference/selector")))

/-- Everything that is patched at once. -/
def overallPatch (dataPod : DataPod) (name newPath : String) (generated : Bool)
    (dataNode : DataNode) (owner : OwnerReference) : DataPodPatch where
  metadata :=
    { name := some name, ns := dataPod.metadata.ns, ownerReferences := some [owner] }
  spec :=
    { path := some newPath
      dataNodeRef := some ⟨nameAny dataNode, some (dataNode.metadata.ns.getD "")⟩
      dataNodeSelector := dataPod.spec.dataNodeSelector
      request := dataPod.spec.request }
  status := ⟨true, generated⟩

/-- The event about a `DataPod` that the patch has changed. -/
def changedEvent (newDataPod : DataPod) : KubeEvent where
  reason := "Reconciled: DataPod changed (path generated: " ++
    toString ((newDataPod.status.map DataPodStatus.generatedPath).getD false) ++ ")"
  note := none
  action := "ReconciledSync"

/-- Says in an event that the patch has changed the `DataPod`. -/
def publishChanged (self dataPod newDataPod : DataPod) : Reconcile Unit :=
  if dataPod ≠ newDataPod then do
    let _ ← request (.publishEvent (changedEvent newDataPod) (objectRef self))
    return ()
  else return ()

def reconcile (self : DataPod) : Reconcile Action := do
  let ns ← orReturn (okOr (.reconcilerError "Missing namespace") (namespaceOf self))
  let dataPod : DataPod ← request (.getDataPod ns (nameAny self))
  let (path, generated) ← newPath self
  let dataNode ← chooseDataNode self ns
  let owner ← orReturn (okOr (.reconcilerError
    ("Failed to create owner ref from DataNode: " ++ nameAny dataNode)) (ownerRef dataNode))
  let name ← expect "DataPod is missing name." dataPod.metadata.name
  let newDataPod : DataPod ←
    request (.applyDataPod ns (nameAny self)
      (overallPatch dataPod name path generated dataNode owner))
  publishChanged self dataPod newDataPod
  return .requeue (5 * 60)

def cleanup (self : DataPod) : Reconcile Action := deleteRequested self

end Resource.DataPod

/-! ## What the controller calls -/

/-- A patch as the controller sends it: the `DataNode` that it refers to is the only owner. -/
structure SentPatch (patch : DataPodPatch) (owner : OwnerReference) : Prop where
  owners : patch.metadata.ownerReferences = some [owner]
  nodeRef : ∃ ref, patch.spec.dataNodeRef = some ref ∧ ref.name = owner.name

lemma ownerRef_name {K : Type} [Kube.Resource K] {k : K} {owner : OwnerReference}
    (h : ownerRef k = some owner) : owner.name = nameAny k := by
  simp only [ownerRef, Option.bind_eq_bind, Option.pure_def, Option.bind_eq_some_iff] at h
  obtain ⟨name, hname, uid, _, heq⟩ := h
  cases heq
  unfold nameAny
  rw [hname]
  rfl

section
variable {C : Call → Prop}

lemma uses_chooseDataNode {self : DataPod} {ns : String}
    (hn : ∀ ref, self.spec.dataNodeRef = some ref → C (.kube (.getDataNode ns ref.name)))
    (hl : ∀ selector, self.spec.dataNodeSelector = some selector →
      C (.kube (.listDataNodes ns ⟨some (renderSelector selector)⟩))) :
    (DataPod.chooseDataNode self ns).Uses C := by
  unfold DataPod.chooseDataNode
  cases href : self.spec.dataNodeRef with
  | some nodeRef => exact uses_request _ (hn nodeRef href)
  | none =>
    cases hselector : self.spec.dataNodeSelector with
    | none => trivial
    | some selector =>
      apply (uses_request _ (hl selector hselector)).bind
      intro nodes
      exact uses_expect _ _

lemma uses_newPath (self : DataPod) : (DataPod.newPath self).Uses C := by
  unfold DataPod.newPath
  split
  · trivial
  · exact (uses_expect _ _).bind fun _ => trivial

lemma uses_publishChanged {self dataPod newDataPod : DataPod}
    (he : ∀ event regarding, C (.kube (.publishEvent event regarding))) :
    (DataPod.publishChanged self dataPod newDataPod).Uses C := by
  unfold DataPod.publishChanged
  split
  · exact (uses_request _ (he _ _)).bind fun _ => trivial
  · trivial

/-- The controller of `DataPod`s stays in the namespace of the `DataPod`. -/
lemma uses_reconcilePod_within {self : DataPod}
    (hn : ∀ ns ref, namespaceOf self = some ns → self.spec.dataNodeRef = some ref →
      C (.kube (.getDataNode ns ref.name)))
    (hl : ∀ ns selector, namespaceOf self = some ns → self.spec.dataNodeSelector = some selector →
      C (.kube (.listDataNodes ns ⟨some (renderSelector selector)⟩)))
    (hg : ∀ ns name, namespaceOf self = some ns → C (.kube (.getDataPod ns name)))
    (ha : ∀ ns name patch owner, namespaceOf self = some ns → SentPatch patch owner →
      C (.kube (.applyDataPod ns name patch)))
    (he : ∀ event regarding, C (.kube (.publishEvent event regarding))) :
    self.reconcile.Uses C := by
  unfold DataPod.reconcile
  apply uses_orReturn_bind
  intro ns hns
  have here : namespaceOf self = some ns := eq_some_of_okOr hns
  apply (uses_request _ (hg _ _ here)).bind
  intro (dataPod : DataPod)
  apply (uses_newPath self).bind
  intro path
  refine (uses_chooseDataNode (fun ref href => hn ns ref here href)
    fun selector hselector => hl ns selector here hselector).bind fun dataNode => ?_
  apply uses_orReturn_bind
  intro owner howner
  have hname : owner.name = nameAny dataNode := ownerRef_name (eq_some_of_okOr howner)
  apply (uses_expect _ _).bind
  intro name
  apply (uses_request _ (ha _ _ _ owner here ⟨rfl, _, rfl, hname.symm⟩)).bind
  intro (newDataPod : DataPod)
  exact (uses_publishChanged he).bind fun _ => trivial

/-- The controller of `DataPod`s looks for the `DataNode` in the namespace of the `DataPod`. -/
lemma uses_reconcilePod {self : DataPod}
    (hn : ∀ ns ref, namespaceOf self = some ns → self.spec.dataNodeRef = some ref →
      C (.kube (.getDataNode ns ref.name)))
    (hl : ∀ ns selector, self.spec.dataNodeSelector = some selector →
      C (.kube (.listDataNodes ns ⟨some (renderSelector selector)⟩)))
    (hg : ∀ ns name, C (.kube (.getDataPod ns name)))
    (ha : ∀ ns name patch owner, SentPatch patch owner → C (.kube (.applyDataPod ns name patch)))
    (he : ∀ event regarding, C (.kube (.publishEvent event regarding))) :
    self.reconcile.Uses C :=
  uses_reconcilePod_within hn (fun ns selector _ => hl ns selector) (fun ns name _ => hg ns name)
    (fun ns name patch owner _ => ha ns name patch owner) he

end

end Kubedal
