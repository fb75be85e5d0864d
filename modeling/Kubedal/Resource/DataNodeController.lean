import Kubedal.Util.Opendal

/-!
# The controller of `DataNode`s

`reconcile` checks the operator of a `DataNode` that has no status yet, and sets the status.
-/

namespace Kubedal

open Interaction Kube Resource

/-- What the three controllers do when an object is deleted: they say so in an event. -/
def deleteRequested {K : Type} [Kube.Resource K] (self : K) : Reconcile Action := do
  request (.publishEvent ⟨"DeleteRequested", some ("Delete `" ++ nameAny self ++ "`"), "Deleting"⟩
    (objectRef self))
  return .awaitChange

/-- `impl From<tonic::Status> for Error`, on the ways in which a function fails. -/
def Fault.ofStatus : Fault Status → Fault Error
  | .error status => .error (.tonicError status)
  | .panic message => .panic message

/-- The part of `DataNode::reconcile` for a `DataNode` without a status. -/
def Resource.DataNode.initialize (self : DataNode) : Reconcile Action := do
  let ns ← orReturn (okOr (.reconcilerError "Missing namespace") (namespaceOf self))
  let operator ← (getOperator self).mapError Fault.ofStatus
  let checked ← opendal (.check operator)
  orReturn (checked.mapError Error.reconcilerError)
  let _ ← request (.applyDataNodeStatus ns (nameAny self) ⟨true, ⟨"0"⟩⟩)
  request (.publishEvent ⟨"Initialized", some ("Init `" ++ nameAny self ++ "`"), "Initialized"⟩
    (objectRef self))
  return .requeue (30 * 60)

def Resource.DataNode.reconcile (self : DataNode) : Reconcile Action :=
  if self.status.isSome then return .requeue (30 * 60) else self.initialize

def Resource.DataNode.cleanup (self : DataNode) : Reconcile Action := deleteRequested self

/-! ## What the controllers call -/

section
variable {C : Call → Prop}

lemma uses_deleteRequested {K : Type} [Kube.Resource K] (self : K)
    (h : ∀ event regarding, C (.kube (.publishEvent event regarding))) :
    (deleteRequested self).Uses C := (uses_request _ (h _ _)).bind fun _ => trivial

/-- The controller of `DataNode`s writes into the namespace of the `DataNode`. -/
lemma uses_reconcileNode_within {node : DataNode}
    (h : ∀ cred ns, node.spec.secretRef = some cred → secretNamespace node cred = .ok ns →
      C (.kube (.getSecret ns cred.name)))
    (ho : ∀ c, C (.opendal c))
    (hs : ∀ ns name status, namespaceOf node = some ns →
      C (.kube (.applyDataNodeStatus ns name status)))
    (he : ∀ event regarding, C (.kube (.publishEvent event regarding))) :
    node.reconcile.Uses C := by
  unfold DataNode.reconcile
  split
  · trivial
  unfold DataNode.initialize
  apply uses_orReturn_bind
  intro ns hns
  apply ((uses_getOperator h ho).mapError _).bind
  intro operator
  apply (uses_opendal _ (ho _)).bind
  intro checked
  apply (uses_orReturn _).bind
  intro _
  apply (uses_request _ (hs _ _ _ (eq_some_of_okOr hns))).bind
  intro node'
  exact (uses_request _ (he _ _)).bind fun _ => trivial

lemma uses_reconcileNode {node : DataNode}
    (h : ∀ cred ns, node.spec.secretRef = some cred → secretNamespace node cred = .ok ns →
      C (.kube (.getSecret ns cred.name)))
    (ho : ∀ c, C (.opendal c))
    (hs : ∀ ns name status, C (.kube (.applyDataNodeStatus ns name status)))
    (he : ∀ event regarding, C (.kube (.publishEvent event regarding))) :
    node.reconcile.Uses C :=
  uses_reconcileNode_within h ho (fun ns name status _ => hs ns name status) he

end

end Kubedal
