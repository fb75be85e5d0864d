import Kubedal.Calls
import Kubedal.Utils.Utf8

/-!
# Building an operator

`get_operator` turns a `DataNode` into an OpenDAL operator: its `config`, overridden by
the entries of the secret it references.
-/

namespace Kubedal

open Interaction Kube Resource Utf8

/-- The namespace a `secretRef` of `node` resolves to. -/
def secretNamespace (node : DataNode) (cred : Ref) : Except Status String :=
  okOr (.invalidArgument "Secret namespace not provided") (cred.ns.or node.metadata.ns)

/-- Fetches the secret that `node` references, if it references one. -/
def fetchSecret (node : DataNode) : Handler (Option Secret) := do
  match node.spec.secretRef with
  | none => return none
  | some cred =>
    let secretNs ← orReturn (secretNamespace node cred)
    let reply ← kube (.getSecret secretNs cred.name)
    let secret ← orReturn (reply.mapError fun _ => Status.notFound "Secret not found")
    return some secret

/-- The loop over the entries of a secret: each one is decoded and put into `cfg`. -/
def insertSecretData (cfg : StringMap String) :
    List (Sigma fun _ : String => ByteArray) → Except Status (StringMap String)
  | [] => .ok cfg
  | ⟨k, v⟩ :: rest =>
    match fromUtf8 v with
    | .ok s => insertSecretData (cfg.insert k s) rest
    | .error e => .error (.internal ("Failed to deserialize secret: " ++ e.message))

/-- `cfg` with the entries of `secret`, if there is one and it has data. -/
def withSecretData (cfg : StringMap String) (secret : Option Secret) :
    Except Status (StringMap String) :=
  match secret.bind Secret.data with
  | some data => insertSecretData cfg data.entries
  | none => .ok cfg

def initService (backend : Backend) (cfg : StringMap String) : Handler Operator := do
  let built ← opendal (.fromIter backend cfg)
  orReturn (built.mapError fun e => Status.internal ("Failed to init openDAL operator: " ++ e))
  return ⟨backend, cfg⟩

def getOperator (node : DataNode) : Handler Operator := do
  let secret ← fetchSecret node
  let cfg ← orReturn (withSecretData node.spec.config secret)
  initService node.spec.backend cfg

section
variable {C : Call → Prop} {node : DataNode}

/-- The only secret that is fetched is the one that `node` refers to. -/
lemma uses_fetchSecret (h : ∀ cred ns, node.spec.secretRef = some cred →
      secretNamespace node cred = .ok ns → C (.kube (.getSecret ns cred.name))) :
    (fetchSecret node).Uses C := by
  unfold fetchSecret
  split
  · trivial
  · rename_i cred hcred
    apply uses_orReturn_bind
    intro secretNs hns
    apply (uses_kube _ (h cred secretNs hcred hns)).bind
    intro reply
    exact (uses_orReturn _).bind fun secret => trivial

lemma uses_getOperator (h : ∀ cred ns, node.spec.secretRef = some cred →
      secretNamespace node cred = .ok ns → C (.kube (.getSecret ns cred.name)))
    (ho : ∀ c, C (.opendal c)) : (getOperator node).Uses C := by
  unfold getOperator initService
  apply (uses_fetchSecret h).bind
  intro secret
  apply (uses_orReturn _).bind
  intro cfg
  apply (uses_opendal _ (ho _)).bind
  intro built
  exact (uses_orReturn _).bind fun _ => trivial

end

end Kubedal
