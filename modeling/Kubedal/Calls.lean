import Kubedal.Services.Types
import Kubedal.Utils.Interaction

/-!
# The calls of the driver

Everything a handler or a reconciler waits for or does to the world outside its own
local variables, as one signature: requests to the API server, OpenDAL operations, file
system and mount system calls, the two mutex-protected maps, and random names.
-/

namespace Kubedal

open Interaction Kube Resource

/-! ## Requests to the API server -/

/-- The object a forced server-side apply of `DataPod::reconcile` sends. -/
structure DataPodPatch where
  metadata : ObjectMeta
  spec : DataPodSpec
  status : DataPodStatus
deriving DecidableEq

/-- A `kube::runtime::events::Event` of type `Normal`. -/
structure KubeEvent where
  reason : String
  note : Option String
  action : String
deriving DecidableEq

inductive KubeCall where
  | getDataNode (ns name : String)
  | getDataPod (ns name : String)
  | getSecret (ns name : String)
  | listDataNodes (ns : String) (params : ListParams)
  | listDataPods (ns : String) (params : ListParams)
  | listPvcMetadata (ns : String) (params : ListParams)
  | createDataPod (ns : String) (pod : DataPod)
  | createPvc (ns : String) (pvc : PersistentVolumeClaim)
  | createPod (ns : String) (pod : Pod)
  | createAccessReview (review : SubjectAccessReview)
  | applyDataPod (ns name : String) (patch : DataPodPatch)
  | applyDataNodeStatus (ns name : String) (status : DataNodeStatus)
  | publishEvent (event : KubeEvent) (regarding : ObjectReference)

/-- What a successful request returns. -/
def KubeCall.Object : KubeCall → Type
  | .getDataNode _ _ => DataNode
  | .getDataPod _ _ => DataPod
  | .getSecret _ _ => Secret
  | .listDataNodes _ _ => List DataNode
  | .listDataPods _ _ => List DataPod
  | .listPvcMetadata _ _ => List ObjectMeta
  | .createDataPod _ _ => DataPod
  | .createPvc _ _ => PersistentVolumeClaim
  | .createPod _ _ => Pod
  | .createAccessReview _ => SubjectAccessReview
  | .applyDataPod _ _ _ => DataPod
  | .applyDataNodeStatus _ _ _ => DataNode
  | .publishEvent _ _ => Unit

/-! ## The storage and the host -/

inductive OpendalCall where
  | fromIter (backend : Backend) (config : StringMap String)
  | check (operator : Operator)
  | list (operator : Operator) (path : String)
  | reader (operator : Operator) (path : String)
  | intoBytesStream (operator : Operator) (path : String)

/-- An error of OpenDAL is only ever shown, so it is its text here. -/
def OpendalCall.Reply : OpendalCall → Type
  | .fromIter _ _ => Except String Unit
  | .check _ => Except String Unit
  | .list _ _ => Except String (List Entry)
  | .reader _ _ => Except String Unit
  | .intoBytesStream _ _ => Except String ByteStream

inductive HostCall where
  | pathExists (path : String)
  | createDir (path : String)
  | createFile (path : String)
  | writeAll (path : String) (bytes : ByteArray)
  | bindMount (source target : String) (readOnly : Bool)
  | unmount (target : String)
  | fuseMount (operator : Operator) (target : String) (readOnly : Bool)
  | unmountHandle (handle : MountHandle)

/-- The result of joining a blocking task, which may have panicked. -/
inductive Joined where
  | panicked
  | done (result : Except String Unit)
deriving DecidableEq

def HostCall.Reply : HostCall → Type
  | .pathExists _ => Bool
  | .createDir _ => Except String Unit
  | .createFile _ => Except IoError Unit
  | .writeAll _ _ => Except IoError Unit
  | .bindMount _ _ _ => Joined
  | .unmount _ => Joined
  | .fuseMount _ _ _ => Except IoError MountHandle
  | .unmountHandle _ => Except IoError Unit

/-! ## The state of the services -/

/-- Uses of `NodeService::mounts`, a map behind an asynchronous mutex. `insert` and
`remove` wait for the mutex and take it; `insert` is the last thing its handler does, so
the guard is dropped with it, while `remove` keeps the guard until `unlock`. -/
inductive MountsCall where
  | insert (volumeId : String) (mount : Mount)
  | remove (volumeId : String)
  | unlock

def MountsCall.Reply : MountsCall → Type
  | .insert _ _ => Unit
  | .remove _ => Option Mount
  | .unlock => Unit

/-- The critical sections on `ControllerService::volumes`. -/
inductive VolumesCall where
  | lookup (name : String)
  | insert (name : String) (volume : CsiVolume)
  | removeById (volumeId : String)
  | values

def VolumesCall.Reply : VolumesCall → Type
  | .lookup _ => Option CsiVolume
  | .insert _ _ => Unit
  | .removeById _ => Unit
  | .values => List CsiVolume

/-! ## The signature -/

inductive Call where
  | kube (c : KubeCall)
  | opendal (c : OpendalCall)
  | host (c : HostCall)
  | mounts (c : MountsCall)
  | volumes (c : VolumesCall)
  | newUuid
  | sampleAlphanumeric (count : ℕ)

def Call.Reply : Call → Type
  | .kube c => Except KubeError c.Object
  | .opendal c => c.Reply
  | .host c => c.Reply
  | .mounts c => c.Reply
  | .volumes c => c.Reply
  | .newUuid => String
  | .sampleAlphanumeric _ => String

abbrev signature : Signature := ⟨Call, Call.Reply⟩

lemma OpendalCall.exists_reply (c : OpendalCall) : Nonempty c.Reply := by
  cases c
  all_goals exact ⟨Except.error ""⟩

lemma HostCall.exists_reply (c : HostCall) : Nonempty c.Reply := by
  cases c
  case pathExists => exact ⟨false⟩
  case createDir => exact ⟨Except.error ""⟩
  case bindMount => exact ⟨Joined.panicked⟩
  case unmount => exact ⟨Joined.panicked⟩
  all_goals exact ⟨Except.error ⟨.unknown, ""⟩⟩

/-- There is some answer to every call. -/
lemma Call.exists_reply (c : Call) : Nonempty c.Reply := by
  rcases c with c | c | c | c | c | _ | _
  case kube => exact ⟨Except.error .failed⟩
  case opendal => exact c.exists_reply
  case host => exact c.exists_reply
  case mounts =>
    cases c
    case remove => exact ⟨none⟩
    all_goals exact ⟨()⟩
  case volumes =>
    cases c
    case lookup => exact ⟨none⟩
    case values => exact ⟨([] : List CsiVolume)⟩
    all_goals exact ⟨()⟩
  all_goals exact ⟨""⟩

/-- A function of the driver that fails with errors of `ε`. -/
abbrev Async (ε α : Type) := Prog signature (Fault ε) α

/-- A function of the CSI services. -/
abbrev Handler (α : Type) := Async Status α

/-- A function of the reconcilers. -/
abbrev Reconcile (α : Type) := Async Error α

section
variable {ε α : Type}

/-- The operator `?`. -/
def orReturn : Except ε α → Async ε α
  | .ok a => .pure a
  | .error e => .throw (.error e)

/-- `Option::ok_or_else`. -/
def okOr (e : ε) : Option α → Except ε α
  | some a => .ok a
  | none => .error e

/-- `Option::expect`. -/
def expect (message : String) : Option α → Async ε α
  | some a => .pure a
  | none => .throw (.panic message)

def perform (c : Call) : Async ε c.Reply := Prog.perform (S := signature) c

def kube (c : KubeCall) : Async ε (Except KubeError c.Object) := perform (.kube c)

def opendal (c : OpendalCall) : Async ε c.Reply := perform (.opendal c)

def host (c : HostCall) : Async ε c.Reply := perform (.host c)

def mounts (c : MountsCall) : Async ε c.Reply := perform (.mounts c)

def volumes (c : VolumesCall) : Async ε c.Reply := perform (.volumes c)

end

/-- A request of a reconciler, with the operator `?` on its answer. -/
def request (c : KubeCall) : Reconcile c.Object := do
  let reply ← kube c
  orReturn (reply.mapError Error.kubeError)

/-! ## Rules for single calls -/

lemma eq_some_of_okOr {ε α : Type} {e : ε} {o : Option α} {a : α} (h : okOr e o = .ok a) :
    o = some a := by
  cases o with
  | none => cases h
  | some b =>
    cases h
    rfl

section
variable {ε α : Type} {C : Call → Prop}

lemma uses_orReturn (r : Except ε α) : (orReturn r).Uses C := by
  cases r <;> trivial

/-- The rest of the function knows the value. -/
lemma uses_orReturn_bind {β : Type} {r : Except ε α} {f : α → Async ε β}
    (h : ∀ a, r = .ok a → (f a).Uses C) : (orReturn r >>= f).Uses C := by
  cases r with
  | ok a => exact h a rfl
  | error e => trivial

lemma uses_expect (message : String) (a : Option α) :
    (expect message a : Async ε α).Uses C := by
  cases a <;> trivial

lemma uses_perform {c : Call} (h : C c) : (perform c : Async ε c.Reply).Uses C :=
  ⟨h, fun _ => trivial⟩

lemma uses_kube (c : KubeCall) (h : C (.kube c)) :
    (kube c : Async ε (Except KubeError c.Object)).Uses C := ⟨h, fun _ => trivial⟩

lemma uses_opendal (c : OpendalCall) (h : C (.opendal c)) :
    (opendal c : Async ε c.Reply).Uses C := ⟨h, fun _ => trivial⟩

lemma uses_host (c : HostCall) (h : C (.host c)) :
    (host c : Async ε c.Reply).Uses C := ⟨h, fun _ => trivial⟩

end

lemma uses_request {C : Call → Prop} (c : KubeCall) (h : C (.kube c)) :
    (request c).Uses C := (uses_kube c h).bind fun _ => uses_orReturn _

/-- The function returns the error instead of panicking. -/
def Fault.IsError {ε : Type} : Fault ε → Prop
  | .error _ => True
  | .panic _ => False

section
variable {ε α : Type}

lemma fails_orReturn (r : Except ε α) : (orReturn r).Fails Fault.IsError := by
  cases r <;> trivial

lemma fails_expect {message : String} {o : Option α} {a : α} (h : o = some a) :
    (expect message o : Async ε α).Fails Fault.IsError := by
  rw [h]
  trivial

lemma fails_perform (c : Call) : (perform c : Async ε c.Reply).Fails Fault.IsError :=
  fun _ => trivial

lemma fails_request (c : KubeCall) : (request c).Fails Fault.IsError :=
  (fails_perform (.kube c)).bind fun _ => fails_orReturn _

end

section
variable {γ ε α : Type} {M : Monitor signature γ} {g : γ}

lemma wp_orReturn {r : Except ε α} {Q : γ → Except (Fault ε) α → Prop}
    (hok : ∀ a, r = .ok a → Q g (.ok a)) (herror : ∀ e, r = .error e → Q g (.error (.error e))) :
    (orReturn r).wp M g Q := by
  cases r with
  | ok a => exact hok a rfl
  | error e => exact herror e rfl

lemma wp_expect {message : String} {o : Option α} {Q : γ → Except (Fault ε) α → Prop}
    (hsome : ∀ a, o = some a → Q g (.ok a)) (hnone : Q g (.error (.panic message))) :
    (expect message o).wp M g Q := by
  cases o with
  | some a => exact hsome a rfl
  | none => exact hnone

lemma wp_perform {c : Call} {Q : γ → Except (Fault ε) c.Reply → Prop} (allowed : M.allows g c)
    (h : ∀ a : c.Reply, M.assumes g c a → Q (M.next g c a) (.ok a)) :
    (perform c).wp M g Q := ⟨allowed, h⟩

lemma wp_mounts {c : MountsCall} {Q : γ → Except (Fault ε) c.Reply → Prop}
    (allowed : M.allows g (.mounts c))
    (h : ∀ a : c.Reply, M.assumes g (.mounts c) a → Q (M.next g (.mounts c) a) (.ok a)) :
    (mounts c).wp M g Q := ⟨allowed, h⟩

lemma wp_volumes {c : VolumesCall} {Q : γ → Except (Fault ε) c.Reply → Prop}
    (allowed : M.allows g (.volumes c))
    (h : ∀ a : c.Reply, M.assumes g (.volumes c) a → Q (M.next g (.volumes c) a) (.ok a)) :
    (volumes c).wp M g Q := ⟨allowed, h⟩

end

section
variable {σ ε α : Type} {R : σ → (c : Call) → c.Reply → σ → Prop} {s : σ}

lemma ensures_orReturn {r : Except ε α} {Q : σ → Except (Fault ε) α → Prop}
    (hok : ∀ a, r = .ok a → Q s (.ok a)) (herror : ∀ e, r = .error e → Q s (.error (.error e))) :
    (orReturn r).Ensures R s Q := by
  cases r with
  | ok a => exact Prog.ensures_pure (hok a rfl)
  | error e => exact Prog.ensures_throw (herror e rfl)

lemma ensures_kube {c : KubeCall} {Q : σ → Except (Fault ε) (Except KubeError c.Object) → Prop}
    (h : ∀ a s', R s (.kube c) a s' → Q s' (.ok a)) : (kube c).Ensures R s Q :=
  Prog.ensures_perform h

lemma ensures_volumes {c : VolumesCall} {Q : σ → Except (Fault ε) c.Reply → Prop}
    (h : ∀ a s', R s (.volumes c) a s' → Q s' (.ok a)) : (volumes c).Ensures R s Q :=
  Prog.ensures_perform h

end

lemma wp_request {γ : Type} {M : Monitor signature γ} {g : γ} {c : KubeCall}
    {Q : γ → Except (Fault Error) c.Object → Prop} (allowed : M.allows g (.kube c))
    (hok : ∀ object, M.assumes g (.kube c) (Except.ok object) →
      Q (M.next g (.kube c) (Except.ok object)) (.ok object))
    (herror : ∀ e, M.assumes g (.kube c) (Except.error e) →
      Q (M.next g (.kube c) (Except.error e)) (.error (.error (.kubeError e)))) :
    (request c).wp M g Q := by
  refine ⟨allowed, fun a assumed => ?_⟩
  cases a with
  | ok object => exact hok object assumed
  | error e => exact herror e assumed

/-! ## Runs of single calls -/

section
variable {σ ε α : Type} {R : σ → (c : Call) → c.Reply → σ → Prop} {s s' : σ}
  {τ : List (Event signature)}

/-- A run over a fallible value goes on with the value. -/
lemma exec_orReturn {x : Except ε α} {a : α}
    (run : Prog.Exec R (orReturn x) s τ (.pure a) s') : x = .ok a ∧ τ = [] ∧ s' = s := by
  cases x with
  | ok b =>
    obtain ⟨rfl, h, rfl⟩ := Prog.exec_pure_iff.mp run
    cases h
    exact ⟨rfl, rfl, rfl⟩
  | error e =>
    obtain ⟨_, h, _⟩ := Prog.exec_throw_iff.mp run
    cases h

lemma exec_perform {c : Call} {a : c.Reply}
    (run : Prog.Exec R (perform c : Async ε c.Reply) s τ (.pure a) s') :
    τ = [⟨c, a⟩] ∧ R s c a s' := by
  obtain ⟨a', s₁, τ', rfl, answered, hrest⟩ := Prog.exec_call_pure run
  obtain ⟨rfl, h, rfl⟩ := Prog.exec_pure_iff.mp hrest
  cases h
  exact ⟨rfl, answered⟩

/-- A request that can be answered with an object. -/
lemma canEnd_request {β : Type} {c : KubeCall} {f : c.Object → Reconcile β} {object : c.Object}
    {P : List (Event signature) → Prop} (answered : R s (.kube c) (Except.ok object) s')
    (h : (f object).CanEnd R s' fun τ => P (⟨.kube c, Except.ok object⟩ :: τ)) :
    (request c >>= f).CanEnd R s P := by
  show (Prog.call (S := signature) (Call.kube c) fun reply =>
    orReturn (Except.mapError Error.kubeError reply) >>= f).CanEnd R s P
  exact Prog.CanEnd.call answered h

end

end Kubedal
