import Kubedal.Resource.ClaimOrigin
import Kubedal.Services.NodeRestart
import Kubedal.Services.VolumeOrigin
import Kubedal.Utils.Component

/-!
# The driver

The reconcilers, the controller service and the node service of one node, at work on one cluster.
Their requests are interleaved in any way, and both services may be restarted at any time; a volume
is published only if it was created before.

* `driverService` is this system;
* `driverCluster`, `driverVolumes` and `driverNode` are its components.
-/

namespace Kubedal

open Interaction Kube Resource

/-! ## The system -/

structure DriverState where
  cluster : Cluster
  volumes : VolumeState
  node : NodeState

inductive DriverRequest where
  | pass (pass : Pass)
  | volume (request : VolumeRequest)
  | node (request : NodeRequest)

inductive DriverError where
  | pass (e : Fault Error)
  | rpc (e : Fault Status)

inductive DriverReply where
  | action (action : Action)
  | volume (reply : VolumeReply)
  | node

def DriverRequest.program : DriverRequest → Prog signature DriverError DriverReply
  | .pass r => r.program.rename .pass .action
  | .volume r => r.program.rename .rpc .volume
  | .node r => r.program.rename .rpc fun _ => .node

abbrev DriverPool := Pool signature DriverState DriverRequest DriverError DriverReply

abbrev DriverTransition :=
  Service.Transition signature DriverState DriverRequest DriverError DriverReply

/-- A request for the volume `name` has returned `volume`. -/
def DriverPool.HasCreated (P : DriverPool) (name : String) (volume : CsiVolume) : Prop :=
  ∃ y ∈ P.finished, ∃ c, c.name = name ∧ y.request = .volume (.create c) ∧
    y.result = .ok (.volume (.created volume))

/-- The volume is published with its id and its context, to which any keys may have been added
that are not the driver's own. -/
structure Publishes (r : NodePublishVolumeRequest) (volume : CsiVolume) : Prop where
  volumeId : r.volumeId = volume.volumeId
  context : ∀ key ∈ kubedalKeys, r.volumeContext.lookup key = volume.volumeContext.lookup key

/-- Kubelet publishes what the provisioner has got from the controller service. -/
def DriverRequest.Admitted (P : DriverPool) : DriverRequest → Prop
  | .node (.publish r) => ∃ name volume, P.HasCreated name volume ∧ Publishes r volume
  | _ => True

/-- What happens besides the requests: the cluster is changed, or one of the services is
restarted. -/
inductive DriverState.Disturbed (changes : Cluster → Cluster → Prop) (s : DriverState) :
    DriverState → Prop
  | changed {cluster : Cluster} (h : changes s.cluster cluster) : s.Disturbed changes
      { s with cluster }
  | restartedVolumes : s.Disturbed changes { s with volumes := s.volumes.restarted }
  | restartedNode : s.Disturbed changes { s with node := s.node.restarted }

/-- All three have the same API server; what else happens to the cluster is `changes`. -/
def driverService (selects : Selects) (changes : Cluster → Cluster → Prop) :
    Service signature DriverState DriverRequest DriverError DriverReply where
  program := DriverRequest.program
  admits := fun P r => r.Admitted P
  answers := fun s c a s' => clusterEnv selects True s.cluster c a s'.cluster ∧
    s.volumes.Answers c a s'.volumes ∧ s.node.Answers c a s'.node
  disturbs := DriverState.Disturbed changes

/-! ## Who uses what -/

/-- The call writes nothing to the cluster. -/
def Call.Reads : Call → Prop
  | .kube (.createDataPod _ _) => False
  | .kube (.createPvc _ _) => False
  | .kube (.createPod _ _) => False
  | .kube (.applyDataPod _ _ _) => False
  | .kube (.applyDataNodeStatus _ _ _) => False
  | _ => True

/-- The call uses no state of the controller service. -/
def Call.OffVolumes : Call → Prop
  | .volumes _ => False
  | .newUuid => False
  | _ => True

/-- The call uses no state of the node. -/
def Call.OffNode : Call → Prop
  | .mounts _ => False
  | .host _ => False
  | _ => True

lemma cluster_of_reads {selects : Selects} {s s' : Cluster} {c : Call} {a : c.Reply}
    (reads : c.Reads) (h : clusterEnv selects True s c a s') : s' = s := by
  obtain ⟨_, rfl⟩ := h
  rcases c with c | c | c | c | c | _ | _
  case kube =>
    rcases a with e | object
    · rfl
    · cases c <;> first | rfl | exact reads.elim
  all_goals rfl

lemma volumes_of_off {s s' : VolumeState} {c : Call} {a : c.Reply} (off : c.OffVolumes)
    (h : s.Answers c a s') : s' = s := by
  rcases c with c | c | c | c | c | _ | _
  case volumes => exact off.elim
  case newUuid => exact off.elim
  all_goals exact h

lemma node_of_off {s s' : NodeState} {c : Call} {a : c.Reply} (off : c.OffNode)
    (h : s.Answers c a s') : s' = s := by
  rcases c with c | c | c | c | c | _ | _
  case mounts => exact off.elim
  case host => exact off.elim
  all_goals exact h

section
variable {C : Call → Prop}

lemma uses_pass (hk : ∀ c, C (.kube c)) (ho : ∀ c, C (.opendal c))
    (hs : ∀ count, C (.sampleAlphanumeric count)) (r : Pass) : r.program.Uses C := by
  cases r with
  | reconcileSet self =>
    apply uses_reconcileSet
    case hs => exact hs 8
    all_goals intros; exact hk _
  | reconcilePod self =>
    apply uses_reconcilePod
    all_goals intros; exact hk _
  | reconcileNode self =>
    apply uses_reconcileNode
    case ho => exact ho
    all_goals intros; exact hk _
  | cleanupSet self => exact uses_deleteRequested self fun _ _ => hk _
  | cleanupPod self => exact uses_deleteRequested self fun _ _ => hk _
  | cleanupNode self => exact uses_deleteRequested self fun _ _ => hk _

lemma uses_volumeRequest (hl : ∀ ns, C (.kube (.listPvcMetadata ns {})))
    (hv : ∀ c, C (.volumes c)) (hu : C .newUuid) (r : VolumeRequest) : r.program.Uses C := by
  rcases r with r | r | _
  · refine Prog.Uses.bind ?_ fun _ => trivial
    unfold createVolume
    split
    · trivial
    apply (uses_perform (hv _)).bind
    intro existing
    rcases existing with _ | volume
    · unfold createNewVolume
      apply (uses_orReturn _).bind
      intro ns
      apply (uses_getPvc (hl ns)).bind
      intro pvcMeta
      apply (uses_orReturn _).bind
      intro context
      apply (uses_perform hu).bind
      intro uuid
      exact (uses_perform (hv _)).bind fun _ => trivial
    · trivial
  · refine Prog.Uses.bind ?_ fun _ => trivial
    unfold deleteVolume
    split
    · trivial
    · exact uses_perform (hv _)
  · exact (uses_perform (hv _)).bind fun _ => trivial

lemma uses_unmount (self : Mount) (hh : ∀ c, C (.host c)) : self.unmount.Uses C := by
  unfold Mount.unmount
  split
  · exact (uses_host _ (hh _)).bind fun _ => uses_orReturn _
  · unfold Mount.unmountFuse
    split
    · exact (uses_host _ (hh _)).bind fun _ => uses_orReturn _
    · trivial

lemma uses_nodeRequest (hn : ∀ ns name, C (.kube (.getDataNode ns name)))
    (hp : ∀ ns name, C (.kube (.getDataPod ns name)))
    (hs : ∀ ns name, C (.kube (.getSecret ns name)))
    (hr : ∀ review, C (.kube (.createAccessReview review))) (ho : ∀ c, C (.opendal c))
    (hh : ∀ c, C (.host c)) (hm : ∀ c, C (.mounts c)) (r : NodeRequest) : r.program.Uses C := by
  cases r with
  | publish r =>
    unfold NodeRequest.program nodePublishVolume prepareMount
    apply (uses_orReturn _).bind
    intro _
    refine Prog.Uses.bind ?_ fun mount => ?_
    · apply (uses_getFullDataMount (fun _ _ => hn _ _) (fun _ _ => hp _ _) hs).bind
      rintro ⟨source, access⟩
      apply (uses_getPodInfo _).bind
      intro podInfo
      apply (uses_checkAccess _ _ hr).bind
      intro _
      exact (uses_intoParts _ _ hs ho).bind fun _ => trivial
    · exact (uses_mount mount hh ho).bind fun _ => uses_perform (hm _)
  | unpublish r =>
    unfold NodeRequest.program nodeUnpublishVolume
    apply (uses_orReturn _).bind
    intro _
    apply (uses_perform (hm _)).bind
    intro removed
    have unmounts : (unmountRemoved removed).Uses C := by
      rcases removed with _ | mount
      · trivial
      · exact uses_unmount mount hh
    apply unmounts.attempt.bind
    intro result
    apply (uses_perform (hm _)).bind
    intro _
    cases result <;> trivial

end

/-! ## The components -/

section
variable (selects : Selects) (changes : Cluster → Cluster → Prop)

/-- The other services only read the cluster. -/
def driverCluster : Component (driverService selects changes) (reconcilers selects changes) where
  request := .pass
  error := .pass
  result := .action
  view := DriverState.cluster
  own
    | .pass r => some r
    | _ => none
  own_iff := by
    intro r r'
    cases r <;> simp
  program := fun _ => rfl
  admits := fun _ _ _ _ => trivial
  answers := fun r => (Prog.uses_any _).mono fun _ _ _ _ _ h => h.1
  others := by
    intro r hr
    have stays : ∀ c : Call, c.Reads → ∀ s a s', (driverService selects changes).answers s c a s' →
        s'.cluster = s.cluster ∨ changes s.cluster s'.cluster :=
      fun c reads s a s' h => .inl (cluster_of_reads reads h.1)
    rcases r with r | r | r
    · cases hr
    · refine Prog.Uses.mono (Prog.Uses.of_rename ?_) stays
      exact uses_volumeRequest (fun _ => trivial) (fun _ => trivial) trivial r
    · refine Prog.Uses.mono (Prog.Uses.of_rename ?_) stays
      apply uses_nodeRequest
      all_goals intros; trivial
  disturbs := by
    intro s s' h
    cases h with
    | changed h => exact .inr h
    | restartedVolumes => exact .inl rfl
    | restartedNode => exact .inl rfl

/-- The other services do not have the map of volumes. -/
def driverVolumes : Component (driverService selects changes) restartingVolumes where
  request := .volume
  error := .rpc
  result := .volume
  view := DriverState.volumes
  own
    | .volume r => some r
    | _ => none
  own_iff := by
    intro r r'
    cases r <;> simp
  program := fun _ => rfl
  admits := fun _ _ _ _ => trivial
  answers := fun r => (Prog.uses_any _).mono fun _ _ _ _ _ h => h.2.1
  others := by
    intro r hr
    have stays : ∀ c : Call, c.OffVolumes → ∀ s a s',
        (driverService selects changes).answers s c a s' →
          s'.volumes = s.volumes ∨ s'.volumes = s.volumes.restarted :=
      fun c off s a s' h => .inl (volumes_of_off off h.2.1)
    rcases r with r | r | r
    · refine Prog.Uses.mono (Prog.Uses.of_rename ?_) stays
      exact uses_pass (fun _ => trivial) (fun _ => trivial) (fun _ => trivial) r
    · cases hr
    · refine Prog.Uses.mono (Prog.Uses.of_rename ?_) stays
      apply uses_nodeRequest
      all_goals intros; trivial
  disturbs := by
    intro s s' h
    cases h with
    | changed => exact .inl rfl
    | restartedVolumes => exact .inr rfl
    | restartedNode => exact .inl rfl

/-- The other services run elsewhere. -/
def driverNode : Component (driverService selects changes) restartingNode where
  request := .node
  error := .rpc
  result := fun _ => .node
  view := DriverState.node
  own
    | .node r => some r
    | _ => none
  own_iff := by
    intro r r'
    cases r <;> simp
  program := fun _ => rfl
  admits := fun _ _ _ _ => trivial
  answers := fun r => (Prog.uses_any _).mono fun _ _ _ _ _ h => h.2.2
  others := by
    intro r hr
    have stays : ∀ c : Call, c.OffNode → ∀ s a s',
        (driverService selects changes).answers s c a s' →
          s'.node = s.node ∨ s'.node = s.node.restarted :=
      fun c off s a s' h => .inl (node_of_off off h.2.2)
    rcases r with r | r | r
    · refine Prog.Uses.mono (Prog.Uses.of_rename ?_) stays
      exact uses_pass (fun _ => trivial) (fun _ => trivial) (fun _ => trivial) r
    · refine Prog.Uses.mono (Prog.Uses.of_rename ?_) stays
      exact uses_volumeRequest (fun _ => trivial) (fun _ => trivial) trivial r
    · cases hr
  disturbs := by
    intro s s' h
    cases h with
    | changed => exact .inl rfl
    | restartedVolumes => exact .inl rfl
    | restartedNode => exact .inr rfl

end

end Kubedal
