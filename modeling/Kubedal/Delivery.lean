import Kubedal.Driver
import Kubedal.Services.NodeAccess
import Kubedal.Utils.Commit

/-!
# From a claim to a mount

What a pod finds on its target path has gone through all three services: the annotations that a pass
over a set has given a claim, the volume that `create_volume` has made from the claim, and the
publish that reads the context of the volume.

* `ClaimAsks` is what a claim asks for, `Delivers` what a publish does about it, and `ClaimPlaced`
  what a set has chosen for it;
* `published_as_provisioned`: in every run of the driver, whatever is mounted is what a claim has
  asked for that was in the cluster when its volume was created.
-/

namespace Kubedal

open Interaction Kube Resource

/-! ## What is published -/

section
variable {selects : Selects} {changes : Cluster → Cluster → Prop} {s₀ : DriverState}
  {steps : List DriverTransition} {P : DriverPool}

/-- The claim was in the cluster when the request looked for it. -/
structure ClaimFound (steps : List DriverTransition) (r : CreateVolumeRequest)
    (claim : PersistentVolumeClaim) : Prop where
  there : ∃ x ∈ steps, claim ∈ x.source.state.cluster.pvcs ∧
    ∃ past e, x.label = .answered (.volume (.create r)) past e
  ns : ∃ ns, r.parameters.lookup "resourceNamespace" = some ns ∧ InNamespace ns claim
  uid : ∃ uid, stripPrefix r.name "pvc-" = some uid ∧ uidOf claim = some uid

/-- What the annotations of the claim say; objects without a namespace are in that of the claim. -/
structure ClaimAsks (claim : PersistentVolumeClaim) (keys : DataMountKeys) : Prop where
  nodeName : annotationOf claim.metadata "kubedal.arunaengine.org/data-node-name" =
    some keys.dataNodeName
  nodeNamespace : (annotationOf claim.metadata "kubedal.arunaengine.org/data-node-namespace").or
    (namespaceOf claim) = some keys.dataNodeNamespace
  podName : annotationOf claim.metadata "kubedal.arunaengine.org/data-pod-name" =
    some keys.dataPodName
  podNamespace : (annotationOf claim.metadata "kubedal.arunaengine.org/data-pod-namespace").or
    (namespaceOf claim) = some keys.dataPodNamespace
  mount : ∃ word, annotationOf claim.metadata "kubedal.arunaengine.org/mount" = some word ∧
    parseMountAccess word = .ok keys.mountMode

/-- What the driver reads of a claim: its namespace and the annotations with the driver's keys. -/
def volumeData (claim : PersistentVolumeClaim) : Option String × List (Option String) :=
  (namespaceOf claim, kubedalKeys.map (annotationOf claim.metadata))

/-- Others make no claims, and of those that are there they write nothing that the driver reads. -/
def KeepsVolumeData (changes : Cluster → Cluster → Prop) : Prop :=
  ∀ s s', changes s s' → ∀ claim ∈ s'.pvcs, SameAs uidOf volumeData s.pvcs claim

/-- When the publish arrived, a request for the volume `name` had returned its id. -/
def CreatedBefore (steps : List DriverTransition) (r : NodePublishVolumeRequest) (name : String) :
    Prop :=
  ∃ x ∈ steps, x.label = .arrives (.node (.publish r)) ∧ ∃ volume,
    DriverPool.HasCreated x.source name volume ∧ r.volumeId = volume.volumeId

/-- The publish has got the object from the cluster. -/
def GotFrom {K : Type} [Kube.Resource K] (objects : Cluster → List K)
    (steps : List DriverTransition) (r : NodePublishVolumeRequest) (ns name : String) (k : K) :
    Prop :=
  At ns name k ∧ ∃ x ∈ steps, k ∈ objects x.source.state.cluster ∧
    ∃ past e, x.label = .answered (.node (.publish r)) past e

/-- What is mounted is the `DataNode` that `keys` name, in the way they say, and the pod may get
it. -/
structure Delivers (steps : List DriverTransition) (r : NodePublishVolumeRequest)
    (past : List (Event signature)) (c : Call) (keys : DataMountKeys) (node : DataNode)
    (mount : Mount) : Prop where
  gotNode : GotFrom Cluster.dataNodes steps r keys.dataNodeNamespace keys.dataNodeName node
  gotPod : ∃ pod, GotFrom Cluster.dataPods steps r keys.dataPodNamespace keys.dataPodName pod
  reviewed : Reviewed r past (reviewedDataNode keys.dataNodeNamespace keys.dataNodeName)
  backend : mount.operator.backend = node.spec.backend
  config : node.spec.secretRef = none → mount.operator.config = node.spec.config
  secret : SecretUsed r past node mount.operator.config
  modes : (mount.mountMode, mount.accessMode) = modes keys.mountMode
  mounts : MountsPrepared past mount c

/-- What a set asks for about a `DataPod` and its `DataNode`. -/
structure KeysFor (pod : DataPod) (node : DataNode) (keys : DataMountKeys) : Prop where
  dataNode : keys.dataNodeName = nameAny node ∧
    keys.dataNodeNamespace = node.metadata.ns.getD ""
  dataPod : keys.dataPodName = nameAny pod ∧ keys.dataPodNamespace = pod.metadata.ns.getD ""
  mountMode : keys.mountMode = .fuseReadWrite

/-- A pass over a set has made the claim, for a replica or for the source of the set, and `keys`
are of the `DataPod` and the `DataNode` that it had seen then. -/
structure ClaimPlaced (steps : List DriverTransition) (claim : PersistentVolumeClaim)
    (keys : DataMountKeys) (self : DataReplicaSet) (past : List (Event signature)) (pod : DataPod)
    (node : DataNode) : Prop where
  made : ∃ x ∈ steps, ∃ ns sent, x.label =
    .answered (.pass (.reconcileSet self)) past ⟨.kube (.createPvc ns sent), Except.ok claim⟩
  seen : SawReplica self past pod node ∨ SawSource self past pod node
  keysFor : KeysFor pod node keys

lemma ClaimPlaced.mono {claim : PersistentVolumeClaim} {keys : DataMountKeys}
    {self : DataReplicaSet} {past : List (Event signature)} {pod : DataPod} {node : DataNode}
    {steps' : List DriverTransition} (h : ClaimPlaced steps claim keys self past pod node)
    (sub : steps ⊆ steps') : ClaimPlaced steps' claim keys self past pod node := by
  obtain ⟨⟨x, hx, made⟩, seen, keysFor⟩ := h
  exact ⟨⟨x, sub hx, made⟩, seen, keysFor⟩

lemma annotation_of_same {claim claim' : PersistentVolumeClaim}
    (same : volumeData claim = volumeData claim') {key : String} (h : key ∈ kubedalKeys) :
    annotationOf claim.metadata key = annotationOf claim'.metadata key :=
  List.map_inj_left.mp (congrArg Prod.snd same) key h

/-- What a claim asks for is in what the driver reads of it. -/
lemma ClaimAsks.congr {claim claim' : PersistentVolumeClaim} {keys : DataMountKeys}
    (asks : ClaimAsks claim keys) (same : volumeData claim = volumeData claim') :
    ClaimAsks claim' keys := by
  obtain ⟨nodeName, nodeNamespace, podName, podNamespace, mount⟩ := asks
  have hns : namespaceOf claim = namespaceOf claim' := congrArg Prod.fst same
  rw [hns] at nodeNamespace podNamespace
  rw [annotation_of_same same (by decide)] at nodeName nodeNamespace podName podNamespace mount
  exact ⟨nodeName, nodeNamespace, podName, podNamespace, mount⟩

/-- What a publish has got from the cluster was in it. -/
lemma gotFrom_of_saw {K : Type} [Kube.Resource K] {objects : Cluster → List K}
    {r : NodePublishVolumeRequest} {past : List (Event signature)} {c : KubeCall}
    {object : c.Object} {ns name : String} {k : K} (saw : Saw past (.kube c) (Except.ok object))
    (answered : ∀ e ∈ past, ∃ x ∈ steps, ∃ past', x.label = .answered (.node (.publish r)) past' e)
    (run : (driverService selects changes).Run s₀ steps P)
    (replied : ∀ s : Cluster, s.Replies selects c (.ok object) →
      getFrom (objects s) ns name = .ok k) :
    GotFrom objects steps r ns name k := by
  obtain ⟨x, hx, past', hlabel⟩ := answered _ saw
  obtain ⟨earlier, _, _, last⟩ := run.of_mem hx
  rw [hlabel] at last
  obtain ⟨_, _, _, _, ⟨⟨reply, _⟩, _⟩, _⟩ := Service.step_answered last
  obtain ⟨hmem, hat⟩ := getFrom_ok (replied _ (replies_of_answers reply))
  exact ⟨hat, x, hx, hmem, past', _, hlabel⟩

/-- A volume was made from a claim that was in the cluster. -/
lemma claimFound_of_created (run : (driverService selects changes).Run s₀ steps P)
    (started : s₀.volumes = .init) {name : String} {volume : CsiVolume}
    (created : P.HasCreated name volume) :
    ∃ r claim, r.name = name ∧ ClaimFound steps r claim ∧
      getConfigFromPvcMeta claim.metadata = .ok volume.volumeContext := by
  obtain ⟨y, hy, c, rfl, hrequest, hresult⟩ := created
  obtain ⟨steps', P', run', projects, hlabels⟩ := (driverVolumes selects changes).project run
  rw [show (driverVolumes selects changes).view s₀ = _ from started] at run'
  -- the request is finished in the run of the controller service as well
  obtain ⟨y', hy', hcreated⟩ : ∃ y' ∈ P'.finished, Created y' c.name volume := by
    have hmem : y ∈ (driverVolumes selects changes).responses P.finished :=
      List.mem_filter.mpr ⟨hy, by rw [hrequest]; rfl⟩
    rw [projects.finished] at hmem
    obtain ⟨y', hy', rfl⟩ := List.mem_map.mp hmem
    refine ⟨y', hy', ⟨c, ?_, rfl⟩, ?_⟩
    · injection hrequest
    · rcases hr : y'.result with e | reply
      · simp [Component.response, hr] at hresult
        cases hresult
      · have : (Except.ok (DriverReply.volume reply) : Except DriverError DriverReply) =
            .ok (.volume (.created volume)) := by
          rw [← hresult]
          simp only [Component.response, hr]
          rfl
        cases this
        rfl
  obtain ⟨r, pvcMeta, origin⟩ := volume_origin run' (.inr ⟨y', hy', hcreated⟩)
  obtain ⟨ns, uid, all, past, hns, huid, hlabel, hfind⟩ := origin.found
  have hmem : Label.answered (.create r) past ⟨.kube (.listPvcMetadata ns {}), Except.ok all⟩ ∈
      (driverVolumes selects changes).labels steps := by
    rw [← hlabels]
    exact List.mem_filter.mpr ⟨hlabel, rfl⟩
  obtain ⟨x, hx, hx'⟩ := Component.mem_labels hmem
  obtain ⟨_, _, _, last⟩ := run.of_mem hx
  rw [hx'] at last
  obtain ⟨_, _, _, _, ⟨⟨reply, _⟩, _⟩, _⟩ := Service.step_answered last
  -- the list that it was found in is that of the cluster at that time
  have replied := replies_of_answers reply
  have hall : all = (x.source.state.cluster.pvcs.filter fun pvc => InNamespace ns pvc).map
      PersistentVolumeClaim.metadata := Except.ok.inj replied
  have hin := List.mem_of_find?_eq_some hfind
  rw [hall] at hin
  obtain ⟨claim, hclaim, rfl⟩ := List.mem_map.mp hin
  obtain ⟨hclaim, hclaimNs⟩ := List.mem_filter.mp hclaim
  have huid' : claim.metadata.uid = some uid := by simpa using List.find?_some hfind
  exact ⟨r, claim, origin.name, ⟨⟨x, hx, hclaim, past, _, hx'⟩,
    ⟨ns, hns, by simpa using hclaimNs⟩, ⟨uid, huid, huid'⟩⟩, origin.context⟩

/-- The context of a volume says what the claim asks for. -/
lemma claimAsks_of_context {claim : PersistentVolumeClaim}
    {context volumeContext : StringMap String} {ns : String} {keys : DataMountKeys}
    (hns : InNamespace ns claim)
    (hconfig : getConfigFromPvcMeta claim.metadata = .ok context)
    (same : ∀ key ∈ kubedalKeys, volumeContext.lookup key = context.lookup key)
    (hkeys : dataMountKeys volumeContext = .ok keys) : ClaimAsks claim keys := by
  obtain ⟨dataNodeName, dataPodName, word, annotated, rfl⟩ := getConfigFromPvcMeta_eq_ok.mp hconfig
  have parsed := dataMountKeys_of_describes ((describes_keyed _ _ _ _ _).extend same)
  rw [hkeys] at parsed
  cases hword : parseMountAccess word with
  | error e =>
    rw [hword] at parsed
    cases parsed
  | ok m =>
    rw [hword] at parsed
    cases parsed
    have hns' : claim.metadata.ns = some ns := hns
    refine ⟨annotated.nodeName, ?_, annotated.podName, ?_, word, annotated.mount, hword⟩
    · rw [show namespaceOf claim = some ns from hns, hns']
      cases annotationOf claim.metadata "kubedal.arunaengine.org/data-node-namespace" <;> rfl
    · rw [show namespaceOf claim = some ns from hns, hns']
      cases annotationOf claim.metadata "kubedal.arunaengine.org/data-pod-namespace" <;> rfl

/-- The claim that a set has made is stored with the annotations that were sent. -/
lemma storedClaim_of_answered {s s' : Cluster} {self : DataReplicaSet} {pod : DataPod}
    {node : DataNode} {ns suffix : String} {owner : OwnerReference}
    {claim : PersistentVolumeClaim} (answered : clusterEnv selects True s
      (.kube (.createPvc ns (replicaPvc pod node self .fuseReadWrite suffix owner)))
      (Except.ok claim) s') : StoredClaim self node pod .fuseReadWrite ns claim := by
  obtain ⟨_, _, _, _, hmetadata⟩ := of_createPvc answered.1
  refine ⟨⟨suffix, owner, ?_⟩, ?_⟩
  · rw [hmetadata]
    rfl
  · rw [hmetadata]
    rfl

lemma keysFor_of_stored {self : DataReplicaSet} {pod : DataPod} {node : DataNode} {ns : String}
    {claim : PersistentVolumeClaim} {keys : DataMountKeys}
    (stored : StoredClaim self node pod .fuseReadWrite ns claim) (asks : ClaimAsks claim keys) :
    KeysFor pod node keys := by
  have written := describes_keyed (nameAny node) (node.metadata.ns.getD "") (nameAny pod)
    (pod.metadata.ns.getD "") (toString MountAccess.fuseReadWrite)
  have nodeNamespace := asks.nodeNamespace
  have podNamespace := asks.podNamespace
  rw [stored.annotation_eq, written.nodeNamespace, Option.some_or] at nodeNamespace
  rw [stored.annotation_eq, written.podNamespace, Option.some_or] at podNamespace
  obtain ⟨word, mount, parsed⟩ := asks.mount
  rw [stored.annotation_eq, written.mount] at mount
  refine ⟨⟨?_, ?_⟩, ⟨?_, ?_⟩, ?_⟩
  · exact Option.some.inj (asks.nodeName.symm.trans
      ((stored.annotation_eq _).trans written.nodeName))
  · exact (Option.some.inj nodeNamespace).symm
  · exact Option.some.inj (asks.podName.symm.trans
      ((stored.annotation_eq _).trans written.podName))
  · exact (Option.some.inj podNamespace).symm
  · rw [← Option.some.inj mount, parseMountAccess_toString] at parsed
    exact (Except.ok.inj parsed).symm

/-- Where nobody else makes claims, a pass over a set has placed what a new claim asks for. -/
lemma exists_claimPlaced (others : KeepsVolumeData changes)
    (run : (driverService selects changes).Run s₀ steps P) {claim : PersistentVolumeClaim}
    {keys : DataMountKeys} (there : claim ∈ P.state.cluster.pvcs)
    (new : ¬ SameAs uidOf volumeData s₀.cluster.pvcs claim) (asks : ClaimAsks claim keys) :
    ∃ made self past pod node, uidOf made = uidOf claim ∧
      ClaimPlaced steps made keys self past pod node := by
  obtain ⟨steps', P', run', projects, hlabels⟩ := (driverCluster selects changes).project run
  have there' : claim ∈ P'.state.pvcs := by
    rw [projects.state]
    exact there
  rcases claim_origin others run' there' with old | ⟨claimed, huid, same, hmade⟩
  · exact absurd old new
  obtain ⟨self, past, ns, sent, made, hmem⟩ := hmade
  obtain ⟨pod, node, suffix, owner, rfl, seen⟩ := made
  have hmem' : Label.answered (.reconcileSet self) past
      ⟨.kube (.createPvc ns (replicaPvc pod node self .fuseReadWrite suffix owner)),
        Except.ok claimed⟩ ∈ (driverCluster selects changes).labels steps := by
    rw [← hlabels]
    exact List.mem_filter.mpr ⟨hmem, rfl⟩
  obtain ⟨x, hx, hlabel⟩ := Component.mem_labels hmem'
  obtain ⟨_, _, _, last⟩ := run.of_mem hx
  rw [hlabel] at last
  obtain ⟨_, _, _, _, ⟨⟨reply, _⟩, _⟩, _⟩ := Service.step_answered last
  have stored := storedClaim_of_answered ⟨reply, rfl⟩
  exact ⟨claimed, self, past, pod, node, huid.symm, ⟨x, hx, ns, _, hlabel⟩, seen,
    keysFor_of_stored stored (asks.congr same)⟩

/-- A publish of a volume that was created mounts what the claim asks for that the volume was made
from. -/
lemma delivers_of_publishes (run : (driverService selects changes).Run s₀ steps P)
    (started : s₀.volumes = .init) {name : String} {volume : CsiVolume}
    (created : P.HasCreated name volume) {x : DriverTransition} (hx : x ∈ steps)
    {r : NodePublishVolumeRequest} (publishes : Publishes r volume)
    {past : List (Event signature)} {e : Event signature}
    (hlabel : x.label = .answered (.node (.publish r)) past e) (mounts : e.call.Mounts) :
    ∃ c claim keys node mount, c.name = name ∧ ClaimFound steps c claim ∧ ClaimAsks claim keys ∧
      Delivers steps r past e.call keys node mount := by
  -- what the publish has seen
  obtain ⟨q, exec⟩ := (driverNode selects changes).exec_of_mem run hx hlabel
  have allowed : PublishAllows r past e.call := by
    have := Prog.wp_event nodePublishVolume_past exec fun _ _ _ _ _ _ => trivial
    rw [publishMonitor, Monitor.history_after] at this
    exact this
  obtain ⟨node, mount, prepared, hmounts⟩ := allowed.mounts mounts
  obtain ⟨keys, pod, hkeys, sawNode, sawPod, hmodes⟩ := prepared.resolved
  obtain ⟨earlier, hearlier, run', last⟩ := run.of_mem hx
  have hpre : earlier <+: steps := (List.prefix_append _ _).trans hearlier
  rw [hlabel] at last
  obtain ⟨_, _, _, hrunning, _⟩ := Service.step_answered last
  have waiting := Pool.mem_of_waiting hrunning
  have answered : ∀ e ∈ past, ∃ x ∈ steps, ∃ past',
      x.label = .answered (.node (.publish r)) past' e := by
    intro e he
    obtain ⟨x, hx, hlabel⟩ := run'.answered.running _ waiting e he
    exact ⟨x, hpre.subset hx, hlabel⟩
  have gotNode : GotFrom Cluster.dataNodes steps r keys.dataNodeNamespace keys.dataNodeName node :=
    gotFrom_of_saw sawNode answered run fun _ replied => replied.symm
  have gotPod : GotFrom Cluster.dataPods steps r keys.dataPodNamespace keys.dataPodName pod :=
    gotFrom_of_saw sawPod answered run fun _ replied => replied.symm
  -- and what its volume was made from
  obtain ⟨c, claim, rfl, found, hconfig⟩ := claimFound_of_created run started created
  obtain ⟨ns, _, hns⟩ := found.ns
  refine ⟨c, claim, keys, node, mount, rfl, found,
    claimAsks_of_context hns hconfig publishes.context hkeys, ⟨gotNode, ⟨pod, gotPod⟩, ?_,
      prepared.backend, prepared.config, prepared.secret, hmodes, hmounts⟩⟩
  have hreviewed := prepared.reviewed
  rw [dataNodeAttributes, show node.metadata.name = _ from gotNode.1.2,
    show node.metadata.ns = _ from gotNode.1.1] at hreviewed
  exact hreviewed

/-- Whatever a publish mounts, in any interleaving with anything else, is what a claim has asked
for: its volume was created from the annotations of a claim with the uid that its name stands for,
which was in the cluster then, and the `DataNode` that they name was in the cluster when the
publish has asked for it. Where nobody else makes claims, or writes in them what the driver reads, a
set has placed it there. -/
theorem published_as_provisioned (started : s₀.volumes = .init)
    (run : (driverService selects changes).Run s₀ steps P) {x : DriverTransition} (hx : x ∈ steps)
    {r : NodePublishVolumeRequest} {past : List (Event signature)} {e : Event signature}
    (hlabel : x.label = .answered (.node (.publish r)) past e) (mounts : e.call.Mounts) :
    ∃ c claim keys node mount, CreatedBefore steps r c.name ∧ ClaimFound steps c claim ∧
      ClaimAsks claim keys ∧ Delivers steps r past e.call keys node mount ∧
      (KeepsVolumeData changes → ¬ SameAs uidOf volumeData s₀.cluster.pvcs claim →
        ∃ made self seen pod placed, uidOf made = uidOf claim ∧
          ClaimPlaced steps made keys self seen pod placed) := by
  -- the volume was created before the publish has arrived
  obtain ⟨earlier, hearlier, run', last⟩ := run.of_mem hx
  have hpre : earlier <+: steps := (List.prefix_append _ _).trans hearlier
  rw [hlabel] at last
  obtain ⟨_, _, _, hrunning, _⟩ := Service.step_answered last
  obtain ⟨x₀, hx₀, harrives⟩ := run'.arrived.running _ (Pool.mem_of_waiting hrunning)
  obtain ⟨_, _, _, first⟩ := run'.of_mem hx₀
  rw [harrives] at first
  obtain ⟨name, volume, created, publishes⟩ := Service.admits_of_arrives first
  have created' : P.HasCreated name volume := by
    obtain ⟨y, hy, c, hname, hrequest, hresult⟩ := created
    exact ⟨y, (run.finished_prefix (hpre.subset hx₀)).subset hy, c, hname, hrequest, hresult⟩
  obtain ⟨c, claim, keys, node, mount, rfl, found, asks, delivers⟩ :=
    delivers_of_publishes run started created' hx publishes hlabel mounts
  refine ⟨c, claim, keys, node, mount, ⟨x₀, hpre.subset hx₀, harrives, volume, created,
    publishes.volumeId⟩, found, asks, delivers, fun others new => ?_⟩
  -- the claim was made before the volume
  obtain ⟨z, hz, there, _⟩ := found.there
  obtain ⟨made, hmade, runMade, _⟩ := run.of_mem hz
  obtain ⟨first, self, seen, madePod, placed, huid, h⟩ :=
    exists_claimPlaced others runMade there new asks
  exact ⟨first, self, seen, madePod, placed, huid,
    h.mono ((List.prefix_append _ _).trans hmade).subset⟩

end

/-! ## A replica that is published -/

/-- The three services in one cluster, in which every review allows. -/
def DriverState.serve (s : DriverState) : (c : Call) → Option (c.Reply × DriverState)
  | .kube (.createAccessReview review) =>
    some (Except.ok ({ review with status := some ⟨true⟩ } : SubjectAccessReview), s)
  | .kube c =>
    let reply := s.cluster.reply sampleSelects c
    some (reply, { s with cluster := s.cluster.next (.kube c) reply })
  | .opendal c => some (sampleStorage [] c, s)
  | .host c => (s.node.sampleServe (.host c)).map fun x => (x.1, { s with node := x.2 })
  | .mounts c => (s.node.sampleServe (.mounts c)).map fun x => (x.1, { s with node := x.2 })
  | .volumes c => (s.volumes.serve (.volumes c)).map fun x => (x.1, { s with volumes := x.2 })
  | .newUuid => (s.volumes.serve .newUuid).map fun x => (x.1, { s with volumes := x.2 })
  | .sampleAlphanumeric count =>
    (s.cluster.serve sampleSelects (.sampleAlphanumeric count)).map fun x => (x.1, s)

lemma DriverState.answers_of_serve {changes : Cluster → Cluster → Prop} (s : DriverState) (c : Call)
    (a : c.Reply) (s' : DriverState) (h : s.serve c = some (a, s')) :
    (driverService sampleSelects changes).answers s c a s' := by
  rcases c with c | c | c | c | c | _ | count
  case kube =>
    by_cases review : ∃ r, c = .createAccessReview r
    · obtain ⟨r, rfl⟩ := review
      cases h
      exact ⟨⟨.inl trivial, rfl⟩, rfl, rfl⟩
    · have h' : some (s.cluster.reply sampleSelects c, ({ s with
          cluster := s.cluster.next (.kube c) (s.cluster.reply sampleSelects c) } : DriverState)) =
            some (a, s') := by
        cases c
        case createAccessReview r => exact absurd ⟨r, rfl⟩ review
        all_goals exact h
      cases h'
      exact ⟨⟨.inl (s.cluster.replies_reply sampleSelects c), rfl⟩, rfl, rfl⟩
  case opendal =>
    cases h
    exact ⟨⟨trivial, rfl⟩, rfl, rfl⟩
  case host =>
    obtain ⟨⟨a', node⟩, hserve, heq⟩ := Option.map_eq_some_iff.mp h
    cases heq
    exact ⟨⟨trivial, rfl⟩, rfl, NodeState.answers_of_serve _ _ _ _ hserve⟩
  case mounts =>
    obtain ⟨⟨a', node⟩, hserve, heq⟩ := Option.map_eq_some_iff.mp h
    cases heq
    exact ⟨⟨trivial, rfl⟩, rfl, NodeState.answers_of_serve _ _ _ _ hserve⟩
  case volumes =>
    obtain ⟨⟨a', volumes⟩, hserve, heq⟩ := Option.map_eq_some_iff.mp h
    cases heq
    exact ⟨⟨trivial, rfl⟩, VolumeState.answers_of_serve _ _ _ _ hserve, rfl⟩
  case newUuid =>
    obtain ⟨⟨a', volumes⟩, hserve, heq⟩ := Option.map_eq_some_iff.mp h
    cases heq
    exact ⟨⟨trivial, rfl⟩, VolumeState.answers_of_serve _ _ _ _ hserve, rfl⟩
  case sampleAlphanumeric =>
    cases h
    exact ⟨⟨trivial, rfl⟩, rfl, rfl⟩

/-- A set with one replica to create on the node `m`. -/
def DriverState.sample : DriverState :=
  ⟨sampleCluster 1 [sampleNode "m" "3"] [], .init, .init⟩

/-- The pass that creates the replica and its claim, and the request for the volume. -/
def sampleProvisioning : List DriverRequest :=
  [.pass (.reconcileSet (sampleSet 1)), .volume (.create (claimRequest "000" none))]

/-- The publish of a volume with this context. -/
def samplePublish (volume : CsiVolume) : NodePublishVolumeRequest :=
  ⟨volume.volumeId, "/t", none, false,
    withPodInfo volume.volumeContext ⟨"reader", "default", "default", "5"⟩⟩

lemma publishes_sample (volume : CsiVolume) : Publishes (samplePublish volume) volume := by
  refine ⟨rfl, fun key hkey => ?_⟩
  have foreign : ∀ key ∈ kubedalKeys, key ∉ podInfoKeys := by decide
  exact (addsPodInfo_withPodInfo _ _).others key (foreign key hkey)

/-- Those who change the cluster besides the reconcilers make no claims. -/
lemma Cluster.Changes.pvcs_subset (s s' : Cluster) (h : s.Changes s') : s'.pvcs ⊆ s.pvcs := by
  cases h
  case collect ofDataPods ofPvcs ofPods => exact ofPvcs.1.subset
  all_goals exact fun _ h => h

lemma Cluster.Changes.keepsVolumeData : KeepsVolumeData Cluster.Changes :=
  fun s s' h _ hclaim => .of_mem (h.pvcs_subset s s' hclaim)

/-- The pass over the set creates its sync pod, the volume of the replica is created, and once more
after a restart of the controller service, and the first of the two is mounted. -/
lemma exists_sampleRun : ∃ steps P seen ns sent pod volume volume' past e,
    (driverService sampleSelects Cluster.Changes).Run .sample steps P ∧
    (∃ x ∈ steps, x.label = .answered (.pass (.reconcileSet (sampleSet 1))) seen
      ⟨.kube (.createPod ns sent), Except.ok pod⟩) ∧
    (∀ (ns : String) (sent claim : PersistentVolumeClaim),
      ⟨.kube (.createPvc ns sent), Except.ok claim⟩ ∈ seen →
        nameAny claim = "pvc-0-000xxxxx" → uidOf claim = some "000") ∧
    pod.volumeMounts.map pod.claimOf = [some "pvc-0-0000xxxx", some "pvc-0-000xxxxx"] ∧
    DriverPool.HasCreated P "pvc-000" volume ∧ DriverPool.HasCreated P "pvc-000" volume' ∧
    volume.volumeId ≠ volume'.volumeId ∧
    (∃ x ∈ steps, x.label = .answered (.node (.publish (samplePublish volume))) past e) ∧
    e.call.Mounts := by
  obtain ⟨done, s, result, seen, ns, sent, pod, τ, volume, hserial, hdone, named, claims, τ', q',
      s', volume', hfollow', houtcome', differ, before, e, after, s'', hfollow, mounts⟩ :
      ∃ done s result seen ns sent pod τ volume,
        (driverService sampleSelects Cluster.Changes).serial (fun _ => DriverState.serve) 40
          sampleProvisioning .sample = some (done, s) ∧
        done = [⟨.pass (.reconcileSet (sampleSet 1)),
            seen ++ [⟨.kube (.createPod ns sent), Except.ok pod⟩], result⟩,
          ⟨.volume (.create (claimRequest "000" none)), τ, .ok (.volume (.created volume))⟩] ∧
        (∀ (ns : String) (sent claim : PersistentVolumeClaim),
          ⟨.kube (.createPvc ns sent), Except.ok claim⟩ ∈ seen →
            nameAny claim = "pvc-0-000xxxxx" → uidOf claim = some "000") ∧
        pod.volumeMounts.map pod.claimOf = [some "pvc-0-0000xxxx", some "pvc-0-000xxxxx"] ∧
        ∃ τ' q' s' volume',
          (DriverRequest.volume (.create (claimRequest "000" none))).program.follow
            DriverState.serve 40 { s with volumes := s.volumes.restarted } = some (τ', q', s') ∧
          q'.outcome = some (.ok (.volume (.created volume'))) ∧
          volume.volumeId ≠ volume'.volumeId ∧
          ∃ before e after s'',
            (DriverRequest.node (.publish (samplePublish volume))).program.follow
              DriverState.serve 40 s' = some (before ++ e :: after, .pure .node, s'') ∧
            e.call.Mounts := by
    refine ⟨_, _, _, [_, _, _, _, _, _, _, _, _, _], _, _, _, _, _, rfl, rfl, ?_, rfl,
      _, _, _, _, rfl, rfl, ?_, ?_⟩
    · intro ns sent claim h hname
      simp only [List.mem_cons, List.not_mem_nil, or_false] at h
      -- the claim of the replica and that of the source
      rcases h with h | h | h | h | h | h | h | h | h | h <;> cases h
      · rfl
      · exact absurd hname (by decide)
    · decide
    -- the `DataNode`, the `DataPod`, the review, the operator, its check and the directory
    · exact ⟨[_, _, _, _, _, _], _, [_], _, rfl, trivial⟩
  have sound : ∀ (s : DriverState) c a s', s.serve c = some (a, s') →
      (driverService sampleSelects Cluster.Changes).answers s c a s' :=
    DriverState.answers_of_serve
  obtain ⟨steps₁, run₁, _, hlabels⟩ := Service.Run.serial (fun _ => sound) (by
    intro P r hr
    simp only [sampleProvisioning, List.mem_cons, List.not_mem_nil, or_false] at hr
    rcases hr with rfl | rfl <;> trivial) .start hserial
  rw [List.nil_append, List.nil_append, hdone] at run₁
  rw [hdone] at hlabels
  have run₂ := run₁.step (.disturb .restartedVolumes)
  obtain ⟨steps₂, run₃, _, _⟩ := run₂.handle
    (r := DriverRequest.volume (.create (claimRequest "000" none))) sound trivial
    (Prog.exec_of_follow (fun _ _ _ _ h => h) hfollow') houtcome'
  have created : ∀ (P : DriverPool) τ volume, ⟨.volume (.create (claimRequest "000" none)), τ,
      .ok (.volume (.created volume))⟩ ∈ P.finished → DriverPool.HasCreated P "pvc-000" volume :=
    fun _ _ _ h => ⟨_, h, _, rfl, rfl, rfl⟩
  obtain ⟨steps₃, run₄, _, htrace⟩ := run₃.handle
    (r := DriverRequest.node (.publish (samplePublish volume))) sound
    ⟨_, volume, created _ τ _ (List.mem_append_left _ (List.mem_cons_of_mem _ List.mem_cons_self)),
      publishes_sample volume⟩
    (Prog.exec_of_follow (fun _ _ _ _ h => h) hfollow) rfl
  have published := Label.mem_trace (DriverRequest.node (.publish (samplePublish volume))) []
    before e after
  obtain ⟨x, hx, hlabel⟩ : ∃ x ∈ steps₃, x.label = _ :=
    List.mem_map.mp (htrace ▸ List.mem_cons_of_mem _ published)
  have synced : Label.answered (.pass (.reconcileSet (sampleSet 1))) seen
      ⟨.kube (.createPod ns sent), Except.ok pod⟩ ∈ steps₁.map Service.Transition.label := by
    rw [hlabels]
    exact List.mem_append_left _ (List.mem_cons_of_mem _ (Label.mem_trace _ [] seen _ []))
  obtain ⟨y, hy, hlabel'⟩ := List.mem_map.mp synced
  refine ⟨_, _, seen, ns, sent, pod, volume, volume', _, e, run₄, ⟨y, ?_, hlabel'⟩, named, claims,
    created _ τ _ ?_, created _ τ' _ ?_, differ, ⟨x, List.mem_append_right _ hx, hlabel⟩, mounts⟩
  · exact List.mem_append_left _ (List.mem_append_left _ (List.mem_append_left _ hy))
  · simp
  · simp

/-- The volume of the replica is mounted over FUSE, and a pass has placed it. -/
theorem published_replica : ∃ steps P x r past e,
    (driverService sampleSelects Cluster.Changes).Run .sample steps P ∧ x ∈ steps ∧
    x.label = .answered (.node (.publish r)) past e ∧ e.call.Mounts ∧
    ∃ c claim keys node mount, CreatedBefore steps r c.name ∧ ClaimFound steps c claim ∧
      ClaimAsks claim keys ∧ Delivers steps r past e.call keys node mount ∧
      ∃ made self seen pod placed, uidOf made = uidOf claim ∧
        ClaimPlaced steps made keys self seen pod placed := by
  obtain ⟨steps, P, _, _, _, _, volume, _, past, e, run, _, _, _, _, _, _, ⟨x, hx, hlabel⟩,
    mounts⟩ := exists_sampleRun
  obtain ⟨c, claim, keys, node, mount, created, found, asks, delivers, placed⟩ :=
    published_as_provisioned rfl run hx hlabel mounts
  have new : ¬ SameAs uidOf volumeData DriverState.sample.cluster.pvcs claim := by
    rintro ⟨_, hold, _⟩
    cases hold
  exact ⟨steps, P, x, _, past, e, run, hx, hlabel, mounts, c, claim, keys, node, mount, created,
    found, asks, delivers, placed Cluster.Changes.keepsVolumeData new⟩

end Kubedal
