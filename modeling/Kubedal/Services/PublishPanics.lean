import Kubedal.Resource.ControllerPanics
import Kubedal.Services.NodePublish
import Kubedal.Services.Provisioning

/-!
# Panics of `node_publish_volume`

`get_full_data_mount` answers a missing key with a status, `get_pod_info` expects its keys to be
there, and it is called when all objects have been fetched.

* `Replies` is what the API server has for each name;
* `publish_returns_iff` says for every request and all replies whether the handler panics.
-/

namespace Kubedal

open Interaction Kube Resource

/-! ## The objects -/

/-- What the API server answers to a request for an object, for each namespace and name. -/
structure Replies where
  dataNode : String → String → Except KubeError DataNode
  dataPod : String → String → Except KubeError DataPod
  secret : String → String → Except KubeError Secret

/-- Nothing is said about the other calls. -/
def Replies.Answers (replies : Replies) (_ : Unit) : (c : Call) → c.Reply → Unit → Prop
  | .kube (.getDataNode ns name), a, _ => a = replies.dataNode ns name
  | .kube (.getDataPod ns name), a, _ => a = replies.dataPod ns name
  | .kube (.getSecret ns name), a, _ => a = replies.secret ns name
  | _, _, _ => True

/-- The secret of the `DataNode` is there, if it has one. -/
def FetchesSecret (replies : Replies) (node : DataNode) : Prop :=
  ∀ ref, node.spec.secretRef = some ref → ∃ ns secret, secretNamespace node ref = .ok ns ∧
    replies.secret ns ref.name = .ok secret

/-- The context names a `DataNode` and a `DataPod`, which are there. -/
def Fetches (replies : Replies) (volumeContext : StringMap String) : Prop :=
  ∃ keys node pod, dataMountKeys volumeContext = .ok keys ∧
    replies.dataNode keys.dataNodeNamespace keys.dataNodeName = .ok node ∧
    replies.dataPod keys.dataPodNamespace keys.dataPodName = .ok pod ∧
    FetchesSecret replies node

/-- A key of the pod is missing. -/
def LacksPodInfo (volumeContext : StringMap String) : Prop :=
  ∃ key ∈ podInfoKeys, volumeContext.lookup key = none

/-! ## What is asked of the handler -/

/-- The result is `Ok` or a status. -/
def Answered : Except (Fault Status) Unit → Prop
  | .ok _ => True
  | .error e => e.IsError

/-- A finished run of the handler. -/
def PublishRun (replies : Replies) (request : NodePublishVolumeRequest)
    (τ : List (Event signature)) (result : Except (Fault Status) Unit) : Prop :=
  ∃ q s, Prog.Exec replies.Answers (nodePublishVolume request) () τ q s ∧ q.outcome = some result

/-- The handler never panics, and refuses a context without the pod before it mounts or tracks
anything. -/
structure PublishReturns (replies : Replies) (request : NodePublishVolumeRequest) : Prop where
  answered : ∀ τ result, PublishRun replies request τ result → Answered result
  refused : LacksPodInfo request.volumeContext → ∀ τ result, PublishRun replies request τ result →
    (∃ e, result = .error (.error e)) ∧ ∀ e ∈ τ, e.call.Quiet

/-! ## The two parsers -/

section
variable {replies : Replies} {volumeContext : StringMap String}

/-- Either the pod is known or the function panics. -/
lemma getPodInfo_cases (volumeContext : StringMap String) :
    (¬ LacksPodInfo volumeContext ∧ ∃ podInfo, getPodInfo volumeContext = .pure podInfo) ∨
      (LacksPodInfo volumeContext ∧
        ∃ message, getPodInfo volumeContext = .throw (.panic message)) := by
  unfold getPodInfo LacksPodInfo podInfoKeys
  simp only [List.mem_cons, List.not_mem_nil, or_false, exists_eq_or_imp, exists_eq_left]
  cases volumeContext.lookup "csi.storage.k8s.io/pod.name" with
  | none => exact .inr ⟨by simp, _, rfl⟩
  | some podName =>
  cases volumeContext.lookup "csi.storage.k8s.io/pod.namespace" with
  | none => exact .inr ⟨by simp, _, rfl⟩
  | some podNamespace =>
  cases volumeContext.lookup "csi.storage.k8s.io/serviceAccount.name" with
  | none => exact .inr ⟨by simp, _, rfl⟩
  | some podServiceAccount =>
  cases volumeContext.lookup "csi.storage.k8s.io/pod.uid" with
  | none => exact .inr ⟨by simp, _, rfl⟩
  | some podUid => exact .inl ⟨by simp, _, rfl⟩

section
variable {keys : DataMountKeys} {node : DataNode} {ref : Ref} {ns : String}

/-- The keys of the context are the ones that the objects are fetched by. -/
lemma Fetches.objects (h : Fetches replies volumeContext)
    (hkeys : dataMountKeys volumeContext = .ok keys) :
    ∃ node pod, replies.dataNode keys.dataNodeNamespace keys.dataNodeName = .ok node ∧
      replies.dataPod keys.dataPodNamespace keys.dataPodName = .ok pod ∧
      FetchesSecret replies node := by
  obtain ⟨keys', node, pod, hkeys', fetched⟩ := h
  cases hkeys.symm.trans hkeys'
  exact ⟨node, pod, fetched⟩

/-- With the two objects, all depends on the secret. -/
lemma fetches_iff {pod : DataPod} (hkeys : dataMountKeys volumeContext = .ok keys)
    (hnode : replies.dataNode keys.dataNodeNamespace keys.dataNodeName = .ok node)
    (hpod : replies.dataPod keys.dataPodNamespace keys.dataPodName = .ok pod) :
    Fetches replies volumeContext ↔ FetchesSecret replies node := by
  constructor
  · intro h
    obtain ⟨node', _, hnode', _, hsecret⟩ := h.objects hkeys
    cases hnode.symm.trans hnode'
    exact hsecret
  · intro hsecret
    exact ⟨keys, node, pod, hkeys, hnode, hpod, hsecret⟩

lemma FetchesSecret.secret (h : FetchesSecret replies node) (href : node.spec.secretRef = some ref)
    (hns : secretNamespace node ref = .ok ns) :
    ∃ secret, replies.secret ns ref.name = .ok secret := by
  obtain ⟨ns', secret, hns', hsecret⟩ := h ref href
  cases hns.symm.trans hns'
  exact ⟨secret, hsecret⟩

end

/-- All is fetched, or the function returns a status. -/
def FetchResult (replies : Replies) (volumeContext : StringMap String) :
    Except (Fault Status) (FullDataSource × MountAccess) → Prop
  | .ok _ => Fetches replies volumeContext
  | .error e => e.IsError ∧ ¬ Fetches replies volumeContext

lemma getFullDataMount_fetches :
    (getFullDataMount volumeContext).Ensures replies.Answers () fun _ result =>
      FetchResult replies volumeContext result := by
  unfold getFullDataMount
  apply Prog.Ensures.bind
  apply ensures_orReturn
  case herror =>
    refine fun e herror => ⟨trivial, fun h => ?_⟩
    obtain ⟨keys, _, _, hkeys, _⟩ := h
    cases herror.symm.trans hkeys
  intro keys hkeys
  apply Prog.Ensures.bind
  apply ensures_kube
  rintro nodeReply _ rfl
  apply Prog.Ensures.bind
  cases hnode : replies.dataNode keys.dataNodeNamespace keys.dataNodeName with
  | error e =>
    refine Prog.ensures_throw ⟨trivial, fun h => ?_⟩
    obtain ⟨_, _, hnode', _⟩ := h.objects hkeys
    cases hnode.symm.trans hnode'
  | ok node =>
  apply Prog.ensures_pure
  apply Prog.Ensures.bind
  apply ensures_kube
  rintro podReply _ rfl
  apply Prog.Ensures.bind
  cases hpod : replies.dataPod keys.dataPodNamespace keys.dataPodName with
  | error e =>
    refine Prog.ensures_throw ⟨trivial, fun h => ?_⟩
    obtain ⟨_, _, _, hpod', _⟩ := h.objects hkeys
    cases hpod.symm.trans hpod'
  | ok pod =>
  apply Prog.ensures_pure
  unfold FetchResult
  rw [fetches_iff hkeys hnode hpod]
  dsimp only
  split
  · rename_i hnone
    apply Prog.ensures_pure
    intro ref href
    cases hnone.symm.trans href
  · rename_i ref href
    apply Prog.Ensures.bind
    apply ensures_orReturn
    case herror =>
      refine fun e herror => ⟨trivial, fun h => ?_⟩
      obtain ⟨ns, _, hns, _⟩ := h ref href
      cases herror.symm.trans hns
    intro ns hns
    apply Prog.Ensures.bind
    apply ensures_kube
    rintro secretReply _ rfl
    apply Prog.Ensures.bind
    cases hsecret : replies.secret ns ref.name with
    | error e =>
      refine Prog.ensures_throw ⟨trivial, fun h => ?_⟩
      obtain ⟨_, hsecret'⟩ := h.secret href hns
      cases hsecret.symm.trans hsecret'
    | ok secret =>
      apply Prog.ensures_pure
      apply Prog.ensures_pure
      intro ref' href'
      cases href.symm.trans href'
      exact ⟨ns, secret, hns, hsecret⟩

end

/-! ## The parts that do not panic -/

lemma fails_requireAccess (podInfo : PodInfo) (attributes : ResourceAttributes) (object : String)
    (metadata : ObjectMeta) :
    (requireAccess podInfo attributes object metadata).Fails Fault.IsError := by
  unfold requireAccess
  apply (fails_perform _).bind
  intro reply
  apply (fails_orReturn _).bind
  intro response
  split
  · split <;> trivial
  · trivial

lemma fails_checkAccess (fullDataSource : FullDataSource) (podInfo : PodInfo) :
    (checkAccess fullDataSource podInfo).Fails Fault.IsError := by
  apply (fails_requireAccess _ _ _ _).bind
  intro _
  split
  · exact fails_requireAccess _ _ _ _
  · trivial

lemma fails_ensureDirectory (path message : String) :
    (ensureDirectory path message).Fails Fault.IsError := by
  apply (fails_perform _).bind
  intro exist
  split
  · trivial
  · exact (fails_perform _).bind fun _ => fails_orReturn _

lemma fails_writeStream (path : String) (failure : Option IoError) (chunks : List ByteArray) :
    (Mount.writeStream path failure chunks).Fails Fault.IsError := by
  induction chunks with
  | nil =>
    unfold Mount.writeStream
    split <;> trivial
  | cons bytes rest ih =>
    apply (fails_perform _).bind
    intro reply
    exact (fails_orReturn _).bind fun _ => ih

lemma fails_copyEntry (self : Mount) (entry : Entry) :
    (self.copyEntry entry).Fails Fault.IsError := by
  unfold Mount.copyEntry
  split
  · apply (fails_perform _).bind
    intro file
    apply (fails_orReturn _).bind
    intro _
    apply (fails_perform _).bind
    intro reader
    apply (fails_orReturn _).bind
    intro _
    apply (fails_perform _).bind
    intro stream
    exact (fails_orReturn _).bind fun r => fails_writeStream _ _ _
  · exact fails_ensureDirectory _ _
  · trivial

lemma fails_copyEntries (self : Mount) (entries : List Entry) :
    (self.copyEntries entries).Fails Fault.IsError := by
  induction entries with
  | nil => trivial
  | cons entry rest ih => exact (fails_copyEntry self entry).bind fun _ => ih

lemma fails_mount (self : Mount) : self.mount.Fails Fault.IsError := by
  unfold Mount.mount
  apply (fails_perform _).bind
  intro checked
  apply (fails_orReturn _).bind
  intro _
  apply (fails_ensureDirectory _ _).bind
  intro _
  split
  · refine Prog.Fails.bind ?_ fun _ => trivial
    unfold Mount.mountCached
    apply (fails_ensureDirectory _ _).bind
    intro _
    apply (fails_perform _).bind
    intro listing
    apply (fails_orReturn _).bind
    intro entries
    apply (fails_copyEntries self entries).bind
    intro _
    exact (fails_perform _).bind fun _ => fails_orReturn _
  · apply (fails_perform _).bind
    intro reply
    exact (fails_orReturn _).bind fun _ => trivial

/-! ## The whole handler -/

section
variable {replies : Replies} {request : NodePublishVolumeRequest}

/-- With the pod in the context, nothing panics. -/
lemma fails_nodePublishVolume {podInfo : PodInfo}
    (hpod : getPodInfo request.volumeContext = .pure podInfo) :
    (nodePublishVolume request).Fails Fault.IsError := by
  have fetches : (getFullDataMount request.volumeContext).Fails Fault.IsError := by
    unfold getFullDataMount
    apply (fails_orReturn _).bind
    intro keys
    apply (fails_perform _).bind
    intro nodeReply
    apply (fails_orReturn _).bind
    intro node
    apply (fails_perform _).bind
    intro podReply
    apply (fails_orReturn _).bind
    intro pod
    split
    · trivial
    · apply (fails_orReturn _).bind
      intro ns
      apply (fails_perform _).bind
      intro secretReply
      exact (fails_orReturn _).bind fun _ => trivial
  have prepares : (prepareMount request).Fails Fault.IsError := by
    unfold prepareMount
    apply fetches.bind
    rintro ⟨source, access⟩
    rw [hpod]
    apply (fails_checkAccess _ _).bind
    intro _
    have parts : (source.intoParts access).Fails Fault.IsError :=
      (fails_getOperator _).bind fun _ => trivial
    exact parts.bind fun _ => trivial
  unfold nodePublishVolume
  apply (fails_orReturn _).bind
  intro _
  apply prepares.bind
  intro mount
  exact (fails_mount mount).bind fun _ => fails_perform _

/-- Without it, the handler ends with the panic once all is fetched. -/
lemma nodePublishVolume_eq {e : Fault Status}
    (hpod : getPodInfo request.volumeContext = .throw e) :
    nodePublishVolume request = (do
      orReturn (checkPath request.volumeId request.targetPath)
      let _ ← getFullDataMount request.volumeContext
      throw e) := by
  have hprepare : prepareMount request =
      (getFullDataMount request.volumeContext >>= fun _ => .throw e) := by
    unfold prepareMount
    rw [hpod]
    rfl
  unfold nodePublishVolume
  rw [hprepare]
  congr 1
  funext _
  exact Prog.bind_bind _ _ _

/-- A context without the pod ends in a status or in a panic, and only asks the API server. -/
def Unanswered (replies : Replies) (request : NodePublishVolumeRequest) :
    Except (Fault Status) Unit → Prop
  | .ok _ => False
  | .error (.error _) => checkPath request.volumeId request.targetPath ≠ .ok () ∨
    ¬ Fetches replies request.volumeContext
  | .error (.panic _) => checkPath request.volumeId request.targetPath = .ok () ∧
    Fetches replies request.volumeContext

lemma nodePublishVolume_unanswered {message : String}
    (hpod : getPodInfo request.volumeContext = .throw (.panic message)) :
    (nodePublishVolume request).Ensures replies.Answers () fun _ result =>
      Unanswered replies request result := by
  rw [nodePublishVolume_eq hpod]
  apply Prog.Ensures.bind
  apply ensures_orReturn
  case herror =>
    intro e herror
    refine .inl fun hok => ?_
    cases herror.symm.trans hok
  intro _ hcheck
  apply Prog.Ensures.bind
  refine getFullDataMount_fetches.mono fun _ result fetched => ?_
  rcases result with e | source
  · obtain ⟨hreturned, hnone⟩ := fetched
    cases e with
    | error status => exact .inr hnone
    | panic message => exact hreturned.elim
  · exact Prog.ensures_throw ⟨hcheck, fetched⟩

lemma nodePublishVolume_asks {message : String}
    (hpod : getPodInfo request.volumeContext = .throw (.panic message)) :
    (nodePublishVolume request).Uses Call.IsKube := by
  rw [nodePublishVolume_eq hpod]
  apply (uses_orReturn _).bind
  intro _
  exact (getFullDataMount_kube _).bind fun _ => trivial

/-- Every call can be answered. -/
lemma Replies.answers_total (replies : Replies) (s : Unit) (c : Call) :
    ∃ a s', replies.Answers s c a s' := by
  obtain ⟨a⟩ := c.exists_reply
  rcases c with c | c | c | c | c | _ | _
  case kube =>
    rcases c with _ | _ | _ | _ | _ | _ | _ | _ | _ | _ | _ | _ | _
    case getDataNode ns name => exact ⟨replies.dataNode ns name, (), rfl⟩
    case getDataPod ns name => exact ⟨replies.dataPod ns name, (), rfl⟩
    case getSecret ns name => exact ⟨replies.secret ns name, (), rfl⟩
    all_goals exact ⟨a, (), trivial⟩
  all_goals exact ⟨a, (), trivial⟩

lemma exists_publishRun : ∃ τ result, PublishRun replies request τ result := by
  obtain ⟨τ, q, s, run, hq⟩ := Prog.exists_exec replies.answers_total (nodePublishVolume request) ()
  obtain ⟨result, hresult⟩ := Option.ne_none_iff_exists'.mp hq
  exact ⟨τ, result, q, s, run, hresult⟩

end

/-- For every request and all that the API server may have: the handler returns, and refuses a
context without the pod before it mounts or tracks anything, except that it panics when it has
fetched all that the other keys name and a key of the pod is missing. -/
theorem publish_returns_iff (replies : Replies) (request : NodePublishVolumeRequest) :
    PublishReturns replies request ↔
      ¬ (checkPath request.volumeId request.targetPath = .ok () ∧
        Fetches replies request.volumeContext ∧ LacksPodInfo request.volumeContext) := by
  rcases getPodInfo_cases request.volumeContext with ⟨known, podInfo, hpod⟩ |
    ⟨lacks, message, hpod⟩
  · -- the pod is known
    refine ⟨fun _ h => known h.2.2, fun _ => ⟨?_, fun lacks => absurd lacks known⟩⟩
    rintro τ result ⟨q, s, run, hq⟩
    refine Prog.Fails.ensures (Q := fun _ => Answered) (fails_nodePublishVolume hpod) ?_ ?_
      τ q s result run hq
    · intro _ _
      trivial
    · intro _ _ he
      exact he
  · -- a key of the pod is missing
    have unanswered : ∀ τ result, PublishRun replies request τ result →
        Unanswered replies request result := by
      rintro τ result ⟨q, s, run, hq⟩
      exact nodePublishVolume_unanswered hpod τ q s result run hq
    constructor
    · rintro returns ⟨hcheck, hfetches, _⟩
      obtain ⟨τ, result, run⟩ := exists_publishRun
      obtain ⟨⟨e, rfl⟩, _⟩ := returns.refused lacks τ result run
      rcases unanswered τ _ run with h | h
      · exact h hcheck
      · exact h hfetches
    · intro h
      have refused : ∀ τ result, PublishRun replies request τ result →
          ∃ e, result = .error (.error e) := by
        intro τ result run
        have hresult := unanswered τ result run
        match result, hresult with
        | .error (.error e), _ => exact ⟨e, rfl⟩
        | .error (.panic _), ⟨hcheck, hfetches⟩ => exact absurd ⟨hcheck, hfetches, lacks⟩ h
      constructor
      · intro τ result run
        obtain ⟨e, rfl⟩ := refused τ result run
        trivial
      · rintro _ τ result run
        refine ⟨refused τ result run, fun e he => ?_⟩
        obtain ⟨q, s, exec, _⟩ := run
        exact (exec.uses (nodePublishVolume_asks hpod) e he).quiet

/-! ## A context without a pod -/

/-- There is a `DataNode` and a `DataPod` of every name. -/
def anyReplies : Replies where
  dataNode := fun ns name => .ok ⟨{ name, ns }, ⟨.s3, false, none, ∅⟩, none⟩
  dataPod := fun ns name => .ok ⟨{ name, ns }, ⟨none, none, none, none⟩, none⟩
  secret := fun _ _ => .error .notFound

/-- A request with all that `create_volume` puts into a context, and without a pod. -/
def requestWithoutPod : NodePublishVolumeRequest where
  volumeId := "kubedal-1"
  targetPath := "/target"
  volumeCapability := none
  readonly := false
  volumeContext := keyed "data" "default" "p" "default" "cache"

/-- Everything is fetched, and the handler panics. -/
theorem publish_panics : ¬ PublishReturns anyReplies requestWithoutPod := by
  intro returns
  have hpod : getPodInfo requestWithoutPod.volumeContext =
      .throw (.panic "Pod name not provided") := rfl
  have fetches : Fetches anyReplies requestWithoutPod.volumeContext :=
    ⟨_, _, _, rfl, rfl, rfl, nofun⟩
  obtain ⟨τ, result, q, s, run, hq⟩ : ∃ τ result,
      PublishRun anyReplies requestWithoutPod τ result := exists_publishRun
  have answered := returns.answered τ result ⟨q, s, run, hq⟩
  have unanswered := nodePublishVolume_unanswered hpod τ q s result run hq
  match result, answered, unanswered with
  | .error (.error _), _, .inl h => exact h rfl
  | .error (.error _), _, .inr h => exact h fetches

end Kubedal
