import Kubedal.Services.NodeAccess
import Kubedal.Utils.Lockstep

/-!
# What a publish learns

`node_publish_volume` fetches the secret of a `DataNode` before it asks whether the pod may read
it, and it fetches the `DataPod` as well.

* `secret_unread`: the data of a secret makes no difference to anything a publish does, unless the
  service account of the pod may get that secret;
* `dataPod_unread`: nothing of the `DataPod` makes a difference but whether there is one.
-/

namespace Kubedal

open Interaction Kube Resource

/-- The calls of a history. -/
def callsOf (history : List (Event signature)) : List Call := history.map Event.call

/-- Two answers to a request for a secret that differ in the data only. -/
def UpToSecretData : (c : Call) → c.Reply → c.Reply → Prop
  | .kube (.getSecret _ _), a, b =>
    (Except.toOption (α := Secret) a).map Secret.metadata = b.toOption.map Secret.metadata
  | _, a, b => a = b

/-- Two answers to a request for a `DataPod` that both have one or both fail. -/
def UpToDataPod : (c : Call) → c.Reply → c.Reply → Prop
  | .kube (.getDataPod _ _), a, b =>
    (Except.toOption (α := DataPod) a).map (fun _ => ()) = b.toOption.map fun _ => ()
  | _, a, b => a = b

/-- A secret was fetched that the service account of the pod may get. -/
def MayReadSecret (request : NodePublishVolumeRequest) (past : List (Event signature)) : Prop :=
  ∃ ns name secret, Saw past (.kube (.getSecret ns name)) (Except.ok secret) ∧
    Reviewed request past (secretAttributes secret.metadata)

/-! ## Rules for single calls -/

section
variable {R : (c : Call) → c.Reply → c.Reply → Prop} {Free : List (Event signature) → Prop}
  {ε α : Type} {past : List (Event signature)}

lemma lockstep_orReturn {Q : List (Event signature) → α → α → Prop} {r : Except ε α}
    (h : ∀ a, r = .ok a → Q past a a) :
    Prog.Lockstep R Free Q past (orReturn r) (orReturn r) := by
  cases r with
  | ok a => exact .pure (h a rfl)
  | error e => exact .throw _ _

lemma lockstep_expect {Q : List (Event signature) → α → α → Prop} {message : String}
    {o : Option α} (h : ∀ a, o = some a → Q past a a) :
    Prog.Lockstep R Free Q past (expect message o : Async ε α) (expect message o) := by
  cases o with
  | some a => exact .pure (h a rfl)
  | none => exact .throw _ _

/-- Two answers that are alike are mapped to values that are alike, or to one error. -/
lemma lockstep_mapError {β : Type} {Q : List (Event signature) → α → α → Prop} (key : α → β)
    (e : ε) {a b : Except KubeError α} (hab : a.toOption.map key = b.toOption.map key)
    (h : ∀ x y, a = .ok x → b = .ok y → key x = key y → Q past x y) :
    Prog.Lockstep R Free Q past (orReturn (a.mapError fun _ => e))
      (orReturn (b.mapError fun _ => e)) := by
  cases a with
  | error e₁ =>
    cases b with
    | error e₂ => exact .throw _ _
    | ok y => cases hab
  | ok x =>
    cases b with
    | error e₂ => cases hab
    | ok y => exact .pure (h x y rfl rfl (Option.some.inj hab))

end

/-! ## The data of secrets -/

section
variable {request : NodePublishVolumeRequest} {past : List (Event signature)}

/-- The call is not for a secret. -/
def Call.NoSecret : Call → Prop
  | .kube (.getSecret _ _) => False
  | _ => True

lemma eq_of_noSecret {c : Call} {a b : c.Reply} (h : c.NoSecret) (hab : UpToSecretData c a b) :
    a = b := by
  rcases c with c | c | c | c | c | _ | _
  case kube =>
    cases c
    case getSecret => exact h.elim
    all_goals exact hab
  all_goals exact hab

/-- A program that fetches no secret. -/
lemma lockstep_noSecret {ε α : Type} {p : Async ε α} (uses : p.Uses Call.NoSecret) :
    Prog.Lockstep UpToSecretData (MayReadSecret request) (fun _ a b => a = b) past p p :=
  .refl uses (fun _ _ _ h hab => eq_of_noSecret h hab) past

/-- The two programs have the same objects, up to the data of the secret. -/
structure SameSource (past : List (Event signature)) (x y : FullDataSource × MountAccess) :
    Prop where
  source : x.1.source = y.1.source
  access : x.2 = y.2
  secret : x.1.secret.map Secret.metadata = y.1.secret.map Secret.metadata
  fetched : ∀ secret, x.1.secret = some secret →
    ∃ ns name, Saw past (.kube (.getSecret ns name)) (Except.ok secret)
  referred : x.1.source.spec.secretRef = none ↔ x.1.secret = none

lemma getFullDataMount_lockstep (volumeContext : StringMap String) :
    Prog.Lockstep UpToSecretData (MayReadSecret request) SameSource past
      (getFullDataMount volumeContext) (getFullDataMount volumeContext) := by
  unfold getFullDataMount
  refine (lockstep_orReturn (Q := fun _ a b => a = b) fun _ _ => rfl).bind ?_
  rintro past keys _ _ rfl
  refine (lockstep_noSecret (uses_kube (.getDataNode _ _) trivial)).bind ?_
  rintro past nodeReply _ _ rfl
  refine (lockstep_orReturn (Q := fun _ a b => a = b) fun _ _ => rfl).bind ?_
  rintro past (node : DataNode) _ _ rfl
  refine (lockstep_noSecret (uses_kube (.getDataPod _ _) trivial)).bind ?_
  rintro past podReply _ _ rfl
  refine (lockstep_orReturn (Q := fun _ a b => a = b) fun _ _ => rfl).bind ?_
  rintro past (pod : DataPod) _ _ rfl
  cases href : node.spec.secretRef with
  | none => exact .pure ⟨rfl, rfl, rfl, by simp, by simp [href]⟩
  | some ref =>
    refine (lockstep_orReturn (Q := fun _ a b => a = b) fun _ _ => rfl).bind ?_
    rintro past ns _ _ rfl
    refine (Prog.Lockstep.perform (Q := fun past a b =>
      UpToSecretData (.kube (.getSecret ns ref.name)) a b ∧
        Saw past (.kube (.getSecret ns ref.name)) a) fun a b hab _ => ⟨hab, by simp [Saw]⟩).bind ?_
    rintro past a b _ ⟨hab, saw⟩
    refine (lockstep_mapError (Q := fun past x y =>
      Secret.metadata x = Secret.metadata y ∧
        ∃ ns name, Saw past (.kube (.getSecret ns name)) (Except.ok x)) _ _ hab ?_).bind ?_
    · rintro x y rfl rfl hxy
      exact ⟨hxy, ns, ref.name, saw⟩
    · rintro past x y _ ⟨hxy, fetched⟩
      refine .pure ⟨rfl, rfl, congrArg some hxy, ?_, by simp [href]⟩
      rintro secret ⟨⟩
      exact fetched

/-- The service account of `podInfo` is the one that the request names. -/
structure PodOf (request : NodePublishVolumeRequest) (podInfo : PodInfo) : Prop where
  ns : request.volumeContext.lookup "csi.storage.k8s.io/pod.namespace" = some podInfo.ns
  serviceAccount : request.volumeContext.lookup "csi.storage.k8s.io/serviceAccount.name" =
    some podInfo.serviceAccount

lemma getPodInfo_lockstep {R : (c : Call) → c.Reply → c.Reply → Prop}
    {Free : List (Event signature) → Prop} :
    Prog.Lockstep R Free (fun _ a b => a = b ∧ PodOf request a) past
      (getPodInfo request.volumeContext) (getPodInfo request.volumeContext) := by
  unfold getPodInfo
  refine (lockstep_expect (Q := fun _ a b => a = b) fun _ _ => rfl).bind ?_
  rintro past podName _ _ rfl
  refine (lockstep_expect (Q := fun _ a b => a = b ∧
    request.volumeContext.lookup "csi.storage.k8s.io/pod.namespace" = some a)
    fun _ h => ⟨rfl, h⟩).bind ?_
  rintro past podNamespace _ _ ⟨rfl, hns⟩
  refine (lockstep_expect (Q := fun _ a b => a = b ∧
    request.volumeContext.lookup "csi.storage.k8s.io/serviceAccount.name" = some a)
    fun _ h => ⟨rfl, h⟩).bind ?_
  rintro past serviceAccount _ _ ⟨rfl, hsa⟩
  refine (lockstep_expect (Q := fun _ a b => a = b) fun _ _ => rfl).bind ?_
  rintro past podUid _ _ rfl
  exact .pure ⟨rfl, hns, hsa⟩

/-- Once a secret was fetched, a review of it either sets the two programs free or ends both. -/
lemma reviewSecret_lockstep {podInfo : PodInfo} {secret : Secret} {object : String}
    (pod : PodOf request podInfo)
    (fetched : ∃ ns name, Saw past (.kube (.getSecret ns name)) (Except.ok secret)) :
    Prog.Lockstep UpToSecretData (MayReadSecret request) (fun _ _ _ => False) past
      (requireAccess podInfo (secretAttributes secret.metadata) object secret.metadata)
      (requireAccess podInfo (secretAttributes secret.metadata) object secret.metadata) := by
  unfold requireAccess
  refine .call _ _ _ fun reply _ hreply bound => ?_
  cases hreply
  refine (lockstep_orReturn (Q := fun _ a b => a = b ∧ reply = .ok a) fun response h => ?_).bind ?_
  · cases reply with
    | error e => cases h
    | ok response' =>
      cases h
      exact ⟨rfl, rfl⟩
  rintro past' ⟨spec, _ | status⟩ _ hpast ⟨rfl, rfl⟩
  · exact .throw _ _
  show Prog.Lockstep _ _ _ _ (if status.allowed then _ else _) (if status.allowed then _ else _)
  split
  · rename_i allowed
    obtain ⟨ns, name, saw⟩ := fetched
    exact absurd ⟨ns, name, secret, saw.append, podInfo.ns, podInfo.serviceAccount, spec, status,
      pod.ns, pod.serviceAccount, saw_last _ _, allowed⟩ bound
  · exact .throw _ _

/-- Nothing is left to do in lockstep once the secret that was fetched is reviewed. -/
lemma checkAccess_lockstep {podInfo : PodInfo} {x y : FullDataSource × MountAccess}
    (pod : PodOf request podInfo) (same : SameSource past x y) :
    Prog.Lockstep UpToSecretData (MayReadSecret request) (fun _ _ _ => x.1.secret = none) past
      (checkAccess x.1 podInfo) (checkAccess y.1 podInfo) := by
  unfold checkAccess
  rw [← same.source]
  refine (lockstep_noSecret (uses_requireAccess _ _ _ _ fun _ => trivial)).bind ?_
  rintro past' _ _ hpast rfl
  have hsecret := same.secret
  cases hx : x.1.secret with
  | none =>
    have hy : y.1.secret = none := by
      rw [hx] at hsecret
      exact Option.map_eq_none_iff.mp hsecret.symm
    rw [hy]
    exact .pure rfl
  | some secret =>
    obtain ⟨secret', hy, hmetadata⟩ : ∃ secret', y.1.secret = some secret' ∧
        secret'.metadata = secret.metadata := by
      rw [hx] at hsecret
      exact Option.map_eq_some_iff.mp hsecret.symm
    rw [hy]
    dsimp only
    rw [hmetadata]
    obtain ⟨ns, name, saw⟩ := same.fetched secret hx
    exact (reviewSecret_lockstep pod ⟨ns, name, hpast.subset saw⟩).mono fun _ _ _ h => h.elim

lemma prepareMount_lockstep :
    Prog.Lockstep UpToSecretData (MayReadSecret request) (fun _ a b => a = b) past
      (prepareMount request) (prepareMount request) := by
  unfold prepareMount
  refine (getFullDataMount_lockstep _).bind ?_
  rintro past ⟨source, access⟩ ⟨source', access'⟩ _ same
  refine getPodInfo_lockstep.bind ?_
  rintro past' podInfo _ hpast ⟨rfl, pod⟩
  have same' : SameSource past' (source, access) (source', access') :=
    { same with
      fetched := fun secret h => by
        obtain ⟨ns, name, saw⟩ := same.fetched secret h
        exact ⟨ns, name, hpast.subset saw⟩ }
  refine (checkAccess_lockstep pod same').bind ?_
  rintro past'' _ _ _ hnone
  -- no secret is referenced, so that none is fetched for the operator
  have hsource : source.source = source'.source := same.source
  have haccess : access = access' := same.access
  have hreferred := same.referred.mpr hnone
  unfold FullDataSource.intoParts
  rw [← hsource, ← haccess]
  have operator : (getOperator source.source).Uses Call.NoSecret := by
    refine uses_getOperator (fun _ _ href => ?_) fun _ => trivial
    rw [show source.source.spec.secretRef = none from hreferred] at href
    cases href
  refine (lockstep_noSecret (operator.bind fun _ => ?_)).bind ?_
  · trivial
  · rintro past _ _ _ rfl
    exact .pure rfl

lemma nodePublishVolume_lockstep :
    Prog.Lockstep UpToSecretData (MayReadSecret request) (fun _ a b => a = b) past
      (nodePublishVolume request) (nodePublishVolume request) := by
  unfold nodePublishVolume
  refine (lockstep_orReturn (Q := fun _ a b => a = b) fun _ _ => rfl).bind ?_
  rintro past _ _ _ rfl
  refine prepareMount_lockstep.bind ?_
  rintro past mount _ _ rfl
  exact lockstep_noSecret ((uses_mount mount (fun _ => trivial) fun _ => trivial).bind
    fun _ => uses_perform trivial)

end

/-! ## The `DataPod` -/

section
variable {request : NodePublishVolumeRequest} {past : List (Event signature)}
  {Free : List (Event signature) → Prop}

/-- The call is not for a `DataPod`. -/
def Call.NoDataPod : Call → Prop
  | .kube (.getDataPod _ _) => False
  | _ => True

lemma eq_of_noDataPod {c : Call} {a b : c.Reply} (h : c.NoDataPod) (hab : UpToDataPod c a b) :
    a = b := by
  rcases c with c | c | c | c | c | _ | _
  case kube =>
    cases c
    case getDataPod => exact h.elim
    all_goals exact hab
  all_goals exact hab

/-- A program that fetches no `DataPod`. -/
lemma lockstep_noDataPod {ε α : Type} {p : Async ε α} (uses : p.Uses Call.NoDataPod) :
    Prog.Lockstep UpToDataPod Free (fun _ a b => a = b) past p p :=
  .refl uses (fun _ _ _ h hab => eq_of_noDataPod h hab) past

/-- The same objects, up to the `DataPod`. -/
structure SameBesidesPod (x y : FullDataSource × MountAccess) : Prop where
  source : x.1.source = y.1.source
  access : x.2 = y.2
  secret : x.1.secret = y.1.secret

lemma getFullDataMount_noPod (volumeContext : StringMap String) :
    Prog.Lockstep UpToDataPod Free (fun _ => SameBesidesPod) past
      (getFullDataMount volumeContext) (getFullDataMount volumeContext) := by
  unfold getFullDataMount
  refine (lockstep_orReturn (Q := fun _ a b => a = b) fun _ _ => rfl).bind ?_
  rintro past keys _ _ rfl
  refine (lockstep_noDataPod (uses_kube (.getDataNode _ _) trivial)).bind ?_
  rintro past nodeReply _ _ rfl
  refine (lockstep_orReturn (Q := fun _ a b => a = b) fun _ _ => rfl).bind ?_
  rintro past (node : DataNode) _ _ rfl
  refine (Prog.Lockstep.perform (Q := fun _ a b =>
    UpToDataPod (.kube (.getDataPod _ _)) a b) fun a b hab _ => hab).bind ?_
  rintro past a b _ hab
  refine (lockstep_mapError (Q := fun _ _ _ => True) _ _ hab fun _ _ _ _ _ => trivial).bind ?_
  rintro past pod pod' _ -
  cases node.spec.secretRef with
  | none => exact .pure ⟨rfl, rfl, rfl⟩
  | some ref =>
    refine (lockstep_orReturn (Q := fun _ a b => a = b) fun _ _ => rfl).bind ?_
    rintro past ns _ _ rfl
    refine (lockstep_noDataPod (uses_kube (.getSecret _ _) trivial)).bind ?_
    rintro past secretReply _ _ rfl
    refine (lockstep_orReturn (Q := fun _ a b => a = b) fun _ _ => rfl).bind ?_
    rintro past (secret : Secret) _ _ rfl
    exact .pure ⟨rfl, rfl, rfl⟩

lemma nodePublishVolume_noPod :
    Prog.Lockstep UpToDataPod Free (fun _ a b => a = b) past
      (nodePublishVolume request) (nodePublishVolume request) := by
  unfold nodePublishVolume prepareMount
  refine (lockstep_orReturn (Q := fun _ a b => a = b) fun _ _ => rfl).bind ?_
  rintro past _ _ _ rfl
  refine Prog.Lockstep.bind (M := fun _ a b => a = b) ?_ ?_
  · refine (getFullDataMount_noPod _).bind ?_
    rintro past ⟨⟨source, pod, secret⟩, access⟩ ⟨⟨_, pod', _⟩, _⟩ _ ⟨rfl, rfl, rfl⟩
    refine (lockstep_noDataPod (uses_getPodInfo _)).bind ?_
    rintro past podInfo _ _ rfl
    refine (lockstep_noDataPod (uses_checkAccess ⟨source, pod, secret⟩ podInfo
      fun _ => trivial)).bind ?_
    rintro past _ _ _ rfl
    refine (lockstep_noDataPod (uses_intoParts ⟨source, pod, secret⟩ access
      (fun _ _ => trivial) fun _ => trivial)).bind ?_
    rintro past ⟨operator, mode, accessMode⟩ _ _ rfl
    exact .pure rfl
  · rintro past mount _ _ rfl
    exact lockstep_noDataPod ((uses_mount mount (fun _ => trivial) fun _ => trivial).bind
      fun _ => uses_perform trivial)

end

/-! ## What a publish does against an API server -/

/-- What a publish does, and how it ends, when `o` answers its calls. -/
def publishAgainst (o : Oracle signature) (request : NodePublishVolumeRequest) :
    List (Event signature) × Except (Fault Status) Unit := (nodePublishVolume request).play o []

section
variable {R : (c : Call) → c.Reply → c.Reply → Prop}

/-- Histories that are alike have the same calls. -/
lemma callsOf_eq {history history' : List (Event signature)}
    (h : List.Forall₂ (Event.Alike R) history history') : callsOf history = callsOf history' := by
  induction h with
  | nil => rfl
  | cons h _ ih =>
    cases h
    simpa [callsOf] using ih

lemma eq_of_results {ε α : Type} {r r' : Except ε α} (h : Prog.Results (fun a b => a = b) r r') :
    r = r' := by
  rcases r with e | a <;> rcases r' with e' | a'
  · exact congrArg _ h
  · exact h.elim
  · exact h.elim
  · exact congrArg _ h

end

/-- An answer to every call, where the API server answers as `api` says. -/
def answerWith (api : (c : KubeCall) → Except KubeError c.Object) : (c : Call) → c.Reply
  | .kube c => api c
  | .opendal c => sampleStorage [] c
  | .host (.pathExists _) => true
  | .host (.createDir _) => Except.ok ()
  | .host (.createFile _) => Except.ok ()
  | .host (.writeAll _ _) => Except.ok ()
  | .host (.bindMount _ _ _) => Joined.done (.ok ())
  | .host (.unmount _) => Joined.done (.ok ())
  | .host (.fuseMount _ _ _) => Except.ok (⟨0⟩ : MountHandle)
  | .host (.unmountHandle _) => Except.ok ()
  | .mounts (.insert _ _) => ()
  | .mounts (.remove _) => (none : Option Mount)
  | .mounts .unlock => ()
  | .volumes (.lookup _) => (none : Option CsiVolume)
  | .volumes (.insert _ _) => ()
  | .volumes (.removeById _) => ()
  | .volumes .values => ([] : List CsiVolume)
  | .newUuid => ""
  | .sampleAlphanumeric _ => ""

/-- Whatever else the API server, the storage and the host answer: as long as the service account
of the pod was not allowed to get a secret that was fetched, a publish makes the same calls
whatever data the secrets have. If it never is, the result is the same as well. -/
theorem secret_unread {request : NodePublishVolumeRequest} {o o' : Oracle signature}
    (alike : o.Alike UpToSecretData o') :
    (∃ past past', MayReadSecret request past ∧ past <+: (publishAgainst o request).1 ∧
        past' <+: (publishAgainst o' request).1 ∧ callsOf past = callsOf past') ∨
      callsOf (publishAgainst o request).1 = callsOf (publishAgainst o' request).1 ∧
        (publishAgainst o request).2 = (publishAgainst o' request).2 := by
  rcases nodePublishVolume_lockstep.play alike .nil with
    ⟨past, past', free, hpast, hpast', h⟩ | ⟨h, results⟩
  · exact .inl ⟨past, past', free, hpast, hpast', callsOf_eq h⟩
  · exact .inr ⟨callsOf_eq h, eq_of_results results⟩

/-- A cluster whose secrets have the data `data`, and may not be got by anyone. -/
def secretApi (data : Option (StringMap ByteArray)) :
    (c : KubeCall) → Except KubeError c.Object
  | .getSecret ns name => Except.ok (⟨{ name := some name, ns := some ns }, data⟩ : Secret)
  | .createAccessReview review =>
    Except.ok ({ review with
      status := some ⟨review.spec.resourceAttributes.bind (·.resource) != some "secrets"⟩ } :
        SubjectAccessReview)
  | c => sampleApi ⟨.s3, false, some ⟨"credentials", none⟩, ∅⟩ c

lemma secretApi_alike (data data' : Option (StringMap ByteArray)) :
    Oracle.Alike (S := signature) UpToSecretData (fun _ => answerWith (secretApi data))
      fun _ => answerWith (secretApi data') := by
  intro past past' c _
  rcases c with c | c | c | c | c | _ | _
  case newUuid => rfl
  case sampleAlphanumeric => rfl
  case opendal => rfl
  all_goals cases c <;> rfl

/-- The pod may not get the secret `credentials`, which has some data or none. -/
theorem secret_unread_denied : ∃ (o o' : Oracle signature) (secret secret' : Secret),
    o.Alike UpToSecretData o' ∧ secret.data ≠ secret'.data ∧
    Saw (publishAgainst o (publishFuse "v" "/t")).1 (.kube (.getSecret "default" "credentials"))
      (Except.ok secret) ∧
    Saw (publishAgainst o' (publishFuse "v" "/t")).1 (.kube (.getSecret "default" "credentials"))
      (Except.ok secret') ∧
    ((∃ past past', MayReadSecret (publishFuse "v" "/t") past ∧
        past <+: (publishAgainst o (publishFuse "v" "/t")).1 ∧
        past' <+: (publishAgainst o' (publishFuse "v" "/t")).1 ∧ callsOf past = callsOf past') ∨
      callsOf (publishAgainst o (publishFuse "v" "/t")).1 =
          callsOf (publishAgainst o' (publishFuse "v" "/t")).1 ∧
        (publishAgainst o (publishFuse "v" "/t")).2 =
          (publishAgainst o' (publishFuse "v" "/t")).2) := by
  refine ⟨fun _ => answerWith (secretApi none), fun _ => answerWith (secretApi (some ∅)),
    ⟨{ name := some "credentials", ns := some "default" }, none⟩,
    ⟨{ name := some "credentials", ns := some "default" }, some ∅⟩, secretApi_alike _ _,
    by simp, ?_, ?_, secret_unread (secretApi_alike _ _)⟩
  -- it is fetched after the `DataNode` and the `DataPod`
  · exact List.mem_cons_of_mem _ (List.mem_cons_of_mem _ List.mem_cons_self)
  · exact List.mem_cons_of_mem _ (List.mem_cons_of_mem _ List.mem_cons_self)

/-- A publish makes the same calls and ends alike whatever the `DataPod` says, as long as there is
one. -/
theorem dataPod_unread {request : NodePublishVolumeRequest} {o o' : Oracle signature}
    (alike : o.Alike UpToDataPod o') :
    callsOf (publishAgainst o request).1 = callsOf (publishAgainst o' request).1 ∧
      (publishAgainst o request).2 = (publishAgainst o' request).2 := by
  have lockstep : Prog.Lockstep UpToDataPod (fun _ => False) (fun _ a b => a = b) []
      (nodePublishVolume request) (nodePublishVolume request) := nodePublishVolume_noPod
  rcases lockstep.play alike .nil with ⟨_, _, free, _⟩ | ⟨h, results⟩
  · exact free.elim
  · exact ⟨callsOf_eq h, eq_of_results results⟩

/-- A cluster where every `DataPod` has the path `path`. -/
def podApi (path : String) : (c : KubeCall) → Except KubeError c.Object
  | .getDataPod ns name =>
    Except.ok (⟨{ name := some name, ns := some ns },
      ⟨some path, some ⟨"data", none⟩, none, none⟩, none⟩ : DataPod)
  | c => sampleApi ⟨.http, false, none, ∅⟩ c

lemma podApi_alike (path path' : String) :
    Oracle.Alike (S := signature) UpToDataPod (fun _ => answerWith (podApi path))
      fun _ => answerWith (podApi path') := by
  intro past past' c _
  rcases c with c | c | c | c | c | _ | _
  case newUuid => rfl
  case sampleAlphanumeric => rfl
  case opendal => rfl
  all_goals cases c <;> rfl

/-- Two `DataPod`s with different paths. -/
theorem dataPod_unread_paths : ∃ (o o' : Oracle signature) (pod pod' : DataPod),
    o.Alike UpToDataPod o' ∧ pod.spec.path ≠ pod'.spec.path ∧
    Saw (publishAgainst o (publishFuse "v" "/t")).1 (.kube (.getDataPod "default" "p"))
      (Except.ok pod) ∧
    Saw (publishAgainst o' (publishFuse "v" "/t")).1 (.kube (.getDataPod "default" "p"))
      (Except.ok pod') ∧
    callsOf (publishAgainst o (publishFuse "v" "/t")).1 =
        callsOf (publishAgainst o' (publishFuse "v" "/t")).1 ∧
      (publishAgainst o (publishFuse "v" "/t")).2 =
        (publishAgainst o' (publishFuse "v" "/t")).2 := by
  refine ⟨fun _ => answerWith (podApi "/a"), fun _ => answerWith (podApi "/b"),
    ⟨{ name := some "p", ns := some "default" },
      ⟨some "/a", some ⟨"data", none⟩, none, none⟩, none⟩,
    ⟨{ name := some "p", ns := some "default" },
      ⟨some "/b", some ⟨"data", none⟩, none, none⟩, none⟩, podApi_alike _ _, by decide,
    ?_, ?_, dataPod_unread (podApi_alike _ _)⟩
  · exact List.mem_cons_of_mem _ List.mem_cons_self
  · exact List.mem_cons_of_mem _ List.mem_cons_self

end Kubedal
