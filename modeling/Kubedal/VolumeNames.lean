import Kubedal.Delivery
import Kubedal.Utils.Identity

/-!
# What the name of a volume stands for

The controller service makes another volume of a name it has forgotten, and two of one name when
requests overlap. Their ids are different, but the claim behind the name is one and the same.

* `ClaimsFixed`: a uid stands for one claim, at all times of a run, whatever others write into it
  that the driver does not read;
* `name_decides`: whatever a volume is made of and mounted from is decided by its name.
-/

namespace Kubedal

open Interaction Kube Resource

/-! ## Claims and their uids -/

def DriverState.claims (s : DriverState) : List PersistentVolumeClaim := s.cluster.pvcs

def DriverState.uids (s : DriverState) : List String := s.cluster.uids

/-- Every claim has a uid that was given out, and every uid stands for one claim, as far as the
driver reads it. -/
abbrev ClaimsFixed (claims : List PersistentVolumeClaim) (uids : List String) : Prop :=
  Fixed uidOf volumeData claims uids

/-- Claims may go, and others come with uids of their own, but nothing is written that the driver
reads. -/
abbrev ClaimsKept (s s' : Cluster) : Prop :=
  Advances uidOf volumeData s.pvcs s.uids s'.pvcs s'.uids

/-- Nobody writes claims, except for what the driver does not read. -/
def KeepsClaims (changes : Cluster → Cluster → Prop) : Prop :=
  ∀ s s', changes s s' → ClaimsFixed s.pvcs s.uids → ClaimsKept s s'

section
variable {selects : Selects} {changes : Cluster → Cluster → Prop} {s₀ : DriverState}
  {steps : List DriverTransition} {P P' : DriverPool}

/-- The uids that were given out stay so. -/
lemma kept_of_subset {s s' : Cluster} (fixed : ClaimsFixed s.pvcs s.uids) (more : s.uids ⊆ s'.uids)
    (sub : s'.pvcs ⊆ s.pvcs) : ClaimsKept s s' :=
  fixed.advances_of_same more fun _ h => .of_mem (sub h)

lemma Cluster.Changes.keepsClaims : KeepsClaims Cluster.Changes := by
  intro s s' h fixed
  refine kept_of_subset fixed ?_ (h.pvcs_subset s s')
  cases h with
  | addNode => exact List.subset_cons_self _ _
  | addDataPod => exact List.subset_append_right _ _
  | addSet => exact List.subset_cons_self _ _
  | _ => exact List.Subset.refl _

/-- A call makes at most one claim. -/
lemma kept_next {s : Cluster} {c : Call} {a : c.Reply} (fixed : ClaimsFixed s.pvcs s.uids)
    (answered : s.Answers selects True c a) : ClaimsKept s (s.next c a) := by
  have more := (next_othersGrow answered).pvcs.uids
  by_cases made : ∃ claim ns sent,
      (⟨c, a⟩ : Event signature) = ⟨.kube (.createPvc ns sent), Except.ok claim⟩
  · obtain ⟨claim, ns, sent, heq⟩ := made
    cases heq
    obtain ⟨uid, _, huid, fresh, _⟩ := of_createPvc answered
    refine fixed.advances_of_add huid fresh more ?_
    show uid ∈ (uidOf claim).toList ++ s.uids
    rw [huid]
    exact List.mem_cons_self
  · refine kept_of_subset fixed more fun claim h => ?_
    rcases mem_next_pvcs h with h | ⟨ns, sent, heq⟩
    · exact h
    · exact absurd ⟨claim, ns, sent, heq⟩ made

/-- No step of the driver writes what it reads of a claim. -/
lemma kept_of_driverStep (keeps : KeepsClaims changes) {l : Label signature DriverRequest}
    (h : (driverService selects changes).Step P l P')
    (fixed : ClaimsFixed P.state.claims P.state.uids) :
    ClaimsKept P.state.cluster P'.state.cluster := by
  cases l with
  | arrives r =>
    rw [Service.step_arrives h]
    exact kept_of_subset fixed (List.Subset.refl _) (List.Subset.refl _)
  | answered r past e =>
    obtain ⟨_, _, _, _, ⟨⟨answered, hcluster⟩, _⟩, _⟩ := Service.step_answered h
    rw [hcluster]
    exact kept_next fixed answered
  | disturbed =>
    cases h with
    | disturb moved =>
      cases moved with
      | changed moved => exact keeps _ _ moved fixed
      | restartedVolumes => exact kept_of_subset fixed (List.Subset.refl _) (List.Subset.refl _)
      | restartedNode => exact kept_of_subset fixed (List.Subset.refl _) (List.Subset.refl _)

/-- A uid stands for one claim, at all times of a run. -/
lemma claimsFixed_of_run (init : ClaimsFixed s₀.claims s₀.uids) (keeps : KeepsClaims changes)
    (run : (driverService selects changes).Run s₀ steps P) :
    ClaimsFixed (seenIn DriverState.claims steps P) P.state.uids :=
  run.fixed init fun _ _ _ => kept_of_driverStep keeps

/-! ## The claim behind a name -/

/-- Two requests for one name find one claim, as far as the driver reads it. -/
lemma ClaimFound.unique (init : ClaimsFixed s₀.claims s₀.uids) (keeps : KeepsClaims changes)
    (run : (driverService selects changes).Run s₀ steps P) {c c' : CreateVolumeRequest}
    {claim claim' : PersistentVolumeClaim} (found : ClaimFound steps c claim)
    (found' : ClaimFound steps c' claim') (hname : c.name = c'.name) :
    uidOf claim = uidOf claim' ∧ volumeData claim = volumeData claim' := by
  obtain ⟨x, hx, hclaim, _⟩ := found.there
  obtain ⟨x', hx', hclaim', _⟩ := found'.there
  obtain ⟨uid, hstrip, huid⟩ := found.uid
  obtain ⟨uid', hstrip', huid'⟩ := found'.uid
  have same : uidOf claim = uidOf claim' := by
    rw [hname, hstrip'] at hstrip
    rw [huid, huid', hstrip]
  exact ⟨same, (claimsFixed_of_run init keeps run).same claim (mem_seenIn hx hclaim) claim'
    (mem_seenIn hx' hclaim') same⟩

/-- The context of a volume says nothing else of the claim. -/
lemma config_congr {claim claim' : PersistentVolumeClaim} {context : StringMap String}
    (same : volumeData claim = volumeData claim')
    (h : getConfigFromPvcMeta claim.metadata = .ok context) :
    getConfigFromPvcMeta claim'.metadata = .ok context := by
  have written : ∀ key ∈ kubedalKeys,
      annotationOf claim.metadata key = annotationOf claim'.metadata key :=
    fun key => annotation_of_same same
  have hns : claim.metadata.ns = claim'.metadata.ns := congrArg Prod.fst same
  obtain ⟨nodeName, podName, word, annotated, rfl⟩ := getConfigFromPvcMeta_eq_ok.mp h
  refine getConfigFromPvcMeta_eq_ok.mpr ⟨nodeName, podName, word, ⟨?_, ?_, ?_⟩, ?_⟩
  · rw [← written _ (by decide), annotated.nodeName]
  · rw [← written _ (by decide), annotated.podName]
  · rw [← written _ (by decide), annotated.mount]
  · rw [contextOf, contextOf, hns, written _ (by decide), written _ (by decide)]

/-- A claim asks for one thing. -/
lemma ClaimAsks.unique {claim : PersistentVolumeClaim} {keys keys' : DataMountKeys}
    (asks : ClaimAsks claim keys) (asks' : ClaimAsks claim keys') : keys = keys' := by
  obtain ⟨word, hword, hmode⟩ := asks.mount
  obtain ⟨word', hword', hmode'⟩ := asks'.mount
  have nodeName := asks.nodeName.symm.trans asks'.nodeName
  have nodeNamespace := asks.nodeNamespace.symm.trans asks'.nodeNamespace
  have podName := asks.podName.symm.trans asks'.podName
  have podNamespace := asks.podNamespace.symm.trans asks'.podNamespace
  have mode : keys.mountMode = keys'.mountMode := by
    rw [hword] at hword'
    cases hword'
    exact Except.ok.inj (hmode.symm.trans hmode')
  cases keys
  cases keys'
  cases nodeName
  cases nodeNamespace
  cases podName
  cases podNamespace
  cases mode
  rfl

lemma exists_asked (claim : PersistentVolumeClaim) :
    ∃ keys, ∀ keys', ClaimAsks claim keys' → keys' = keys := by
  by_cases h : ∃ keys, ClaimAsks claim keys
  · obtain ⟨keys, asks⟩ := h
    exact ⟨keys, fun _ asks' => asks'.unique asks⟩
  · exact ⟨⟨"", "", "", "", .fuseReadOnly⟩, fun keys' asks => absurd ⟨keys', asks⟩ h⟩

/-- The claim is the one behind this name: every volume of the name has its context, and what is
mounted of one is what this claim asks for, as the keys say. -/
structure Decided (steps : List DriverTransition) (P : DriverPool) (name : String)
    (context : StringMap String) (claim : PersistentVolumeClaim) (keys : DataMountKeys) : Prop where
  found : ∃ r, r.name = name ∧ ClaimFound steps r claim
  same : ∀ r claim', r.name = name → ClaimFound steps r claim' →
    uidOf claim' = uidOf claim ∧ volumeData claim' = volumeData claim
  read : getConfigFromPvcMeta claim.metadata = .ok context
  context_eq : ∀ volume, P.HasCreated name volume → volume.volumeContext = context
  delivers : ∀ volume r, P.HasCreated name volume → Publishes r volume → ∀ x ∈ steps, ∀ past e,
    x.label = .answered (.node (.publish r)) past e → e.call.Mounts →
      ClaimAsks claim keys ∧ ∃ node mount, Delivers steps r past e.call keys node mount

/-- Over every run of the driver in which nobody writes what it reads of a claim, whatever the
interleaving, however often volumes are deleted and created again, and wherever the services are
restarted: all volumes of one name have the context of the one claim behind the name, and whatever
is mounted of any of them is the one `DataNode`, in the one way, that this claim asks for. -/
theorem name_decides (init : ClaimsFixed s₀.claims s₀.uids) (keeps : KeepsClaims changes)
    (started : s₀.volumes = .init) (run : (driverService selects changes).Run s₀ steps P)
    {name : String} {volume : CsiVolume} (created : P.HasCreated name volume) :
    ∃ claim keys, Decided steps P name volume.volumeContext claim keys := by
  obtain ⟨c, claim, hname, found, hconfig⟩ := claimFound_of_created run started created
  obtain ⟨keys, asked⟩ := exists_asked claim
  have same : ∀ r claim', r.name = name → ClaimFound steps r claim' →
      uidOf claim' = uidOf claim ∧ volumeData claim' = volumeData claim :=
    fun r claim' hname' found' => found'.unique init keeps run found (hname'.trans hname.symm)
  refine ⟨claim, keys, ⟨c, hname, found⟩, same, hconfig, fun volume' created' => ?_,
    fun volume' r created' publishes x hx past e hlabel mounts => ?_⟩
  · obtain ⟨c', claim', hname', found', hconfig'⟩ := claimFound_of_created run started created'
    have hconfig'' := config_congr (same c' claim' hname' found').2 hconfig'
    exact Except.ok.inj (hconfig''.symm.trans hconfig)
  · obtain ⟨c', claim', keys', node, mount, hname', found', asks', delivers⟩ :=
      delivers_of_publishes run started created' hx publishes hlabel mounts
    have asks := asks'.congr (same c' claim' hname' found').2
    obtain rfl := asked keys' asks
    exact ⟨asks, node, mount, delivers⟩

end

lemma claimsFixed_sample : ClaimsFixed DriverState.sample.claims DriverState.sample.uids :=
  ⟨fun _ h => absurd h List.not_mem_nil, fun _ h => absurd h List.not_mem_nil⟩

/-- A volume that is created again after a restart, with another id. -/
theorem name_decides_restart : ∃ steps P volume volume' r x past e claim keys,
    (driverService sampleSelects Cluster.Changes).Run .sample steps P ∧
    DriverPool.HasCreated P "pvc-000" volume ∧ DriverPool.HasCreated P "pvc-000" volume' ∧
    volume.volumeId ≠ volume'.volumeId ∧ Publishes r volume ∧ x ∈ steps ∧
    x.label = .answered (.node (.publish r)) past e ∧ e.call.Mounts ∧
    Decided steps P "pvc-000" volume.volumeContext claim keys := by
  obtain ⟨steps, P, _, _, _, _, volume, volume', past, e, run, _, _, _, created, created', differ,
    ⟨x, hx, hlabel⟩, mounts⟩ := exists_sampleRun
  obtain ⟨claim, keys, decided⟩ :=
    name_decides claimsFixed_sample Cluster.Changes.keepsClaims rfl run created
  exact ⟨steps, P, volume, volume', _, x, past, e, claim, keys, run, created, created', differ,
    publishes_sample volume, hx, hlabel, mounts, decided⟩

end Kubedal
