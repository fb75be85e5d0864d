import Kubedal.Services.Provisioning

/-!
# What decides the outcome of `create_volume`

A request that is handled on its own, with the claims that the API server lists.

* `ClaimFor` is what there has to be for a name that is not in the map, `TakenFrom` what the
  context of the new volume is;
* `create_volume_exact` says when a request is successful and what it does to the map, in whatever
  order the claims are listed.
-/

namespace Kubedal

open Interaction Kube Resource

/-- The metadata of the claims in each namespace. -/
abbrev ClaimListing := String → List ObjectMeta

/-- No two claims have one uid. -/
def DistinctUids (all : List ObjectMeta) : Prop :=
  all.Pairwise fun m m' => ∀ uid, m.uid = some uid → m'.uid ≠ some uid

/-- The annotations that a claim must have. -/
def copiedKeys : List String :=
  ["kubedal.arunaengine.org/data-node-name", "kubedal.arunaengine.org/data-pod-name",
    "kubedal.arunaengine.org/mount"]

/-- The annotations that default to the namespace of the claim. -/
def defaultedKeys : List String :=
  ["kubedal.arunaengine.org/data-node-namespace", "kubedal.arunaengine.org/data-pod-namespace"]

/-- The claim that a request for a new volume is about, with all that is needed of it. -/
structure ClaimFor (claims : ClaimListing) (r : CreateVolumeRequest) (claim : ObjectMeta) :
    Prop where
  listed : ∃ ns, r.parameters.lookup "resourceNamespace" = some ns ∧ claim ∈ claims ns
  named : ∃ uid, claim.uid = some uid ∧ r.name = "pvc-" ++ uid
  annotated : ∀ key ∈ copiedKeys, annotationOf claim key ≠ none

/-- The context is the one that the claim asks for. -/
structure TakenFrom (claim : ObjectMeta) (context : StringMap String) : Prop where
  copied : ∀ key ∈ copiedKeys, context.lookup key = annotationOf claim key
  defaulted : ∀ key ∈ defaultedKeys,
    context.lookup key = some ((annotationOf claim key).getD (claim.ns.getD ""))
  others : ∀ key ∉ copiedKeys ++ defaultedKeys, context.lookup key = none

/-- The claims are listed as they are, and nobody else uses the map. -/
def listingEnv (claims : ClaimListing) (s : VolumeState) :
    (c : Call) → c.Reply → VolumeState → Prop
  | .kube (.listPvcMetadata ns _), a, s' => a = .ok (claims ns) ∧ s' = s
  | c, a, s' => s.Answers c a s'

/-- What a request that returns a volume has done: the volume was there, or it is new. -/
inductive Provided (claims : ClaimListing) (r : CreateVolumeRequest) (s : VolumeState)
    (volume : CsiVolume) (s' : VolumeState) : Prop where
  | stored (there : s.volumes.lookup r.name = some volume) (same : s' = s) :
      Provided claims r s volume s'
  | created {claim : ObjectMeta} (missing : s.volumes.lookup r.name = none)
      (found : ClaimFor claims r claim) (taken : TakenFrom claim volume.volumeContext)
      (added : ∀ name, s'.volumes.lookup name =
        if name = r.name then some volume else s.volumes.lookup name) :
      Provided claims r s volume s'

/-- The same result, up to the random id of a new volume. -/
def SameResult : Except (Fault Status) CsiVolume → Except (Fault Status) CsiVolume → Prop
  | .ok volume, .ok volume' =>
    volume.capacityBytes = volume'.capacityBytes ∧ volume.volumeContext = volume'.volumeContext
  | .error e, .error e' => e = e'
  | _, _ => False

/-! ## The claim of a request -/

/-- The claim for a name among those of the namespace, or why there is none. -/
def claimIn (claims : ClaimListing) (ns name : String) : Except Status ObjectMeta := do
  let uid ← okOr (.invalidArgument "PVC name not provided in request") (stripPrefix name "pvc-")
  okOr (.notFound "PVC not found") ((claims ns).find? fun claim => claim.uid = some uid)

/-- The context for a name that is not in the map, or why there is none. -/
def contextFor (claims : ClaimListing) (r : CreateVolumeRequest) :
    Except Status (StringMap String) := do
  let ns ← okOr (.invalidArgument "Resource namespace not provided in parameters")
    (r.parameters.lookup "resourceNamespace")
  let claim ← claimIn claims ns r.name
  getConfigFromPvcMeta claim

lemma except_bind_ok {ε α β : Type} {x : Except ε α} {f : α → Except ε β} {b : β}
    (h : (x >>= f) = .ok b) : ∃ a, x = .ok a ∧ f a = .ok b := by
  cases x with
  | error e => cases h
  | ok a => exact ⟨a, rfl, h⟩

lemma DistinctUids.unique {all : List ObjectMeta} (h : DistinctUids all) {claim claim' : ObjectMeta}
    {uid : String} (hclaim : claim ∈ all) (hclaim' : claim' ∈ all) (huid : claim.uid = some uid)
    (huid' : claim'.uid = some uid) : claim' = claim := by
  by_contra hne
  have symmetric : Std.Symm fun m m' : ObjectMeta =>
    ∀ uid, m.uid = some uid → m'.uid ≠ some uid := ⟨fun _ _ h uid hm' hm => h uid hm hm'⟩
  exact h.forall hclaim' hclaim hne uid huid' huid

section
variable {claims listed : ClaimListing} {r : CreateVolumeRequest}

lemma DistinctUids.find?_eq_some {all : List ObjectMeta} (h : DistinctUids all) {claim : ObjectMeta}
    {uid : String} :
    all.find? (fun claim => claim.uid = some uid) = some claim ↔
      claim ∈ all ∧ claim.uid = some uid := by
  constructor
  · intro hfind
    exact ⟨List.mem_of_find?_eq_some hfind, by simpa using List.find?_some hfind⟩
  · rintro ⟨hclaim, huid⟩
    apply find?_eq_of_unique hclaim (decide_eq_true huid)
    intro claim' hclaim' huid'
    exact h.unique hclaim hclaim' huid (of_decide_eq_true huid')

lemma stripPrefix_eq_some {s pre rest : String} :
    stripPrefix s pre = some rest ↔ s = pre ++ rest := by
  constructor
  · intro h
    unfold stripPrefix at h
    split at h
    · rename_i hprefix
      obtain ⟨tail, htail⟩ := hprefix
      cases h
      apply String.toList_inj.mp
      rw [String.toList_append, ← htail, List.drop_left, String.toList_ofList]
    · cases h
  · rintro rfl
    exact stripPrefix_append pre rest

lemma contextFor_of_ns {ns : String} (hns : r.parameters.lookup "resourceNamespace" = some ns) :
    contextFor claims r = claimIn claims ns r.name >>= getConfigFromPvcMeta := by
  unfold contextFor
  rw [hns]
  rfl

/-- In what order the claims are listed does not matter. -/
lemma contextFor_perm (distinct : ∀ ns, DistinctUids (claims ns))
    (perm : ∀ ns, (listed ns).Perm (claims ns)) : contextFor listed r = contextFor claims r := by
  have hfind : ∀ ns uid, (listed ns).find? (fun claim => claim.uid = some uid) =
      (claims ns).find? fun claim => claim.uid = some uid := by
    intro ns uid
    have distinct' : DistinctUids (listed ns) :=
      ((perm ns).pairwise_iff fun h uid hm' hm => h uid hm hm').mpr (distinct ns)
    apply Option.ext
    intro claim
    rw [distinct'.find?_eq_some, (distinct ns).find?_eq_some, (perm ns).mem_iff]
  unfold contextFor claimIn
  simp only [hfind]

/-- There is a context exactly when there is a claim, and it is taken from it. -/
lemma contextFor_eq_ok (distinct : ∀ ns, DistinctUids (claims ns)) {context : StringMap String} :
    contextFor claims r = .ok context ↔ ∃ claim, ClaimFor claims r claim ∧
      getConfigFromPvcMeta claim = .ok context := by
  constructor
  · intro h
    obtain ⟨ns, hns, h⟩ := okOr_bind_ok h
    obtain ⟨claim, hfound, h⟩ := except_bind_ok h
    obtain ⟨uid, huid, hfound⟩ := okOr_bind_ok hfound
    have hclaim := eq_some_of_okOr hfound
    obtain ⟨hmem, hclaimUid⟩ := (distinct ns).find?_eq_some.mp hclaim
    refine ⟨claim, ⟨⟨ns, hns, hmem⟩, ⟨uid, hclaimUid, stripPrefix_eq_some.mp huid⟩, ?_⟩, h⟩
    obtain ⟨_, _, _, annotated, _⟩ := getConfigFromPvcMeta_eq_ok.mp h
    intro key hkey
    simp only [copiedKeys, List.mem_cons, List.not_mem_nil, or_false] at hkey
    rcases hkey with rfl | rfl | rfl
    · simp [annotated.nodeName]
    · simp [annotated.podName]
    · simp [annotated.mount]
  · rintro ⟨claim, ⟨⟨ns, hns, hmem⟩, ⟨uid, huid, hname⟩, _⟩, h⟩
    have hfound : claimIn claims ns r.name = .ok claim := by
      unfold claimIn
      rw [stripPrefix_eq_some.mpr hname]
      show okOr _ _ = _
      rw [(distinct ns).find?_eq_some.mpr ⟨hmem, huid⟩]
      rfl
    rw [contextFor_of_ns hns, hfound]
    exact h

/-- The context of a claim with the annotations. -/
lemma exists_config {claim : ObjectMeta} (annotated : ∀ key ∈ copiedKeys,
    annotationOf claim key ≠ none) : ∃ context, getConfigFromPvcMeta claim = .ok context := by
  obtain ⟨nodeName, hnode⟩ := Option.ne_none_iff_exists'.mp
    (annotated "kubedal.arunaengine.org/data-node-name" (by decide))
  obtain ⟨podName, hpod⟩ := Option.ne_none_iff_exists'.mp
    (annotated "kubedal.arunaengine.org/data-pod-name" (by decide))
  obtain ⟨word, hmount⟩ := Option.ne_none_iff_exists'.mp
    (annotated "kubedal.arunaengine.org/mount" (by decide))
  exact ⟨_, getConfigFromPvcMeta_eq_ok.mpr ⟨nodeName, podName, word, ⟨hnode, hpod, hmount⟩, rfl⟩⟩

lemma takenFrom_config {claim : ObjectMeta} {context : StringMap String}
    (h : getConfigFromPvcMeta claim = .ok context) : TakenFrom claim context := by
  have keys := lookup_config_isSome h
  obtain ⟨nodeName, podName, word, annotated, rfl⟩ := getConfigFromPvcMeta_eq_ok.mp h
  have describes := describes_keyed nodeName
    ((annotationOf claim "kubedal.arunaengine.org/data-node-namespace").getD (claim.ns.getD ""))
    podName
    ((annotationOf claim "kubedal.arunaengine.org/data-pod-namespace").getD (claim.ns.getD "")) word
  constructor
  · intro key hkey
    simp only [copiedKeys, List.mem_cons, List.not_mem_nil, or_false] at hkey
    rcases hkey with rfl | rfl | rfl
    · exact describes.nodeName.trans annotated.nodeName.symm
    · exact describes.podName.trans annotated.podName.symm
    · exact describes.mount.trans annotated.mount.symm
  · intro key hkey
    simp only [defaultedKeys, List.mem_cons, List.not_mem_nil, or_false] at hkey
    rcases hkey with rfl | rfl
    · exact describes.nodeNamespace
    · exact describes.podNamespace
  · intro key hkey
    have hkubedal : key ∉ kubedalKeys := by
      intro hmem
      apply hkey
      simp only [kubedalKeys, List.mem_cons, List.not_mem_nil, or_false] at hmem
      rcases hmem with rfl | rfl | rfl | rfl | rfl
      all_goals decide
    have hnone := mt (keys key).mp hkubedal
    simpa using hnone

end

/-! ## The run of a request -/

/-- What is made of a request whose name is not in the map. -/
def Made (r : CreateVolumeRequest) (s s' : VolumeState) (result : Except (Fault Status) CsiVolume) :
    Except Status (StringMap String) → Prop
  | .ok context => ∃ volume used, result = .ok volume ∧
    volume.capacityBytes = capacityBytes r.capacityRange ∧ volume.volumeContext = context ∧
    s' = ⟨s.volumes.insert r.name volume, used⟩
  | .error e => result = .error (.error e) ∧ s' = s

/-- What is made of a request. -/
def Handled (claims : ClaimListing) (r : CreateVolumeRequest) (s s' : VolumeState)
    (result : Except (Fault Status) CsiVolume) : Prop :=
  if r.name = "" then
    result = .error (.error (.invalidArgument "Volume name cannot be empty")) ∧ s' = s
  else
    match s.volumes.lookup r.name with
    | some volume => result = .ok volume ∧ s' = s
    | none => Made r s s' result (contextFor claims r)

section
variable {claims listed : ClaimListing} {r : CreateVolumeRequest} {s s' : VolumeState}

lemma getPvc_listed (ns name : String) :
    (getPvc ns name).Ensures (listingEnv listed) s fun s' result =>
      s' = s ∧ result = (claimIn listed ns name).mapError Fault.error := by
  unfold getPvc claimIn
  apply Prog.Ensures.bind
  cases stripPrefix name "pvc-" with
  | none => exact Prog.ensures_throw ⟨rfl, rfl⟩
  | some uid =>
    apply Prog.ensures_pure
    apply Prog.Ensures.bind
    apply ensures_kube
    rintro reply s₁ ⟨rfl, rfl⟩
    apply Prog.Ensures.bind
    apply Prog.ensures_pure
    apply ensures_orReturn
    · intro claim hclaim
      exact ⟨rfl, congrArg (Except.mapError Fault.error) hclaim.symm⟩
    · intro e herror
      exact ⟨rfl, congrArg (Except.mapError Fault.error) herror.symm⟩

/-- A new volume is made from the context, and nothing is changed without one. -/
lemma createNewVolume_made :
    (createNewVolume r).Ensures (listingEnv listed) s fun s' result =>
      Made r s s' result (contextFor listed r) := by
  unfold createNewVolume
  apply Prog.Ensures.bind
  cases hns : r.parameters.lookup "resourceNamespace" with
  | none =>
    have hcontext : contextFor listed r =
        .error (.invalidArgument "Resource namespace not provided in parameters") := by
      unfold contextFor
      rw [hns]
      rfl
    rw [hcontext]
    exact Prog.ensures_throw ⟨rfl, rfl⟩
  | some ns =>
    rw [contextFor_of_ns hns]
    apply Prog.ensures_pure
    apply Prog.Ensures.bind
    refine Prog.Ensures.mono (getPvc_listed ns r.name) ?_
    rintro s₁ found ⟨rfl, rfl⟩
    cases claimIn listed ns r.name with
    | error e => exact ⟨rfl, rfl⟩
    | ok claim =>
      show Prog.Ensures _ _ _ fun s' result => Made r s₁ s' result (getConfigFromPvcMeta claim)
      apply Prog.Ensures.bind
      cases getConfigFromPvcMeta claim with
      | error e => exact Prog.ensures_throw ⟨rfl, rfl⟩
      | ok context =>
        apply Prog.ensures_pure
        apply Prog.Ensures.bind
        apply Prog.ensures_perform
        rintro uuid s₂ ⟨_, rfl⟩
        apply Prog.Ensures.bind
        apply ensures_volumes
        rintro _ s₃ rfl
        exact Prog.ensures_pure ⟨_, _, rfl, rfl, rfl, rfl⟩

lemma createVolume_handled :
    (createVolume r).Ensures (listingEnv listed) s fun s' result =>
      Handled listed r s s' result := by
  unfold createVolume Handled
  split
  · exact Prog.ensures_throw ⟨rfl, rfl⟩
  · apply Prog.Ensures.bind
    apply ensures_volumes
    rintro existing s₁ ⟨rfl, rfl⟩
    cases hstored : s₁.volumes.lookup r.name with
    | some volume => exact Prog.ensures_pure ⟨rfl, rfl⟩
    | none => exact createNewVolume_made

/-- What was made of a request, if it was successful. -/
lemma provided_of_handled (distinct : ∀ ns, DistinctUids (claims ns)) {volume : CsiVolume}
    (h : Handled claims r s s' (.ok volume)) : r.name ≠ "" ∧ Provided claims r s volume s' := by
  unfold Handled at h
  split at h
  · cases h.1
  · rename_i hname
    refine ⟨hname, ?_⟩
    split at h
    · rename_i stored hstored
      obtain ⟨hresult, rfl⟩ := h
      cases hresult
      exact .stored hstored rfl
    · rename_i missing
      cases hcontext : contextFor claims r with
      | error e =>
        rw [hcontext] at h
        cases h.1
      | ok context =>
        rw [hcontext] at h
        obtain ⟨volume', used, hresult, _, htaken, rfl⟩ := h
        cases hresult
        obtain ⟨claim, found, hconfig⟩ := (contextFor_eq_ok distinct).mp hcontext
        refine .created missing found ?_ fun name => ?_
        · rw [htaken]
          exact takenFrom_config hconfig
        · by_cases heq : name = r.name
          · rw [if_pos heq, heq]
            exact AList.lookup_insert _
          · rw [if_neg heq]
            exact AList.lookup_insert_ne heq

/-- What is missing, if a request has failed. -/
lemma not_provided_of_handled (distinct : ∀ ns, DistinctUids (claims ns)) {e : Fault Status}
    (h : Handled claims r s s' (.error e)) :
    s' = s ∧ (r.name ≠ "" → s.volumes.lookup r.name = none ∧
      ∀ claim, ¬ ClaimFor claims r claim) := by
  unfold Handled at h
  split at h
  · rename_i hname
    exact ⟨h.2, fun hne => absurd hname hne⟩
  · split at h
    · cases h.1
    · rename_i missing
      cases hcontext : contextFor claims r with
      | error e' =>
        rw [hcontext] at h
        refine ⟨h.2, fun _ => ⟨missing, fun claim found => ?_⟩⟩
        obtain ⟨context, hconfig⟩ := exists_config found.annotated
        rw [(contextFor_eq_ok distinct).mpr ⟨claim, found, hconfig⟩] at hcontext
        cases hcontext
      | ok context =>
        rw [hcontext] at h
        obtain ⟨_, _, hresult, _⟩ := h
        cases hresult

/-- Requests that are handled with the same claims have the same result. -/
lemma sameResult_of_handled {s₁ s₂ : VolumeState}
    {result₁ result₂ : Except (Fault Status) CsiVolume}
    (h₁ : Handled claims r s s₁ result₁) (h₂ : Handled claims r s s₂ result₂) :
    SameResult result₁ result₂ := by
  unfold Handled at h₁ h₂
  by_cases hname : r.name = ""
  · rw [if_pos hname] at h₁ h₂
    rw [h₁.1, h₂.1]
    rfl
  · rw [if_neg hname] at h₁ h₂
    cases hstored : s.volumes.lookup r.name with
    | some volume =>
      rw [hstored] at h₁ h₂
      rw [h₁.1, h₂.1]
      exact ⟨rfl, rfl⟩
    | none =>
      rw [hstored] at h₁ h₂
      cases hcontext : contextFor claims r with
      | error e =>
        rw [hcontext] at h₁ h₂
        rw [h₁.1, h₂.1]
        rfl
      | ok context =>
        rw [hcontext] at h₁ h₂
        obtain ⟨volume₁, _, rfl, hcapacity₁, hcontext₁, _⟩ := h₁
        obtain ⟨volume₂, _, rfl, hcapacity₂, hcontext₂, _⟩ := h₂
        exact ⟨hcapacity₁.trans hcapacity₂.symm, hcontext₁.trans hcontext₂.symm⟩

lemma Handled.perm (distinct : ∀ ns, DistinctUids (claims ns))
    (perm : ∀ ns, (listed ns).Perm (claims ns)) {result : Except (Fault Status) CsiVolume}
    (h : Handled listed r s s' result) : Handled claims r s s' result := by
  unfold Handled at h ⊢
  rwa [contextFor_perm distinct perm] at h

end

section
variable {claims listed : ClaimListing} {r : CreateVolumeRequest} {s s' : VolumeState}
  {τ : List (Event signature)} {q : Handler CsiVolume} {result : Except (Fault Status) CsiVolume}

lemma exec_handled (distinct : ∀ ns, DistinctUids (claims ns))
    (perm : ∀ ns, (listed ns).Perm (claims ns))
    (run : Prog.Exec (listingEnv listed) (createVolume r) s τ q s')
    (ends : q.outcome = some result) : Handled claims r s s' result :=
  Handled.perm distinct perm (createVolume_handled _ _ _ _ run ends)

/-- For claims with different uids, listed in any order, a request is successful exactly when its
volume is in the map or there is a claim for it. It changes nothing but the entry of a new volume,
and the order of the claims makes no difference to its result. -/
theorem create_volume_exact (distinct : ∀ ns, DistinctUids (claims ns))
    (perm : ∀ ns, (listed ns).Perm (claims ns))
    (run : Prog.Exec (listingEnv listed) (createVolume r) s τ q s')
    (ends : q.outcome = some result) :
    ((∃ volume, result = .ok volume) ↔ r.name ≠ "" ∧
      ((∃ volume, s.volumes.lookup r.name = some volume) ∨ ∃ claim, ClaimFor claims r claim)) ∧
    (∀ volume, result = .ok volume → Provided claims r s volume s') ∧
    (∀ e, result = .error e → s' = s) ∧
    ∀ (listed' : ClaimListing) (s'' : VolumeState) (τ' : List (Event signature))
      (q' : Handler CsiVolume) (result' : Except (Fault Status) CsiVolume),
      (∀ ns, (listed' ns).Perm (claims ns)) →
      Prog.Exec (listingEnv listed') (createVolume r) s τ' q' s'' →
      q'.outcome = some result' → SameResult result result' := by
  have handled := exec_handled distinct perm run ends
  refine ⟨⟨?_, ?_⟩, ?_, ?_, ?_⟩
  · rintro ⟨volume, rfl⟩
    obtain ⟨hname, provided⟩ := provided_of_handled distinct handled
    refine ⟨hname, ?_⟩
    cases provided with
    | stored there _ => exact .inl ⟨volume, there⟩
    | created _ found _ _ => exact .inr ⟨_, found⟩
  · rintro ⟨hname, needed⟩
    cases result with
    | ok volume => exact ⟨volume, rfl⟩
    | error e =>
      obtain ⟨missing, none⟩ := (not_provided_of_handled distinct handled).2 hname
      rcases needed with ⟨volume, there⟩ | ⟨claim, found⟩
      · rw [missing] at there
        cases there
      · exact absurd found (none claim)
  · rintro volume rfl
    exact (provided_of_handled distinct handled).2
  · rintro e rfl
    exact (not_provided_of_handled distinct handled).1
  · intro listed' s'' τ' q' result' perm' run' ends'
    exact sameResult_of_handled handled (exec_handled distinct perm' run' ends')

end

/-! ## Two claims -/

/-- Lists these claims in every namespace. -/
def serveListing (all : List ObjectMeta) (s : VolumeState) :
    (c : Call) → Option (c.Reply × VolumeState)
  | .kube (.listPvcMetadata _ _) => some (Except.ok all, s)
  | .kube _ => none
  | c => s.serve c

lemma listingEnv_of_serve (all : List ObjectMeta) (s : VolumeState) (c : Call) (a : c.Reply)
    (s' : VolumeState) (h : serveListing all s c = some (a, s')) :
    listingEnv (fun _ => all) s c a s' := by
  rcases c with c | c | c | c | c | _ | _
  case kube =>
    rcases c with _ | _ | _ | _ | _ | _ | _ | _ | _ | _ | _ | _ | _
    case listPvcMetadata =>
      cases h
      exact ⟨rfl, rfl⟩
    all_goals cases h
  all_goals exact s.answers_of_serve _ a s' h

/-- The claim `2`, for nothing. -/
def otherPvc : ObjectMeta where
  name := some "other"
  ns := some "default"
  uid := some "2"

/-- The claim is found in whichever order the two are listed. -/
theorem create_volume_exact_two : ∃ τ volume s',
    Prog.Exec (listingEnv fun _ => [otherPvc, samplePvc])
      (createVolume ⟨"pvc-1", none, .ofList [("resourceNamespace", "default")]⟩) .init τ
      (.pure volume) s' ∧
    Provided (fun _ => [samplePvc, otherPvc])
      ⟨"pvc-1", none, .ofList [("resourceNamespace", "default")]⟩ .init volume s' := by
  have distinct : DistinctUids [samplePvc, otherPvc] := by
    refine List.pairwise_pair.mpr fun uid huid => ?_
    cases huid
    decide
  obtain ⟨τ, volume, s', hfollow⟩ : ∃ τ volume s',
      Prog.follow (serveListing [otherPvc, samplePvc]) 20
        (createVolume ⟨"pvc-1", none, .ofList [("resourceNamespace", "default")]⟩) .init =
          some (τ, .pure volume, s') :=
    ⟨_, _, _, rfl⟩
  have run := Prog.exec_of_follow (listingEnv_of_serve _) hfollow
  obtain ⟨_, provided, _⟩ := create_volume_exact (fun _ => distinct)
    (fun _ => List.Perm.swap _ _ _) run rfl
  exact ⟨τ, volume, s', run, provided volume rfl⟩

end Kubedal
