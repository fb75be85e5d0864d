import Kubedal.Services.Provisioning

/-!
# Where a volume comes from

In every run of the controller service, whatever the interleaving and wherever the service is
restarted, each volume in the map and each volume that a request to create one returns was made from
a claim: one that a request for a volume of that name has got from the API server.

* `restartingVolumes` is the controller service, which may be restarted at any time;
* `Origin` is the claim that a volume was made from;
* `volume_origin`: every volume has one.
-/

namespace Kubedal

open Interaction Kube Resource

/-- The driver starts with an empty map; no id is given out again. -/
def VolumeState.restarted (s : VolumeState) : VolumeState := { s with volumes := ∅ }

/-- Requests that are in progress when the service is restarted may stop there or go on. -/
def restartingVolumes : Service signature VolumeState VolumeRequest (Fault Status) VolumeReply where
  program := VolumeRequest.program
  admits := fun _ _ => True
  answers := VolumeState.Answers
  disturbs := fun s s' => s' = s.restarted

/-- A request for the volume `name` has found the claim `pvcMeta`, and `volume` asks for what the
claim asks for. -/
structure Origin (labels : List VolumeLabel) (name : String) (volume : CsiVolume)
    (r : CreateVolumeRequest) (pvcMeta : ObjectMeta) : Prop where
  name : r.name = name
  found : ∃ ns uid all past, r.parameters.lookup "resourceNamespace" = some ns ∧
    stripPrefix r.name "pvc-" = some uid ∧
    .answered (.create r) past ⟨.kube (.listPvcMetadata ns {}), Except.ok all⟩ ∈ labels ∧
    all.find? (fun pvcMeta => pvcMeta.uid = some uid) = some pvcMeta
  context : getConfigFromPvcMeta pvcMeta = .ok volume.volumeContext

/-- The labels of the steps. -/
def labelsOf (steps : List VolumeTransition) : List VolumeLabel :=
  steps.map Service.Transition.label

/-! ## What a request has seen when it makes a volume -/

/-- The request may put the volume into the map. -/
def MayInsert (r : CreateVolumeRequest) (past : List (Event signature)) (c : Call) : Prop :=
  ∀ name volume, c = .volumes (.insert name volume) → name = r.name ∧
    ∃ pvcMeta, FoundClaim r past pvcMeta ∧ getConfigFromPvcMeta pvcMeta = .ok volume.volumeContext

/-- Where the volume that the request returns comes from. -/
def ReturnsFrom (r : CreateVolumeRequest) (past : List (Event signature)) (volume : CsiVolume) :
    Prop :=
  Saw past (.volumes (.lookup r.name)) (some volume) ∨
    ∃ pvcMeta, FoundClaim r past pvcMeta ∧ getConfigFromPvcMeta pvcMeta = .ok volume.volumeContext

section
variable {r : CreateVolumeRequest} {past : List (Event signature)}

lemma mayInsert_of_ne {c : Call} (h : ∀ name volume, c ≠ .volumes (.insert name volume)) :
    MayInsert r past c := fun name volume hc => absurd hc (h name volume)

/-- The requests of a creation are monitored by their past. -/
def originMonitor (r : CreateVolumeRequest) : Monitor signature (List (Event signature)) :=
  Monitor.history (MayInsert r) fun _ _ => True

lemma wp_past {c : Call} {Q : List (Event signature) → Except (Fault Status) c.Reply → Prop}
    (allowed : MayInsert r past c) (h : ∀ a : c.Reply, Q (past ++ [⟨c, a⟩]) (.ok a)) :
    (perform c).wp (originMonitor r) past Q := ⟨allowed, fun a _ => h a⟩

lemma FoundClaim.append {τ : List (Event signature)} {pvcMeta : ObjectMeta}
    (h : FoundClaim r past pvcMeta) : FoundClaim r (past ++ τ) pvcMeta := by
  obtain ⟨ns, uid, all, hns, huid, saw, hfind⟩ := h
  exact ⟨ns, uid, all, hns, huid, saw.append, hfind⟩

lemma getPvc_origin {ns : String} (hns : r.parameters.lookup "resourceNamespace" = some ns) :
    (getPvc ns r.name).wp (originMonitor r) past fun past' result =>
      ∀ pvcMeta, result = .ok pvcMeta → FoundClaim r past' pvcMeta := by
  unfold getPvc
  refine Prog.wp_bind (wp_orReturn (fun uid huid => ?_) (by simp))
  refine Prog.wp_bind (wp_past (mayInsert_of_ne (by simp)) fun reply => ?_)
  refine Prog.wp_bind (wp_orReturn (fun all hall => ?_) (by simp))
  rcases reply with e | all'
  · cases hall
  cases hall
  refine wp_orReturn (fun pvcMeta hfind => ?_) (by simp)
  rintro _ ⟨⟩
  exact ⟨ns, uid, all, hns, eq_some_of_okOr huid, saw_last _ _, eq_some_of_okOr hfind⟩

lemma createNewVolume_origin : (createNewVolume r).wp (originMonitor r) past fun past' result =>
    ∀ volume, result = .ok volume → ReturnsFrom r past' volume := by
  unfold createNewVolume
  refine Prog.wp_bind (wp_orReturn (fun ns hns => ?_) (by simp))
  refine Prog.wp_bind (Prog.wp_mono (getPvc_origin (eq_some_of_okOr hns)) fun past' result h => ?_)
  rcases result with e | pvcMeta
  · simp
  have found := h pvcMeta rfl
  refine Prog.wp_bind (wp_orReturn (fun context hcontext => ?_) (by simp))
  refine Prog.wp_bind (wp_past (mayInsert_of_ne (by simp)) fun uuid => ?_)
  refine Prog.wp_bind (wp_past ?_ fun _ => ?_)
  · rintro name volume ⟨⟩
    exact ⟨rfl, pvcMeta, found.append, hcontext⟩
  · rintro volume ⟨⟩
    exact .inr ⟨pvcMeta, found.append.append, hcontext⟩

lemma createVolume_origin : (createVolume r).wp (originMonitor r) past fun past' result =>
    ∀ volume, result = .ok volume → ReturnsFrom r past' volume := by
  unfold createVolume
  split
  · simp
  refine Prog.wp_bind (wp_past (mayInsert_of_ne (by simp)) fun existing => ?_)
  rcases existing with _ | volume
  · exact createNewVolume_origin
  · rintro _ ⟨⟩
    exact .inl (saw_last _ _)

lemma createProgram_origin : (VolumeRequest.create r).program.wp (originMonitor r) []
    fun past result => ∀ volume, result = .ok (.created volume) → ReturnsFrom r past volume := by
  refine Prog.wp_bind (Prog.wp_mono createVolume_origin fun past' result h => ?_)
  rcases result with e | volume
  · simp
  · rintro _ ⟨⟩
    exact h volume rfl

end

/-- A request that puts a volume into the map is one to create it. -/
lemma insert_of_create {σ : Type} {R : σ → (c : Call) → c.Reply → σ → Prop} {r : VolumeRequest}
    {s s' : σ} {past : List (Event signature)} {name : String} {volume : CsiVolume}
    {q : Handler VolumeReply} {a : Unit}
    (run : Prog.Exec (S := signature) R r.program s
      (past ++ [⟨.volumes (.insert name volume), a⟩]) q s') :
    ∃ r', r = .create r' ∧ r'.name = name ∧ ∃ pvcMeta, FoundClaim r' past pvcMeta ∧
      getConfigFromPvcMeta pvcMeta = .ok volume.volumeContext := by
  have allowed := Prog.wp_event (volumeProgram_meets r) run fun _ _ _ _ _ _ => trivial
  have hfst := volumeMonitor_after_fst r.start past
  rcases hafter : volumeMonitor.after r.start past with ⟨r₁, g⟩
  rw [hafter] at allowed hfst
  obtain rfl : r₁ = r := hfst
  rcases r₁ with r' | r' | _
  · have may := Prog.wp_event (createProgram_origin (r := r')) run fun _ _ _ _ _ _ => trivial
    rw [originMonitor, Monitor.history_after] at may
    obtain ⟨hname, pvcMeta, found, hconfig⟩ := may name volume rfl
    exact ⟨r', rfl, hname.symm, pvcMeta, found, hconfig⟩
  -- the others never use it that way
  · rcases g with _ | _ | _ <;> exact allowed.elim
  · rcases g with _ | _ | _ <;> exact allowed.elim

/-! ## Every volume has an origin -/

section
variable {steps : List VolumeTransition} {P : VolumePool}

/-- What a request has found was answered to it in some step. -/
lemma origin_of_found {r : CreateVolumeRequest} {past : List (Event signature)}
    {pvcMeta : ObjectMeta} {volume : CsiVolume} (found : FoundClaim r past pvcMeta)
    (context : getConfigFromPvcMeta pvcMeta = .ok volume.volumeContext)
    (answered : ∀ e ∈ past, ∃ x ∈ steps, ∃ past', x.label = .answered (.create r) past' e) :
    Origin (labelsOf steps) r.name volume r pvcMeta := by
  obtain ⟨ns, uid, all, hns, huid, saw, hfind⟩ := found
  obtain ⟨x, hx, past', hlabel⟩ := answered _ saw
  exact ⟨rfl, ⟨ns, uid, all, past', hns, huid, List.mem_map.mpr ⟨x, hx, hlabel⟩, hfind⟩, context⟩

lemma Origin.mono {labels more : List VolumeLabel} {name : String} {volume : CsiVolume}
    {r : CreateVolumeRequest} {pvcMeta : ObjectMeta} (h : Origin labels name volume r pvcMeta)
    (hsub : labels ⊆ more) : Origin more name volume r pvcMeta := by
  obtain ⟨ns, uid, all, past, hns, huid, hlabel, hfind⟩ := h.found
  exact ⟨h.name, ⟨ns, uid, all, past, hns, huid, hsub hlabel, hfind⟩, h.context⟩

/-- What is in the map was in it before, or is put there in the step. -/
lemma lookup_of_volumeStep {s s' : VolumeState} {c : Call} {a : c.Reply}
    (answered : s.Answers c a s') {name : String} {volume : CsiVolume}
    (there : s'.volumes.lookup name = some volume) :
    s.volumes.lookup name = some volume ∨ c = .volumes (.insert name volume) := by
  rcases c with c | c | c | c | c | _ | _
  case volumes =>
    rcases c with name' | ⟨name', volume'⟩ | volumeId | _
    case lookup =>
      obtain ⟨_, rfl⟩ := answered
      exact .inl there
    case insert =>
      cases answered
      by_cases hname : name = name'
      · subst hname
        rw [AList.lookup_insert] at there
        cases there
        exact .inr rfl
      · rw [AList.lookup_insert_ne hname] at there
        exact .inl there
    case removeById =>
      rcases answered with ⟨name', volume', _, _, rfl⟩ | ⟨_, rfl⟩
      · by_cases hname : name = name'
        · subst hname
          rw [AList.lookup_erase] at there
          cases there
        · rw [AList.lookup_erase_ne hname] at there
          exact .inl there
      · exact .inl there
    case values =>
      obtain ⟨_, rfl⟩ := answered
      exact .inl there
  case newUuid =>
    obtain ⟨_, rfl⟩ := answered
    exact .inl there
  all_goals
    cases answered
    exact .inl there

/-- Every volume in the map has an origin. -/
lemma origin_of_lookup (run : restartingVolumes.Run .init steps P) {name : String}
    {volume : CsiVolume} (there : P.state.volumes.lookup name = some volume) :
    ∃ r pvcMeta, Origin (labelsOf steps) name volume r pvcMeta := by
  induction run with
  | start => cases there
  | @step steps P P' l run last ih =>
    have hsub : labelsOf steps ⊆ labelsOf (steps ++ [⟨P, l, P'⟩]) :=
      List.map_subset _ (List.subset_append_left _ _)
    cases l with
    | arrives r =>
      rw [Service.step_arrives last] at there
      obtain ⟨r, pvcMeta, origin⟩ := ih there
      exact ⟨r, pvcMeta, origin.mono hsub⟩
    | disturbed =>
      cases last with
      | disturb moved =>
        -- nothing is in the map after a restart
        cases moved
        cases there
    | answered r past e =>
      obtain ⟨before, after, k, hrunning, answered, _⟩ := Service.step_answered last
      rcases lookup_of_volumeStep answered there with old | hcall
      · obtain ⟨r, pvcMeta, origin⟩ := ih old
        exact ⟨r, pvcMeta, origin.mono hsub⟩
      · -- the request that puts it there has found the claim before
        obtain ⟨c, a⟩ := e
        obtain rfl : c = _ := hcall
        obtain ⟨q, exec⟩ := run.exec_of_step last
        obtain ⟨r', rfl, rfl, pvcMeta, found, context⟩ := insert_of_create exec
        have answered := run.answered.running _ (Pool.mem_of_waiting hrunning)
        exact ⟨r', pvcMeta, (origin_of_found found context answered).mono hsub⟩

/-- Every volume that is in the map or was returned was made from a claim that a request for its
name was given. -/
theorem volume_origin (run : restartingVolumes.Run .init steps P) {name : String}
    {volume : CsiVolume} (returned : P.state.volumes.lookup name = some volume ∨
      ∃ y ∈ P.finished, Created y name volume) :
    ∃ r pvcMeta, Origin (labelsOf steps) name volume r pvcMeta := by
  rcases returned with there | ⟨y, hy, ⟨r, hr, rfl⟩, hresult⟩
  · exact origin_of_lookup run there
  obtain ⟨q, houtcome, exec⟩ := run.faithful.finished y hy
  have answered := run.answered.finished y hy
  rw [hr] at exec answered
  have post := Prog.wp_outcome
    (Prog.wp_exec createProgram_origin exec fun _ _ _ _ _ _ => trivial) houtcome
  rw [originMonitor, Monitor.history_after] at post
  rcases post volume hresult with saw | ⟨pvcMeta, found, context⟩
  · -- it was in the map when the request looked
    obtain ⟨x, hx, past, hlabel⟩ := answered _ saw
    obtain ⟨earlier, hearlier, run', last⟩ := run.of_mem hx
    rw [hlabel] at last
    obtain ⟨_, _, _, _, ⟨hlookup, _⟩, _⟩ := Service.step_answered last
    obtain ⟨r', pvcMeta, origin⟩ := origin_of_lookup run' hlookup.symm
    have hprefix : earlier <+: steps := (List.prefix_append _ _).trans hearlier
    exact ⟨r', pvcMeta, origin.mono (List.map_subset _ hprefix.subset)⟩
  · exact ⟨r, pvcMeta, origin_of_found found context answered⟩

end

end Kubedal
