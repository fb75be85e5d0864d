import Kubedal.Resource.DataPodBinding

/-!
# The flag for a generated path

A pass over a `DataPod` that generates its path says so in a status that it applies together with
the spec. The status of a `DataPod` is a subresource, so that the API server ignores it there.

* `NeedsPath` is when a path is generated, `Reapplied` what a pass has made of a `DataPod`;
* `generated_path_iff` says for every session of passes when the flag is right.
-/

namespace Kubedal

open Interaction Kube Resource

/-- The path of the `DataPod` is absent, empty or "/". -/
def NeedsPath (pod : DataPod) : Prop := DataPod.properPath pod.spec = none

instance : DecidablePred NeedsPath := fun pod =>
  inferInstanceAs (Decidable (DataPod.properPath pod.spec = none))

/-- The status says that the path was generated. -/
def SaysGenerated (pod : DataPod) : Prop := pod.status.map DataPodStatus.generatedPath = some true

instance : DecidablePred SaysGenerated := fun pod =>
  inferInstanceAs (Decidable (pod.status.map DataPodStatus.generatedPath = some true))

/-- In the session of the `DataPod` that was `pod₀` in the beginning: a successful pass leaves the
flag that says whether that one had no path, and after another one it changes nothing. -/
structure FlagStable (ns name : String) (pod₀ : DataPod) (earlier : List (Cluster × BindingTurn))
    (s : Cluster) (t : BindingTurn) (s' : Cluster) : Prop where
  flag : t.Succeeds → ∃ pod, s'.stored ns name = .ok pod ∧ (SaysGenerated pod ↔ NeedsPath pod₀)
  again : (∃ x ∈ earlier, x.2.Succeeds) → t.Succeeds → ∃ pod pod', s.stored ns name = .ok pod ∧
    s'.stored ns name = .ok pod' ∧ pod'.spec = pod.spec ∧ pod'.status = pod.status

/-- A turn that is a successful pass needs the flag to be right in the beginning. -/
def FlagRight (pod₀ : DataPod) (_ : List (Cluster × BindingTurn)) (_ : Cluster) (t : BindingTurn)
    (_ : Cluster) : Prop := t.Succeeds → (SaysGenerated pod₀ ↔ NeedsPath pod₀)

/-! ## What a pass applies -/

/-- The `DataPod` is what a pass over `self` has made of it. -/
def Reapplied (ns : String) (self pod : DataPod) : Prop :=
  ∃ patch version, Binds ns self patch ∧ pod = Cluster.applied self patch version

section
variable {ns : String} {self pod : DataPod}

/-- The status is not written. -/
lemma Reapplied.status (h : Reapplied ns self pod) : pod.status = self.status := by
  obtain ⟨patch, version, _, rfl⟩ := h
  rfl

lemma Reapplied.uid (h : Reapplied ns self pod) : uidOf pod = uidOf self := by
  obtain ⟨patch, version, _, rfl⟩ := h
  rfl

lemma Reapplied.settles (h : Reapplied ns self pod) (identified : uidOf self ≠ some "") :
    Settled ns pod.spec := by
  obtain ⟨patch, version, binds, rfl⟩ := h
  exact binds.settles identified

lemma Reapplied.keeps (h : Reapplied ns self pod) (settled : Settled ns self.spec) :
    pod.spec = self.spec := by
  obtain ⟨patch, version, binds, rfl⟩ := h
  exact binds.keeps settled

end

/-! ## A turn -/

section
variable {selects : Selects} {ns name : String} {self pod pod₀ : DataPod} {s₀ s s' : Cluster}
  {t : BindingTurn} {turns : List (Cluster × BindingTurn)}

/-- A pass, as far as it gets, leaves the `DataPod` as it is or as it has applied it. -/
lemma pass_reapplies {q : Reconcile Action} {τ : List (Event signature)}
    (hself : s.stored ns name = .ok self)
    (run : Prog.Exec (bindingService selects ns name).answers self.reconcile s τ q s') :
    ∃ pod, s'.stored ns name = .ok pod ∧ (pod = self ∨ Reapplied ns self pod) ∧
      ((∃ action, q.outcome = some (.ok action)) → Reapplied ns self pod) := by
  obtain ⟨stored, accepted⟩ := pass_stored hself run
  rcases hsent : sentPatches τ with _ | ⟨⟨patch, sure⟩, _ | ⟨_, _⟩⟩
  all_goals rw [hsent] at stored accepted
  · refine ⟨self, stored, .inl rfl, fun ⟨action, hq⟩ => ?_⟩
    obtain ⟨patch, hpatch⟩ := accepted action hq
    cases hpatch
  · obtain ⟨binds, ⟨version, happlied⟩ | ⟨unsure, hself'⟩⟩ := stored
    · have reapplied : Reapplied ns self (Cluster.applied self patch version) :=
        ⟨patch, version, binds, rfl⟩
      exact ⟨_, happlied, .inr reapplied, fun _ => reapplied⟩
    · refine ⟨self, hself', .inl rfl, fun ⟨action, hq⟩ => ?_⟩
      obtain ⟨patch', hpatch⟩ := accepted action hq
      cases hpatch
      cases unsure
  · exact stored.elim

/-- A turn leaves the `DataPod` as it is or as it has applied it. -/
lemma turn_reapplies (takes : (bindingService selects ns name).Takes s t s')
    (given : GivenStored ns name s t) (hpod : s.stored ns name = .ok pod) :
    ∃ pod', s'.stored ns name = .ok pod' ∧ (pod' = pod ∨ Reapplied ns pod pod') ∧
      (t.Succeeds → Reapplied ns pod pod') := by
  have sameSelf : ∀ self, t.self = some self → self = pod := by
    intro self hself
    have hstored := given self hself
    rw [hpod] at hstored
    exact (Except.ok.inj hstored).symm
  cases takes with
  | handle run ends =>
    obtain rfl := sameSelf _ rfl
    obtain ⟨pod', hpod', reapplied, succeeds⟩ := pass_reapplies hpod run
    refine ⟨pod', hpod', reapplied, fun ⟨action, hok⟩ => succeeds ⟨action, ?_⟩⟩
    exact ends.trans (congrArg some hok)
  | cutOff run moved =>
    obtain rfl := sameSelf _ rfl
    obtain ⟨pod', hpod', reapplied, _⟩ := pass_reapplies hpod run
    have hsame : s'.stored ns name = _ := moved
    exact ⟨pod', hsame.trans hpod', reapplied, fun succeeds => succeeds.elim⟩
  | disturb moved =>
    have hsame : s'.stored ns name = s.stored ns name := moved
    exact ⟨pod, hsame.trans hpod, .inl rfl, fun succeeds => succeeds.elim⟩

/-! ## Sessions -/

/-- What holds of the stored `DataPod` in every state of a session. -/
structure FlagKept (ns name : String) (pod₀ : DataPod) (turns : List (Cluster × BindingTurn))
    (s : Cluster) (pod : DataPod) : Prop where
  stored : s.stored ns name = .ok pod
  identified : uidOf pod ≠ some ""
  status : pod.status = pod₀.status
  settled : (∃ x ∈ turns, x.2.Succeeds) → Settled ns pod.spec

lemma FlagKept.flag_iff (h : FlagKept ns name pod₀ turns s pod) :
    SaysGenerated pod ↔ SaysGenerated pod₀ := by
  unfold SaysGenerated
  rw [h.status]

lemma FlagKept.turn (h : FlagKept ns name pod₀ turns s pod)
    (takes : (bindingService selects ns name).Takes s t s') (given : GivenStored ns name s t) :
    ∃ pod', FlagKept ns name pod₀ (turns ++ [(s, t)]) s' pod' ∧
      (t.Succeeds → Reapplied ns pod pod') := by
  obtain ⟨pod', hpod', reapplied, succeeds⟩ := turn_reapplies takes given h.stored
  refine ⟨pod', ⟨hpod', ?_, ?_, ?_⟩, succeeds⟩
  · rcases reapplied with rfl | reapplied
    · exact h.identified
    · rw [reapplied.uid]
      exact h.identified
  · rcases reapplied with rfl | reapplied
    · exact h.status
    · rw [reapplied.status]
      exact h.status
  · rintro ⟨x, hx, hsucceeds⟩
    -- the pass that has succeeded is an earlier one or this one
    rcases List.mem_append.mp hx with hx | hx
    · rcases reapplied with rfl | reapplied
      · exact h.settled ⟨x, hx, hsucceeds⟩
      · exact reapplied.settles h.identified
    · rw [List.mem_singleton.mp hx] at hsucceeds
      exact (succeeds hsucceeds).settles h.identified

lemma FlagKept.stable_iff (h : FlagKept ns name pod₀ turns s pod)
    (takes : (bindingService selects ns name).Takes s t s') (given : GivenStored ns name s t) :
    FlagStable ns name pod₀ turns s t s' ↔ FlagRight pod₀ turns s t s' := by
  obtain ⟨pod', h', succeeds⟩ := h.turn takes given
  constructor
  · intro stable hsucceeds
    obtain ⟨pod'', hpod'', flag⟩ := stable.flag hsucceeds
    rw [h'.stored] at hpod''
    cases hpod''
    rw [← h'.flag_iff]
    exact flag
  · intro right
    constructor
    · intro hsucceeds
      refine ⟨pod', h'.stored, ?_⟩
      rw [h'.flag_iff]
      exact right hsucceeds
    · intro earlier hsucceeds
      have reapplied := succeeds hsucceeds
      exact ⟨pod, pod', h.stored, h'.stored, reapplied.keeps (h.settled earlier), reapplied.status⟩

/-- In every session of passes over a `DataPod` that no user edits: the flag says after every
successful pass whether the path was generated, and the passes after the first one change nothing,
exactly when the flag was right before the first of them. -/
theorem generated_path_iff (session : (bindingService selects ns name).Session s₀ turns s)
    (given : ∀ x ∈ turns, GivenStored ns name x.1 x.2) (user : s₀.stored ns name = .ok pod₀)
    (identified : uidOf pod₀ ≠ some "") :
    Service.EachTurn (FlagStable ns name pod₀) turns s ↔
      ((∃ x ∈ turns, x.2.Succeeds) → (SaysGenerated pod₀ ↔ NeedsPath pod₀)) := by
  have start : ∃ pod, FlagKept ns name pod₀ [] s₀ pod := by
    refine ⟨pod₀, user, identified, rfl, ?_⟩
    rintro ⟨x, hx, _⟩
    cases hx
  have agree : Service.EachTurn (FlagStable ns name pod₀) turns s ↔
      Service.EachTurn (FlagRight pod₀) turns s := by
    refine session.agree (H := fun _ s t _ => GivenStored ns name s t)
      (fun turns s => ∃ pod, FlagKept ns name pod₀ turns s pod) ?_ ?_ ?_ start
    · rintro turns s t s' given takes ⟨pod, h⟩
      exact h.stable_iff takes given
    · rintro turns s t s' given takes ⟨pod, h⟩ _
      obtain ⟨pod', h', _⟩ := h.turn takes given
      exact ⟨pod', h'⟩
    · rintro earlier s₁ t later rfl
      exact given (s₁, t) (by simp)
  rw [agree]
  constructor
  · rintro right ⟨⟨s₁, t⟩, hx, hsucceeds⟩
    obtain ⟨earlier, later, hturns⟩ := List.append_of_mem hx
    exact right earlier s₁ t later hturns hsucceeds
  · rintro right earlier s₁ t later rfl hsucceeds
    exact right ⟨(s₁, t), by simp, hsucceeds⟩

end

/-! ## Two passes -/

/-- A `DataPod` with this path on the `DataNode` `n`. -/
def pathPod (path : String) : DataPod :=
  { selectingPod with spec := ⟨some path, some ⟨"n", some "default"⟩, none, none⟩ }

def pathCluster (path : String) : Cluster :=
  { selectingCluster [labelledNode "n" "1"] with dataPods := [pathPod path] }

lemma bindingService_serves (s : Cluster) (c : Call) (a : c.Reply) (s' : Cluster)
    (h : Cluster.serve sampleSelects s c = some (a, s')) :
    (bindingService sampleSelects "default" "pod").answers s c a s' :=
  ⟨s', .inl (clusterEnv_of_reliable (clusterEnv_of_serve h)), rfl⟩

/-- Two passes that are answered, each over what is stored. -/
lemma session_of_two {s₀ s₁ s₂ : Cluster} {pod₀ pod₁ : DataPod} {τ τ' : List (Event signature)}
    {action action' : Action}
    (hfirst : pod₀.reconcile.follow (Cluster.serve sampleSelects) 40 s₀ =
      some (τ, .pure action, s₁))
    (hsecond : pod₁.reconcile.follow (Cluster.serve sampleSelects) 40 s₁ =
      some (τ', .pure action', s₂)) :
    (bindingService sampleSelects "default" "pod").Session s₀
      [(s₀, .handled ⟨pod₀, τ, .ok action⟩), (s₁, .handled ⟨pod₁, τ', .ok action'⟩)] s₂ := by
  have first : (bindingService sampleSelects "default" "pod").Takes s₀
      (.handled ⟨pod₀, τ, .ok action⟩) s₁ :=
    .handle (Prog.exec_of_follow bindingService_serves hfirst) rfl
  have second : (bindingService sampleSelects "default" "pod").Takes s₁
      (.handled ⟨pod₁, τ', .ok action'⟩) s₂ :=
    .handle (Prog.exec_of_follow bindingService_serves hsecond) rfl
  exact (Service.Session.start.turn first).turn second

lemma given_of_two {s₀ s₁ : Cluster} {pod₀ pod₁ : DataPod} {τ τ' : List (Event signature)}
    {action action' : Action} (hpod₀ : s₀.stored "default" "pod" = .ok pod₀)
    (hpod₁ : s₁.stored "default" "pod" = .ok pod₁) :
    ∀ x ∈ [(s₀, (.handled ⟨pod₀, τ, .ok action⟩ : BindingTurn)),
      (s₁, .handled ⟨pod₁, τ', .ok action'⟩)], GivenStored "default" "pod" x.1 x.2 := by
  intro x hx self hself
  simp only [List.mem_cons, List.not_mem_nil, or_false] at hx
  rcases hx with rfl | rfl
  · cases hself
    exact hpod₀
  · cases hself
    exact hpod₁

/-- The path of the user is kept, and the flag with it. -/
theorem generated_path_given : ∃ turns s,
    (bindingService sampleSelects "default" "pod").Session (pathCluster "/data") turns s ∧
    turns.length = 2 ∧ Service.EachTurn (FlagStable "default" "pod" (pathPod "/data")) turns s := by
  obtain ⟨τ, action, s₁, pod₁, τ', action', s₂, hfirst, hpod₁, hsecond⟩ :
      ∃ τ action s₁ pod₁ τ' action' s₂,
        (pathPod "/data").reconcile.follow (Cluster.serve sampleSelects) 40
          (pathCluster "/data") = some (τ, .pure action, s₁) ∧
        s₁.stored "default" "pod" = .ok pod₁ ∧
        pod₁.reconcile.follow (Cluster.serve sampleSelects) 40 s₁ =
          some (τ', .pure action', s₂) :=
    ⟨_, _, _, _, _, _, _, rfl, rfl, rfl⟩
  have session := session_of_two hfirst hsecond
  refine ⟨_, _, session, rfl,
    (generated_path_iff session (given_of_two rfl hpod₁) rfl (by decide)).mpr ?_⟩
  intro _
  exact iff_of_false (by decide) (by decide)

/-- The path is generated, and the flag is not set. -/
theorem generated_path_lost : ∃ turns s,
    (bindingService sampleSelects "default" "pod").Session (pathCluster "/") turns s ∧
    (∀ x ∈ turns, GivenStored "default" "pod" x.1 x.2) ∧
    ¬ Service.EachTurn (FlagStable "default" "pod" (pathPod "/")) turns s := by
  obtain ⟨τ, action, s₁, pod₁, τ', action', s₂, hfirst, hpod₁, hsecond, hstatus⟩ :
      ∃ τ action s₁ pod₁ τ' action' s₂,
        (pathPod "/").reconcile.follow (Cluster.serve sampleSelects) 40 (pathCluster "/") =
          some (τ, .pure action, s₁) ∧
        s₁.stored "default" "pod" = .ok pod₁ ∧
        pod₁.reconcile.follow (Cluster.serve sampleSelects) 40 s₁ =
          some (τ', .pure action', s₂) ∧
        pod₁.status = none :=
    ⟨_, _, _, _, _, _, _, rfl, rfl, rfl, rfl⟩
  refine ⟨_, s₂, session_of_two hfirst hsecond, given_of_two rfl hpod₁, fun stable => ?_⟩
  have first := stable [] _ _ _ rfl
  obtain ⟨pod, hpod, flag⟩ := first.flag ⟨action, rfl⟩
  have hsame : s₁.stored "default" "pod" = .ok pod := hpod
  rw [hpod₁] at hsame
  cases hsame
  have set : SaysGenerated pod₁ := flag.mpr (by decide)
  unfold SaysGenerated at set
  rw [hstatus] at set
  cases set

end Kubedal
