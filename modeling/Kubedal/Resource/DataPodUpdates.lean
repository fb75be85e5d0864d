import Kubedal.Cluster
import Kubedal.Resource.DataPodController
import Kubedal.Utils.Pool

/-!
# User edits of a `DataPod` and its reconciler

One `DataPod` with all its versions. The user edits its spec at any time, and any number of
passes of the reconciler are in progress, each handed some version there has been.

* `dataPodService` is this system;
* `user_updates_kept_iff`: what the user has written between the version that was handed over
  and the fresh copy survives a pass only if the old version has the same values.
-/

namespace Kubedal

open Interaction Kube Resource

/-! ## The versions of a `DataPod` -/

structure DataPodVersion where
  pod : DataPod
  /-- The user has written it. -/
  byUser : Bool
deriving DecidableEq

/-- All versions of one `DataPod`, oldest first. -/
structure DataPodHistory where
  versions : List DataPodVersion

/-- A pass of the reconciler, over the version with that number. -/
structure DataPodPass where
  version : ℕ
  self : DataPod
deriving DecidableEq

namespace DataPodHistory

def podAt (s : DataPodHistory) (i : ℕ) : Option DataPod :=
  s.versions[i]?.map DataPodVersion.pod

def current (s : DataPodHistory) : Option DataPod := s.versions.getLast?.map DataPodVersion.pod

def push (s : DataPodHistory) (pod : DataPod) (byUser : Bool) : DataPodHistory :=
  ⟨s.versions ++ [⟨pod, byUser⟩]⟩

/-- No version has this `resourceVersion`. -/
def Unused (s : DataPodHistory) (version : String) : Prop :=
  ∀ v ∈ s.versions, v.pod.metadata.resourceVersion ≠ some version

/-- A forced apply of the patch: nothing changes, or there is a new version. -/
inductive Applies (s : DataPodHistory) (old : DataPod) (patch : DataPodPatch) :
    DataPod → DataPodHistory → Prop where
  | same {version : String} (unchanged : Cluster.applied old patch version = old) :
      Applies s old patch old s
  | changed {version : String} (unused : s.Unused version) :
      Applies s old patch (Cluster.applied old patch version)
        (s.push (Cluster.applied old patch version) false)

/-- The answers to a request about the `DataPod`; it may fail. -/
def KubeAnswers (s : DataPodHistory) :
    (c : KubeCall) → Except KubeError c.Object → DataPodHistory → Prop
  | .getDataPod ns name, r, s' =>
    s' = s ∧ ∀ pod : DataPod, r = Except.ok pod → s.current = some pod ∧ At ns name pod
  | .getDataNode ns name, r, s' => s' = s ∧ ∀ node : DataNode, r = Except.ok node → At ns name node
  | .applyDataPod ns name patch, r, s' =>
    match r with
    | Except.ok pod =>
      ∃ old, s.current = some old ∧ At ns name old ∧ s.Applies old patch pod s'
    | Except.error _ => s' = s
  | _, _, s' => s' = s

def Answers (s : DataPodHistory) : (c : Call) → c.Reply → DataPodHistory → Prop
  | .kube c, r, s' => s.KubeAnswers c r s'
  | _, _, s' => s' = s

/-- The user edits the spec. -/
def Edited (s s' : DataPodHistory) : Prop :=
  ∃ old spec version, s.current = some old ∧ s.Unused version ∧
    s' = s.push { old with
      metadata := { old.metadata with resourceVersion := some version }
      spec := spec } true

end DataPodHistory

abbrev DataPodPool := Pool signature DataPodHistory DataPodPass (Fault Error) Action

abbrev DataPodTransition :=
  Service.Transition signature DataPodHistory DataPodPass (Fault Error) Action

/-- Passes over versions of the `DataPod` that there have been, and edits by the user. -/
def dataPodService : Service signature DataPodHistory DataPodPass (Fault Error) Action where
  program := fun r => r.self.reconcile
  admits := fun P r => P.state.podAt r.version = some r.self
  answers := DataPodHistory.Answers
  disturbs := DataPodHistory.Edited

/-! ## What a pass applies -/

/-- The `DataPod`s that were fetched. -/
def fetchedPods (past : List (Event signature)) : List DataPod :=
  past.flatMap fun e => match e with
    | ⟨.kube (.getDataPod _ _), Except.ok pod⟩ => [pod]
    | _ => []

/-- The `DataNode`s that were listed. -/
def listedNodes (past : List (Event signature)) : List DataNode :=
  past.flatMap fun e => match e with
    | ⟨.kube (.listDataNodes _ _), Except.ok nodes⟩ => nodes
    | _ => []

/-- The version has this path, or none, and then the path is made of its uid. -/
def GivesPath (self : DataPod) (path : String) : Prop :=
  DataPod.properPath self.spec = some path ∨
    DataPod.properPath self.spec = none ∧ ∃ uid, uidOf self = some uid ∧ path = "/" ++ uid

/-- The version refers to this node, or to none, and then it is the first node that was listed
for its selector. -/
def GivesNode (self : DataPod) (past : List (Event signature)) (name : String) : Prop :=
  self.spec.dataNodeRef.map Ref.name = some name ∨
    self.spec.dataNodeRef = none ∧ (listedNodes past).head?.map nameAny = some name

/-- What a pass over `self` applies. -/
structure PatchOf (self : DataPod) (past : List (Event signature)) (patch : DataPodPatch) :
    Prop where
  path : ∃ path, patch.spec.path = some path ∧ GivesPath self path
  node : ∃ ref, patch.spec.dataNodeRef = some ref ∧ GivesNode self past ref.name

/-- The API server returns a `DataNode` of the name it was asked for. -/
def NamedAsAsked : (c : Call) → c.Reply → Prop
  | .kube (.getDataNode ns name), r => ∀ node : DataNode, r = Except.ok node → At ns name node
  | _, _ => True

/-- A pass applies a patch only of its own version. -/
def dataPodMonitor (self : DataPod) : Monitor signature (List (Event signature)) :=
  .history
    (fun past c => ∀ ns name patch, c = .kube (.applyDataPod ns name patch) →
      PatchOf self past patch)
    NamedAsAsked

section
variable {self : DataPod} {past : List (Event signature)}

/-- A request other than an apply. -/
lemma wp_dataPod_request {c : KubeCall}
    {Q : List (Event signature) → Except (Fault Error) c.Object → Prop}
    (other : ∀ ns name patch, c ≠ .applyDataPod ns name patch)
    (ok : ∀ object, NamedAsAsked (.kube c) (Except.ok object) →
      Q (past ++ [⟨.kube c, Except.ok object⟩]) (.ok object))
    (error : ∀ past e, Q past (.error e)) :
    (request c).wp (dataPodMonitor self) past Q := by
  refine wp_request (fun ns name patch h => ?_) (fun object named => ok object named)
    fun e _ => error _ _
  exact absurd (Call.kube.inj h) (other ns name patch)

lemma newPath_meets {Q : List (Event signature) → Except (Fault Error) (String × Bool) → Prop}
    (ok : ∀ path generated, GivesPath self path → Q past (.ok (path, generated)))
    (error : ∀ past e, Q past (.error e)) :
    (DataPod.newPath self).wp (dataPodMonitor self) past Q := by
  unfold DataPod.newPath
  cases hpath : DataPod.properPath self.spec with
  | some path => exact ok path false (.inl hpath)
  | none =>
    cases huid : uidOf self with
    | none => exact error _ _
    | some uid => exact ok _ true (.inr ⟨hpath, uid, huid, rfl⟩)

lemma chooseDataNode_meets {ns : String}
    {Q : List (Event signature) → Except (Fault Error) DataNode → Prop}
    (unlisted : listedNodes past = [])
    (ok : ∀ past node, GivesNode self past (nameAny node) → Q past (.ok node))
    (error : ∀ past e, Q past (.error e)) :
    (DataPod.chooseDataNode self ns).wp (dataPodMonitor self) past Q := by
  unfold DataPod.chooseDataNode
  -- the reference and the selector of the old version decide, not those of the fresh copy
  cases href : self.spec.dataNodeRef with
  | some nodeRef =>
    refine wp_dataPod_request (fun _ _ _ h => by cases h) (fun (node : DataNode) named => ?_) error
    refine ok _ node (.inl ?_)
    rw [href, nameAny_of_at (named node rfl)]
    rfl
  | none =>
    cases hselector : self.spec.dataNodeSelector with
    | none => exact error _ _
    | some selector =>
      refine Prog.wp_bind (wp_dataPod_request (fun _ _ _ h => by cases h)
        (fun (nodes : List DataNode) _ => ?_) error)
      have hlisted : listedNodes (past ++
          [⟨.kube (.listDataNodes ns ⟨some (renderSelector selector)⟩), Except.ok nodes⟩]) =
            nodes := by
        show List.flatMap _ (_ ++ _) = _
        rw [List.flatMap_append]
        show listedNodes past ++ (nodes ++ []) = nodes
        rw [unlisted, List.append_nil, List.nil_append]
      show (expect _ nodes.head?).wp _ _ Q
      cases hhead : nodes.head? with
      | none => exact error _ _
      | some node =>
        refine ok _ node (.inr ⟨href, ?_⟩)
        rw [hlisted, hhead]
        rfl

lemma publishChanged_meets {dataPod newDataPod : DataPod}
    {Q : List (Event signature) → Except (Fault Error) Unit → Prop} (h : ∀ past r, Q past r) :
    (DataPod.publishChanged self dataPod newDataPod).wp (dataPodMonitor self) past Q := by
  unfold DataPod.publishChanged
  split
  · exact Prog.wp_bind (wp_dataPod_request (fun _ _ _ h => by cases h) (fun _ _ => h _ _)
      fun _ _ => h _ _)
  · exact h _ _

/-- A pass over `self` follows the rule. -/
theorem reconcile_applies (self : DataPod) :
    self.reconcile.wp (dataPodMonitor self) [] fun _ _ => True := by
  unfold DataPod.reconcile
  refine Prog.wp_bind (wp_orReturn (fun ns _ => ?_) fun _ _ => trivial)
  refine Prog.wp_bind (wp_dataPod_request (fun _ _ _ h => by cases h)
    (fun (dataPod : DataPod) _ => ?_) fun _ _ => trivial)
  refine Prog.wp_bind (newPath_meets (fun path generated hpath => ?_) fun _ _ => trivial)
  refine Prog.wp_bind (chooseDataNode_meets rfl (fun past node hnode => ?_) fun _ _ => trivial)
  refine Prog.wp_bind (wp_orReturn (fun owner _ => ?_) fun _ _ => trivial)
  refine Prog.wp_bind (wp_expect (fun name _ => ?_) trivial)
  refine Prog.wp_bind (wp_request (fun ns' name' patch h => ?_)
    (fun (newDataPod : DataPod) _ => ?_) fun _ _ => trivial)
  · cases h
    exact ⟨⟨path, rfl, hpath⟩, ⟨_, rfl, hnode⟩⟩
  · refine Prog.wp_bind (publishChanged_meets fun past r => ?_)
    rcases r with e | _ <;> trivial

end

/-! ## What the user has written -/

/-- The path is neither absent nor empty nor "/". -/
def HasPath (path : String) (spec : DataPodSpec) : Prop := DataPod.properPath spec = some path

instance (path : String) : DecidablePred (HasPath path) :=
  fun spec => inferInstanceAs (Decidable (DataPod.properPath spec = some path))

def HasNode (name : String) (spec : DataPodSpec) : Prop := spec.dataNodeRef.map Ref.name = some name

/-- An edit by the user after version `i`, and up to version `j`, has made the spec satisfy `V`. -/
def DataPodHistory.UserWrote (s : DataPodHistory) (i j : ℕ) (V : DataPodSpec → Prop) : Prop :=
  ∃ m, i < m ∧ m ≤ j ∧ ∃ old new, s.podAt (m - 1) = some old ∧
    s.versions[m]? = some ⟨new, true⟩ ∧ V new.spec ∧ ¬ V old.spec

/-- What a pass must keep: the user has written it after the version the pass was handed and not
after the one it has fetched, and it is still there. -/
def ToKeep (s : DataPodHistory) (r : DataPodPass) (past : List (Event signature))
    (V : DataPodSpec → Prop) : Prop :=
  (∃ j, ∃ fetched ∈ fetchedPods past, s.podAt j = some fetched ∧ s.UserWrote r.version j V) ∧
    ∃ pod, s.current = some pod ∧ V pod.spec

/-- If the step is the apply of a pass, it keeps what the user has written. -/
def KeepsUserUpdates (x : DataPodTransition) : Prop :=
  ∀ r past ns name patch reply,
    x.label = .answered r past ⟨.kube (.applyDataPod ns name patch), reply⟩ →
    ∀ pod, x.target.state.current = some pod →
      (∀ path, ToKeep x.source.state r past (HasPath path) → HasPath path pod.spec) ∧
      (∀ node, ToKeep x.source.state r past (HasNode node) → HasNode node pod.spec)

/-- If the step is a successful apply of a pass, the version that the pass was handed has what
the user has written already. -/
def HandedUserUpdates (x : DataPodTransition) : Prop :=
  ∀ r past ns name patch (pod : DataPod),
    x.label = .answered r past ⟨.kube (.applyDataPod ns name patch), Except.ok pod⟩ →
      (∀ path, ToKeep x.source.state r past (HasPath path) → GivesPath r.self path) ∧
      (∀ node, ToKeep x.source.state r past (HasNode node) → GivesNode r.self past node)

lemma GivesPath.unique {self : DataPod} {p q : String} (hp : GivesPath self p)
    (hq : GivesPath self q) : p = q := by
  rcases hp with hp | ⟨hp, uid, huid, rfl⟩
  · rcases hq with hq | ⟨hq, _⟩
    · rw [hp] at hq
      exact Option.some.inj hq
    · rw [hp] at hq
      cases hq
  · rcases hq with hq | ⟨_, uid', huid', rfl⟩
    · rw [hp] at hq
      cases hq
    · rw [huid] at huid'
      rw [Option.some.inj huid']

lemma GivesNode.unique {self : DataPod} {past : List (Event signature)} {m n : String}
    (hm : GivesNode self past m) (hn : GivesNode self past n) : m = n := by
  rcases hm with hm | ⟨hm, hfirst⟩
  · rcases hn with hn | ⟨hn, _⟩
    · rw [hm] at hn
      exact Option.some.inj hn
    · rw [hn] at hm
      cases hm
  · rcases hn with hn | ⟨_, hfirst'⟩
    · rw [hm] at hn
      cases hn
    · rw [hfirst] at hfirst'
      exact Option.some.inj hfirst'

/-- A step of a pass in a run applies a patch of its own version. -/
lemma patchOf_of_step {s₀ : DataPodHistory} {steps : List DataPodTransition} {P P' : DataPodPool}
    {r : DataPodPass} {past : List (Event signature)} {ns name : String} {patch : DataPodPatch}
    {reply : Except KubeError DataPod} (run : dataPodService.Run s₀ steps P)
    (h : dataPodService.Step P (.answered r past ⟨.kube (.applyDataPod ns name patch), reply⟩) P') :
    PatchOf r.self past patch := by
  obtain ⟨q, exec⟩ := run.exec_of_step h
  have rely : ∀ (u : Unit) (c : Call) (a : c.Reply) (u' : Unit),
      dataPodService.Possible u c a u' → ∀ g, (dataPodMonitor r.self).assumes g c a := by
    rintro _ c a _ ⟨s, s', answered⟩ _
    rcases c with c | c | c | c | c | _ | _
    case kube =>
      rcases c with _ | _ | _ | _ | _ | _ | _ | _ | _ | _ | _ | _ | _
      case getDataNode => exact answered.2
      all_goals trivial
    all_goals trivial
  have allowed := Prog.wp_event (reconcile_applies r.self) exec rely
  rw [show (dataPodMonitor r.self).after [] past = past from Monitor.history_after ..] at allowed
  exact allowed ns name patch rfl

/-! ## Which passes keep it -/

lemma HasPath.of_eq {path : String} {spec spec' : DataPodSpec} (h : HasPath path spec)
    (hspec' : spec'.path = some path) : HasPath path spec' := by
  unfold HasPath DataPod.properPath at h ⊢
  rw [Option.filter_eq_some_iff] at h ⊢
  exact ⟨hspec', h.2⟩

lemma HasPath.path {path : String} {spec : DataPodSpec} (h : HasPath path spec) :
    spec.path = some path := (Option.filter_eq_some_iff.mp h).1

/-- A forced apply takes the path and the node from the patch. -/
lemma applied_spec {self old : DataPod} {past : List (Event signature)} {patch : DataPodPatch}
    (version : String) (h : PatchOf self past patch) :
    ∃ path ref, (Cluster.applied old patch version).spec.path = some path ∧
      (Cluster.applied old patch version).spec.dataNodeRef = some ref ∧ GivesPath self path ∧
      GivesNode self past ref.name := by
  obtain ⟨⟨path, hpath, givesPath⟩, ref, href, givesNode⟩ := h
  refine ⟨path, ref, ?_, ?_, givesPath, givesNode⟩
  · show patch.spec.path.or old.spec.path = some path
    rw [hpath]
    rfl
  · show patch.spec.dataNodeRef.or old.spec.dataNodeRef = some ref
    rw [href]
    rfl

lemma DataPodHistory.current_push (s : DataPodHistory) (pod : DataPod) (byUser : Bool) :
    (s.push pod byUser).current = some pod := by
  unfold current push
  rw [List.getLast?_append]
  rfl

/-- After a successful apply the current version is the patched one. -/
lemma DataPodHistory.Applies.current {s s' : DataPodHistory} {old pod : DataPod}
    {patch : DataPodPatch} (h : s.Applies old patch pod s') (hold : s.current = some old) :
    ∃ version, s'.current = some (Cluster.applied old patch version) := by
  cases h with
  | @same version unchanged => exact ⟨version, by rw [unchanged, hold]⟩
  | @changed version unused => exact ⟨version, current_push s _ _⟩

section
variable {s₀ : DataPodHistory} {steps : List DataPodTransition} {P P' : DataPodPool}
  {r : DataPodPass} {past : List (Event signature)} {ns name : String} {patch : DataPodPatch}

/-- A successful apply of a pass in a run. -/
lemma current_of_apply {pod : DataPod} (run : dataPodService.Run s₀ steps P)
    (h : dataPodService.Step P
      (.answered r past ⟨.kube (.applyDataPod ns name patch), Except.ok pod⟩) P') :
    ∃ new path ref, P'.state.current = some new ∧ new.spec.path = some path ∧
      new.spec.dataNodeRef = some ref ∧ GivesPath r.self path ∧ GivesNode r.self past ref.name := by
  have hpatch := patchOf_of_step run h
  obtain ⟨_, _, _, _, answered, _⟩ := Service.step_answered h
  obtain ⟨old, hold, _, applies⟩ : ∃ old, P.state.current = some old ∧ At ns name old ∧
    P.state.Applies old patch pod P'.state := answered
  obtain ⟨version, hnew⟩ := applies.current hold
  obtain ⟨path, ref, hpath, href, givesPath, givesNode⟩ := applied_spec version hpatch
  exact ⟨_, path, ref, hnew, hpath, href, givesPath, givesNode⟩

/-- An apply that fails changes nothing. -/
lemma current_of_failed {e : KubeError}
    (h : dataPodService.Step P
      (.answered r past ⟨.kube (.applyDataPod ns name patch), Except.error e⟩) P') :
    P'.state = P.state := by
  obtain ⟨_, _, _, _, answered, _⟩ := Service.step_answered h
  exact answered

lemma keeps_of_handed {x : DataPodTransition} (run : dataPodService.Run s₀ steps x.source)
    (step : dataPodService.Step x.source x.label x.target) (h : HandedUserUpdates x) :
    KeepsUserUpdates x := by
  intro r past ns name patch reply hlabel pod hpod
  rw [hlabel] at step
  -- an apply that fails changes nothing, one that succeeds writes the values of the old version
  rcases reply with e | applied
  · rw [current_of_failed step] at hpod
    refine ⟨fun path keep => ?_, fun node keep => ?_⟩
    all_goals
      obtain ⟨_, old, hold, holds⟩ := keep
      rw [hpod] at hold
      rw [Option.some.inj hold]
      exact holds
  · obtain ⟨new, path, ref, hnew, hpath, href, givesPath, givesNode⟩ := current_of_apply run step
    obtain ⟨handedPath, handedNode⟩ := h r past ns name patch applied hlabel
    rw [hpod] at hnew
    cases hnew
    refine ⟨fun path' keep => ?_, fun node keep => ?_⟩
    · have heq : path' = path := (handedPath path' keep).unique givesPath
      obtain ⟨_, old, _, holds⟩ := keep
      exact holds.of_eq (by rw [hpath, heq])
    · have heq : node = ref.name := (handedNode node keep).unique givesNode
      unfold HasNode
      rw [href, heq]
      rfl

lemma handed_of_keeps {x : DataPodTransition} (run : dataPodService.Run s₀ steps x.source)
    (step : dataPodService.Step x.source x.label x.target) (h : KeepsUserUpdates x) :
    HandedUserUpdates x := by
  intro r past ns name patch applied hlabel
  rw [hlabel] at step
  obtain ⟨new, path, ref, hnew, hpath, href, givesPath, givesNode⟩ := current_of_apply run step
  obtain ⟨keepsPath, keepsNode⟩ := h r past ns name patch _ hlabel new hnew
  refine ⟨fun path' keep => ?_, fun node keep => ?_⟩
  · have hpath' := (keepsPath path' keep).path
    rw [hpath] at hpath'
    rw [← Option.some.inj hpath']
    exact givesPath
  · have hnode := keepsNode node keep
    unfold HasNode at hnode
    rw [href] at hnode
    rw [← Option.some.inj hnode]
    exact givesNode

/-- No pass in a run loses what the user has written in the meantime if and only if every pass
that gets to its apply was handed a version that has it already. -/
theorem user_updates_kept_iff (run : dataPodService.Run s₀ steps P) :
    (∀ x ∈ steps, KeepsUserUpdates x) ↔ ∀ x ∈ steps, HandedUserUpdates x := by
  constructor
  · intro h x hx
    obtain ⟨_, _, before, step⟩ := run.of_mem hx
    exact handed_of_keeps before step (h x hx)
  · intro h x hx
    obtain ⟨_, _, before, step⟩ := run.of_mem hx
    exact keeps_of_handed before step (h x hx)

end

/-! ## A user who edits the path -/

/-- Answers a pass up to its apply: every request succeeds. -/
def DataPodHistory.serveReads (s : DataPodHistory) :
    (c : Call) → Option (c.Reply × DataPodHistory)
  | .kube (.getDataPod ns name) =>
    match s.current with
    | some pod => if At ns name pod then some (Except.ok pod, s) else none
    | none => none
  | .kube (.getDataNode ns name) =>
    some (Except.ok ⟨{ name := some name, ns := some ns, uid := some "1" },
      ⟨.http, false, none, ∅⟩, none⟩, s)
  | _ => none

lemma DataPodHistory.answers_of_serveReads {s s' : DataPodHistory} {c : Call} {a : c.Reply}
    (h : s.serveReads c = some (a, s')) :
    s.Answers c a s' ∧ ∀ ns name patch, c ≠ .kube (.applyDataPod ns name patch) := by
  rcases c with c | c | c | c | c | _ | _
  case kube =>
    rcases c with ⟨ns, name⟩ | ⟨ns, name⟩ | _ | _ | _ | _ | _ | _ | _ | _ | _ | _ | _
    case getDataNode =>
      cases h
      refine ⟨⟨rfl, fun node hnode => ?_⟩, by simp⟩
      cases hnode
      exact ⟨rfl, rfl⟩
    case getDataPod =>
      simp only [serveReads] at h
      split at h
      · rename_i pod hcurrent
        split at h
        · rename_i hat
          cases h
          refine ⟨⟨rfl, fun pod' hpod => ?_⟩, by simp⟩
          cases hpod
          exact ⟨hcurrent, hat⟩
        · cases h
      · cases h
    all_goals cases h
  all_goals cases h

/-- The `DataPod` with this path in its spec. -/
def samplePath (path version : String) : DataPod where
  metadata :=
    { name := some "pod"
      ns := some "default"
      uid := some "0"
      resourceVersion := some version }
  spec := ⟨some path, some ⟨"n", none⟩, none, none⟩
  status := none

/-- The `DataPod` as it was made. -/
def sampleMade : DataPodHistory := ⟨[⟨samplePath "/a" "0", true⟩]⟩

/-- The same `DataPod` after the user has edited the path. -/
def sampleEdited : DataPodHistory := sampleMade.push (samplePath "/b" "1") true

lemma sampleMade_edited : sampleMade.Edited sampleEdited := by
  refine ⟨samplePath "/a" "0", (samplePath "/b" "1").spec, "1", rfl, ?_, rfl⟩
  intro v hv
  rw [List.mem_singleton.mp hv]
  decide

/-- The same `DataPod` after the user has gone back to the first path. -/
def sampleRestored : DataPodHistory := sampleEdited.push (samplePath "/a" "2") true

lemma sampleEdited_edited : sampleEdited.Edited sampleRestored := by
  refine ⟨samplePath "/b" "1", (samplePath "/a" "2").spec, "2", rfl, ?_, rfl⟩
  unfold DataPodHistory.Unused
  decide

/-- A pass that starts after some edits, up to and including its apply. -/
lemma exists_apply {s t : DataPodHistory} {edits : List DataPodTransition}
    (edited : dataPodService.Run sampleMade edits (.idle s))
    (quiet : ∀ y ∈ edits, y.label = .disturbed) {r : DataPodPass} {τ : List (Event signature)}
    {ns name : String} {patch : DataPodPatch} {k : Except KubeError DataPod → Reconcile Action}
    {pod : DataPod} (hself : s.podAt r.version = some r.self)
    (hstart : r.self.reconcile.outcome = none)
    (hfollow : r.self.reconcile.follow DataPodHistory.serveReads 2 s =
      some (τ, .call (.kube (.applyDataPod ns name patch)) k, s))
    (happly : s.KubeAnswers (.applyDataPod ns name patch) (Except.ok pod) t) :
    ∃ steps x P, dataPodService.Run sampleMade (steps ++ [x]) P ∧
      x.source.state = s ∧ x.target.state = t ∧
      x.label = .answered r τ ⟨.kube (.applyDataPod ns name patch), Except.ok pod⟩ ∧
      ∀ y ∈ steps, HandedUserUpdates y := by
  -- the edits come first, then the pass fetches the `DataPod` and its `DataNode`
  have arrived := edited.step (.arrive (r := r) hself)
  rw [Pool.resume_of_none hstart] at arrived
  have exec := Prog.exec_of_follow
    (R := fun s c a s' => s.Answers c a s' ∧
      ∀ ns name patch, c ≠ Call.kube (.applyDataPod ns name patch))
    (fun _ _ _ _ h => DataPodHistory.answers_of_serveReads h) hfollow
  obtain ⟨later, run, reads, _⟩ := arrived.advance (fun _ _ _ _ h => h.1) [] [] rfl hstart exec
  rw [Pool.resume_of_none rfl] at run
  have waiting : (⟨s, [⟨r, τ, .call (.kube (.applyDataPod ns name patch)) k⟩], []⟩ :
      DataPodPool).running =
        [] ++ ⟨r, τ, .call (.kube (.applyDataPod ns name patch)) k⟩ :: [] := rfl
  have answered : dataPodService.answers s (.kube (.applyDataPod ns name patch)) (Except.ok pod)
      t := happly
  have last := run.step (.answer waiting answered)
  refine ⟨_, _, _, last, rfl, Pool.resume_state .., rfl, fun y hy => ?_⟩
  intro r' past ns' name' patch' pod' hlabel
  rcases List.mem_append.mp hy with hy | hy
  · rcases List.mem_append.mp hy with hy | hy
    · rw [quiet y hy] at hlabel
      cases hlabel
    · rw [List.mem_singleton.mp hy] at hlabel
      cases hlabel
  · obtain ⟨_, e, he, _, other⟩ := reads y hy
    rw [hlabel] at he
    cases he
    exact absurd rfl (other ns' name' patch')

lemma run_edited : ∃ edits, dataPodService.Run sampleMade edits (.idle sampleEdited) ∧
    ∀ y ∈ edits, y.label = .disturbed := by
  have edited := Service.Run.start.step
    (.disturb sampleMade_edited : dataPodService.Step (.idle sampleMade) .disturbed _)
  refine ⟨_, edited, fun y hy => ?_⟩
  rw [List.nil_append] at hy
  rw [List.mem_singleton.mp hy]

lemma run_restored : ∃ edits, dataPodService.Run sampleMade edits (.idle sampleRestored) ∧
    ∀ y ∈ edits, y.label = .disturbed := by
  obtain ⟨edits, edited, quiet⟩ := run_edited
  have restored := edited.step
    (.disturb sampleEdited_edited : dataPodService.Step (.idle sampleEdited) .disturbed _)
  refine ⟨_, restored, fun y hy => ?_⟩
  rcases List.mem_append.mp hy with hy | hy
  · exact quiet y hy
  · rw [List.mem_singleton.mp hy]

/-- A pass over the version from before the edit brings the old path back. -/
theorem user_update_lost :
    ¬ ∀ (s₀ : DataPodHistory) (steps : List DataPodTransition) (P : DataPodPool),
      dataPodService.Run s₀ steps P → ∀ x ∈ steps, KeepsUserUpdates x := by
  intro claim
  obtain ⟨τ, ns, name, patch, k, hfollow, hfetched, hat, hpath⟩ : ∃ τ ns name patch k,
      (samplePath "/a" "0").reconcile.follow DataPodHistory.serveReads 2 sampleEdited =
        some (τ, .call (.kube (.applyDataPod ns name patch)) k, sampleEdited) ∧
      fetchedPods τ = [samplePath "/b" "1"] ∧ At ns name (samplePath "/b" "1") ∧
      patch.spec.path = some "/a" :=
    ⟨_, _, _, _, _, rfl, rfl, by decide, rfl⟩
  set new := Cluster.applied (samplePath "/b" "1") patch "2"
  have unused : sampleEdited.Unused "2" := by
    unfold DataPodHistory.Unused
    decide
  obtain ⟨edits, edited, quiet⟩ := run_edited
  obtain ⟨steps, x, P, run, hsource, htarget, hlabel, _⟩ :=
    exists_apply (r := ⟨0, samplePath "/a" "0"⟩) (t := sampleEdited.push new false) edited quiet
      rfl rfl hfollow ⟨_, rfl, hat, .changed unused⟩
  have kept := claim _ _ _ run x (List.mem_append_right _ List.mem_cons_self)
  -- the user has written "/b" before the pass has fetched the `DataPod`
  have keep : ToKeep x.source.state ⟨0, samplePath "/a" "0"⟩ τ (HasPath "/b") := by
    rw [hsource]
    refine ⟨⟨1, samplePath "/b" "1", ?_, rfl, 1, by decide, by decide, samplePath "/a" "0",
      samplePath "/b" "1", rfl, rfl, by decide, by decide⟩, samplePath "/b" "1", rfl, by decide⟩
    rw [hfetched]
    exact List.mem_singleton_self _
  have hnew : x.target.state.current = some new := by
    rw [htarget]
    exact DataPodHistory.current_push ..
  have hkept := ((kept _ _ _ _ _ _ hlabel new hnew).1 "/b" keep).path
  have hnewPath : new.spec.path = some "/a" := by
    show patch.spec.path.or _ = _
    rw [hpath]
    rfl
  rw [hnewPath] at hkept
  exact absurd hkept (by decide)

/-- The user has gone back to the path of the version that the pass was handed. -/
theorem user_update_kept :
    ∃ steps x P, dataPodService.Run sampleMade (steps ++ [x]) P ∧
      (∃ r past ns name patch, ∃ pod : DataPod,
        x.label = .answered r past ⟨.kube (.applyDataPod ns name patch), Except.ok pod⟩ ∧
        ToKeep x.source.state r past (HasPath "/a")) ∧
      ∀ y ∈ steps ++ [x], KeepsUserUpdates y := by
  obtain ⟨τ, ns, name, patch, k, hfollow, hfetched, hat⟩ : ∃ τ ns name patch k,
      (samplePath "/a" "0").reconcile.follow DataPodHistory.serveReads 2 sampleRestored =
        some (τ, .call (.kube (.applyDataPod ns name patch)) k, sampleRestored) ∧
      fetchedPods τ = [samplePath "/a" "2"] ∧ At ns name (samplePath "/a" "2") :=
    ⟨_, _, _, _, _, rfl, rfl, by decide⟩
  have unused : sampleRestored.Unused "3" := by
    unfold DataPodHistory.Unused
    decide
  obtain ⟨edits, restored, quiet⟩ := run_restored
  obtain ⟨steps, x, P, run, hsource, _, hlabel, handed⟩ :=
    exists_apply (r := ⟨0, samplePath "/a" "0"⟩) restored quiet rfl rfl hfollow
      ⟨_, rfl, hat, .changed unused⟩
  have keep : ToKeep x.source.state ⟨0, samplePath "/a" "0"⟩ τ (HasPath "/a") := by
    rw [hsource]
    refine ⟨⟨2, samplePath "/a" "2", ?_, rfl, 2, by decide, by decide, samplePath "/b" "1",
      samplePath "/a" "2", rfl, rfl, by decide, by decide⟩, samplePath "/a" "2", rfl, by decide⟩
    rw [hfetched]
    exact List.mem_singleton_self _
  refine ⟨steps, x, P, run, ⟨_, _, _, _, _, _, hlabel, keep⟩, (user_updates_kept_iff run).mpr ?_⟩
  intro y hy
  rcases List.mem_append.mp hy with hy | hy
  · exact handed y hy
  · rw [List.mem_singleton.mp hy]
    intro r past ns' name' patch' pod hlabel'
    rw [hlabel] at hlabel'
    cases hlabel'
    rw [hsource]
    -- what is there now is what the pass was handed
    constructor
    · rintro path ⟨_, current, hcurrent, hpath⟩
      cases hcurrent
      exact .inl hpath
    · rintro node ⟨_, current, hcurrent, hnode⟩
      cases hcurrent
      exact .inl hnode

end Kubedal
