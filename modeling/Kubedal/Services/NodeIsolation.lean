import Kubedal.Services.NodePublish
import Mathlib

/-!
# What a published volume gives access to

`resolve` says which object of the storage backend a path names under an operator; a FUSE
mount gives access to all of them, a cached mount to those that were copied. The path of the
`DataPod` has no part in it: `isolated_iff` shows that two published volumes share no object
exactly when the storage of their `DataNode` has no object that both mount modes show.
-/

namespace Kubedal

open Interaction Kube Resource

section
variable {Obj : Type} (resolve : Operator → String → Option Obj)

/-- The objects that can be reached through the mounts of a publish request. -/
def reachable (past : List (Event signature)) : Set Obj :=
  {o | (∃ operator, .fuse operator ∈ mountsMade past ∧ ∃ path, resolve operator path = some o) ∨
    ((∃ source, .bind source ∈ mountsMade past) ∧
      ∃ operator path, (operator, path) ∈ reads past ∧ resolve operator path = some o)}

/-- A path right below the root of an operator. -/
def TopLevel (path : String) : Prop := '/' ∉ path.toList

/-- The objects that a mount mode shows of the storage behind an operator. -/
def visible : MountMode → Operator → Set Obj
  | .fuse, operator => {o | ∃ path, resolve operator path = some o}
  | .cached, operator => {o | ∃ path, TopLevel path ∧ resolve operator path = some o}

/-- Listing the root of an operator returns the files right below it. -/
def ListsRoot (c : Call) (a : c.Reply) : Prop :=
  ∀ operator entries, (⟨c, a⟩ : Event signature) =
    ⟨.opendal (.list operator ""), Except.ok entries⟩ → ∀ path,
      (∃ entry ∈ entries, entry.mode = .file ∧ entry.path = path) ↔
        TopLevel path ∧ (resolve operator path).isSome

variable {resolve}

/-- What is reachable is what the mode of the mount shows of its operator. -/
lemma reachable_of_published {request : NodePublishVolumeRequest}
    {past : List (Event signature)} {node : DataNode} {mount : Mount}
    (published : Published request past node mount)
    (lists : ∀ e ∈ past, ListsRoot resolve e.call e.reply) :
    reachable resolve past = visible resolve mount.mountMode mount.operator := by
  cases hmode : mount.mountMode with
  | fuse =>
    obtain ⟨hmade, _⟩ := published.fuse hmode
    ext o
    simp [reachable, visible, hmade]
  | cached =>
    obtain ⟨hmade, entries, hsaw, hreads⟩ := published.cached hmode
    have hroot := lists _ hsaw mount.operator entries rfl
    ext o
    -- the cache holds what was copied: the files of the listing of the root
    have hread : ∀ path, (mount.operator, path) ∈ reads past ↔
        ∃ entry ∈ entries, entry.mode = .file ∧ entry.path = path := by
      intro path
      rw [hreads]
      simp [fileReads, and_assoc]
    have honly : ∀ x ∈ reads past, x.1 = mount.operator := by
      intro x hx
      rw [hreads] at hx
      obtain ⟨entry, _, rfl⟩ := List.mem_map.mp hx
      rfl
    constructor
    · rintro (⟨operator, hfuse, _⟩ | ⟨_, operator, path, hmem, hpath⟩)
      · rw [hmade] at hfuse
        cases List.mem_singleton.mp hfuse
      · have hoperator : operator = mount.operator := honly _ hmem
        subst hoperator
        exact ⟨path, ((hroot path).mp ((hread path).mp hmem)).1, hpath⟩
    · rintro ⟨path, htop, hpath⟩
      refine .inr ⟨⟨mount.cachePath, by rw [hmade]; exact List.mem_singleton_self _⟩,
        mount.operator, path, ?_, hpath⟩
      exact (hread path).mpr ((hroot path).mpr ⟨htop, by rw [hpath]; rfl⟩)

lemma mem_visible {mode : MountMode} {operator : Operator} {path : String} {o : Obj}
    (hpath : mode = .fuse ∨ TopLevel path) (h : resolve operator path = some o) :
    o ∈ visible resolve mode operator := by
  cases mode with
  | fuse => exact ⟨path, h⟩
  | cached =>
    rcases hpath with hmode | htop
    · cases hmode
    · exact ⟨path, htop, h⟩

lemma of_mem_visible {mode : MountMode} {operator : Operator} {o : Obj}
    (h : o ∈ visible resolve mode operator) :
    ∃ path, (mode = .fuse ∨ TopLevel path) ∧ resolve operator path = some o := by
  cases mode with
  | fuse =>
    obtain ⟨path, hpath⟩ := h
    exact ⟨path, .inl rfl, hpath⟩
  | cached =>
    obtain ⟨path, htop, hpath⟩ := h
    exact ⟨path, .inr htop, hpath⟩

/-- Two modes show a common object of one storage as soon as the narrower one shows any. -/
lemma disjoint_visible_iff (operator : Operator) (mode₁ mode₂ : MountMode) :
    Disjoint (visible resolve mode₁ operator) (visible resolve mode₂ operator) ↔
      ∀ path, (mode₁ = .fuse ∧ mode₂ = .fuse) ∨ TopLevel path →
        resolve operator path = none := by
  rw [Set.disjoint_left]
  constructor
  · intro h path hpath
    by_contra hsome
    obtain ⟨o, ho⟩ := Option.ne_none_iff_exists'.mp hsome
    have h₁ : mode₁ = .fuse ∨ TopLevel path := hpath.imp And.left id
    have h₂ : mode₂ = .fuse ∨ TopLevel path := hpath.imp And.right id
    exact h (mem_visible h₁ ho) (mem_visible h₂ ho)
  · intro h o hmem₁ hmem₂
    obtain ⟨path₁, hpath₁, ho₁⟩ := of_mem_visible hmem₁
    obtain ⟨path₂, hpath₂, ho₂⟩ := of_mem_visible hmem₂
    rcases hpath₁ with hfuse₁ | htop
    · rcases hpath₂ with hfuse₂ | htop
      · rw [h path₁ (.inl ⟨hfuse₁, hfuse₂⟩)] at ho₁
        cases ho₁
      · rw [h path₂ (.inr htop)] at ho₂
        cases ho₂
    · rw [h path₁ (.inr htop)] at ho₁
      cases ho₁

variable {σ : Type} {R : σ → (c : Call) → c.Reply → σ → Prop}

/-- What a successful publish gives access to, by its annotation and its operator. -/
lemma reachable_of_exec (lists : ∀ s c a s', R s c a s' → ListsRoot resolve c a)
    {request : NodePublishVolumeRequest} {s s' : σ} {past : List (Event signature)}
    (run : Prog.Exec (S := signature) R (nodePublishVolume request) s past (.pure ()) s')
    {keys : DataMountKeys} (hkeys : dataMountKeys request.volumeContext = .ok keys)
    {operator : Operator} (built : operator ∈ builds past) :
    reachable resolve past = visible resolve (modes keys.mountMode).1 operator := by
  have hpost := Prog.wp_exec nodePublishVolume_past run fun _ _ _ _ _ _ => trivial
  rw [publishMonitor, Monitor.history_after, List.nil_append] at hpost
  obtain ⟨node, mount, published⟩ := hpost rfl
  rw [reachable_of_published published (run.events lists)]
  -- the operator that was built and the mode of the annotation are those of the mount
  rw [published.prepared.builds] at built
  obtain ⟨keys', pod, hkeys', _, _, hmodes⟩ := published.prepared.resolved
  rw [hkeys] at hkeys'
  cases hkeys'
  rw [List.mem_singleton.mp built, ← hmodes]

/-- Two published volumes are isolated exactly when the storage has no object that both mount
modes show: with one operator, no object at all if both mounts use FUSE, and otherwise no
object right below the root. -/
theorem isolated_iff (lists : ∀ s c a s', R s c a s' → ListsRoot resolve c a)
    {request₁ request₂ : NodePublishVolumeRequest} {s₁ s₁' s₂ s₂' : σ}
    {past₁ past₂ : List (Event signature)}
    (run₁ : Prog.Exec (S := signature) R (nodePublishVolume request₁) s₁ past₁ (.pure ()) s₁')
    (run₂ : Prog.Exec (S := signature) R (nodePublishVolume request₂) s₂ past₂ (.pure ()) s₂')
    {keys₁ keys₂ : DataMountKeys} (hkeys₁ : dataMountKeys request₁.volumeContext = .ok keys₁)
    (hkeys₂ : dataMountKeys request₂.volumeContext = .ok keys₂) {operator₁ operator₂ : Operator}
    (built₁ : operator₁ ∈ builds past₁) (built₂ : operator₂ ∈ builds past₂) :
    (Disjoint (reachable resolve past₁) (reachable resolve past₂) ↔
      Disjoint (visible resolve (modes keys₁.mountMode).1 operator₁)
        (visible resolve (modes keys₂.mountMode).1 operator₂)) ∧
    (operator₁ = operator₂ → (Disjoint (reachable resolve past₁) (reachable resolve past₂) ↔
      ∀ path, ((modes keys₁.mountMode).1 = .fuse ∧ (modes keys₂.mountMode).1 = .fuse) ∨
        TopLevel path → resolve operator₁ path = none)) := by
  rw [reachable_of_exec lists run₁ hkeys₁ built₁, reachable_of_exec lists run₂ hkeys₂ built₂]
  refine ⟨Iff.rfl, ?_⟩
  rintro rfl
  exact disjoint_visible_iff operator₁ _ _

end

/-! Two pods on one storage with the file `data.txt` -/

/-- A storage with one file. -/
def oneFile (_ : Operator) (path : String) : Option Unit :=
  if path = "data.txt" then some () else none

def serveOneFile : NodeState → (c : Call) → Option (c.Reply × NodeState) :=
  NodeState.serve (sampleApi ⟨.http, false, none, ∅⟩) (sampleStorage [⟨"data.txt", .file⟩])

lemma serveOneFile_lists (s : NodeState) (c : Call) (a : c.Reply) (s' : NodeState)
    (h : serveOneFile s c = some (a, s')) : ListsRoot oneFile c a := by
  intro operator entries heq path
  cases heq
  cases h
  have htop : TopLevel "data.txt" := by
    unfold TopLevel
    decide
  by_cases hpath : path = "data.txt"
  · subst hpath
    simp [oneFile, htop]
  · simp [oneFile, hpath, Ne.symm hpath]

/-- Publishes `DataPod` `pod` from the cache. -/
def publishPod (pod : String) : NodePublishVolumeRequest :=
  ⟨"pvc-" ++ pod, "/" ++ pod, none, false, sampleContext pod "cache"⟩

/-- The request names a `DataPod` that has the path `path` and is bound to the `DataNode` that
the request names. -/
def NamesPod (request : NodePublishVolumeRequest) (past : List (Event signature))
    (keys : DataMountKeys) (path : String) : Prop :=
  dataMountKeys request.volumeContext = .ok keys ∧ ∃ pod,
    Saw past (.kube (.getDataPod keys.dataPodNamespace keys.dataPodName)) (Except.ok pod) ∧
    pod.spec.path = some path ∧ pod.spec.dataNodeRef.map Ref.name = some keys.dataNodeName

/-- Neither path lies below the other. -/
def Unrelated (path₁ path₂ : String) : Prop :=
  ¬ path₁.toList <+: path₂.toList ∧ ¬ path₂.toList <+: path₁.toList

/-- Two `DataPod`s with paths of their own, and one file that both volumes show. -/
theorem not_isolated_by_path :
    ¬ ∀ (Obj σ : Type) (resolve : Operator → String → Option Obj)
      (R : σ → (c : Call) → c.Reply → σ → Prop)
      (request₁ request₂ : NodePublishVolumeRequest) (s₁ s₁' s₂ s₂' : σ)
      (past₁ past₂ : List (Event signature)) (keys₁ keys₂ : DataMountKeys)
      (path₁ path₂ : String),
      (∀ s c a s', R s c a s' → ListsRoot resolve c a) →
      Prog.Exec (S := signature) R (nodePublishVolume request₁) s₁ past₁ (.pure ()) s₁' →
      Prog.Exec (S := signature) R (nodePublishVolume request₂) s₂ past₂ (.pure ()) s₂' →
      NamesPod request₁ past₁ keys₁ path₁ → NamesPod request₂ past₂ keys₂ path₂ →
      keys₁.dataNodeName = keys₂.dataNodeName →
      keys₁.dataNodeNamespace = keys₂.dataNodeNamespace → Unrelated path₁ path₂ →
      Disjoint (reachable resolve past₁) (reachable resolve past₂) := by
  intro claim
  obtain ⟨past₁, past₂, keys₁, keys₂, s₁, s₂, h₁, h₂, hpod₁, hpod₂, hname, hns, hread₁, hread₂⟩ :
      ∃ past₁ past₂ keys₁ keys₂ s₁ s₂,
        (nodePublishVolume (publishPod "a")).follow serveOneFile 40 .init =
          some (past₁, .pure (), s₁) ∧
        (nodePublishVolume (publishPod "b")).follow serveOneFile 40 s₁ =
          some (past₂, .pure (), s₂) ∧
        NamesPod (publishPod "a") past₁ keys₁ "/a" ∧ NamesPod (publishPod "b") past₂ keys₂ "/b" ∧
        keys₁.dataNodeName = keys₂.dataNodeName ∧
        keys₁.dataNodeNamespace = keys₂.dataNodeNamespace ∧
        () ∈ reachable oneFile past₁ ∧ () ∈ reachable oneFile past₂ := by
    refine ⟨_, _, _, _, _, _, rfl, rfl, ⟨rfl, _, .tail _ (.head _), rfl, rfl⟩,
      ⟨rfl, _, .tail _ (.head _), rfl, rfl⟩, rfl, rfl, ?_, ?_⟩
    · exact .inr ⟨⟨_, .head _⟩, _, "data.txt", .head _, rfl⟩
    · exact .inr ⟨⟨_, .head _⟩, _, "data.txt", .head _, rfl⟩
  have run₁ := Prog.exec_of_follow
    (R := fun s c a s' => serveOneFile s c = some (a, s')) (fun _ _ _ _ h => h) h₁
  have run₂ := Prog.exec_of_follow
    (R := fun s c a s' => serveOneFile s c = some (a, s')) (fun _ _ _ _ h => h) h₂
  have hpaths : Unrelated "/a" "/b" := ⟨by decide, by decide⟩
  have isolated := claim Unit NodeState oneFile _ _ _ _ _ _ _ _ _ keys₁ keys₂ "/a" "/b"
    serveOneFile_lists run₁ run₂ hpod₁ hpod₂ hname hns hpaths
  exact Set.disjoint_left.mp isolated hread₁ hread₂

/-- One volume over FUSE and one from the cache. -/
theorem isolated_iff_of_two_pods : ∃ (past₁ past₂ : List (Event signature))
    (operator₁ operator₂ : Operator), operator₁ ∈ builds past₁ ∧ operator₂ ∈ builds past₂ ∧
      (Disjoint (reachable oneFile past₁) (reachable oneFile past₂) ↔
        Disjoint (visible oneFile .fuse operator₁) (visible oneFile .cached operator₂)) := by
  obtain ⟨past₁, past₂, keys₁, keys₂, s₁, s₂, operator₁, operator₂, h₁, h₂, hkeys₁, hkeys₂,
      hmode₁, hmode₂, hbuilt₁, hbuilt₂⟩ :
      ∃ past₁ past₂ keys₁ keys₂ s₁ s₂ operator₁ operator₂,
        (nodePublishVolume ⟨"v", "/v", none, false, sampleContext "a" "fuse"⟩).follow
          serveOneFile 40 .init = some (past₁, .pure (), s₁) ∧
        (nodePublishVolume (publishPod "b")).follow serveOneFile 40 s₁ =
          some (past₂, .pure (), s₂) ∧
        dataMountKeys (sampleContext "a" "fuse") = .ok keys₁ ∧
        dataMountKeys (sampleContext "b" "cache") = .ok keys₂ ∧
        (modes keys₁.mountMode).1 = .fuse ∧ (modes keys₂.mountMode).1 = .cached ∧
        operator₁ ∈ builds past₁ ∧ operator₂ ∈ builds past₂ :=
    ⟨_, _, _, _, _, _, _, _, rfl, rfl, rfl, rfl, rfl, rfl, .head _, .head _⟩
  have run₁ := Prog.exec_of_follow
    (R := fun s c a s' => serveOneFile s c = some (a, s')) (fun _ _ _ _ h => h) h₁
  have run₂ := Prog.exec_of_follow
    (R := fun s c a s' => serveOneFile s c = some (a, s')) (fun _ _ _ _ h => h) h₂
  have h := (isolated_iff serveOneFile_lists run₁ run₂ hkeys₁ hkeys₂ hbuilt₁ hbuilt₂).1
  rw [hmode₁, hmode₂] at h
  exact ⟨past₁, past₂, operator₁, operator₂, hbuilt₁, hbuilt₂, h⟩

end Kubedal
