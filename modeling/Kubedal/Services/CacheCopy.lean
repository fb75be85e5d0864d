import Kubedal.Services.CacheFiles
import Kubedal.Services.NodeRestart

/-!
# What a cached mount holds

The listing that is copied is not recursive, so only the children of the root get into the cache
directory.

* `Mount.CompleteCopy` is a mount with all files and directories of the storage;
* `cached_mount_complete_iff`: a cached mount is one exactly when what lies below the directories
  of the root is in the cache directory already;
* `cached_mount_complete_iff_flat`: with an empty cache directory these are the storage trees
  whose directories are empty.
-/

namespace Kubedal

open Interaction Kube Resource FileTree

/-! ## What the copy loop leaves -/

namespace Disk

variable {source : DataSource} {dir q : TreePath} {d d' : Disk} {name : String}
  {names : List String}

/-- Nothing can be copied into what is not a directory. -/
lemma Stored.dir_there (h : Stored source dir d name d') (there : d.files.node dir ≠ none) :
    d.files.node dir = some .dir := by
  unfold Stored at h
  split at h
  · have hparent := FileSystem.isDir_iff.mp h.1.2.1
    rwa [List.dropLast_concat] at hparent
  · by_cases hnone : d.files.node (dir ++ [name]) = none
    · -- no file is in the way
      have hfile := h.1 hnone dir (List.prefix_append _ _)
      cases hnode : d.files.node dir with
      | none => exact absurd hnode there
      | some node =>
        cases node with
        | dir => rfl
        | file bytes => simp [FileSystem.fileAt, hnode] at hfile
    · exact d.files.closed dir name hnone
  · exact h.elim

lemma Stored.node_of_ne (h : Stored source dir d name d') (there : d.files.node dir ≠ none)
    (hq : q ≠ dir ++ [name]) : d'.files.node q = d.files.node q := by
  have hdir := h.dir_there there
  unfold Stored at h
  split at h
  · obtain ⟨_, rfl⟩ := h
    exact FileSystem.node_write_of_ne hq
  · obtain ⟨_, rfl⟩ := h
    show (d.files.ensureDirs (dir ++ [name])).node q = _
    by_cases hnone : d.files.node (dir ++ [name]) = none
    · rw [FileSystem.ensureDirs_of_none hnone, FileSystem.node_makeDirs_child hdir hq]
    · rw [FileSystem.ensureDirs_of_some hnone]
  · exact h.elim

/-- A file gets the contents it has in the storage. -/
lemma Stored.node_file (h : Stored source dir d name d') {bytes : ByteArray}
    (hfile : source.tree.node [name] = some (.file bytes)) :
    d'.files.node (dir ++ [name]) = some (.file bytes) := by
  rw [Stored, hfile] at h
  obtain ⟨can, rfl⟩ := h
  exact FileSystem.node_write_self can

/-- A directory is made unless something is in its place. -/
lemma Stored.node_dir (h : Stored source dir d name d')
    (hdir : source.tree.node [name] = some .dir) :
    d'.files.node (dir ++ [name]) = some ((d.files.node (dir ++ [name])).getD .dir) := by
  rw [Stored, hdir] at h
  obtain ⟨_, rfl⟩ := h
  show (d.files.ensureDirs (dir ++ [name])).node (dir ++ [name]) = _
  cases hnode : d.files.node (dir ++ [name]) with
  | none =>
    rw [FileSystem.ensureDirs_of_none hnode, FileSystem.node_makeDirs_self, Option.getD_none]
  | some node =>
    rw [FileSystem.ensureDirs_of_some (by simp [hnode]), hnode, Option.getD_some]

lemma Stored.there (h : Stored source dir d name d') (there : d.files.node dir ≠ none) :
    d'.files.node dir ≠ none := by
  rwa [h.node_of_ne there (by simp)]

/-- The loop touches only the children of the root. -/
lemma Copied.node_of_ne (h : Copied source dir d names d') (there : d.files.node dir ≠ none)
    (hq : ∀ name ∈ names, q ≠ dir ++ [name]) : d'.files.node q = d.files.node q := by
  induction h with
  | nil => rfl
  | @cons d d₁ d' name names first rest ih =>
    have hrest : d'.files.node q = d₁.files.node q :=
      ih (first.there there) fun x hx => hq x (List.mem_cons_of_mem _ hx)
    rw [hrest, first.node_of_ne there (hq name List.mem_cons_self)]

/-- The turn of a child in the loop: it is the only one that touches its path. -/
lemma Copied.turn (h : Copied source dir d names d') (there : d.files.node dir ≠ none)
    (nodup : names.Nodup) (hname : name ∈ names) :
    ∃ d₁ d₂, Stored source dir d₁ name d₂ ∧
      d₁.files.node (dir ++ [name]) = d.files.node (dir ++ [name]) ∧
      d'.files.node (dir ++ [name]) = d₂.files.node (dir ++ [name]) := by
  induction h with
  | nil => cases hname
  | @cons d d₁ d' head names first rest ih =>
    obtain ⟨hnew, hnodup⟩ := List.nodup_cons.mp nodup
    rcases List.mem_cons.mp hname with rfl | hmem
    · refine ⟨d, d₁, first, rfl, rest.node_of_ne (first.there there) ?_⟩
      intro x hx heq
      obtain rfl : name = x := by simpa using heq
      exact hnew hx
    · obtain ⟨d₂, d₃, hstored, hbefore, hafter⟩ := ih (first.there there) hnodup hmem
      refine ⟨d₂, d₃, hstored, ?_, hafter⟩
      rw [hbefore, first.node_of_ne there]
      intro heq
      obtain rfl : name = head := by simpa using heq
      exact hnew hmem

section
variable (h : Copied source dir d names d') (there : d.files.node dir ≠ none)
  (nodup : names.Nodup) (hname : name ∈ names)
include h there nodup hname

lemma Copied.node_file {bytes : ByteArray} (hfile : source.tree.node [name] = some (.file bytes)) :
    d'.files.node (dir ++ [name]) = some (.file bytes) := by
  obtain ⟨d₁, d₂, hstored, _, hafter⟩ := h.turn there nodup hname
  rw [hafter]
  exact hstored.node_file hfile

lemma Copied.node_dir (hdir : source.tree.node [name] = some .dir) :
    d'.files.node (dir ++ [name]) = some ((d.files.node (dir ++ [name])).getD .dir) := by
  obtain ⟨d₁, d₂, hstored, hbefore, hafter⟩ := h.turn there nodup hname
  rw [hafter, hstored.node_dir hdir, hbefore]

end

end Disk

/-! ## Complete copies -/

namespace Mount

/-- The cache directory is what the target path shows, and it holds all of the storage. -/
structure CompleteCopy (m : Mount) (s : CacheState) : Prop where
  bound : ∃ k rest, s.node.mountsOn m.targetPath = k :: rest ∧ k.source = .bind m.cachePath
  copy : s.disk.files.HasCopy (cacheDir m.volumeId) s.source.tree

/-- The disk before the copy loop: the target directory and the cache directory are there. -/
def prepared (m : Mount) (s : CacheState) : Disk :=
  (s.disk.ensured (components m.targetPath)).ensured (cacheDir m.volumeId)

/-- In the cache directory there is already all that lies in the directories of the root, and
no file is in the place of one of these. -/
structure NothingMissed (m : Mount) (s : CacheState) : Prop where
  below : ∀ name p, p ≠ [] → s.source.tree.node (name :: p) ≠ none →
    (m.prepared s).files.node (cacheDir m.volumeId ++ name :: p) = s.source.tree.node (name :: p)
  noFile : ∀ name, s.source.tree.node [name] = some .dir →
    (m.prepared s).files.fileAt (cacheDir m.volumeId ++ [name]) = none

end Mount

section
variable {m m' : Mount} {s s' : CacheState} {τ : List (Event signature)}

/-- The copy that the loop makes is complete if nothing was missed by the listing. -/
lemma hasCopy_iff {names : List String} (perm : names.Perm s.source.children)
    (copied : Disk.Copied s.source (cacheDir m.volumeId) (m.prepared s) names s'.disk) :
    s'.disk.files.HasCopy (cacheDir m.volumeId) s.source.tree ↔ m.NothingMissed s := by
  have there : (m.prepared s).files.node (cacheDir m.volumeId) ≠ none :=
    FileSystem.node_ensureDirs_self
  have nodup : names.Nodup := perm.nodup_iff.mpr s.source.nodup
  -- the children of the root are what the loop runs over
  have listed : ∀ name, s.source.tree.node [name] ≠ none → name ∈ names :=
    fun name h => perm.mem_iff.mpr (s.source.listed name h)
  have below : ∀ name p, p ≠ [] → s'.disk.files.node (cacheDir m.volumeId ++ name :: p) =
      (m.prepared s).files.node (cacheDir m.volumeId ++ name :: p) := by
    intro name p hp
    apply copied.node_of_ne there
    intro x _ heq
    exact hp (List.cons.inj (List.append_cancel_left heq)).2
  constructor
  · intro copy
    refine ⟨fun name p hp hnode => ?_, fun name hdir => ?_⟩
    · rw [← below name p hp]
      exact copy (name :: p) (by simp) hnode
    · have hcopied := copy [name] (by simp) (by simp [hdir])
      rw [copied.node_dir there nodup (listed name (by simp [hdir])) hdir, hdir] at hcopied
      exact FileSystem.getD_eq_dir_iff.mp (Option.some.inj hcopied)
  · intro missed p hp hnode
    cases p with
    | nil => exact absurd rfl hp
    | cons name p =>
      by_cases hnil : p = []
      · subst hnil
        cases hsource : s.source.tree.node [name] with
        | none => exact absurd hsource hnode
        | some node =>
          cases node with
          | file bytes => exact copied.node_file there nodup (listed name hnode) hsource
          | dir =>
            rw [copied.node_dir there nodup (listed name hnode) hsource,
              FileSystem.getD_eq_dir_iff.mpr (missed.noFile name hsource)]
      · rw [below name p hnil]
        exact missed.below name p hnil hnode

/-- A cached mount that returns `Ok` shows the directory that the loop has copied into. -/
lemma completeCopy_of_run (cached : m.mountMode = .cached)
    (run : Prog.Exec CacheState.Answers m.mount s τ (.pure m') s') :
    ∃ names : List String, names.Perm s.source.children ∧
      Disk.Copied s.source (cacheDir m.volumeId) (m.prepared s) names s'.disk ∧
      (m.CompleteCopy s' ↔ s'.disk.files.HasCopy (cacheDir m.volumeId) s.source.tree) := by
  obtain ⟨hsource, _, hmounted⟩ := mount_ensures m _ _ _ (.ok m') run rfl
  obtain ⟨hnode, _, names, perm, copied⟩ := hmounted cached
  refine ⟨names, perm, copied, fun complete => ?_, fun copy => ⟨?_, by rwa [hsource]⟩⟩
  · have copy := complete.copy
    rwa [hsource] at copy
  · rw [hnode, NodeState.mountsOn_attach_self]
    exact ⟨_, _, rfl, rfl⟩

/-- A cached mount that returns `Ok` is a complete copy exactly when all that lies in the
directories of the root was in the cache directory before. -/
theorem cached_mount_complete_iff (cached : m.mountMode = .cached)
    (run : Prog.Exec CacheState.Answers m.mount s τ (.pure m') s') :
    m.CompleteCopy s' ↔ m.NothingMissed s := by
  obtain ⟨names, perm, copied, hcomplete⟩ := completeCopy_of_run cached run
  rw [hcomplete]
  exact hasCopy_iff perm copied

end

/-! ## An empty cache directory -/

/-- There is nothing in the directories of the root. -/
def DataSource.Flat (source : DataSource) : Prop :=
  ∀ name p, p ≠ [] → source.tree.node (name :: p) = none

section
variable {m m' : Mount} {s s' : CacheState} {τ : List (Event signature)}

lemma nothingMissed_iff_flat
    (fresh : ∀ p, p ≠ [] → (m.prepared s).files.node (cacheDir m.volumeId ++ p) = none) :
    m.NothingMissed s ↔ s.source.Flat := by
  constructor
  · intro missed name p hp
    by_contra hnode
    have hbelow := missed.below name p hp hnode
    rw [fresh (name :: p) (by simp)] at hbelow
    exact hnode hbelow.symm
  · intro flat
    refine ⟨fun name p hp hnode => absurd (flat name p hp) hnode, fun name _ => ?_⟩
    rw [FileSystem.fileAt, fresh [name] (by simp)]

/-- With an empty cache directory the copy is complete exactly when the directories of the root
are empty. -/
theorem cached_mount_complete_iff_flat (cached : m.mountMode = .cached)
    (run : Prog.Exec CacheState.Answers m.mount s τ (.pure m') s')
    (fresh : ∀ p, p ≠ [] → (m.prepared s).files.node (cacheDir m.volumeId ++ p) = none) :
    m.CompleteCopy s' ↔ s.source.Flat := by
  obtain ⟨names, perm, copied, hcomplete⟩ := completeCopy_of_run cached run
  rw [hcomplete, hasCopy_iff perm copied]
  exact nothingMissed_iff_flat fresh

end

/-! ## A directory with a file in it -/

/-- A file `d/f` and an empty file `e`. -/
def nestedSource : DataSource where
  tree := ((FileSystem.empty.makeDirs ["d"]).write ["d", "f"] ⟨#[1]⟩).write ["e"] ByteArray.empty
  children := ["d", "e"]
  nodup := by decide
  named := by
    intro name hname
    rcases List.mem_cons.mp hname with rfl | hname
    · exact ⟨by decide, by decide, by decide, by decide⟩
    · rw [List.mem_singleton.mp hname]
      exact ⟨by decide, by decide, by decide, by decide⟩
  listed := by
    intro name hnode
    by_contra hname
    have hd : name ≠ "d" := fun h => hname (by simp [h])
    have he : name ≠ "e" := fun h => hname (by simp [h])
    rw [FileSystem.node_write_of_ne (by simpa using he), FileSystem.node_write_of_ne (by simp),
      FileSystem.node_makeDirs, if_neg (by simpa using hd)] at hnode
    exact hnode (by simp [FileSystem.empty])

/-- An empty directory `d` and a file `e`. -/
def flatSource : DataSource where
  tree := (FileSystem.empty.makeDirs ["d"]).write ["e"] ⟨#[1]⟩
  children := nestedSource.children
  nodup := nestedSource.nodup
  named := nestedSource.named
  listed := by
    intro name hnode
    by_contra hname
    have hd : name ≠ "d" := fun h => hname (by simp [nestedSource, h])
    have he : name ≠ "e" := fun h => hname (by simp [nestedSource, h])
    rw [FileSystem.node_write_of_ne (by simpa using he), FileSystem.node_makeDirs,
      if_neg (by simpa using hd)] at hnode
    exact hnode (by simp [FileSystem.empty])

lemma flatSource_flat : flatSource.Flat := by
  intro name p hp
  have hfile : name :: p ≠ ["e"] := fun h => hp (List.cons.inj h).2
  have hdir : ¬ name :: p <+: ["d"] := by
    rw [List.cons_prefix_cons, List.prefix_nil]
    exact fun h => hp h.2
  show ((FileSystem.empty.makeDirs ["d"]).write ["e"] _).node (name :: p) = none
  rw [FileSystem.node_write_of_ne hfile, FileSystem.node_makeDirs, if_neg hdir]
  simp [FileSystem.empty]

/-- Nothing is mounted and there are no files yet. -/
def CacheState.init (source : DataSource) : CacheState := ⟨.init, ⟨.empty, []⟩, source⟩

def sampleMount : Mount := ⟨"v", "/t", none, ⟨.http, ∅⟩, .cached, .readOnly⟩

/-- A run of the mount that returns `Ok`. -/
lemma sampleMount_run (source : DataSource) (check : CacheState → Bool)
    (h : sampleMount.mount.followsTo CacheState.sampleServe 20 (.init source)
      (fun r s' => r.isOk && check s')) :
    ∃ τ m' s', Prog.Exec CacheState.Answers sampleMount.mount (.init source) τ (.pure m') s' ∧
      check s' := by
  obtain ⟨τ, q, r, s', run, hq, hboth⟩ :=
    Prog.exec_of_followsTo CacheState.answers_of_sampleServe h
  obtain ⟨hok, hcheck⟩ := Bool.and_eq_true_iff.mp hboth
  rcases r with e | m'
  · cases hok
  · rw [Prog.outcome_eq_ok_iff.mp hq] at run
    exact ⟨τ, m', s', run, hcheck⟩

/-- The mount returns `Ok`, and the file in the directory is not in the cache. -/
lemma nested_run : ∃ τ m' s', Prog.Exec CacheState.Answers sampleMount.mount (.init nestedSource) τ
    (.pure m') s' ∧ s'.source = nestedSource ∧
      s'.disk.files.node (cacheDir "v" ++ ["d", "f"]) = none := by
  obtain ⟨τ, m', s', run, hmissing⟩ := sampleMount_run nestedSource
    (fun s' => (s'.disk.files.node (cacheDir "v" ++ ["d", "f"])).isNone) (by decide +kernel)
  obtain ⟨hsource, _⟩ := mount_ensures _ _ _ _ (.ok m') run rfl
  exact ⟨τ, m', s', run, hsource, Option.isNone_iff_eq_none.mp hmissing⟩

lemma nested_incomplete {s' : CacheState} (hsource : s'.source = nestedSource)
    (hmissing : s'.disk.files.node (cacheDir "v" ++ ["d", "f"]) = none) :
    ¬ sampleMount.CompleteCopy s' := by
  intro complete
  have copy := complete.copy
  rw [hsource] at copy
  have hfile : nestedSource.tree.node ["d", "f"] = some (.file ⟨#[1]⟩) := rfl
  have hcopied := copy ["d", "f"] (by simp) (by simp [hfile])
  rw [hfile] at hcopied
  exact absurd (hmissing.symm.trans hcopied) (by simp)

/-- The mount returns `Ok` without the file in the directory. -/
theorem nested_file_missing : ¬ ∀ (m m' : Mount) (s s' : CacheState) (τ : List (Event signature)),
    m.mountMode = .cached → Prog.Exec CacheState.Answers m.mount s τ (.pure m') s' →
      m.CompleteCopy s' := by
  intro claim
  obtain ⟨τ, m', s', run, hsource, hmissing⟩ := nested_run
  exact nested_incomplete hsource hmissing (claim _ _ _ _ _ rfl run)

/-- Before the first mount the cache directory is empty. -/
lemma prepared_init_empty (source : DataSource) (p : TreePath) (hp : p ≠ []) :
    (sampleMount.prepared (.init source)).files.node (cacheDir "v" ++ p) = none := by
  have hcache : ¬ cacheDir "v" ++ p <+: cacheDir "v" := (below_append.mpr hp).not_above
  have htarget : ¬ cacheDir "v" ++ p <+: components "/t" := by
    intro h
    exact absurd ((List.prefix_append _ _).trans h) (by decide +kernel)
  show ((FileSystem.empty.ensureDirs (components "/t")).ensureDirs (cacheDir "v")).node _ = none
  rw [FileSystem.node_ensureDirs_elsewhere hcache,
    FileSystem.node_ensureDirs_elsewhere htarget]
  exact if_neg (by simp [hp])

/-- The copy of the flat storage is complete, that of the other one is not. -/
theorem cached_mount_complete_iff_samples :
    (∃ (m' : Mount) (s' : CacheState) (τ : List (Event signature)),
      Prog.Exec CacheState.Answers sampleMount.mount (.init flatSource) τ (.pure m') s' ∧
        sampleMount.CompleteCopy s' ∧ sampleMount.NothingMissed (.init flatSource)) ∧
    ∃ (m' : Mount) (s' : CacheState) (τ : List (Event signature)),
      Prog.Exec CacheState.Answers sampleMount.mount (.init nestedSource) τ (.pure m') s' ∧
        ¬ sampleMount.CompleteCopy s' ∧ ¬ sampleMount.NothingMissed (.init nestedSource) := by
  constructor
  · obtain ⟨τ, m', s', run, _⟩ :=
      sampleMount_run flatSource (fun _ => true) (by decide +kernel)
    have missed : sampleMount.NothingMissed (.init flatSource) :=
      (nothingMissed_iff_flat (prepared_init_empty flatSource)).mpr flatSource_flat
    have same := cached_mount_complete_iff rfl run
    exact ⟨m', s', τ, run, same.mpr missed, missed⟩
  · obtain ⟨τ, m', s', run, hsource, hmissing⟩ := nested_run
    have incomplete := nested_incomplete hsource hmissing
    have same := cached_mount_complete_iff rfl run
    exact ⟨m', s', τ, run, incomplete, fun missed => incomplete (same.mpr missed)⟩

end Kubedal
