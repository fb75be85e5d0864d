import Kubedal.Services.CacheStale

/-!
# Live mounts of a cached volume

All targets of a cached volume show one directory, and its files are copied in place.

* `CacheState.visible` are the files that a target path shows;
* `failing_publish_harmless_iff`: no publish that fails can change the files at another target of
  the volume exactly when there is nothing in the storage to overwrite them with.
-/

namespace Kubedal

open Interaction Kube Resource FileTree

namespace CacheState

/-- The files at a target path, by their path from there. -/
def visible (s : CacheState) (target : String) (p : TreePath) : Option ByteArray :=
  match s.node.mountsOn target with
  | ⟨_, _, .bind path, _⟩ :: _ => s.disk.files.fileAt (components path ++ p)
  | _ => none

/-- The volume is mounted from its cache directory at `target`. -/
structure PublishedAt (volumeId target : String) (s : CacheState) : Prop where
  checked : checkPath volumeId target = .ok ()
  bound : ∃ k rest, s.node.mountsOn target = k :: rest ∧ k.source = .bind (joinPath "/mnt" volumeId)
  cached : s.disk.files.node (cacheDir volumeId) = some .dir
  there : s.disk.files.node (components target) ≠ none

/-- Every file in the root of the storage cannot be copied, since a directory is in its place,
or is empty there and in the cache directory. -/
def NothingToOverwrite (volumeId : String) (s : CacheState) : Prop :=
  ∀ name bytes, s.source.tree.fileAt [name] = some bytes →
    s.disk.files.node (cacheDir volumeId ++ [name]) = some .dir ∨
      bytes = ByteArray.empty ∧
        s.disk.files.fileAt (cacheDir volumeId ++ [name]) = some ByteArray.empty

end CacheState

/-- No publish of the volume that fails changes what is visible at `target`. -/
def FailingHarmless (volumeId target : String) (s : CacheState) : Prop :=
  ∀ (r : NodePublishVolumeRequest) τ q e s', r.volumeId = volumeId →
    Prog.Exec CacheState.Answers (nodePublishVolume r) s τ q s' →
    q.outcome = some (.error e) → ∀ p, s'.visible target p = s.visible target p

/-! ## When nothing can be overwritten -/

namespace Disk

variable {source : DataSource} {dir : TreePath} {d d' d'' : Disk}

/-- The same files, and no directory less. -/
structure SameFiles (d d' : Disk) : Prop where
  files : ∀ p, d'.files.fileAt p = d.files.fileAt p
  dirs : ∀ p, d.files.node p = some .dir → d'.files.node p = some .dir

lemma SameFiles.refl : SameFiles d d := ⟨fun _ => rfl, fun _ h => h⟩

lemma SameFiles.change (h : SameFiles d d')
    (nothing : ∀ name bytes, source.tree.fileAt [name] = some bytes →
      d.files.node (dir ++ [name]) = some .dir ∨
        bytes = ByteArray.empty ∧ d.files.fileAt (dir ++ [name]) = some ByteArray.empty)
    (changed : Change source dir d' d'') : SameFiles d d'' := by
  cases changed with
  | dirs can =>
    refine ⟨fun p => ?_, fun p hp => FileSystem.node_makeDirs_dir (h.dirs p hp)⟩
    rw [← h.files p]
    exact FileSystem.fileAt_makeDirs can
  | @file name bytes part rest sourced parts can =>
    refine ⟨fun p => ?_, fun p hp => FileSystem.node_write_dir (h.dirs p hp)⟩
    rcases nothing name bytes sourced with hdir | ⟨rfl, hempty⟩
    · exact absurd (FileSystem.isDir_iff.mpr (h.dirs _ hdir)) can.2.2
    · -- an empty file is written over an empty file
      have hpart : part = ByteArray.empty := (ByteArray.append_eq_empty_iff.mp parts).1
      by_cases hp : p = dir ++ [name]
      · rw [hp, hempty, hpart]
        exact FileSystem.fileAt_write_self can
      · rw [← h.files p]
        exact FileSystem.fileAt_write_of_ne hp

end Disk

section
variable {volumeId target : String} {s : CacheState}

lemma sameFiles_of_changes (nothing : s.NothingToOverwrite volumeId) {d : Disk}
    (changes : Disk.Changes s.source (cacheDir volumeId) s.disk d) : s.disk.SameFiles d := by
  induction changes with
  | refl => exact .refl
  | tail _ changed ih => exact ih.change nothing changed

lemma harmless_of_nothing (nothing : s.NothingToOverwrite volumeId) :
    FailingHarmless volumeId target s := by
  rintro r τ q e s' rfl run hq p
  obtain ⟨_, changes, hnode⟩ := nodePublishVolume_ensures r _ _ _ _ run hq
  have same : s.disk.SameFiles s'.disk := sameFiles_of_changes nothing changes
  have hnode' : s'.node = s.node := hnode
  unfold CacheState.visible
  rw [hnode']
  split
  · exact same.files _
  · rfl

end

/-! ## When something can be overwritten -/

section
variable {s : CacheState}

lemma reaches_ensureDirectory {path message : String}
    (there : s.disk.files.node (components path) ≠ none) :
    (ensureDirectory path message).Reaches CacheState.Answers s (.ok ()) s := by
  have answered : s.Answers (.host (.pathExists path)) true s := by
    refine ⟨rfl, ⟨?_, rfl⟩, trivial, rfl⟩
    exact (Option.isSome_iff_ne_none.mpr there).symm
  exact (Prog.reaches_perform answered).andThen (Prog.reaches_pure ())

/-- A publish of the sample pod gets to its mount. -/
lemma reaches_prepareMount (volumeId target : String) :
    (prepareMount ⟨volumeId, target, none, false, sampleContext "p" "cache"⟩).Reaches
      CacheState.Answers s
      (.ok ⟨volumeId, target, none, ⟨.http, ∅⟩, .cached, .readOnly⟩) s := by
  obtain ⟨τ, hfollow⟩ : ∃ τ,
      (prepareMount ⟨volumeId, target, none, false, sampleContext "p" "cache"⟩).follow
        CacheState.sampleServe 20 s =
          some (τ, .pure ⟨volumeId, target, none, ⟨.http, ∅⟩, .cached, .readOnly⟩, s) := ⟨_, rfl⟩
  exact ⟨τ, _, Prog.exec_of_follow CacheState.answers_of_sampleServe hfollow, rfl⟩

section
variable {m : Mount} {name : String} {bytes : ByteArray}

lemma answers_createFile (named : IsName name)
    (can : s.disk.files.CanWrite (cacheDir m.volumeId ++ [name])) :
    s.Answers (.host (.createFile (joinPath m.cachePath name))) (Except.ok ())
      { s with disk := s.disk.put (cacheDir m.volumeId ++ [name]) ByteArray.empty } := by
  have hpath : components (joinPath m.cachePath name) = cacheDir m.volumeId ++ [name] :=
    components_joinPath_name named
  refine ⟨rfl, ?_, trivial, rfl⟩
  show s.disk.files.CanWrite (components _) ∧ _ = s.disk.put (components _) ByteArray.empty
  rw [hpath]
  exact ⟨can, rfl⟩

/-- The file is created, and then the reader cannot be opened. -/
lemma reaches_truncated (named : IsName name)
    (can : s.disk.files.CanWrite (cacheDir m.volumeId ++ [name])) :
    ∃ e, (m.copyEntry ⟨name, .file⟩).Reaches CacheState.Answers s (.error e)
      { s with disk := s.disk.put (cacheDir m.volumeId ++ [name]) ByteArray.empty } := by
  have created := answers_createFile (m := m) named can
  have failed : CacheState.Answers
      { s with disk := s.disk.put (cacheDir m.volumeId ++ [name]) ByteArray.empty }
      (.opendal (.reader m.operator name)) (Except.error "connection reset")
      { s with disk := s.disk.put (cacheDir m.volumeId ++ [name]) ByteArray.empty } :=
    ⟨rfl, rfl, trivial, rfl⟩
  refine ⟨.error (.internal ("Failed to open file reader: " ++ "connection reset")), ?_⟩
  refine (Prog.reaches_perform created).andThen ((Prog.reaches_pure ()).andThen ?_)
  refine (Prog.reaches_perform failed).andThen ?_
  exact (Prog.reaches_throw _).bind_error _

/-- All bytes are written, and then the stream fails. -/
lemma reaches_overwritten (named : IsName name)
    (can : s.disk.files.CanWrite (cacheDir m.volumeId ++ [name]))
    (sourced : s.source.tree.fileAt [name] = some bytes) :
    ∃ e, (m.copyEntry ⟨name, .file⟩).Reaches CacheState.Answers s (.error e)
      { s with disk := s.disk.put (cacheDir m.volumeId ++ [name]) bytes } := by
  have hpath : components (joinPath m.cachePath name) = cacheDir m.volumeId ++ [name] :=
    components_joinPath_name named
  have created := answers_createFile (m := m) named can
  have opened : CacheState.Answers
      { s with disk := s.disk.put (cacheDir m.volumeId ++ [name]) ByteArray.empty }
      (.opendal (.reader m.operator name)) (Except.ok ())
      { s with disk := s.disk.put (cacheDir m.volumeId ++ [name]) ByteArray.empty } :=
    ⟨rfl, rfl, trivial, rfl⟩
  have streamed : CacheState.Answers
      { s with disk := s.disk.put (cacheDir m.volumeId ++ [name]) ByteArray.empty }
      (.opendal (.intoBytesStream m.operator name))
      (Except.ok (⟨[bytes], some ⟨.unknown, "connection reset"⟩⟩ : ByteStream))
      { s with disk := s.disk.put (cacheDir m.volumeId ++ [name]) ByteArray.empty } := by
    refine ⟨rfl, rfl, fun bytes' hbytes => ⟨ByteArray.empty, ?_, fun h => by cases h⟩, rfl⟩
    rw [components_name named] at hbytes
    cases sourced.symm.trans hbytes
    rw [ByteArray.append_empty]
    exact ByteArray.empty_append
  have written : CacheState.Answers
      { s with disk := s.disk.put (cacheDir m.volumeId ++ [name]) ByteArray.empty }
      (.host (.writeAll (joinPath m.cachePath name) bytes)) (Except.ok ())
      { s with disk := s.disk.put (cacheDir m.volumeId ++ [name]) bytes } := by
    refine ⟨rfl, ⟨ByteArray.empty, ?_, ?_⟩, trivial, rfl⟩
    · rw [hpath]
      exact FileSystem.fileAt_write_self can
    · simp [Disk.put, hpath, FileSystem.write_write]
  refine ⟨.error (.ofIoError ⟨.unknown, "connection reset"⟩), ?_⟩
  refine (Prog.reaches_perform created).andThen ((Prog.reaches_pure ()).andThen ?_)
  refine (Prog.reaches_perform opened).andThen ?_
  refine (Prog.reaches_pure ()).andThen ((Prog.reaches_perform streamed).andThen ?_)
  refine (Prog.reaches_pure _).andThen ((Prog.reaches_perform written).andThen ?_)
  exact (Prog.reaches_pure ()).andThen (Prog.reaches_throw _)

end

/-- A publish fails with the first entry of the listing, whatever entry of the root that is. -/
lemma reaches_publish {volumeId target name : String} {e : Fault Status} {d : Disk}
    (published : s.PublishedAt volumeId target) (hname : name ∈ s.source.children)
    (copied : ((⟨volumeId, target, none, ⟨.http, ∅⟩, .cached, .readOnly⟩ : Mount).copyEntry
      (s.source.entry name)).Reaches CacheState.Answers s (.error e) { s with disk := d }) :
    ∃ r : NodePublishVolumeRequest, r.volumeId = volumeId ∧
      (nodePublishVolume r).Reaches CacheState.Answers s (.error e) { s with disk := d } := by
  let m : Mount := ⟨volumeId, target, none, ⟨.http, ∅⟩, .cached, .readOnly⟩
  refine ⟨⟨volumeId, target, none, false, sampleContext "p" "cache"⟩, rfl, ?_⟩
  have works : s.Answers (.opendal (.check m.operator)) (Except.ok ()) s :=
    ⟨rfl, rfl, trivial, rfl⟩
  have listed : s.Answers (.opendal (.list m.operator ""))
      (Except.ok ((name :: s.source.children.erase name).map s.source.entry)) s :=
    ⟨rfl, rfl, fun _ => ⟨_, (List.perm_cons_erase hname).symm, rfl⟩, rfl⟩
  have there : s.disk.files.node (cacheDir volumeId) ≠ none := by
    rw [published.cached]
    simp
  have mountFails : m.mount.Reaches CacheState.Answers s (.error e) { s with disk := d } := by
    unfold Mount.mount
    refine (Prog.reaches_perform works).andThen ((Prog.reaches_pure ()).andThen ?_)
    refine (reaches_ensureDirectory published.there).andThen ?_
    apply Prog.Reaches.bind_error
    unfold Mount.mountCached
    refine (reaches_ensureDirectory there).andThen ((Prog.reaches_perform listed).andThen ?_)
    refine (Prog.reaches_pure _).andThen (Prog.Reaches.bind_error ?_ _)
    exact copied.bind_error _
  unfold nodePublishVolume
  rw [published.checked]
  refine (Prog.reaches_pure ()).andThen ((reaches_prepareMount volumeId target).andThen ?_)
  exact mountFails.bind_error _

end

/-! ## Live mounts -/

section
variable {volumeId target : String} {s : CacheState}

/-- The target shows the cache directory, whatever is on the disk. -/
lemma CacheState.PublishedAt.visible (published : s.PublishedAt volumeId target) (d : Disk)
    (p : TreePath) :
    CacheState.visible { s with disk := d } target p = d.files.fileAt (cacheDir volumeId ++ p) := by
  obtain ⟨⟨id, target', source, readOnly⟩, rest, hmounts, hsource⟩ := published.bound
  obtain rfl : source = .bind (joinPath "/mnt" volumeId) := hsource
  unfold CacheState.visible
  rw [hmounts]
  rfl

lemma nothing_of_harmless (published : s.PublishedAt volumeId target)
    (harmless : FailingHarmless volumeId target s) : s.NothingToOverwrite volumeId := by
  intro name bytes sourced
  by_cases hdir : s.disk.files.node (cacheDir volumeId ++ [name]) = some .dir
  · exact .inl hdir
  right
  have hnode := FileSystem.fileAt_eq_some.mp sourced
  have hname : name ∈ s.source.children := s.source.listed name (by simp [hnode])
  have named : IsName name := s.source.named name hname
  have can : s.disk.files.CanWrite (cacheDir volumeId ++ [name]) :=
    FileSystem.canWrite_child published.cached hdir
  have hentry : s.source.entry name = ⟨name, .file⟩ := by simp [DataSource.entry, hnode]
  -- what a publish leaves that fails in the copy of the file was there before
  have left : ∀ content, (∃ e, ((⟨volumeId, target, none, ⟨.http, ∅⟩, .cached, .readOnly⟩ :
      Mount).copyEntry ⟨name, .file⟩).Reaches CacheState.Answers s (.error e)
        { s with disk := s.disk.put (cacheDir volumeId ++ [name]) content }) →
      s.disk.files.fileAt (cacheDir volumeId ++ [name]) = some content := by
    rintro content ⟨e, copied⟩
    rw [← hentry] at copied
    obtain ⟨r, hr, τ, q, run, hq⟩ := reaches_publish published hname copied
    have same := harmless r τ q e _ hr run hq [name]
    rw [published.visible, published.visible s.disk] at same
    rw [← same]
    exact FileSystem.fileAt_write_self can
  have hempty := left ByteArray.empty (reaches_truncated named can)
  have hbytes := left bytes (reaches_overwritten named can sourced)
  exact ⟨Option.some.inj (hbytes.symm.trans hempty), hempty⟩

/-- No publish that fails damages a live mount of the volume exactly when every file that could
be copied into the cache directory is empty, and there already. -/
theorem failing_publish_harmless_iff (published : s.PublishedAt volumeId target) :
    FailingHarmless volumeId target s ↔ s.NothingToOverwrite volumeId :=
  ⟨nothing_of_harmless published, harmless_of_nothing⟩

end

/-! ## A volume with a file in it -/

lemma singleFile_fileAt {name : String} {bytes content : ByteArray}
    (h : (singleFile bytes).tree.fileAt [name] = some content) : name = "a" ∧ content = bytes := by
  have can : (FileSystem.empty : FileSystem ByteArray).CanWrite ["a"] := by decide
  by_cases hname : name = "a"
  · subst hname
    have hfile : (singleFile bytes).tree.fileAt ["a"] = some bytes :=
      FileSystem.fileAt_write_self can
    exact ⟨rfl, Option.some.inj (h.symm.trans hfile)⟩
  · have hne : [name] ≠ ["a"] := by simpa using hname
    have hfile : (singleFile bytes).tree.fileAt [name] = none := by
      show (FileSystem.empty.write ["a"] bytes).fileAt [name] = none
      rw [FileSystem.fileAt_write_of_ne hne]
      rfl
    rw [hfile] at h
    cases h

/-- The volume is published, and its file is visible. -/
lemma published_session (bytes : ByteArray)
    (h : (publishCached "v" "/t").program.followsTo CacheState.sampleServe 60
      (.init (singleFile bytes)) (fun _ s =>
        decide ((s.node.mountsOn "/t").map KernelMount.source =
          [MountSource.bind (joinPath "/mnt" "v")]) &&
        s.disk.files.isDir (cacheDir "v") && s.disk.files.isDir (components "/t") &&
        decide (s.disk.files.fileAt (cacheDir "v" ++ ["a"]) = some bytes))) :
    ∃ (turns : CacheTurns) (s : CacheState),
      cacheService.Session (.init (singleFile bytes)) turns s ∧ s.PublishedAt "v" "/t" ∧
        s.source = singleFile bytes ∧ s.visible "/t" ["a"] = some bytes := by
  obtain ⟨τ, q, result, s, run, hq, hcheck⟩ :=
    Prog.exec_of_followsTo CacheState.answers_of_sampleServe h
  simp only [Bool.and_eq_true, decide_eq_true_eq, FileSystem.isDir_iff] at hcheck
  obtain ⟨⟨⟨hmounts, hcache⟩, htarget⟩, hfile⟩ := hcheck
  obtain ⟨hsource, _, _⟩ := nodePublishVolume_ensures _ _ _ _ _ run hq
  obtain ⟨k, rest, hkernel, hk, _⟩ := List.map_eq_cons_iff.mp hmounts
  have published : s.PublishedAt "v" "/t" :=
    ⟨rfl, ⟨k, rest, hkernel, hk⟩, hcache, by simp [htarget]⟩
  have takes : cacheService.Takes (.init (singleFile bytes))
      (.handled ⟨publishCached "v" "/t", τ, result⟩) s := .handle run hq
  refine ⟨_, s, Service.Session.start.turn takes, published, hsource, ?_⟩
  exact (published.visible s.disk ["a"]).trans hfile

/-- The file has a byte, so it can be lost. -/
lemma file_published : ∃ (turns : CacheTurns) (s : CacheState),
    cacheService.Session (.init fileSource) turns s ∧ s.PublishedAt "v" "/t" ∧
      s.visible "/t" ["a"] = some ⟨#[1]⟩ ∧ ¬ s.NothingToOverwrite "v" := by
  obtain ⟨turns, s, session, published, hsource, hvisible⟩ :=
    published_session ⟨#[1]⟩ (by decide +kernel)
  refine ⟨turns, s, session, published, hvisible, fun nothing => ?_⟩
  have hfile : s.source.tree.fileAt ["a"] = some ⟨#[1]⟩ := by
    rw [hsource]
    decide
  have hcached := (published.visible s.disk ["a"]).symm.trans hvisible
  rcases nothing "a" _ hfile with hdir | ⟨hempty, _⟩
  · rw [FileSystem.fileAt_of_dir hdir] at hcached
    cases hcached
  · exact absurd hempty (by decide)

/-- The file is empty, so there is nothing in it to lose. -/
lemma emptyFile_published : ∃ (turns : CacheTurns) (s : CacheState),
    cacheService.Session (.init (singleFile ByteArray.empty)) turns s ∧ s.PublishedAt "v" "/t" ∧
      s.visible "/t" ["a"] = some ByteArray.empty ∧ s.NothingToOverwrite "v" := by
  obtain ⟨turns, s, session, published, hsource, hvisible⟩ :=
    published_session ByteArray.empty (by decide +kernel)
  refine ⟨turns, s, session, published, hvisible, fun name bytes sourced => ?_⟩
  rw [hsource] at sourced
  obtain ⟨rfl, rfl⟩ := singleFile_fileAt sourced
  exact .inr ⟨rfl, (published.visible s.disk ["a"]).symm.trans hvisible⟩

theorem failing_publish_damages : ¬ ∀ (source : DataSource) (turns : CacheTurns) (s : CacheState)
    (volumeId target : String), cacheService.Session (.init source) turns s →
      s.PublishedAt volumeId target → FailingHarmless volumeId target s := by
  intro claim
  obtain ⟨turns, s, session, published, _, something⟩ := file_published
  exact something (nothing_of_harmless published (claim _ _ _ _ _ session published))

/-- A file with a byte is in danger, an empty one is not. -/
theorem failing_publish_harmless_iff_samples :
    (∃ (turns : CacheTurns) (s : CacheState),
      cacheService.Session (.init (singleFile ByteArray.empty)) turns s ∧
        s.PublishedAt "v" "/t" ∧ s.visible "/t" ["a"] = some ByteArray.empty ∧
        s.NothingToOverwrite "v" ∧ FailingHarmless "v" "/t" s) ∧
    ∃ (turns : CacheTurns) (s : CacheState), cacheService.Session (.init fileSource) turns s ∧
      s.PublishedAt "v" "/t" ∧ s.visible "/t" ["a"] = some ⟨#[1]⟩ ∧
      ¬ s.NothingToOverwrite "v" ∧ ¬ FailingHarmless "v" "/t" s := by
  constructor
  · obtain ⟨turns, s, session, published, hvisible, nothing⟩ := emptyFile_published
    have same := failing_publish_harmless_iff published
    exact ⟨turns, s, session, published, hvisible, nothing, same.mpr nothing⟩
  · obtain ⟨turns, s, session, published, hvisible, something⟩ := file_published
    have same := failing_publish_harmless_iff published
    exact ⟨turns, s, session, published, hvisible, something,
      fun harmless => something (same.mp harmless)⟩

end Kubedal
