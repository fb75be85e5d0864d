import Kubedal.Services.NodeMounts
import Kubedal.Utils.FileTree
import Mathlib.Logic.Relation

/-!
# The files of cached volumes

The node service with the files of its host and the storage that the volumes are copied from.

* `DataSource` is a storage tree with the listing of its root, which is not recursive;
* `Disk` are the files of the host, with a record of those that the driver has opened for
  writing;
* `CacheState.Answers` says how a call can be answered over the node, its disk and the storage;
* `Disk.Stored` and `Disk.Touched` are what copying one child of the root does to the disk.
-/

namespace Kubedal

open Interaction Kube Resource FileTree

/-! ## The storage -/

/-- `children` are what is directly in the root; one of them that is not in the tree is neither
a file nor a directory. -/
structure DataSource where
  tree : FileSystem ByteArray
  children : List String
  nodup : children.Nodup
  named : ∀ name ∈ children, IsName name
  listed : ∀ name, tree.node [name] ≠ none → name ∈ children

/-- All bytes that a stream yields. -/
def ByteStream.bytes (stream : ByteStream) : ByteArray :=
  stream.chunks.foldl (· ++ ·) ByteArray.empty

/-- The stream yields `bytes`, or a first part of them before it fails. -/
def ByteStream.Of (stream : ByteStream) (bytes : ByteArray) : Prop :=
  ∃ rest, stream.bytes ++ rest = bytes ∧ (stream.failure = none → rest = ByteArray.empty)

namespace DataSource

/-- How a child is listed. -/
def entry (source : DataSource) (name : String) : Entry :=
  match source.tree.node [name] with
  | some (.file _) => ⟨name, .file⟩
  | some .dir => ⟨name ++ "/", .dir⟩
  | none => ⟨name, .unknown⟩

/-- `Operator::list` without the recursive option: the children of the root in some order. -/
def ListAnswers (source : DataSource) (path : String) : Except String (List Entry) → Prop
  | .ok entries => path = "" →
    ∃ names : List String, names.Perm source.children ∧ entries = names.map source.entry
  | .error _ => True

def StreamAnswers (source : DataSource) (path : String) : Except String ByteStream → Prop
  | .ok stream => ∀ bytes, source.tree.fileAt (components path) = some bytes → stream.Of bytes
  | .error _ => True

/-- Any operation may fail. -/
def Answers (source : DataSource) : (c : OpendalCall) → c.Reply → Prop
  | .list _ path, a => source.ListAnswers path a
  | .intoBytesStream _ path, a => source.StreamAnswers path a
  | _, _ => True

end DataSource

/-! ## The host -/

/-- `written` are the paths that the driver has ever created a file at. -/
structure Disk where
  files : FileSystem ByteArray
  written : List TreePath

namespace Disk

/-- The file at `path` is created with `bytes`, or gets them as its new contents. -/
def put (d : Disk) (path : TreePath) (bytes : ByteArray) : Disk :=
  ⟨d.files.write path bytes, path :: d.written⟩

def ExistsAnswers (d : Disk) (path : String) (exist : Bool) (d' : Disk) : Prop :=
  exist = (d.files.node (components path)).isSome ∧ d' = d

/-- `DirBuilder` with the recursive option may fail after some of the directories. -/
def CreateDirAnswers (d : Disk) (path : String) : Except String Unit → Disk → Prop
  | .ok _, d' => d.files.CanMakeDirs (components path) ∧
    d' = { d with files := d.files.makeDirs (components path) }
  | .error _, d' => ∃ made, made <+: components path ∧ d.files.CanMakeDirs made ∧
    d' = { d with files := d.files.makeDirs made }

/-- `File::create` truncates a file that is there. -/
def CreateFileAnswers (d : Disk) (path : String) : Except IoError Unit → Disk → Prop
  | .ok _, d' => d.files.CanWrite (components path) ∧
    d' = d.put (components path) ByteArray.empty
  | .error _, d' => d' = d

/-- `Write::write_all` may fail after some of the bytes. -/
def WriteAnswers (d : Disk) (path : String) (bytes : ByteArray) :
    Except IoError Unit → Disk → Prop
  | .ok _, d' => ∃ content, d.files.fileAt (components path) = some content ∧
    d' = { d with files := d.files.write (components path) (content ++ bytes) }
  | .error _, d' => ∃ content part rest, d.files.fileAt (components path) = some content ∧
    part ++ rest = bytes ∧
    d' = { d with files := d.files.write (components path) (content ++ part) }

def HostAnswers (d : Disk) : (c : HostCall) → c.Reply → Disk → Prop
  | .pathExists path, a, d' => d.ExistsAnswers path a d'
  | .createDir path, a, d' => d.CreateDirAnswers path a d'
  | .createFile path, a, d' => d.CreateFileAnswers path a d'
  | .writeAll path bytes, a, d' => d.WriteAnswers path bytes a d'
  | _, _, d' => d' = d

def Answers (d : Disk) : (c : Call) → c.Reply → Disk → Prop
  | .host c, a, d' => d.HostAnswers c a d'
  | _, _, d' => d' = d

end Disk

/-- The storage of the volumes is one, whatever operator it is read through. The paths under
`/mnt` are not on a mount of the driver. -/
structure CacheState where
  node : NodeState
  disk : Disk
  source : DataSource

namespace CacheState

def SourceAnswers (s : CacheState) : (c : Call) → c.Reply → Prop
  | .opendal c, a => s.source.Answers c a
  | _, _ => True

/-- The storage stays as it is while a call is answered. -/
def Answers (s : CacheState) (c : Call) (a : c.Reply) (s' : CacheState) : Prop :=
  s.node.Answers c a s'.node ∧ s.disk.Answers c a s'.disk ∧ s.SourceAnswers c a ∧
    s'.source = s.source

end CacheState

/-- The directory of a cached volume. -/
def cacheDir (volumeId : String) : TreePath := components (joinPath "/mnt" volumeId)

/-! ## Paths in a directory -/

section
variable {base name path : String}

lemma exists_of_endsWith_slash (h : base.endsWith "/") : ∃ front, base = front ++ "/" := by
  have hslash : "/".toList <:+ base.toList := by
    rw [← String.endsWith_toSlice, String.Slice.endsWith_string_iff] at h
    simpa using h
  obtain ⟨front, hfront⟩ := hslash
  refine ⟨String.ofList front, String.toList_inj.mp ?_⟩
  rw [← hfront]
  simp

lemma components_joinPath (h : path.startsWith "/" = false) :
    components (joinPath base path) =
      (path.toList.splitOn '/').foldl enter (components base) := by
  rw [joinPath, if_neg (by simp [h])]
  split
  · rename_i hbase
    rcases hbase with rfl | hends
    · rw [String.empty_append]
      rfl
    · obtain ⟨front, rfl⟩ := exists_of_endsWith_slash hends
      rw [components_append, components_slash]
  · exact components_append base path

/-- The way to a joined path leads through the base. -/
lemma mem_way_joinPath {p : TreePath} (h : path.startsWith "/" = false) :
    p ∈ way (joinPath base path) ↔
      p ∈ way base ∨ p ∈ (path.toList.splitOn '/').scanl enter (components base) := by
  rw [joinPath, if_neg (by simp [h])]
  split
  · rename_i hbase
    rcases hbase with rfl | hends
    · have hroot : [] ∈ way path := List.mem_of_mem_head? List.head?_scanl
      have hbase : p ∈ way "" → p = [] := by
        intro hp
        have hway : way "" = [[], []] := rfl
        simpa [hway] using hp
      rw [String.empty_append]
      constructor
      · exact .inr
      · rintro (hp | hp)
        · rwa [hbase hp]
        · exact hp
    · obtain ⟨front, rfl⟩ := exists_of_endsWith_slash hends
      rw [mem_way_append, components_slash, mem_way_slash]
  · exact mem_way_append

lemma startsWith_slash_of_name (h : IsName name) (rest : String) :
    (name ++ rest).startsWith "/" = false := by
  apply String.startsWith_string_eq_false_iff.mpr
  rintro ⟨tail, htail⟩
  have hslash : '/' :: tail = name.toList ++ rest.toList := by simpa using htail
  cases hname : name.toList with
  | nil => exact h.ne_empty (String.toList_inj.mp hname)
  | cons c cs =>
    rw [hname, List.cons_append] at hslash
    apply h.noSlash
    rw [hname, (List.cons.inj hslash).1]
    exact List.mem_cons_self

lemma components_joinPath_name (h : IsName name) :
    components (joinPath base name) = components base ++ [name] := by
  have hrelative := startsWith_slash_of_name h ""
  rw [String.append_empty] at hrelative
  rw [components_joinPath hrelative, List.splitOn_eq_singleton h.noSlash]
  exact enter_name h _

/-- A slash at the end of a path does not matter. -/
lemma components_joinPath_slash (h : IsName name) :
    components (joinPath base (name ++ "/")) = components base ++ [name] := by
  have hlist : (name ++ "/").toList = name.toList ++ '/' :: [] := by simp
  rw [components_joinPath (startsWith_slash_of_name h "/"), hlist,
    List.splitOn_append_cons_self, List.splitOn_eq_singleton h.noSlash]
  simpa [enter] using enter_name h (components base)

end

/-! ## What copying does to the disk -/

namespace Disk

/-- The disk once the directory `p` is made, with those above it. -/
def withDirs (d : Disk) (p : TreePath) : Disk := { d with files := d.files.makeDirs p }

/-- The disk once the directory `p` is made, unless something is there. -/
def ensured (d : Disk) (p : TreePath) : Disk := { d with files := d.files.ensureDirs p }

/-- The child `name` of the root has been copied into `dir`. -/
def Stored (source : DataSource) (dir : TreePath) (d : Disk) (name : String) (d' : Disk) : Prop :=
  match source.tree.node [name] with
  | some (.file bytes) => d.files.CanWrite (dir ++ [name]) ∧ d' = d.put (dir ++ [name]) bytes
  | some .dir => (d.files.node (dir ++ [name]) = none → d.files.CanMakeDirs (dir ++ [name])) ∧
    d' = d.ensured (dir ++ [name])
  | none => False

/-- The children have been copied one after another. -/
inductive Copied (source : DataSource) (dir : TreePath) : Disk → List String → Disk → Prop where
  | nil {d : Disk} : Copied source dir d [] d
  | cons {d d₁ d' : Disk} {name : String} {names : List String}
      (first : Stored source dir d name d₁) (rest : Copied source dir d₁ names d') :
      Copied source dir d (name :: names) d'

/-- One thing that can happen to the disk while a volume is copied, also when that fails. -/
inductive Change (source : DataSource) (dir : TreePath) (d : Disk) : Disk → Prop where
  | dirs {p : TreePath} (can : d.files.CanMakeDirs p) :
      Change source dir d (d.withDirs p)
  | file {name : String} {bytes part rest : ByteArray}
      (sourced : source.tree.fileAt [name] = some bytes) (parts : part ++ rest = bytes)
      (can : d.files.CanWrite (dir ++ [name])) :
      Change source dir d (d.put (dir ++ [name]) part)

abbrev Changes (source : DataSource) (dir : TreePath) : Disk → Disk → Prop :=
  Relation.ReflTransGen (Change source dir)

section
variable {source : DataSource} {dir p : TreePath} {d d' : Disk} {name : String}
  {names : List String}

lemma changes_ensured (can : d.files.node p = none → d.files.CanMakeDirs p) :
    Changes source dir d (d.ensured p) := by
  by_cases h : d.files.node p = none
  · rw [ensured, FileSystem.ensureDirs_of_none h]
    exact .single (.dirs (can h))
  · rw [ensured, FileSystem.ensureDirs_of_some h]

lemma fileAt_ensured {q : TreePath} (can : d.files.node p = none → d.files.CanMakeDirs p) :
    (d.ensured p).files.fileAt q = d.files.fileAt q := by
  by_cases h : d.files.node p = none
  · rw [ensured, FileSystem.ensureDirs_of_none h, FileSystem.fileAt_makeDirs (can h)]
  · rw [ensured, FileSystem.ensureDirs_of_some h]

lemma Stored.changes (h : Stored source dir d name d') : Changes source dir d d' := by
  unfold Stored at h
  split at h
  · rename_i bytes hfile
    obtain ⟨can, rfl⟩ := h
    exact .single (.file (FileSystem.fileAt_eq_some.mpr hfile) ByteArray.append_empty can)
  · obtain ⟨can, rfl⟩ := h
    exact changes_ensured can
  · exact h.elim

lemma Copied.changes (h : Copied source dir d names d') : Changes source dir d d' := by
  induction h with
  | nil => exact .refl
  | cons first _ ih => exact first.changes.trans ih

end

end Disk

/-! ## Answers of single calls -/

/-- The call is answered by the API server or the storage. -/
def Call.Asks : Call → Prop
  | .kube _ => True
  | .opendal _ => True
  | _ => False

namespace CacheState

variable {s s' : CacheState}

/-- A call on the files of the host changes nothing but these. -/
lemma Answers.files {c : HostCall} {a : c.Reply} (quiet : (Call.host c).Quiet)
    (h : s.Answers (.host c) a s') : ∃ d, s.disk.HostAnswers c a d ∧ s' = { s with disk := d } := by
  obtain ⟨hnode, hdisk, _, hsource⟩ := h
  refine ⟨s'.disk, hdisk, ?_⟩
  rw [← answers_quiet quiet hnode, ← hsource]

/-- What is asked of the API server or the storage changes nothing. -/
lemma Answers.asks {c : Call} {a : c.Reply} (asks : c.Asks) (h : s.Answers c a s') : s' = s := by
  have stays : s'.node = s.node ∧ s'.disk = s.disk := by
    rcases c with c | c | c | c | c | _ | _
    case kube => exact ⟨h.1, h.2.1⟩
    case opendal => exact ⟨h.1, h.2.1⟩
    all_goals exact asks.elim
  show s' = ⟨s.node, s.disk, s.source⟩
  rw [← stays.1, ← stays.2, ← h.2.2.2]

end CacheState

section
variable {s : CacheState} {ε : Type}

lemma ensures_files {c : HostCall} {Q : CacheState → Except (Fault ε) c.Reply → Prop}
    (h : ∀ a d, s.disk.HostAnswers c a d → Q { s with disk := d } (.ok a))
    (quiet : (Call.host c).Quiet := by trivial) :
    (host c).Ensures CacheState.Answers s Q := by
  apply Prog.ensures_perform
  intro a s' answered
  obtain ⟨d, hdisk, rfl⟩ := CacheState.Answers.files quiet answered
  exact h a d hdisk

lemma ensures_source {c : OpendalCall} {Q : CacheState → Except (Fault ε) c.Reply → Prop}
    (h : ∀ a, s.source.Answers c a → Q s (.ok a)) :
    (opendal c).Ensures CacheState.Answers s Q := by
  apply Prog.ensures_perform
  intro a s' answered
  have asked : (Call.opendal c).Asks := trivial
  obtain rfl := CacheState.Answers.asks asked answered
  exact h a answered.2.2.1

end

/-! ## The copy loop -/

section
variable {s : CacheState}

lemma ensureDirectory_ensures (path message : String) :
    (ensureDirectory path message).Ensures CacheState.Answers s fun s' r =>
      ∃ d, s' = { s with disk := d } ∧ match r with
        | .ok _ => (s.disk.files.node (components path) = none →
            s.disk.files.CanMakeDirs (components path)) ∧ d = s.disk.ensured (components path)
        | .error _ => ∃ made, s.disk.files.CanMakeDirs made ∧ d = s.disk.withDirs made := by
  unfold ensureDirectory
  apply Prog.Ensures.bind
  refine ensures_files fun exist d answered => ?_
  obtain ⟨rfl, rfl⟩ := answered
  cases hnode : s.disk.files.node (components path) with
  | some node =>
    refine Prog.ensures_pure ⟨s.disk, rfl, by simp, ?_⟩
    rw [Disk.ensured, FileSystem.ensureDirs_of_some (by simp [hnode])]
  | none =>
    apply Prog.Ensures.bind
    refine ensures_files fun reply d created => ?_
    rcases reply with e | _
    · obtain ⟨made, _, can, rfl⟩ := created
      exact Prog.ensures_throw ⟨_, rfl, made, can, rfl⟩
    · obtain ⟨can, rfl⟩ := created
      refine Prog.ensures_pure ⟨_, rfl, fun _ => can, ?_⟩
      rw [Disk.ensured, FileSystem.ensureDirs_of_none hnode]

end

lemma ByteStream.foldl_append (chunks : List ByteArray) (bytes : ByteArray) :
    chunks.foldl (· ++ ·) bytes = bytes ++ chunks.foldl (· ++ ·) ByteArray.empty := by
  induction chunks generalizing bytes with
  | nil => exact ByteArray.append_empty.symm
  | cons chunk chunks ih =>
    rw [List.foldl_cons, List.foldl_cons, ih, ih (ByteArray.empty ++ chunk),
      ByteArray.empty_append, ByteArray.append_assoc]

section
variable {s : CacheState}

/-- The chunks are appended to what the file holds, all of them unless that fails. -/
lemma writeStream_ensures {path : String} {failure : Option IoError} {chunks : List ByteArray}
    {files : FileSystem ByteArray} {content : ByteArray} (can : files.CanWrite (components path))
    (hs : s.disk.files = files.write (components path) content) :
    (Mount.writeStream path failure chunks).Ensures CacheState.Answers s fun s' r =>
      ∃ part rest, part ++ rest = chunks.foldl (· ++ ·) ByteArray.empty ∧
        s' = { s with disk := ⟨files.write (components path) (content ++ part), s.disk.written⟩ } ∧
        ∀ u, r = .ok u → rest = ByteArray.empty ∧ failure = none := by
  induction chunks generalizing s content with
  | nil =>
    have same : s = { s with disk :=
        ⟨files.write (components path) (content ++ ByteArray.empty), s.disk.written⟩ } := by
      rw [ByteArray.append_empty, ← hs]
    unfold Mount.writeStream
    cases failure with
    | none =>
      exact Prog.ensures_pure ⟨_, _, ByteArray.append_empty, same, fun _ _ => ⟨rfl, rfl⟩⟩
    | some e =>
      refine Prog.ensures_throw ⟨_, _, ByteArray.append_empty, same, fun _ h => ?_⟩
      cases h
  | cons chunk chunks ih =>
    -- the file holds what has been written to it
    have held : s.disk.files.fileAt (components path) = some content := by
      rw [hs, FileSystem.fileAt_write_self can]
    have hchunks : (chunk :: chunks).foldl (· ++ ·) ByteArray.empty =
        chunk ++ chunks.foldl (· ++ ·) ByteArray.empty := by
      rw [List.foldl_cons, ByteArray.empty_append]
      exact ByteStream.foldl_append _ _
    unfold Mount.writeStream
    apply Prog.Ensures.bind
    refine ensures_files fun reply d written => ?_
    apply Prog.Ensures.bind
    rcases reply with e | _
    · obtain ⟨content', part, rest, hcontent, parts, rfl⟩ := written
      cases held.symm.trans hcontent
      refine Prog.ensures_throw ⟨part, rest ++ chunks.foldl (· ++ ·) ByteArray.empty, ?_, ?_, ?_⟩
      · rw [hchunks, ← parts, ByteArray.append_assoc]
      · rw [hs, FileSystem.write_write]
      · intro _ h
        cases h
    · obtain ⟨content', hcontent, rfl⟩ := written
      cases held.symm.trans hcontent
      apply Prog.ensures_pure
      have hwritten : s.disk.files.write (components path) (content ++ chunk) =
          files.write (components path) (content ++ chunk) := by rw [hs, FileSystem.write_write]
      refine Prog.Ensures.mono (ih hwritten) ?_
      rintro s' r ⟨part, rest, parts, rfl, hok⟩
      refine ⟨chunk ++ part, rest, ?_, ?_, hok⟩
      · rw [hchunks, ← parts, ByteArray.append_assoc]
      · rw [ByteArray.append_assoc]

/-- What is written of a stream is a first part of the file in the storage, all of it unless
something fails. -/
lemma writeStream_of {path : String} {stream : ByteStream} {bytes : ByteArray} {d : Disk}
    (of : stream.Of bytes) (can : d.files.CanWrite (components path))
    (hs : s.disk = d.put (components path) ByteArray.empty) :
    (Mount.writeStream path stream.failure stream.chunks).Ensures CacheState.Answers s fun s' r =>
      ∃ part rest, part ++ rest = bytes ∧
        s' = { s with disk := d.put (components path) part } ∧ ∀ u, r = .ok u → part = bytes := by
  obtain ⟨unread, hbytes, hall⟩ := of
  have hfiles : s.disk.files = d.files.write (components path) ByteArray.empty := by rw [hs]; rfl
  refine Prog.Ensures.mono (writeStream_ensures can hfiles) ?_
  rintro s' r ⟨part, rest, parts, rfl, hok⟩
  refine ⟨part, rest ++ unread, ?_, ?_, fun u hu => ?_⟩
  · rw [← hbytes, ← ByteArray.append_assoc, parts]
    rfl
  · rw [ByteArray.empty_append, hs]
    rfl
  · obtain ⟨hrest, hnone⟩ := hok u hu
    rw [hrest, ByteArray.append_empty] at parts
    rw [← hbytes, hall hnone, ByteArray.append_empty]
    exact parts

/-- A child is copied, or a part of it is. -/
lemma copyEntry_ensures (m : Mount) {name : String} (named : IsName name) :
    (m.copyEntry (s.source.entry name)).Ensures CacheState.Answers s fun s' r =>
      ∃ d, s' = { s with disk := d } ∧ match r with
        | .ok _ => Disk.Stored s.source (cacheDir m.volumeId) s.disk name d
        | .error _ => Disk.Changes s.source (cacheDir m.volumeId) s.disk d := by
  unfold Mount.copyEntry DataSource.entry Disk.Stored
  cases hnode : s.source.tree.node [name] with
  | none => exact Prog.ensures_throw ⟨s.disk, rfl, .refl⟩
  | some node =>
    cases node with
    | dir =>
      have hpath : components (joinPath m.cachePath (name ++ "/")) =
          cacheDir m.volumeId ++ [name] := components_joinPath_slash named
      refine Prog.Ensures.mono (ensureDirectory_ensures _ _) ?_
      rintro s' r ⟨d, rfl, h⟩
      rw [hpath] at h
      refine ⟨d, rfl, ?_⟩
      rcases r with e | _
      · obtain ⟨made, can, rfl⟩ := h
        exact .single (.dirs can)
      · exact h
    | file bytes =>
      have hpath : components (joinPath m.cachePath name) = cacheDir m.volumeId ++ [name] :=
        components_joinPath_name named
      have sourced : s.source.tree.fileAt [name] = some bytes := FileSystem.fileAt_eq_some.mpr hnode
      apply Prog.Ensures.bind
      refine ensures_files fun reply d created => ?_
      apply Prog.Ensures.bind
      rcases reply with e | _
      · cases created
        exact Prog.ensures_throw ⟨_, rfl, .refl⟩
      · obtain ⟨can, rfl⟩ := created
        rw [hpath] at can ⊢
        -- whatever happens from here on, the old contents are gone
        have truncated : Disk.Changes s.source (cacheDir m.volumeId) s.disk
            (s.disk.put (cacheDir m.volumeId ++ [name]) ByteArray.empty) :=
          .single (.file sourced ByteArray.empty_append can)
        apply Prog.ensures_pure
        apply Prog.Ensures.bind
        refine ensures_source fun reader _ => ?_
        apply Prog.Ensures.bind
        refine ensures_orReturn (fun _ _ => ?_) fun _ _ => ⟨_, rfl, truncated⟩
        apply Prog.Ensures.bind
        refine ensures_source fun stream hstream => ?_
        apply Prog.Ensures.bind
        rcases stream with e | stream
        · exact Prog.ensures_throw ⟨_, rfl, truncated⟩
        · apply Prog.ensures_pure
          have hof : stream.Of bytes := hstream bytes (by rwa [components_name named])
          refine Prog.Ensures.mono (writeStream_of hof (hpath ▸ can) (by rw [hpath])) ?_
          rintro s' r ⟨part, rest, parts, rfl, hok⟩
          rw [hpath]
          refine ⟨_, rfl, ?_⟩
          rcases r with e | u
          · exact .single (.file sourced parts can)
          · rw [hok u rfl]
            exact ⟨can, rfl⟩

/-- The copy loop copies all children, or it fails on the way. -/
lemma copyEntries_ensures (m : Mount) {names : List String} (named : ∀ name ∈ names, IsName name) :
    (m.copyEntries (names.map s.source.entry)).Ensures CacheState.Answers s fun s' r =>
      ∃ d, s' = { s with disk := d } ∧ match r with
        | .ok _ => Disk.Copied s.source (cacheDir m.volumeId) s.disk names d
        | .error _ => Disk.Changes s.source (cacheDir m.volumeId) s.disk d := by
  induction names generalizing s with
  | nil => exact Prog.ensures_pure ⟨s.disk, rfl, .nil⟩
  | cons name names ih =>
    apply Prog.Ensures.bind
    refine Prog.Ensures.mono (copyEntry_ensures m (named name List.mem_cons_self)) ?_
    rintro s₁ r ⟨d, rfl, first⟩
    rcases r with e | _
    · exact ⟨d, rfl, first⟩
    · have named' : ∀ x ∈ names, IsName x := fun x hx => named x (List.mem_cons_of_mem _ hx)
      refine Prog.Ensures.mono (ih (s := { s with disk := d }) named') ?_
      rintro s' r ⟨d', rfl, rest⟩
      refine ⟨d', rfl, ?_⟩
      rcases r with e | _
      · exact first.changes.trans rest
      · exact .cons first rest

end

/-! ## Mounting -/

section
variable {s : CacheState}

/-- The cache directory is on the target path, with every child of the root copied into it;
before that the directories were made, which has changed no file. -/
structure Mount.CachedFrom (m : Mount) (d : Disk) (s s' : CacheState) : Prop where
  node : s'.node = s.node.attach m.targetPath (.bind m.cachePath) false
  kept : ∀ p, (d.ensured (cacheDir m.volumeId)).files.fileAt p = s.disk.files.fileAt p
  copied : ∃ names : List String, names.Perm s.source.children ∧
    Disk.Copied s.source (cacheDir m.volumeId) (d.ensured (cacheDir m.volumeId)) names s'.disk

lemma mountCached_ensures (m : Mount) :
    m.mountCached.Ensures CacheState.Answers s fun s' r =>
      s'.source = s.source ∧ Disk.Changes s.source (cacheDir m.volumeId) s.disk s'.disk ∧
        match r with
        | .ok _ => m.CachedFrom s.disk s s'
        | .error _ => s'.node = s.node := by
  unfold Mount.mountCached
  apply Prog.Ensures.bind
  refine Prog.Ensures.mono (ensureDirectory_ensures _ _) ?_
  rintro s₁ r ⟨d, rfl, hd⟩
  rcases r with e | _
  · obtain ⟨made, can, rfl⟩ := hd
    exact ⟨rfl, .single (.dirs can), rfl⟩
  obtain ⟨can, rfl⟩ := hd
  have made : Disk.Changes s.source (cacheDir m.volumeId) s.disk
    (s.disk.ensured (cacheDir m.volumeId)) := Disk.changes_ensured can
  apply Prog.Ensures.bind
  refine ensures_source fun listing hlisting => ?_
  apply Prog.Ensures.bind
  rcases listing with e | entries
  · exact Prog.ensures_throw ⟨rfl, made, rfl⟩
  apply Prog.ensures_pure
  obtain ⟨names, perm, rfl⟩ := hlisting rfl
  have named : ∀ name ∈ names, IsName name := fun name h => s.source.named name (perm.mem_iff.mp h)
  apply Prog.Ensures.bind
  refine Prog.Ensures.mono (copyEntries_ensures
    (s := { s with disk := s.disk.ensured (cacheDir m.volumeId) }) m named) ?_
  rintro s₂ r ⟨d, rfl, hd⟩
  rcases r with e | _
  · exact ⟨rfl, made.trans hd, rfl⟩
  apply Prog.Ensures.bind
  apply Prog.ensures_perform
  intro bound s' answered
  obtain ⟨hnode, hdisk, _, hsource⟩ := answered
  have changed : Disk.Changes s.source (cacheDir m.volumeId) s.disk s'.disk := by
    rw [show s'.disk = d from hdisk]
    exact made.trans hd.changes
  rcases bound with _ | ⟨e | _⟩
  · exact Prog.ensures_throw ⟨hsource, changed, hnode⟩
  · exact Prog.ensures_throw ⟨hsource, changed, hnode⟩
  · refine Prog.ensures_pure ⟨hsource, changed, hnode, fun p => Disk.fileAt_ensured can, names,
      perm, ?_⟩
    rw [show s'.disk = d from hdisk]
    exact hd

/-- A cached mount copies once the target directory is there; whatever the mode, a mount that
fails leaves the mounts as they are. -/
lemma mount_ensures (m : Mount) :
    m.mount.Ensures CacheState.Answers s fun s' r =>
      s'.source = s.source ∧ Disk.Changes s.source (cacheDir m.volumeId) s.disk s'.disk ∧
        match r with
        | .ok _ => m.mountMode = .cached →
            m.CachedFrom (s.disk.ensured (components m.targetPath)) s s'
        | .error _ => s'.node = s.node := by
  unfold Mount.mount
  apply Prog.Ensures.bind
  refine ensures_source fun checked _ => ?_
  apply Prog.Ensures.bind
  refine ensures_orReturn (fun _ _ => ?_) fun _ _ => ⟨rfl, .refl, rfl⟩
  apply Prog.Ensures.bind
  refine Prog.Ensures.mono (ensureDirectory_ensures _ _) ?_
  rintro s₁ r ⟨d, rfl, hd⟩
  rcases r with e | _
  · obtain ⟨made, can, rfl⟩ := hd
    exact ⟨rfl, .single (.dirs can), rfl⟩
  obtain ⟨can, rfl⟩ := hd
  have made : Disk.Changes s.source (cacheDir m.volumeId) s.disk
    (s.disk.ensured (components m.targetPath)) := Disk.changes_ensured can
  cases hmode : m.mountMode with
  | cached =>
    apply Prog.Ensures.bind
    refine Prog.Ensures.mono (mountCached_ensures m) ?_
    rintro s' r ⟨hsource, changed, hr⟩
    rcases r with e | _
    · exact ⟨hsource, made.trans changed, hr⟩
    · refine Prog.ensures_pure ⟨hsource, made.trans changed, fun _ => ⟨hr.node, ?_, hr.copied⟩⟩
      intro p
      rw [hr.kept p]
      exact Disk.fileAt_ensured can
  | fuse =>
    apply Prog.Ensures.bind
    apply Prog.ensures_perform
    intro reply s' answered
    obtain ⟨hnode, hdisk, _, hsource⟩ := answered
    have changed : Disk.Changes s.source (cacheDir m.volumeId) s.disk s'.disk := by
      rw [show s'.disk = s.disk.ensured (components m.targetPath) from hdisk]
      exact made
    apply Prog.Ensures.bind
    rcases reply with e | handle
    · exact Prog.ensures_throw ⟨hsource, changed, hnode⟩
    · refine Prog.ensures_pure (Prog.ensures_pure ⟨hsource, changed, fun h => ?_⟩)
      cases h

end

/-! ## A concrete environment -/

namespace CacheState

/-- Everything succeeds that can, and a file is streamed in one chunk. -/
def sampleServe (s : CacheState) : (c : Call) → Option (c.Reply × CacheState)
  | .opendal (.list _ _) => some (.ok (s.source.children.map s.source.entry), s)
  | .opendal (.intoBytesStream _ path) =>
    match s.source.tree.fileAt (components path) with
    | some bytes => some (.ok ⟨[bytes], none⟩, s)
    | none => none
  | .host (.pathExists path) => some ((s.disk.files.node (components path)).isSome, s)
  | .host (.createDir path) =>
    if s.disk.files.CanMakeDirs (components path) then
      some (.ok (), { s with disk := s.disk.withDirs (components path) })
    else none
  | .host (.createFile path) =>
    if s.disk.files.CanWrite (components path) then
      some (.ok (), { s with disk := s.disk.put (components path) ByteArray.empty })
    else none
  | .host (.writeAll path bytes) =>
    match s.disk.files.fileAt (components path) with
    | some content => some (.ok (), { s with disk :=
        { s.disk with files := s.disk.files.write (components path) (content ++ bytes) } })
    | none => none
  | c =>
    match s.node.sampleServe c with
    | some (a, node) => some (a, { s with node })
    | none => none

lemma answers_of_sampleServe (s : CacheState) (c : Call) (a : c.Reply) (s' : CacheState)
    (h : s.sampleServe c = some (a, s')) : s.Answers c a s' := by
  -- a call that the disk and the listing have no part in is answered by the node
  have atNode : (match s.node.sampleServe c with
      | some (a, node) => some (a, { s with node })
      | none => none) = some (a, s') →
      (s'.disk = s.disk → s.disk.Answers c a s'.disk) → s.SourceAnswers c a → s.Answers c a s' := by
    intro hserve hdisk hanswers
    split at hserve
    · rename_i a' node hnode
      cases hserve
      exact ⟨NodeState.answers_of_serve _ _ _ _ hnode, hdisk rfl, hanswers, rfl⟩
    · cases hserve
  rcases c with c | c | c | c | c | _ | _
  case opendal =>
    cases c
    case list =>
      cases h
      exact ⟨rfl, rfl, fun _ => ⟨_, .refl _, rfl⟩, rfl⟩
    case intoBytesStream operator path =>
      simp only [sampleServe] at h
      split at h
      · rename_i bytes hfile
        cases h
        refine ⟨rfl, rfl, fun bytes' hbytes => ⟨ByteArray.empty, ?_, fun _ => rfl⟩, rfl⟩
        cases hfile.symm.trans hbytes
        rw [ByteArray.append_empty]
        exact ByteArray.empty_append
      · cases h
    all_goals exact atNode h id trivial
  case host =>
    cases c
    case pathExists =>
      cases h
      exact ⟨rfl, ⟨rfl, rfl⟩, trivial, rfl⟩
    case createDir =>
      simp only [sampleServe] at h
      split at h
      · cases h
        exact ⟨rfl, ⟨‹_›, rfl⟩, trivial, rfl⟩
      · cases h
    case createFile =>
      simp only [sampleServe] at h
      split at h
      · cases h
        exact ⟨rfl, ⟨‹_›, rfl⟩, trivial, rfl⟩
      · cases h
    case writeAll =>
      simp only [sampleServe] at h
      split at h
      · cases h
        exact ⟨rfl, ⟨_, ‹_›, rfl⟩, trivial, rfl⟩
      · cases h
    all_goals exact atNode h id trivial
  all_goals exact atNode h id trivial

end CacheState

end Kubedal
