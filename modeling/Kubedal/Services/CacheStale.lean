import Kubedal.Services.CacheCopy

/-!
# Stale files in a cache directory

The cache directory of a volume outlives its mounts, and nothing is ever removed from it.

* `cacheService` handles requests one after another while the storage changes between them;
* `writes_in_cacheDir`: however far a request gets, it creates files directly in the cache
  directory only;
* `nothing_stale_iff`: what the driver has written is fresh after every publish exactly when every
  publish finds all that is still a file in the storage.
-/

namespace Kubedal

open Interaction Kube Resource FileTree

/-! ## The service -/

abbrev CacheTurns := List (CacheState × NodeTurn)

/-- Between two requests the storage may become any other, and the driver may be restarted, also
in mid-request. -/
def cacheService : Service signature CacheState NodeRequest (Fault Status) Unit where
  program := NodeRequest.program
  admits := fun _ _ => True
  answers := CacheState.Answers
  disturbs := fun s s' => s'.disk = s.disk ∧ (s'.node = s.node ∨ s'.node = s.node.restarted)

/-- The request is for the volume, which is mounted from the cache. -/
def NodeRequest.Caches (volumeId : String) : NodeRequest → Prop
  | .publish r => r.volumeId = volumeId ∧ r.Cached
  | .unpublish r => r.volumeId = volumeId

def OneVolume (volumeId : String) : NodeTurn → Prop
  | .handled x => x.request.Caches volumeId
  | .cutOff r _ => r.Caches volumeId
  | .disturbed => True

/-- If the turn is a publish that returns `Ok`, then `Q`. -/
def WhenPublished (Q : Prop) : NodeTurn → Prop
  | .handled ⟨.publish _, _, .ok _⟩ => Q
  | _ => True

namespace CacheState

/-- Every file in the cache directory that the driver has ever written is in the storage, with
the same bytes. -/
def NothingStale (volumeId : String) (s : CacheState) : Prop :=
  ∀ p bytes, cacheDir volumeId ++ p ∈ s.disk.written →
    s.disk.files.fileAt (cacheDir volumeId ++ p) = some bytes →
      s.source.tree.fileAt p = some bytes

/-- Every file in the cache directory that the driver has ever written is still the path of a
file in the storage, whatever its bytes. -/
def NothingRemoved (volumeId : String) (s : CacheState) : Prop :=
  ∀ p, cacheDir volumeId ++ p ∈ s.disk.written →
    s.disk.files.fileAt (cacheDir volumeId ++ p) ≠ none → s.source.tree.fileAt p ≠ none

/-- The driver has written directly in the cache directory only. -/
def WritesIn (volumeId : String) (s : CacheState) : Prop :=
  ∀ p ∈ s.disk.written, ∃ name, p = cacheDir volumeId ++ [name]

end CacheState

/-! ## Where files are created -/

/-- The call creates no file that is not directly in `dir`. -/
def Call.CreatesIn (dir : TreePath) (c : Call) : Prop :=
  ∀ path, c = .host (.createFile path) → ∃ name, components path = dir ++ [name]

/-- The path of an entry is a name, with a slash if it is a directory. -/
def Entry.Named (entry : Entry) : Prop :=
  ∃ name, IsName name ∧ (entry.path = name ∨ entry.path = name ++ "/")

def NamesListed (path : String) : Except String (List Entry) → Prop
  | .ok entries => path = "" → ∀ entry ∈ entries, entry.Named
  | .error _ => True

def Call.Names : (c : Call) → c.Reply → Prop
  | .opendal (.list _ path), a => NamesListed path a
  | _, _ => True

def createMonitor (dir : TreePath) : Monitor signature Unit where
  allows := fun _ c => c.CreatesIn dir
  assumes := fun _ c a => c.Names a
  next := fun _ _ _ => ()

lemma CacheState.Answers.names {s s' : CacheState} {c : Call} {a : c.Reply}
    (h : s.Answers c a s') : c.Names a := by
  rcases c with c | c | c | c | c | _ | _
  case opendal =>
    cases c
    case list operator path =>
      rcases a with e | entries
      · trivial
      · intro hroot entry hentry
        obtain ⟨names, perm, rfl⟩ := h.2.2.1 hroot
        obtain ⟨name, hname, rfl⟩ := List.mem_map.mp hentry
        refine ⟨name, s.source.named name (perm.mem_iff.mp hname), ?_⟩
        unfold DataSource.entry
        split
        · exact .inl rfl
        · exact .inr rfl
        · exact .inl rfl
    all_goals trivial
  all_goals trivial

section
variable {dir : TreePath}

/-- The API server and the storage create no files on the host. -/
lemma createsIn_of_ne {c : Call} (h : ∀ path, c ≠ .host (.createFile path)) : c.CreatesIn dir :=
  fun path hc => absurd hc (h path)

lemma ensureDirectory_createsIn (path message : String) :
    (ensureDirectory path message).Uses (Call.CreatesIn dir) :=
  uses_ensureDirectory message (createsIn_of_ne (by simp)) (createsIn_of_ne (by simp))

/-- The names that are listed are the names that are created. -/
lemma copyEntries_createsIn (m : Mount) {entries : List Entry}
    (named : ∀ entry ∈ entries, entry.Named) :
    (m.copyEntries entries).Uses (Call.CreatesIn (cacheDir m.volumeId)) := by
  refine uses_copyEntries m entries (fun entry hentry c copies => ?_)
    fun _ => createsIn_of_ne (by simp)
  obtain ⟨name, hname, hpath⟩ := named entry hentry
  have hcomponents : components (joinPath m.cachePath entry.path) =
      cacheDir m.volumeId ++ [name] := by
    rcases hpath with hpath | hpath
    · rw [hpath]
      exact components_joinPath_name hname
    · rw [hpath]
      exact components_joinPath_slash hname
  rintro path rfl
  cases copies
  exact ⟨name, hcomponents⟩

lemma wp_createsIn {ε α : Type} {p : Async ε α} {Q : Unit → Except (Fault ε) α → Prop}
    (hp : p.Uses (Call.CreatesIn dir)) (hQ : ∀ r, Q () r) : p.wp (createMonitor dir) () Q :=
  hp.wp (fun _ hc => hc) (fun _ _ _ => rfl) hQ

lemma mount_createsIn (m : Mount) :
    m.mount.wp (createMonitor (cacheDir m.volumeId)) () fun _ _ => True := by
  unfold Mount.mount
  refine Prog.wp_bind (wp_createsIn (uses_opendal _ (createsIn_of_ne (by simp))) fun r => ?_)
  rcases r with e | checked
  · trivial
  refine Prog.wp_bind (wp_createsIn (uses_orReturn _) fun r => ?_)
  rcases r with e | _
  · trivial
  refine Prog.wp_bind (wp_createsIn (ensureDirectory_createsIn _ _) fun r => ?_)
  rcases r with e | _
  · trivial
  cases hmode : m.mountMode with
  | fuse =>
    apply wp_createsIn
    · unfold Mount.mountFuse
      apply (uses_host _ (createsIn_of_ne (by simp))).bind
      intro reply
      exact (uses_orReturn _).bind fun _ => trivial
    · exact fun _ => trivial
  | cached =>
    apply Prog.wp_bind
    unfold Mount.mountCached
    refine Prog.wp_bind (wp_createsIn (ensureDirectory_createsIn _ _) fun r => ?_)
    rcases r with e | _
    · trivial
    apply Prog.wp_bind
    refine ⟨createsIn_of_ne (by simp), fun listing hlisting => ?_⟩
    rcases listing with e | entries
    · trivial
    refine Prog.wp_bind (wp_orReturn (fun listed hlisted => ?_) fun e he => by cases he)
    cases hlisted
    refine Prog.wp_bind (wp_createsIn (copyEntries_createsIn m (hlisting rfl)) fun r => ?_)
    rcases r with e | _
    · trivial
    refine ⟨createsIn_of_ne (by simp), fun bound _ => ?_⟩
    rcases bound with _ | ⟨e | _⟩
    all_goals trivial

end

section
variable {r : NodePublishVolumeRequest}

lemma prepareMount_createsIn (r : NodePublishVolumeRequest) :
    (prepareMount r).wp (createMonitor (cacheDir r.volumeId)) () fun _ result =>
      ∀ m, result = .ok m → m.volumeId = r.volumeId := by
  refine Prog.wp_mono (wp_prepareMount (C := Call.CreatesIn (cacheDir r.volumeId)) r
    (fun _ => createsIn_of_ne (by simp)) (fun _ => createsIn_of_ne (by simp)) (fun _ hc => hc)
    fun _ _ _ => rfl) ?_
  rintro g result ⟨_, hmade⟩ m hm
  exact (hmade m hm).1

lemma publish_createsIn (r : NodePublishVolumeRequest) :
    (nodePublishVolume r).wp (createMonitor (cacheDir r.volumeId)) () fun _ _ => True := by
  unfold nodePublishVolume
  refine Prog.wp_bind (wp_createsIn (uses_orReturn _) fun result => ?_)
  rcases result with e | _
  · trivial
  refine Prog.wp_bind (Prog.wp_mono (prepareMount_createsIn r) fun g result hm => ?_)
  rcases result with e | m
  · trivial
  have created := mount_createsIn m
  rw [hm m rfl] at created
  refine Prog.wp_bind (Prog.wp_mono created fun g result _ => ?_)
  rcases result with e | m'
  · trivial
  · exact ⟨createsIn_of_ne (by simp), fun _ _ => trivial⟩

end

/-- Only creating a file adds to the record. -/
lemma Disk.Answers.written {d d' : Disk} {c : Call} {a : c.Reply} (h : d.Answers c a d') :
    d'.written = d.written ∨
      ∃ path, c = .host (.createFile path) ∧ d'.written = components path :: d.written := by
  rcases c with c | c | c | c | c | _ | _
  case host =>
    cases c
    case pathExists =>
      obtain ⟨_, rfl⟩ := h
      exact .inl rfl
    case createDir =>
      rcases a with e | _
      · obtain ⟨_, _, _, rfl⟩ := h
        exact .inl rfl
      · obtain ⟨_, rfl⟩ := h
        exact .inl rfl
    case createFile path =>
      rcases a with e | _
      · cases h
        exact .inl rfl
      · obtain ⟨_, rfl⟩ := h
        exact .inr ⟨path, rfl, rfl⟩
    case writeAll =>
      rcases a with e | _
      · obtain ⟨_, _, _, _, _, rfl⟩ := h
        exact .inl rfl
      · obtain ⟨_, _, rfl⟩ := h
        exact .inl rfl
    all_goals exact .inl (congrArg Disk.written h)
  all_goals exact .inl (congrArg Disk.written h)

namespace CacheState.WritesIn

variable {volumeId : String} {s s' : CacheState}

lemma step (h : s.WritesIn volumeId) {c : Call} {a : c.Reply}
    (creates : c.CreatesIn (cacheDir volumeId)) (answered : s.Answers c a s') :
    s'.WritesIn volumeId := by
  intro p hp
  rcases answered.2.1.written with hsame | ⟨path, hc, hadded⟩
  · rw [hsame] at hp
    exact h p hp
  · rw [hadded] at hp
    rcases List.mem_cons.mp hp with rfl | hp
    · exact creates path hc
    · exact h p hp

/-- An unpublish creates no files. -/
lemma createsIn_of_unpublish {r : NodeUnpublishVolumeRequest} {g : MountStage} {c : Call}
    {dir : TreePath} (allowed : (NodeRequest.unpublish r).Allows g c) : c.CreatesIn dir := by
  apply createsIn_of_ne
  rintro path rfl
  cases g <;> exact allowed.elim

/-- However far a request for the volume gets, the driver has written in its cache directory. -/
lemma exec (h : s.WritesIn volumeId) {r : NodeRequest} (caches : r.Caches volumeId)
    {τ : List (Event signature)} {q : Handler Unit}
    (run : Prog.Exec CacheState.Answers r.program s τ q s') : s'.WritesIn volumeId := by
  cases r with
  | publish r =>
    obtain ⟨rfl, _⟩ := caches
    exact Prog.wp_exec_invariant (publish_createsIn r) run (fun _ _ _ _ h _ => h.names)
      (fun s _ => s.WritesIn r.volumeId)
      (fun _ _ _ _ _ _ allowed answered h => h.step allowed answered) h
  | unpublish r =>
    exact Prog.wp_exec_invariant (nodeUnpublishVolume_meets r) run (fun _ _ _ _ _ _ => trivial)
      (fun s g => g.1 = .unpublish r ∧ s.WritesIn volumeId)
      (fun s g c a s' _ allowed answered h => by
        obtain ⟨r', g⟩ := g
        obtain ⟨rfl, h⟩ := h
        exact ⟨rfl, h.step (createsIn_of_unpublish allowed) answered⟩) ⟨rfl, h⟩ |>.2

end CacheState.WritesIn

/-! ## What a publish does -/

section
variable {s : CacheState}

/-- Until it mounts, a publish only asks the API server and the storage. -/
lemma prepareMount_ensures (r : NodePublishVolumeRequest) :
    (prepareMount r).Ensures CacheState.Answers s fun s' result =>
      s' = s ∧ ∀ m, result = .ok m → m.volumeId = r.volumeId ∧ m.targetPath = r.targetPath ∧
        (r.Cached → m.mountMode = .cached) := by
  have stays : (prepareMount r).Ensures CacheState.Answers s fun s' _ => s' = s := by
    have asks : (prepareMount r).Uses Call.Asks :=
      uses_prepareMount r (fun _ => trivial) fun _ => trivial
    exact asks.ensures (fun _ _ _ _ hc answered => CacheState.Answers.asks hc answered) fun _ => rfl
  have meets := Prog.Ensures.of_wp (R := CacheState.Answers) (s := s) (prepareMount_meets r)
    fun _ _ _ _ _ _ => trivial
  have past : (prepareMount r).wp (publishMonitor r) [] _ := prepareMount_past
  have prepared := Prog.Ensures.of_wp (R := CacheState.Answers) (s := s) past
    fun _ _ _ _ _ _ => trivial
  refine Prog.Ensures.mono (stays.and (meets.and prepared)) ?_
  rintro s' result ⟨hs, ⟨_, _, hmeets⟩, past, hpast⟩
  refine ⟨hs, fun m hm => ?_⟩
  obtain ⟨hid, htarget, _⟩ := hmeets m hm
  refine ⟨hid, htarget, fun cached => ?_⟩
  obtain ⟨⟨node, hprepared⟩, _, _⟩ := hpast m hm
  obtain ⟨keys, _, hkeys, _, _, hmodes⟩ := hprepared.resolved
  have hmode : m.mountMode = (modes keys.mountMode).1 := congrArg Prod.fst hmodes
  rw [hmode]
  exact cached keys hkeys

/-- A publish for a cached volume that returns `Ok` has copied the storage; one that fails has
left the mounts as they were. -/
lemma nodePublishVolume_ensures (r : NodePublishVolumeRequest) :
    (nodePublishVolume r).Ensures CacheState.Answers s fun s' result =>
      s'.source = s.source ∧ Disk.Changes s.source (cacheDir r.volumeId) s.disk s'.disk ∧
        match result with
        | .ok _ => r.Cached → ∃ (m : Mount) (s₁ : CacheState), m.volumeId = r.volumeId ∧
            m.targetPath = r.targetPath ∧
            m.CachedFrom (s.disk.ensured (components r.targetPath)) s s₁ ∧ s'.disk = s₁.disk
        | .error _ => s'.node = s.node := by
  unfold nodePublishVolume
  apply Prog.Ensures.bind
  refine ensures_orReturn (fun _ _ => ?_) fun _ _ => ⟨rfl, .refl, rfl⟩
  apply Prog.Ensures.bind
  refine Prog.Ensures.mono (prepareMount_ensures r) ?_
  rintro _ result ⟨rfl, hm⟩
  rcases result with e | m
  · exact ⟨rfl, .refl, rfl⟩
  obtain ⟨hid, htarget, hcached⟩ := hm m rfl
  apply Prog.Ensures.bind
  refine Prog.Ensures.mono (mount_ensures m) ?_
  rintro s₁ result ⟨hsource, changed, hmounted⟩
  rw [hid] at changed
  rcases result with e | m'
  · exact ⟨hsource, changed, hmounted⟩
  apply Prog.ensures_perform
  intro _ s' answered
  obtain ⟨_, hdisk, _, hsource'⟩ := answered
  have hsame : s'.disk = s₁.disk := hdisk
  rw [hsame]
  refine ⟨hsource'.trans hsource, changed, fun cached => ⟨m, s₁, hid, htarget, ?_, rfl⟩⟩
  rw [← htarget]
  exact hmounted (hcached cached)

end

/-! ## The files that a publish leaves -/

namespace Disk

variable {source : DataSource} {dir q : TreePath} {d d' : Disk} {name : String}
  {names : List String}

lemma Stored.written (h : Stored source dir d name d') :
    q ∈ d'.written ↔ q ∈ d.written ∨ source.tree.fileAt [name] ≠ none ∧ q = dir ++ [name] := by
  unfold Stored at h
  unfold FileSystem.fileAt
  split at h
  · rename_i bytes hfile
    obtain ⟨_, rfl⟩ := h
    simp [put, hfile, or_comm]
  · rename_i hdir
    obtain ⟨_, rfl⟩ := h
    simp [ensured, hdir]
  · exact h.elim

/-- The loop writes the files among the children. -/
lemma Copied.written (h : Copied source dir d names d') :
    q ∈ d'.written ↔
      q ∈ d.written ∨ ∃ name ∈ names, source.tree.fileAt [name] ≠ none ∧ q = dir ++ [name] := by
  induction h with
  | nil => simp
  | cons first _ ih =>
    rw [ih, first.written, or_assoc]
    simp

/-- What is no file in the storage is left as it is. -/
lemma Copied.fileAt_of_none (h : Copied source dir d names d') (there : d.files.node dir ≠ none)
    (nodup : names.Nodup) (hnone : source.tree.fileAt [name] = none) :
    d'.files.fileAt (dir ++ [name]) = d.files.fileAt (dir ++ [name]) := by
  by_cases hname : name ∈ names
  · cases hnode : source.tree.node [name] with
    | none =>
      obtain ⟨d₁, d₂, hstored, _, _⟩ := h.turn there nodup hname
      rw [Stored, hnode] at hstored
      exact hstored.elim
    | some node =>
      cases node with
      | file bytes => simp [FileSystem.fileAt, hnode] at hnone
      | dir =>
        -- a file in the place of a directory stays there
        rw [FileSystem.fileAt, h.node_dir there nodup hname hnode]
        cases hthere : d.files.node (dir ++ [name]) with
        | none => simp [FileSystem.fileAt, hthere]
        | some node => simp [FileSystem.fileAt, hthere]
  · apply FileSystem.fileAt_congr
    apply h.node_of_ne there
    intro x hx heq
    obtain rfl : name = x := by simpa using heq
    exact hname hx

/-- A file of the storage has been copied. -/
lemma Copied.fileAt_of_some (h : Copied source dir d names d') (there : d.files.node dir ≠ none)
    (nodup : names.Nodup) (listed : ∀ name, source.tree.node [name] ≠ none → name ∈ names)
    {bytes : ByteArray} (hsome : source.tree.fileAt [name] = some bytes) :
    d'.files.fileAt (dir ++ [name]) = some bytes := by
  have hnode := FileSystem.fileAt_eq_some.mp hsome
  have hname : name ∈ names := listed name (by simp [hnode])
  exact FileSystem.fileAt_eq_some.mpr (h.node_file there nodup hname hnode)

end Disk

section
variable {volumeId : String} {s s₁ : CacheState} {m : Mount} {d : Disk}

/-- After a copy of the storage nothing is stale if nothing had been removed before. -/
lemma nothingStale_iff (mounted : m.CachedFrom d s s₁) (hid : m.volumeId = volumeId)
    (hwritten : d.written = s.disk.written) {s' : CacheState} (hsource : s'.source = s.source)
    (hdisk : s'.disk = s₁.disk) (writes : s'.WritesIn volumeId) :
    s'.NothingStale volumeId ↔ s.NothingRemoved volumeId := by
  subst hid
  obtain ⟨names, perm, copied⟩ := mounted.copied
  have there : (d.ensured (cacheDir m.volumeId)).files.node (cacheDir m.volumeId) ≠ none :=
    FileSystem.node_ensureDirs_self
  have nodup : names.Nodup := perm.nodup_iff.mpr s.source.nodup
  have listed : ∀ name, s.source.tree.node [name] ≠ none → name ∈ names :=
    fun name h => perm.mem_iff.mpr (s.source.listed name h)
  have hfiles := mounted.kept
  rw [← hdisk] at copied
  have hrecord : ∀ q, q ∈ (d.ensured (cacheDir m.volumeId)).written ↔ q ∈ s.disk.written := by
    intro q
    rw [← hwritten]
    rfl
  constructor
  · intro fresh p hp hthere
    obtain ⟨name, hname⟩ := writes _ (copied.written.mpr (.inl ((hrecord _).mpr hp)))
    obtain rfl := List.append_cancel_left hname
    intro hnone
    -- it is not copied, so it is stale now
    obtain ⟨bytes, hbytes⟩ := Option.ne_none_iff_exists'.mp hthere
    have hsame := copied.fileAt_of_none there nodup hnone
    rw [hfiles, hbytes] at hsame
    have hfresh := fresh [name] bytes (copied.written.mpr (.inl ((hrecord _).mpr hp))) hsame
    rw [hsource, hnone] at hfresh
    cases hfresh
  · intro removed p bytes hp hbytes
    obtain ⟨name, hname⟩ := writes _ hp
    obtain rfl := List.append_cancel_left hname
    rw [hsource]
    cases hfile : s.source.tree.fileAt [name] with
    | some bytes' =>
      have hcopied := copied.fileAt_of_some there nodup listed hfile
      exact hcopied.symm.trans hbytes
    | none =>
      have hsame := copied.fileAt_of_none there nodup hfile
      rw [hfiles, hbytes] at hsame
      rcases copied.written.mp hp with hold | ⟨x, _, hx, heq⟩
      · exact absurd hfile (removed [name] ((hrecord _).mp hold) (by simp [← hsame]))
      · obtain rfl : name = x := by simpa using heq
        exact absurd hfile hx

end

/-! ## All publishes of a session -/

section
variable {volumeId : String} {s₀ s : CacheState} {turns : CacheTurns}

/-- In a session with one volume, nothing in its cache directory is stale after any publish
exactly when no publish finds a file there that the storage does not have any more. -/
theorem nothing_stale_iff (session : cacheService.Session s₀ turns s)
    (unwritten : s₀.disk.written = [])
    (one : Service.EachTurn (fun _ _ t _ => OneVolume volumeId t) turns s) :
    Service.EachTurn (fun _ _ t s' => WhenPublished (s'.NothingStale volumeId) t) turns s ↔
      Service.EachTurn (fun _ s t _ => WhenPublished (s.NothingRemoved volumeId) t) turns s := by
  have writes : ∀ s t s', OneVolume volumeId t → cacheService.Takes s t s' →
      s.WritesIn volumeId → s'.WritesIn volumeId := by
    intro s t s' hone takes h
    cases takes with
    | handle run _ => exact h.exec hone run
    | cutOff run moved =>
      have reached := h.exec hone run
      unfold CacheState.WritesIn
      rw [moved.1]
      exact reached
    | disturb moved =>
      unfold CacheState.WritesIn
      rw [moved.1]
      exact h
  have init : s₀.WritesIn volumeId := by simp [CacheState.WritesIn, unwritten]
  refine session.agree (fun _ s => s.WritesIn volumeId) (fun _ s t s' hone takes h => ?_)
    (fun _ s t s' hone takes h _ => writes s t s' hone takes h) one init
  have h' := writes s t s' hone takes h
  cases takes with
  | cutOff _ _ => exact Iff.rfl
  | disturb _ => exact Iff.rfl
  | @handle _ r τ q result run ends =>
    cases r with
    | unpublish r => exact Iff.rfl
    | publish r =>
      rcases result with e | _
      · exact Iff.rfl
      · obtain ⟨hid, cached⟩ := hone
        obtain ⟨hsource, _, hmounted⟩ := nodePublishVolume_ensures r _ _ _ _ run ends
        obtain ⟨m, s₁, hm, htarget, mounted, hdisk⟩ := hmounted cached
        exact nothingStale_iff mounted (hm.trans hid) rfl hsource hdisk h'

end

/-! ## A storage that changes between two publishes -/

/-- A file `a` and nothing else. -/
def singleFile (bytes : ByteArray) : DataSource where
  tree := FileSystem.empty.write ["a"] bytes
  children := ["a"]
  nodup := by decide
  named := by
    intro name hname
    rw [List.mem_singleton.mp hname]
    exact ⟨by decide, by decide, by decide, by decide⟩
  listed := by
    intro name hnode
    by_contra hname
    have ha : name ≠ "a" := fun h => hname (by simp [h])
    rw [FileSystem.node_write_of_ne (by simpa using ha)] at hnode
    exact hnode (by simp [FileSystem.empty])

/-- The file has one byte. -/
def fileSource : DataSource := singleFile ⟨#[1]⟩

def emptySource : DataSource where
  tree := .empty
  children := []
  nodup := List.nodup_nil
  named := by simp
  listed := by simp [FileSystem.empty]

lemma takes_of_followsTo {r : NodeRequest} {n : ℕ} {s : CacheState}
    {check : Except (Fault Status) Unit → CacheState → Bool}
    (h : r.program.followsTo CacheState.sampleServe n s check) :
    ∃ τ result s', cacheService.Takes s (.handled ⟨r, τ, result⟩) s' ∧ check result s' := by
  obtain ⟨τ, q, result, s', run, hq, hcheck⟩ :=
    Prog.exec_of_followsTo CacheState.answers_of_sampleServe h
  exact ⟨τ, result, s', .handle run hq, hcheck⟩

/-- The volume is published, its storage becomes another one, and the volume is published
again. -/
lemma republished_session (source source' : DataSource) (check₁ check₂ : CacheState → Bool)
    (h : (publishCached "v" "/t").program.followsTo CacheState.sampleServe 60 (.init source)
      (fun result s => (result.isOk && check₁ s) &&
        (publishCached "v" "/t").program.followsTo CacheState.sampleServe 60
          { s with source := source' } (fun result s' => result.isOk && check₂ s'))) :
    ∃ (turns : CacheTurns) (s₁ s₂ : CacheState),
      cacheService.Session (.init source) turns s₂ ∧
      Service.EachTurn (fun _ _ t _ => OneVolume "v" t) turns s₂ ∧ check₁ s₁ ∧ check₂ s₂ ∧
      ∀ Q : CacheState → CacheState → Prop,
        Service.EachTurn (fun _ s t s' => WhenPublished (Q s s') t) turns s₂ ↔
          Q (.init source) s₁ ∧ Q { s₁ with source := source' } s₂ := by
  obtain ⟨τ₁, result₁, s₁, takes₁, hchecks⟩ := takes_of_followsTo h
  obtain ⟨hfirst, hnext⟩ := Bool.and_eq_true_iff.mp hchecks
  obtain ⟨hok₁, hcheck₁⟩ := Bool.and_eq_true_iff.mp hfirst
  obtain ⟨τ₂, result₂, s₂, takes₂, hsecond⟩ := takes_of_followsTo hnext
  obtain ⟨hok₂, hcheck₂⟩ := Bool.and_eq_true_iff.mp hsecond
  rcases result₁ with e | _
  · cases hok₁
  rcases result₂ with e | _
  · cases hok₂
  have changes : cacheService.Takes s₁ .disturbed { s₁ with source := source' } :=
    .disturb ⟨rfl, .inl rfl⟩
  have caches : (publishCached "v" "/t").Caches "v" := ⟨rfl, publishCached_cached _ _ _ rfl⟩
  refine ⟨_, s₁, s₂, ((Service.Session.start.turn takes₁).turn changes).turn takes₂, ?_, hcheck₁,
    hcheck₂, fun Q => ?_⟩
  · rw [Service.eachTurn_append, Service.eachTurn_append, Service.eachTurn_append]
    exact ⟨⟨⟨Service.eachTurn_nil, caches⟩, trivial⟩, caches⟩
  · rw [Service.eachTurn_append, Service.eachTurn_append, Service.eachTurn_append]
    exact ⟨fun ⟨⟨⟨_, first⟩, _⟩, second⟩ => ⟨first, second⟩,
      fun ⟨first, second⟩ => ⟨⟨⟨Service.eachTurn_nil, first⟩, trivial⟩, second⟩⟩

/-- Its only file is removed from the storage. -/
lemma removed_session : ∃ (turns : CacheTurns) (s : CacheState),
    cacheService.Session (.init fileSource) turns s ∧
      Service.EachTurn (fun _ _ t _ => OneVolume "v" t) turns s ∧
      ¬ Service.EachTurn (fun _ _ t s' => WhenPublished (s'.NothingStale "v") t) turns s := by
  obtain ⟨turns, s₁, s, session, one, _, hcheck, published⟩ :=
    republished_session fileSource emptySource (fun _ => true)
      (fun s' => (s'.source.tree.fileAt ["a"]).isNone &&
        (s'.disk.files.fileAt (cacheDir "v" ++ ["a"])).isSome &&
        decide (cacheDir "v" ++ ["a"] ∈ s'.disk.written)) (by decide +kernel)
  simp only [Bool.and_eq_true, decide_eq_true_eq, Option.isNone_iff_eq_none,
    Option.isSome_iff_exists] at hcheck
  obtain ⟨⟨hgone, bytes, hbytes⟩, hwritten⟩ := hcheck
  refine ⟨turns, s, session, one, fun fresh => ?_⟩
  have hlast : s.NothingStale "v" := ((published fun _ s' => s'.NothingStale "v").mp fresh).2
  have hfresh := hlast ["a"] bytes hwritten hbytes
  rw [hgone] at hfresh
  cases hfresh

/-- Its only file gets other bytes in the storage. -/
lemma updated_session : ∃ (turns : CacheTurns) (s : CacheState),
    cacheService.Session (.init fileSource) turns s ∧
      Service.EachTurn (fun _ _ t _ => OneVolume "v" t) turns s ∧
      Service.EachTurn (fun _ s t _ => WhenPublished (s.NothingRemoved "v") t) turns s ∧
      s.disk.files.fileAt (cacheDir "v" ++ ["a"]) = some ⟨#[2]⟩ := by
  obtain ⟨turns, s₁, s, session, one, hwritten, hupdated, published⟩ :=
    republished_session fileSource (singleFile ⟨#[2]⟩)
      (fun s => decide (s.disk.written = [cacheDir "v" ++ ["a"]]))
      (fun s' => decide (s'.disk.files.fileAt (cacheDir "v" ++ ["a"]) = some ⟨#[2]⟩))
      (by decide +kernel)
  have hwritten : s₁.disk.written = [cacheDir "v" ++ ["a"]] := of_decide_eq_true hwritten
  refine ⟨turns, s, session, one, ?_, of_decide_eq_true hupdated⟩
  refine (published fun s _ => s.NothingRemoved "v").mpr ⟨?_, ?_⟩
  · -- nothing has been written yet
    intro p hp
    cases hp
  · intro p hp _
    have hp : cacheDir "v" ++ p ∈ s₁.disk.written := hp
    rw [hwritten] at hp
    obtain rfl : p = ["a"] := List.append_cancel_left (List.mem_singleton.mp hp)
    show (singleFile ⟨#[2]⟩).tree.fileAt ["a"] ≠ none
    decide

theorem removed_file_stays : ¬ ∀ (volumeId : String) (s₀ s : CacheState) (turns : CacheTurns),
    cacheService.Session s₀ turns s → s₀.disk.written = [] →
      Service.EachTurn (fun _ _ t _ => OneVolume volumeId t) turns s →
      Service.EachTurn (fun _ _ t s' => WhenPublished (s'.NothingStale volumeId) t) turns s := by
  intro claim
  obtain ⟨turns, s, session, one, stale⟩ := removed_session
  exact stale (claim "v" _ _ _ session rfl one)

/-- Nothing is stale after an update of the file, but there is after its removal. -/
theorem nothing_stale_iff_samples :
    (∃ (turns : CacheTurns) (s : CacheState), cacheService.Session (.init fileSource) turns s ∧
      s.disk.files.fileAt (cacheDir "v" ++ ["a"]) = some ⟨#[2]⟩ ∧
      Service.EachTurn (fun _ s t _ => WhenPublished (s.NothingRemoved "v") t) turns s ∧
      Service.EachTurn (fun _ _ t s' => WhenPublished (s'.NothingStale "v") t) turns s) ∧
    ∃ (turns : CacheTurns) (s : CacheState), cacheService.Session (.init fileSource) turns s ∧
      ¬ Service.EachTurn (fun _ s t _ => WhenPublished (s.NothingRemoved "v") t) turns s := by
  constructor
  · obtain ⟨turns, s, session, one, removed, hupdated⟩ := updated_session
    have same := nothing_stale_iff session rfl one
    exact ⟨turns, s, session, hupdated, removed, same.mpr removed⟩
  · obtain ⟨turns, s, session, one, stale⟩ := removed_session
    have same := nothing_stale_iff session rfl one
    exact ⟨turns, s, session, fun removed => stale (same.mpr removed)⟩

end Kubedal
