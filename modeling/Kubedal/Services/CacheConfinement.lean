import Kubedal.Services.CacheStale

/-!
# Where a cached mount writes

The volume id and the paths of the entries are joined to `/mnt` as they are.

* `Call.touches` is what a call creates or writes, or binds to the target;
* `keepsTo_iff` says for every volume id and every listing what the runs of `mount_cached` touch;
* `cache_confined` says when that lies strictly inside `/mnt`, for which relative paths without
  `..` are enough, and which directories are then neither equal nor nested.
-/

namespace Kubedal

open Interaction FileTree

/-! ## The paths -/

/-- The parent of the cache directories. -/
def mnt : TreePath := ["mnt"]

/-- What a recursive creation of `path` makes: all that may be missing on the way as it is
written. The root and `/mnt` are there. -/
def makes (path : String) : List TreePath := (way path).filter fun p => ¬ p <+: mnt

def HostCall.touches : HostCall → List TreePath
  | .createDir path => makes path
  | .createFile path => [components path]
  | .writeAll path _ => [components path]
  | .bindMount source _ _ => [components source]
  | _ => []

/-- What a call creates or writes, and the directory it binds to the target. -/
def Call.touches : Call → List TreePath
  | .host c => c.touches
  | _ => []

/-- All that the call touches is of a kind. -/
def Call.Keeps (P : TreePath → Prop) (c : Call) : Prop := ∀ p ∈ c.touches, P p

/-- The root is listed as `entries`; nothing is said about the other calls. -/
def ListsEntries (entries : List Entry) (_ : Unit) : (c : Call) → c.Reply → Unit → Prop
  | .opendal (.list _ _), a, _ => ∀ listed, a = .ok listed → listed = entries
  | _, _, _ => True

/-- A run of `mount_cached`, however far it gets. -/
def CacheRun (m : Mount) (entries : List Entry) (τ : List (Event signature)) : Prop :=
  ∃ q, Prog.Exec (ListsEntries entries) m.mountCached () τ q ()

/-- In every run all that is touched is of a kind. -/
def KeepsTo (P : TreePath → Prop) (m : Mount) (entries : List Entry) : Prop :=
  ∀ τ, CacheRun m entries τ → ∀ e ∈ τ, e.call.Keeps P

/-- Whatever happens, `mount_cached` creates, writes and binds nothing but what is strictly
inside `/mnt`. -/
def Confined (m : Mount) (entries : List Entry) : Prop := KeepsTo (Below mnt) m entries

/-- The entries that the loop gets to. -/
def copied (entries : List Entry) : List Entry :=
  entries.takeWhile fun entry => decide (entry.mode ≠ .unknown)

/-- Where an entry is copied to. -/
def entryDir (m : Mount) (entry : Entry) : TreePath := components (joinPath m.cachePath entry.path)

/-- What copying an entry touches. -/
def entryTouches (m : Mount) (entry : Entry) : List TreePath :=
  match entry.mode with
  | .file => [entryDir m entry]
  | .dir => makes (joinPath m.cachePath entry.path)
  | .unknown => []

/-- What is bound to the target, once all entries are copied. -/
def boundDirs (m : Mount) (entries : List Entry) : List TreePath :=
  if copied entries = entries then [cacheDir m.volumeId] else []

/-- What the runs of `mount_cached` touch. -/
def touched (m : Mount) (entries : List Entry) : List TreePath :=
  makes m.cachePath ++ (copied entries).flatMap (entryTouches m) ++ boundDirs m entries

/-! ## Runs touch nothing else -/

section
variable {P : TreePath → Prop}

/-- The storage and the API server touch nothing. -/
lemma keeps_of_nil {c : Call} (h : c.touches = []) : c.Keeps P := by
  intro p hp
  rw [h] at hp
  cases hp

lemma keeps_singleton {c : Call} {p : TreePath} (h : c.touches = [p]) (hP : P p) : c.Keeps P := by
  intro p' hp
  rw [h] at hp
  rwa [List.mem_singleton.mp hp]

lemma ensureDirectory_keeps {path : String} (message : String) (hP : ∀ p ∈ makes path, P p) :
    (ensureDirectory path message).Uses (Call.Keeps P) :=
  uses_ensureDirectory message (keeps_of_nil rfl) hP

lemma copyEntry_keeps {m : Mount} {entry : Entry} (hP : ∀ p ∈ entryTouches m entry, P p) :
    (m.copyEntry entry).Uses (Call.Keeps P) := by
  unfold entryTouches at hP
  refine uses_copyEntry m entry (fun _ copies => ?_) fun _ => keeps_of_nil rfl
  cases copies with
  | looks hmode => exact keeps_of_nil rfl
  | makes hmode =>
    rw [hmode] at hP
    exact hP
  | creates hmode =>
    rw [hmode] at hP
    exact keeps_singleton rfl (hP _ (List.mem_singleton_self _))
  | writes hmode bytes =>
    rw [hmode] at hP
    exact keeps_singleton rfl (hP _ (List.mem_singleton_self _))

/-- The paths are kept to, and the root is listed as it is. -/
def keepMonitor (P : TreePath → Prop) (entries : List Entry) : Monitor signature Unit where
  allows := fun _ c => c.Keeps P
  assumes := fun _ c a => ListsEntries entries () c a ()
  next := fun _ _ _ => ()

lemma wp_keeps {ε α : Type} {p : Async ε α} {entries : List Entry}
    {Q : Unit → Except (Fault ε) α → Prop} (hp : p.Uses (Call.Keeps P)) (hQ : ∀ r, Q () r) :
    p.wp (keepMonitor P entries) () Q :=
  hp.wp (fun _ hc => hc) (fun _ _ _ => rfl) hQ

lemma copied_cons {entry : Entry} {rest : List Entry} (known : entry.mode ≠ .unknown) :
    copied (entry :: rest) = entry :: copied rest := by simp [copied, known]

lemma copied_of_unknown {entry : Entry} {rest : List Entry} (h : entry.mode = .unknown) :
    copied (entry :: rest) = [] := by simp [copied, h]

/-- The loop stops at an entry of unknown kind. -/
lemma copyEntries_of_unknown (m : Mount) {entry : Entry} {rest : List Entry}
    (h : entry.mode = .unknown) : m.copyEntries (entry :: rest) =
      .throw (.error (.unknown "Data source entry type is unknown")) := by
  unfold Mount.copyEntries Mount.copyEntry
  rw [h]
  rfl

/-- It gets to the end only if it has copied everything. -/
lemma copyEntries_keeps {m : Mount} {entries listed : List Entry}
    (hP : ∀ entry ∈ copied entries, ∀ p ∈ entryTouches m entry, P p) :
    (m.copyEntries entries).wp (keepMonitor P listed) () fun _ r =>
      r = .ok () → copied entries = entries := by
  induction entries with
  | nil => exact fun _ => rfl
  | cons entry rest ih =>
    by_cases hmode : entry.mode = .unknown
    · rw [copyEntries_of_unknown m hmode]
      rintro ⟨⟩
    · rw [copied_cons hmode] at hP ⊢
      obtain ⟨hentry, hrest⟩ := List.forall_mem_cons.mp hP
      refine Prog.wp_bind (wp_keeps (copyEntry_keeps hentry) fun r => ?_)
      rcases r with e | _
      · rintro ⟨⟩
      · exact Prog.wp_mono (ih hrest) fun _ r all hr => congrArg (List.cons entry) (all hr)

lemma mountCached_keeps {m : Mount} {entries : List Entry} (hP : ∀ p ∈ touched m entries, P p) :
    m.mountCached.wp (keepMonitor P entries) () fun _ _ => True := by
  obtain ⟨hcreated, hbound⟩ := List.forall_mem_append.mp hP
  obtain ⟨hmakes, hcopies⟩ := List.forall_mem_append.mp hcreated
  unfold Mount.mountCached
  refine Prog.wp_bind (wp_keeps (ensureDirectory_keeps _ hmakes) fun r => ?_)
  rcases r with e | _
  · trivial
  apply Prog.wp_bind
  refine ⟨keeps_of_nil rfl, fun listing hlisting => ?_⟩
  rcases listing with e | listed
  · trivial
  refine Prog.wp_bind (wp_orReturn (fun listed' hlisted => ?_) fun e he => by cases he)
  cases hlisted
  obtain rfl := hlisting _ rfl
  have copies : (m.copyEntries listed).wp (keepMonitor P listed) () fun _ r =>
      r = .ok () → copied listed = listed :=
    copyEntries_keeps fun entry hentry p hp => hcopies p (List.mem_flatMap.mpr ⟨entry, hentry, hp⟩)
  refine Prog.wp_bind (Prog.wp_mono copies fun _ r all => ?_)
  rcases r with e | _
  · trivial
  have hdir : P (cacheDir m.volumeId) := by
    rw [boundDirs, if_pos (all rfl)] at hbound
    exact hbound _ (List.mem_singleton_self _)
  refine Prog.wp_bind (wp_keeps (uses_host _ (keeps_singleton rfl hdir)) fun r => ?_)
  rcases r with e | bound
  · trivial
  exact wp_keeps (uses_orReturn _) fun _ => trivial

lemma keepsTo_of_touched {m : Mount} {entries : List Entry} (hP : ∀ p ∈ touched m entries, P p) :
    KeepsTo P m entries := by
  rintro τ ⟨q, run⟩ e he
  obtain ⟨past, later, rfl⟩ := List.append_of_mem he
  exact Prog.wp_event (mountCached_keeps hP) run fun _ _ _ _ answered _ => answered

end

/-! ## Runs touch all of it -/

section
variable {entries : List Entry}

/-- Some run of the program has a call that touches the path. -/
abbrev CanTouch (entries : List Entry) {α : Type} (prog : Handler α) (p : TreePath) : Prop :=
  prog.CanMake (ListsEntries entries) () fun c => p ∈ c.touches

lemma reaches_answered {c : Call} (a : signature.Reply c)
    (answered : ListsEntries entries () c a ()) :
    (Prog.perform (S := signature) (ε := Fault Status) c).Reaches (ListsEntries entries) () (.ok a)
      () := Prog.reaches_perform answered

lemma host_touches {c : HostCall} {p : TreePath} (a : c.Reply) (h : p ∈ c.touches) :
    CanTouch entries (host c) p := by
  have answered : ListsEntries entries () (.host c) a () := trivial
  exact Prog.canMake_perform answered h

lemma ensureDirectory_touches {path : String} (message : String) {p : TreePath}
    (h : p ∈ makes path) : CanTouch entries (ensureDirectory path message) p := by
  unfold ensureDirectory
  apply (reaches_answered (c := .host (.pathExists path)) false trivial).canMake
  exact (host_touches (c := .createDir path) (Except.ok () : Except String Unit) h).bind _

lemma ensureDirectory_succeeds (path message : String) :
    (ensureDirectory path message).Reaches (ListsEntries entries) () (.ok ()) () := by
  unfold ensureDirectory
  exact (reaches_answered (c := .host (.pathExists path)) true trivial).andThen
    (Prog.reaches_pure ())

lemma copyEntry_touches {m : Mount} {entry : Entry} {p : TreePath} (h : p ∈ entryTouches m entry) :
    CanTouch entries (m.copyEntry entry) p := by
  unfold entryTouches at h
  unfold Mount.copyEntry
  cases hmode : entry.mode with
  | file =>
    rw [hmode] at h
    exact (host_touches (c := .createFile _) (Except.ok () : Except IoError Unit) h).bind _
  | dir =>
    rw [hmode] at h
    exact ensureDirectory_touches _ h
  | unknown =>
    rw [hmode] at h
    cases h

/-- With an empty stream for a file. -/
lemma copyEntry_succeeds (m : Mount) {entry : Entry} (known : entry.mode ≠ .unknown) :
    (m.copyEntry entry).Reaches (ListsEntries entries) () (.ok ()) () := by
  unfold Mount.copyEntry
  split
  · apply (reaches_answered (c := .host (.createFile _)) (Except.ok () : Except IoError Unit)
      trivial).andThen
    apply (Prog.reaches_pure ()).andThen
    apply (reaches_answered (c := .opendal (.reader _ _)) (Except.ok () : Except String Unit)
      trivial).andThen
    apply (Prog.reaches_pure ()).andThen
    apply (reaches_answered (c := .opendal (.intoBytesStream _ _))
      (Except.ok ⟨[], none⟩ : Except String ByteStream) trivial).andThen
    exact (Prog.reaches_pure _).andThen (Prog.reaches_pure ())
  · exact ensureDirectory_succeeds _ _
  · rename_i hmode
    exact absurd hmode known

lemma copyEntries_touches {m : Mount} {listed : List Entry} {entry : Entry} {p : TreePath}
    (h : entry ∈ copied listed) (hp : p ∈ entryTouches m entry) :
    CanTouch entries (m.copyEntries listed) p := by
  induction listed with
  | nil => cases h
  | cons first rest ih =>
    by_cases known : first.mode = .unknown
    · rw [copied_of_unknown known] at h
      cases h
    · rw [copied_cons known] at h
      rcases List.mem_cons.mp h with rfl | h
      · exact (copyEntry_touches hp).bind _
      · exact (copyEntry_succeeds m known).canMake (ih h)

lemma copyEntries_succeeds (m : Mount) {listed : List Entry} (all : copied listed = listed) :
    (m.copyEntries listed).Reaches (ListsEntries entries) () (.ok ()) () := by
  induction listed with
  | nil => exact Prog.reaches_pure ()
  | cons entry rest ih =>
    by_cases known : entry.mode = .unknown
    · rw [copied_of_unknown known] at all
      cases all
    · rw [copied_cons known] at all
      exact (copyEntry_succeeds m known).andThen (ih (List.cons.inj all).2)

/-- The listing gets to the loop. -/
lemma mountCached_loops (m : Mount) {p : TreePath}
    (h : CanTouch entries (do
      m.copyEntries entries
      let bound ← host (.bindMount m.cachePath m.targetPath (m.accessMode = .readOnly))
      orReturn
        (Mount.joined "Unable to tokio::join mount operation" "Failed to mount cache: " bound)) p) :
    CanTouch entries m.mountCached p := by
  unfold Mount.mountCached
  apply (ensureDirectory_succeeds _ _).canMake
  apply (reaches_answered (c := .opendal (.list _ _))
    (Except.ok entries : Except String (List Entry)) fun listed hlisted =>
      (Except.ok.inj hlisted).symm).canMake
  exact (Prog.reaches_pure entries).canMake h

lemma mountCached_touches {m : Mount} {p : TreePath} (h : p ∈ touched m entries) :
    CanTouch entries m.mountCached p := by
  rcases List.mem_append.mp h with h | h
  · rcases List.mem_append.mp h with h | h
    · unfold Mount.mountCached
      exact (ensureDirectory_touches _ h).bind _
    · obtain ⟨entry, hentry, hp⟩ := List.mem_flatMap.mp h
      exact mountCached_loops m ((copyEntries_touches hentry hp).bind _)
  · unfold boundDirs at h
    split at h
    · rename_i all
      apply mountCached_loops m
      apply (copyEntries_succeeds m all).canMake
      exact (host_touches (c := .bindMount _ _ _) (Joined.done (.ok ())) h).bind _
    · cases h

end

/-- What is touched by some run. -/
theorem keepsTo_iff {P : TreePath → Prop} {m : Mount} {entries : List Entry} :
    KeepsTo P m entries ↔ ∀ p ∈ touched m entries, P p := by
  constructor
  · intro keeps p hp
    obtain ⟨τ, q, _, run, e, he, htouched⟩ := mountCached_touches hp
    exact keeps τ ⟨q, run⟩ e he p htouched
  · exact keepsTo_of_touched

/-! ## Where the paths lead -/

/-- The path never goes up and leads on. -/
def LeadsOn (path : String) : Prop := Stays path ∧ components path ≠ []

instance (path : String) : Decidable (LeadsOn path) := inferInstanceAs (Decidable (_ ∧ _))

section
variable {base path volumeId : String} {p : TreePath}

lemma components_join_stays (h : Stays path) :
    components (joinPath base path) = components base ++ components path := by
  rw [components_joinPath h.1, foldl_enter h.2]
  rfl

lemma components_mnt : components "/mnt" = mnt := by decide +kernel

lemma cacheDir_of_stays (h : Stays volumeId) : cacheDir volumeId = mnt ++ components volumeId := by
  rw [cacheDir, components_join_stays h, components_mnt]

/-- The way to a path that never goes up. -/
lemma between_of_mem_way (h : Stays path) (hp : p ∈ way (joinPath base path)) :
    p ∈ way base ∨ components base <+: p ∧ p <+: components (joinPath base path) := by
  rcases (mem_way_joinPath h.1).mp hp with hbase | hrest
  · exact .inl hbase
  · right
    rw [components_joinPath h.1]
    exact between_of_mem_scanl h.2 hrest

lemma prefix_of_mem_way_mnt (hp : p ∈ way "/mnt") : p <+: mnt := by
  have hway : ∀ p ∈ way "/mnt", p <+: mnt := by decide +kernel
  exact hway p hp

/-- The directories that are made for an id lead to its directory. -/
lemma prefix_of_mem_way (h : Stays volumeId) (hp : p ∈ way (joinPath "/mnt" volumeId)) :
    p <+: cacheDir volumeId := by
  rcases between_of_mem_way h hp with hbase | ⟨_, hend⟩
  · rw [cacheDir_of_stays h]
    exact (prefix_of_mem_way_mnt hbase).trans (List.prefix_append _ _)
  · exact hend

lemma LeadsOn.below (h : LeadsOn volumeId) : Below mnt (cacheDir volumeId) := by
  rw [cacheDir_of_stays h.1, below_append]
  exact h.2

lemma leadsOn_of_name (h : IsName volumeId) : LeadsOn volumeId := by
  have hrelative := startsWith_slash_of_name h ""
  rw [String.append_empty] at hrelative
  have hdots : ['.', '.'] ≠ volumeId.toList := fun heq => h.ne_dots (String.toList_inj.mp heq.symm)
  refine ⟨⟨hrelative, ?_⟩, ?_⟩
  · rw [List.splitOn_eq_singleton h.noSlash, List.mem_singleton]
    exact hdots
  · rw [components_name h]
    exact List.cons_ne_nil _ _

end

/-! ## Confinement -/

section
variable {m : Mount} {entries : List Entry} {p : TreePath}

lemma mem_of_mem_copied {entry : Entry} (h : entry ∈ copied entries) : entry ∈ entries :=
  (List.takeWhile_sublist _).subset h

/-- All runs stay in `/mnt` if all that they touch does. -/
lemma confined_iff : Confined m entries ↔ (∀ p ∈ makes m.cachePath, Below mnt p) ∧
    (∀ entry ∈ copied entries, ∀ p ∈ entryTouches m entry, Below mnt p) ∧
    (copied entries = entries → Below mnt (cacheDir m.volumeId)) := by
  rw [Confined, keepsTo_iff, touched, List.forall_mem_append, List.forall_mem_append, boundDirs]
  constructor
  · rintro ⟨⟨hmakes, hcopies⟩, hbound⟩
    refine ⟨hmakes, fun entry hentry p hp => ?_, fun all => ?_⟩
    · exact hcopies p (List.mem_flatMap.mpr ⟨entry, hentry, hp⟩)
    · rw [if_pos all] at hbound
      exact hbound _ (List.mem_singleton_self _)
  · rintro ⟨hmakes, hcopies, hbound⟩
    refine ⟨⟨hmakes, fun p hp => ?_⟩, fun p hp => ?_⟩
    · obtain ⟨entry, hentry, hp⟩ := List.mem_flatMap.mp hp
      exact hcopies entry hentry p hp
    · split at hp
      · rename_i all
        obtain rfl := List.mem_singleton.mp hp
        exact hbound all
      · cases hp

/-- What copying touches lies on the way to the directory of the volume or in it, and not
above `/mnt`. -/
lemma near_of_entry (leads : LeadsOn m.volumeId) {entry : Entry} (stay : Stays entry.path)
    (h : p ∈ entryTouches m entry) :
    ¬ p <+: mnt ∧ (p <+: cacheDir m.volumeId ∨ cacheDir m.volumeId <+: p) := by
  unfold entryTouches at h
  split at h
  · obtain rfl := List.mem_singleton.mp h
    have hdir : entryDir m entry = cacheDir m.volumeId ++ components entry.path :=
      components_join_stays stay
    rw [hdir]
    exact ⟨(leads.below.append _).not_above, .inr (List.prefix_append _ _)⟩
  · obtain ⟨hway, hnot⟩ := List.mem_filter.mp h
    refine ⟨of_decide_eq_true hnot, ?_⟩
    rcases between_of_mem_way stay hway with hway | ⟨hdir, _⟩
    · exact .inl (prefix_of_mem_way leads.1 hway)
    · exact .inr hdir
  · cases h

lemma near_of_touched (leads : LeadsOn m.volumeId) (stay : ∀ entry ∈ entries, Stays entry.path)
    (h : p ∈ touched m entries) :
    ¬ p <+: mnt ∧ (p <+: cacheDir m.volumeId ∨ cacheDir m.volumeId <+: p) := by
  rcases List.mem_append.mp h with h | h
  · rcases List.mem_append.mp h with h | h
    · obtain ⟨hway, hnot⟩ := List.mem_filter.mp h
      exact ⟨of_decide_eq_true hnot, .inl (prefix_of_mem_way leads.1 hway)⟩
    · obtain ⟨entry, hentry, hp⟩ := List.mem_flatMap.mp h
      exact near_of_entry leads (stay entry (mem_of_mem_copied hentry)) hp
  · unfold boundDirs at h
    split at h
    · obtain rfl := List.mem_singleton.mp h
      exact ⟨leads.below.not_above, .inl (List.prefix_refl _)⟩
    · cases h

lemma confined_of_leadsOn (leads : LeadsOn m.volumeId)
    (stay : ∀ entry ∈ entries, Stays entry.path) : Confined m entries := by
  refine keepsTo_iff.mpr fun p hp => ?_
  obtain ⟨hnot, near⟩ := near_of_touched leads stay hp
  exact leads.below.of_near hnot near

/-- What is written of one volume is not in a directory apart from its own. -/
lemma keepsOut_of_unnested (leads : LeadsOn m.volumeId)
    (stay : ∀ entry ∈ entries, Stays entry.path) {dir : TreePath}
    (unnested : Unnested (cacheDir m.volumeId) dir) : KeepsTo (fun p => ¬ dir <+: p) m entries := by
  refine keepsTo_iff.mpr fun p hp hdir => ?_
  obtain ⟨_, hup | hdown⟩ := near_of_touched leads stay hp
  · exact unnested.2 (hdir.trans hup)
  · exact unnested.apart hdown hdir

lemma unnested_cacheDir_iff {volumeId volumeId' : String} (h : Stays volumeId)
    (h' : Stays volumeId') : Unnested (cacheDir volumeId) (cacheDir volumeId') ↔
      Unnested (components volumeId) (components volumeId') := by
  rw [cacheDir_of_stays h, cacheDir_of_stays h', unnested_append]

end

/-- Two ids that are names, as the driver makes them, have directories of their own. -/
theorem unnested_of_names {volumeId volumeId' : String} (h : IsName volumeId)
    (h' : IsName volumeId') (hne : volumeId ≠ volumeId') :
    Unnested (cacheDir volumeId) (cacheDir volumeId') := by
  rw [unnested_cacheDir_iff (leadsOn_of_name h).1 (leadsOn_of_name h').1, components_name h,
    components_name h']
  simp [Unnested, hne, Ne.symm hne]

/-- All runs stay strictly inside `/mnt`, and out of the directory of another volume, exactly when
all that they create, write and bind does. It is enough that the id and the entries are relative
and never go up, and that the directories are apart, as those of two such ids are exactly when
neither leads along the beginning of the other one. -/
theorem cache_confined (m : Mount) (entries : List Entry) :
    (Confined m entries ↔ (∀ p ∈ makes m.cachePath, Below mnt p) ∧
      (∀ entry ∈ copied entries, ∀ p ∈ entryTouches m entry, Below mnt p) ∧
      (copied entries = entries → Below mnt (cacheDir m.volumeId))) ∧
    (∀ other, KeepsTo (fun p => ¬ cacheDir other <+: p) m entries ↔
      ∀ p ∈ touched m entries, ¬ cacheDir other <+: p) ∧
    (LeadsOn m.volumeId → (∀ entry ∈ entries, Stays entry.path) → Confined m entries ∧
      ∀ other, Unnested (cacheDir m.volumeId) (cacheDir other) →
        KeepsTo (fun p => ¬ cacheDir other <+: p) m entries) ∧
    ∀ other, LeadsOn m.volumeId → LeadsOn other →
      (Unnested (cacheDir m.volumeId) (cacheDir other) ↔
        Unnested (components m.volumeId) (components other)) := by
  refine ⟨confined_iff, fun _ => keepsTo_iff, fun leads stay => ?_, fun other leads leads' => ?_⟩
  · exact ⟨confined_of_leadsOn leads stay, fun other => keepsOut_of_unnested leads stay⟩
  · exact unnested_cacheDir_iff leads.1 leads'.1

/-- A mount of the volume with the id. -/
def mountOf (volumeId : String) : Mount :=
  Mount.new volumeId "/target" ⟨.http, ∅⟩ .cached .readWrite

/-- A directory with a file in it. -/
def nestedListing : List Entry := [⟨"data/", .dir⟩, ⟨"data/./a", .file⟩]

/-- A volume with a nested directory, next to another one with the same parent. -/
theorem cache_confined_nested :
    Confined (mountOf "a/./volume/") nestedListing ∧
      KeepsTo (fun p => ¬ cacheDir "a/other" <+: p) (mountOf "a/./volume/") nestedListing := by
  have leads : LeadsOn "a/./volume/" := by decide +kernel
  have stay : ∀ entry ∈ nestedListing, Stays entry.path := by decide +kernel
  obtain ⟨_, _, confined, apart⟩ := cache_confined (mountOf "a/./volume/") nestedListing
  have unnested := (apart "a/other" leads (by decide +kernel)).mpr (by decide +kernel)
  exact ⟨(confined leads stay).1, (confined leads stay).2 "a/other" unnested⟩

/-- An absolute id replaces `/mnt`, one that goes up makes what it passes, and one id may lead into
the directory of another one, or through it. -/
theorem cache_escapes :
    ¬ Confined (mountOf "/etc") [] ∧ ¬ Confined (mountOf "..") [] ∧
      ¬ Confined (mountOf "../foo/../mnt/y") [] ∧
      ¬ Confined (mountOf "a") [⟨"../../etc/b", .file⟩] ∧
      ¬ KeepsTo (fun p => ¬ cacheDir "x" <+: p) (mountOf "x/../volume") [] ∧
      ¬ Unnested (cacheDir "a") (cacheDir "a/b") ∧ cacheDir "a" = cacheDir "a/" := by
  have escapes : ∀ {m entries p}, p ∈ touched m entries → ¬ Below mnt p → ¬ Confined m entries :=
    fun hp hnot confined => hnot (keepsTo_iff.mp confined _ hp)
  refine ⟨escapes (p := ["etc"]) ?_ ?_, escapes (p := []) ?_ ?_, escapes (p := ["foo"]) ?_ ?_,
    escapes (p := ["etc", "b"]) ?_ ?_, fun keeps => keepsTo_iff.mp keeps ["mnt", "x"] ?_ ?_, ?_, ?_⟩
  all_goals decide +kernel

end Kubedal
