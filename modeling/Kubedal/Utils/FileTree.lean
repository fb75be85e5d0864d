import Mathlib.Data.List.Infix
import Mathlib.Data.List.Induction
import Mathlib.Tactic.Common

/-!
# Trees of files

Files and directories by their path from the root, in which everything but the root lies in a
directory.

* `FileSystem.write` and `FileSystem.makeDirs` are what system calls do to such a tree, and
  `FileSystem.CanWrite` and `FileSystem.CanMakeDirs` when they can do it;
* `FileSystem.HasCopy` says that a directory holds all that is in another tree;
* `components` are the names that a path is written with;
* `Below` and `Unnested` say how paths lie to one another;
* `way` are the directories that a path leads through, and a path that `Stays` never goes up.
-/

namespace FileTree

/-- The names on the way from the root. -/
abbrev TreePath := List String

inductive FileNode (β : Type) where
  | file (content : β)
  | dir

/-- The files hold contents of `β`. -/
structure FileSystem (β : Type) where
  node : TreePath → Option (FileNode β)
  root : node [] = some .dir
  closed : ∀ path name, node (path ++ [name]) ≠ none → node path = some .dir

namespace FileSystem

variable {β : Type} {t : FileSystem β} {p q : TreePath} {content : β}

/-- There is nothing but the root. -/
def empty : FileSystem β where
  node p := if p = [] then some .dir else none
  root := rfl
  closed p name h := by simp at h

/-- The contents of the file at `p`, if there is one. -/
def fileAt (t : FileSystem β) (p : TreePath) : Option β :=
  match t.node p with
  | some (.file content) => some content
  | _ => none

/-- There is a directory at `p`. -/
def isDir (t : FileSystem β) (p : TreePath) : Bool :=
  match t.node p with
  | some .dir => true
  | _ => false

lemma fileAt_eq_some : t.fileAt p = some content ↔ t.node p = some (.file content) := by
  unfold fileAt
  split
  · rename_i content' h
    rw [h]
    simp
  · rename_i h
    simp only [reduceCtorEq, false_iff]
    exact fun h' => h content h'

lemma isDir_iff : t.isDir p ↔ t.node p = some .dir := by
  unfold isDir
  split
  · simp [*]
  · rename_i h
    simpa using h

lemma fileAt_congr {t' : FileSystem β} (h : t.node p = t'.node p) : t.fileAt p = t'.fileAt p := by
  unfold fileAt
  rw [h]

lemma fileAt_of_dir (h : t.node p = some .dir) : t.fileAt p = none := by
  simp [fileAt, h]

/-- There is no file where a directory could be made, or is one. -/
lemma getD_eq_dir_iff : (t.node p).getD .dir = .dir ↔ t.fileAt p = none := by
  unfold fileAt
  cases t.node p with
  | none => simp
  | some node => cases node <;> simp

@[ext]
lemma ext {t' : FileSystem β} (h : ∀ p, t.node p = t'.node p) : t = t' := by
  have hnode : t.node = t'.node := funext h
  cases t
  cases t'
  cases hnode
  rfl

/-- What lies above something is a directory. -/
lemma node_above (h : t.node (p ++ q) ≠ none) (hq : q ≠ []) : t.node p = some .dir := by
  -- induction on the way down, from its end
  induction q using List.reverseRecOn with
  | nil => exact absurd rfl hq
  | append_singleton q name ih =>
    rw [← List.append_assoc] at h
    have hdir : t.node (p ++ q) = some .dir := t.closed _ _ h
    by_cases hnil : q = []
    · subst hnil
      rwa [List.append_nil] at hdir
    · exact ih (by simp [hdir]) hnil

/-! ## Writing a file -/

/-- There is a directory for the file, and no directory in its place. -/
def CanWrite (t : FileSystem β) (p : TreePath) : Prop := p ≠ [] ∧ t.isDir p.dropLast ∧ ¬ t.isDir p

instance (t : FileSystem β) (p : TreePath) : Decidable (t.CanWrite p) :=
  inferInstanceAs (Decidable (_ ∧ _ ∧ _))

/-- The file at `p` is created, or its contents are replaced. -/
def write (t : FileSystem β) (p : TreePath) (content : β) : FileSystem β :=
  if h : t.CanWrite p then
    { node := Function.update t.node p (some (.file content))
      root := by rw [Function.update_of_ne (Ne.symm h.1), t.root]
      closed := by
        intro q name hq
        have hdir : t.node q = some .dir := by
          by_cases heq : q ++ [name] = p
          · have hparent := isDir_iff.mp h.2.1
            rwa [← heq, List.dropLast_concat] at hparent
          · rw [Function.update_of_ne heq] at hq
            exact t.closed q name hq
        have hne : q ≠ p := by
          rintro rfl
          exact h.2.2 (isDir_iff.mpr hdir)
        rw [Function.update_of_ne hne, hdir] }
  else t

lemma canWrite_child {name : String} (hdir : t.node p = some .dir)
    (h : t.node (p ++ [name]) ≠ some .dir) : t.CanWrite (p ++ [name]) := by
  refine ⟨by simp, ?_, fun h' => h (isDir_iff.mp h')⟩
  rw [List.dropLast_concat]
  exact isDir_iff.mpr hdir

lemma node_write_self (h : t.CanWrite p) :
    (t.write p content).node p = some (.file content) := by
  rw [write, dif_pos h]
  exact Function.update_self ..

lemma node_write_of_ne (h : q ≠ p) : (t.write p content).node q = t.node q := by
  unfold write
  split
  · exact Function.update_of_ne h ..
  · rfl

lemma fileAt_write_self (h : t.CanWrite p) : (t.write p content).fileAt p = some content :=
  fileAt_eq_some.mpr (node_write_self h)

lemma fileAt_write_of_ne (h : q ≠ p) : (t.write p content).fileAt q = t.fileAt q :=
  fileAt_congr (node_write_of_ne h)

/-- A directory stays one, since no file can be written in its place. -/
lemma node_write_dir (h : t.node q = some .dir) : (t.write p content).node q = some .dir := by
  by_cases hp : t.CanWrite p
  · have hne : q ≠ p := by
      rintro rfl
      exact hp.2.2 (isDir_iff.mpr h)
    rw [node_write_of_ne hne, h]
  · rwa [write, dif_neg hp]

/-- A file that has been written can be written again. -/
lemma CanWrite.write (h : t.CanWrite p) : (t.write p content).CanWrite p := by
  refine ⟨h.1, ?_, ?_⟩
  · exact isDir_iff.mpr (node_write_dir (isDir_iff.mp h.2.1))
  · intro hdir
    have hfile : (t.write p content).node p = some (.file content) := node_write_self h
    rw [isDir_iff.mp hdir] at hfile
    cases hfile

lemma write_write {content' : β} : (t.write p content).write p content' = t.write p content' := by
  by_cases h : t.CanWrite p
  · ext q : 1
    by_cases hq : q = p
    · subst hq
      rw [node_write_self h.write, node_write_self h]
    · rw [node_write_of_ne hq, node_write_of_ne hq, node_write_of_ne hq]
  · have hsame : t.write p content = t := by rw [FileSystem.write, dif_neg h]
    rw [hsame]

/-! ## Making directories -/

/-- No file is in the way. -/
def CanMakeDirs (t : FileSystem β) (p : TreePath) : Prop := ∀ q, q <+: p → t.fileAt q = none

instance (t : FileSystem β) (p : TreePath) : Decidable (t.CanMakeDirs p) :=
  decidable_of_iff (∀ q ∈ p.inits, (t.fileAt q).isNone) (by simp [CanMakeDirs])

/-- The directory `p` is made, with those above it. -/
def makeDirs (t : FileSystem β) (p : TreePath) : FileSystem β where
  node q := if q <+: p then some .dir else t.node q
  root := if_pos (List.nil_prefix)
  closed := by
    intro q name h
    by_cases hq : q <+: p
    · exact if_pos hq
    · have hname : ¬ q ++ [name] <+: p := fun h' => hq ((List.prefix_append _ _).trans h')
      rw [if_neg hname] at h
      rw [if_neg hq]
      exact t.closed q name h

lemma node_makeDirs : (t.makeDirs p).node q = if q <+: p then some .dir else t.node q := rfl

lemma node_makeDirs_self : (t.makeDirs p).node p = some .dir := if_pos (List.prefix_refl p)

/-- A directory stays one. -/
lemma node_makeDirs_dir (h : t.node q = some .dir) : (t.makeDirs p).node q = some .dir := by
  rw [node_makeDirs, h, ite_self]

/-- The files stay as they are. -/
lemma fileAt_makeDirs (h : t.CanMakeDirs p) : (t.makeDirs p).fileAt q = t.fileAt q := by
  by_cases hq : q <+: p
  · rw [h q hq, fileAt_of_dir (by rw [node_makeDirs, if_pos hq])]
  · exact fileAt_congr (by rw [node_makeDirs, if_neg hq])

/-- A directory below one that is there needs one directory. -/
lemma node_makeDirs_child {name : String} (hdir : t.node p = some .dir) (h : q ≠ p ++ [name]) :
    (t.makeDirs (p ++ [name])).node q = t.node q := by
  rw [node_makeDirs]
  split
  · rename_i hprefix
    rcases List.prefix_concat_iff.mp hprefix with heq | hprefix
    · exact absurd heq h
    · obtain ⟨rest, rfl⟩ := hprefix
      by_cases hnil : rest = []
      · subst hnil
        rw [List.append_nil] at hdir
        exact hdir.symm
      · exact (node_above (by simp [hdir]) hnil).symm
  · rfl

/-- The directory `p` is made unless something is there. -/
def ensureDirs (t : FileSystem β) (p : TreePath) : FileSystem β :=
  match t.node p with
  | some _ => t
  | none => t.makeDirs p

lemma ensureDirs_of_some (h : t.node p ≠ none) : t.ensureDirs p = t := by
  unfold ensureDirs
  split
  · rfl
  · rename_i hnone
    exact absurd hnone h

lemma ensureDirs_of_none (h : t.node p = none) : t.ensureDirs p = t.makeDirs p := by
  simp [ensureDirs, h]

/-- Only the directories on the path are made. -/
lemma node_ensureDirs_elsewhere (h : ¬ q <+: p) : (t.ensureDirs p).node q = t.node q := by
  by_cases hnone : t.node p = none
  · rw [ensureDirs_of_none hnone, node_makeDirs, if_neg h]
  · rw [ensureDirs_of_some hnone]

lemma node_ensureDirs_self : (t.ensureDirs p).node p ≠ none := by
  by_cases h : t.node p = none
  · simp [ensureDirs_of_none h, node_makeDirs_self]
  · rwa [ensureDirs_of_some h]

/-! ## Copies -/

/-- Below `dir` there is everything that lies below the root of `source`, with the same
contents. -/
def HasCopy (t : FileSystem β) (dir : TreePath) (source : FileSystem β) : Prop :=
  ∀ p, p ≠ [] → source.node p ≠ none → t.node (dir ++ p) = source.node p

end FileSystem

/-! ## Paths as they are written -/

/-- Where a piece between two slashes leads. -/
def enter (path : TreePath) (piece : List Char) : TreePath :=
  if piece = [] ∨ piece = ['.'] then path
  else if piece = ['.', '.'] then path.dropLast
  else path ++ [String.ofList piece]

/-- The names that a path is written with; there are no symbolic links. -/
def components (path : String) : TreePath := (path.toList.splitOn '/').foldl enter []

/-- A name that something can have in a directory. -/
structure IsName (name : String) : Prop where
  noSlash : '/' ∉ name.toList
  ne_empty : name ≠ ""
  ne_dot : name ≠ "."
  ne_dots : name ≠ ".."

section
variable {base name : String}

lemma enter_name (h : IsName name) (path : TreePath) : enter path name.toList = path ++ [name] := by
  have hempty : name.toList ≠ [] := fun he => h.ne_empty (String.toList_inj.mp he)
  have hdot : name.toList ≠ ['.'] := fun he => h.ne_dot (String.toList_inj.mp he)
  have hdots : name.toList ≠ ['.', '.'] := fun he => h.ne_dots (String.toList_inj.mp he)
  rw [enter, if_neg (by simp [hempty, hdot]), if_neg hdots, String.ofList_toList]

lemma components_name (h : IsName name) : components name = [name] := by
  rw [components, List.splitOn_eq_singleton h.noSlash]
  exact enter_name h []

lemma components_append (base rest : String) :
    components (base ++ "/" ++ rest) =
      (rest.toList.splitOn '/').foldl enter (components base) := by
  have hlist : (base ++ "/" ++ rest).toList = base.toList ++ '/' :: rest.toList := by simp
  rw [components, hlist, List.splitOn_append_cons_self, List.foldl_append]
  rfl

lemma components_slash (base : String) : components (base ++ "/") = components base := by
  have happend := components_append base ""
  simpa [enter] using happend

end

/-- `p` lies in `dir` and is not `dir` itself. -/
def Below (dir p : TreePath) : Prop := dir <+: p ∧ p ≠ dir

/-- The directories are neither equal nor nested. -/
def Unnested (p q : TreePath) : Prop := ¬ p <+: q ∧ ¬ q <+: p

instance (dir p : TreePath) : Decidable (Below dir p) := inferInstanceAs (Decidable (_ ∧ _))

instance (p q : TreePath) : Decidable (Unnested p q) := inferInstanceAs (Decidable (_ ∧ _))

section
variable {dir p q : TreePath}

lemma below_append : Below dir (dir ++ p) ↔ p ≠ [] := by simp [Below]

lemma Below.append (h : Below dir p) (q : TreePath) : Below dir (p ++ q) := by
  refine ⟨h.1.trans (List.prefix_append _ _), fun heq => h.2 ?_⟩
  have hlength : (p ++ q).length = dir.length := by rw [heq]
  have hle : dir.length ≤ p.length := h.1.length_le
  rw [List.length_append] at hlength
  exact (h.1.eq_of_length (by omega)).symm

lemma Below.not_above (h : Below dir p) : ¬ p <+: dir := fun hp =>
  h.2 (hp.eq_of_length (le_antisymm hp.length_le h.1.length_le))

/-- What is on the way to something below or below that, and not above, is itself below. -/
lemma Below.of_near (h : Below dir p) (hq : ¬ q <+: dir) (near : q <+: p ∨ p <+: q) :
    Below dir q := by
  refine ⟨?_, fun heq => hq (heq ▸ List.prefix_refl _)⟩
  rcases near with hqp | hpq
  · exact (List.prefix_or_prefix_of_prefix h.1 hqp).resolve_right hq
  · exact h.1.trans hpq

lemma unnested_append : Unnested (dir ++ p) (dir ++ q) ↔ Unnested p q := by
  simp [Unnested, List.prefix_append_right_inj]

/-- Nothing lies in both of two directories that are apart. -/
lemma Unnested.apart {r : TreePath} (h : Unnested p q) (hp : p <+: r) : ¬ q <+: r :=
  fun hq => (List.prefix_or_prefix_of_prefix hp hq).elim h.1 h.2

end

/-! ## Paths on their way -/

/-- The directories that a path leads through as it is written, from the root to its end. -/
def way (path : String) : List TreePath := (path.toList.splitOn '/').scanl enter []

lemma components_mem_way (path : String) : components path ∈ way path :=
  List.mem_of_getLast? List.getLast?_scanl

/-- The path is relative and never goes up. -/
def Stays (path : String) : Prop :=
  path.startsWith "/" = false ∧ ['.', '.'] ∉ path.toList.splitOn '/'

instance (path : String) : Decidable (Stays path) := inferInstanceAs (Decidable (_ ∧ _))

section
variable {pieces : List (List Char)} {base p : TreePath}

lemma enter_of_ne_dots {piece : List Char} (h : piece ≠ ['.', '.']) (base : TreePath) :
    enter base piece = base ++ enter [] piece := by
  simp only [enter, if_neg h]
  split
  · exact (List.append_nil base).symm
  · rfl

lemma foldl_enter (h : ['.', '.'] ∉ pieces) (base : TreePath) :
    pieces.foldl enter base = base ++ pieces.foldl enter [] := by
  induction pieces generalizing base with
  | nil => simp
  | cons piece rest ih =>
    obtain ⟨hpiece, hrest⟩ := not_or.mp (List.mem_cons.not.mp h)
    rw [List.foldl_cons, List.foldl_cons, ih hrest (enter base piece), ih hrest (enter [] piece),
      enter_of_ne_dots (Ne.symm hpiece) base, List.append_assoc]

/-- Without going up, the way leads from where it starts to its end. -/
lemma between_of_mem_scanl (h : ['.', '.'] ∉ pieces) (hp : p ∈ pieces.scanl enter base) :
    base <+: p ∧ p <+: pieces.foldl enter base := by
  induction pieces generalizing base with
  | nil =>
    rw [List.scanl_nil, List.mem_singleton] at hp
    subst hp
    exact ⟨List.prefix_refl _, List.prefix_refl _⟩
  | cons piece rest ih =>
    obtain ⟨hpiece, hrest⟩ := not_or.mp (List.mem_cons.not.mp h)
    have hstart : base <+: enter base piece := by
      rw [enter_of_ne_dots (Ne.symm hpiece) base]
      exact List.prefix_append _ _
    rw [List.scanl_cons, List.mem_cons] at hp
    rcases hp with rfl | hp
    · refine ⟨List.prefix_refl _, ?_⟩
      rw [foldl_enter h]
      exact List.prefix_append _ _
    · obtain ⟨hbase, hend⟩ := ih hrest hp
      exact ⟨hstart.trans hbase, hend⟩

lemma mem_way_append {base rest : String} :
    p ∈ way (base ++ "/" ++ rest) ↔
      p ∈ way base ∨ p ∈ (rest.toList.splitOn '/').scanl enter (components base) := by
  have hlist : (base ++ "/" ++ rest).toList = base.toList ++ '/' :: rest.toList := by simp
  have hway : way (base ++ "/" ++ rest) = way base ++
      ((rest.toList.splitOn '/').scanl enter (components base)).tail := by
    rw [way, hlist, List.splitOn_append_cons_self, List.scanl_append]
    rfl
  have hhead := List.cons_head_tail
    (List.scanl_ne_nil (f := enter) (b := components base) (l := rest.toList.splitOn '/'))
  rw [List.head_scanl] at hhead
  rw [hway, ← hhead, List.mem_append, List.mem_cons, List.tail_cons]
  constructor
  · rintro (hp | hp)
    · exact .inl hp
    · exact .inr (.inr hp)
  · rintro (hp | rfl | hp)
    · exact .inl hp
    · exact .inl (components_mem_way base)
    · exact .inr hp

lemma mem_way_slash {base : String} : p ∈ way (base ++ "/") ↔ p ∈ way base := by
  have happend : p ∈ way (base ++ "/" ++ "") ↔
      p ∈ way base ∨ p ∈ ("".toList.splitOn '/').scanl enter (components base) := mem_way_append
  have hempty : ("".toList.splitOn '/').scanl enter (components base) =
      [components base, components base] := rfl
  rw [String.append_empty, hempty] at happend
  rw [happend]
  constructor
  · rintro (hp | hp)
    · exact hp
    · obtain rfl : p = components base := by simpa using hp
      exact components_mem_way base
  · exact .inl

end

end FileTree
