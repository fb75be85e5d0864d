import Kubedal.Resource.DataPodController
import Kubedal.Resource.ReplicaObjects
import Kubedal.Utils.LabelSelector

/-!
# Rendered label selectors

The controllers render labels as `key=value` between commas, and escape nothing.

* `labelGrammar` is how the API server reads a label selector;
* `selector_honoured_iff`: a rendered selector that is not refused selects the objects with these
  labels exactly when its keys and values hold nothing that the grammar takes for a sign.
-/

namespace Kubedal

open Interaction Kube Resource
open LabelSelector (Requirement IsWord IsPlain interpret)

/-! ## Selectors as they are read -/

/-- Besides the grammar there are checks on the keys and values, which let `accepts` through. -/
def labelGrammar (accepts : Requirement → Bool) : Selects := fun text =>
  (interpret accepts text).map fun rs object => rs.all fun r => r.Matches object.lookup

/-- The object has every pair of the labels. -/
def HasPairs (labels object : StringMap String) : Prop :=
  ∀ key value, labels.lookup key = some value → object.lookup key = some value

/-- The text selects the objects that have the labels, and no others. -/
def SelectsExactly (selects : Selects) (text : String) (labels : StringMap String) : Prop :=
  ∃ matched, selects text = some matched ∧ ∀ object, matched object = true ↔ HasPairs labels object

/-- The text is refused or it says what the labels say. -/
def SelectorHonoured (accepts : Requirement → Bool) (text : String) (labels : StringMap String) :
    Prop :=
  labelGrammar accepts text = none ∨ SelectsExactly (labelGrammar accepts) text labels

/-- No key is empty, and no key or value holds a sign of the grammar, whitespace or a zero byte. -/
def PlainLabels (labels : StringMap String) : Prop :=
  ∀ key value, labels.lookup key = some value → IsWord key ∧ IsPlain value

section
variable {accepts : Requirement → Bool} {labels object : StringMap String} {text : String}

/-- The pairs in the order in which they are rendered. -/
def labelPairs (labels : StringMap String) : List (String × String) :=
  labels.entries.map fun e => (e.1, e.2)

lemma renderSelector_eq (labels : StringMap String) :
    renderSelector labels = LabelSelector.render (labelPairs labels) := by
  simp only [renderSelector, LabelSelector.render, labelPairs, List.map_map]
  rfl

lemma mem_labelPairs {p : String × String} :
    p ∈ labelPairs labels ↔ labels.lookup p.1 = some p.2 := by
  rw [← Option.mem_def, AList.mem_lookup_iff, labelPairs, List.mem_map]
  constructor
  · rintro ⟨e, he, rfl⟩
    exact he
  · exact fun h => ⟨⟨p.1, p.2⟩, h, rfl⟩

lemma clean_labelPairs (plain : PlainLabels labels) : LabelSelector.Clean (labelPairs labels) :=
  fun p hp => plain p.1 p.2 (mem_labelPairs.mp hp)

/-! ## PlainLabels labels are read as they are written -/

lemma matches_equation {key value : String} {found : String → Option String} :
    (Requirement.oneOf key [value]).Matches found = true ↔ found key = some value := by
  unfold Requirement.Matches
  cases h : found (Requirement.oneOf key [value]).key with
  | none =>
    rw [show found key = none from h]
    simp [Requirement.admits]
  | some value' =>
    rw [show found key = some value' from h]
    simp [Requirement.admits]

/-- The equations of the pairs say that an object has them all. -/
lemma all_equations_iff :
    ((labelPairs labels).map fun p => Requirement.oneOf p.1 [p.2]).all
      (fun r => r.Matches object.lookup) = true ↔ HasPairs labels object := by
  simp only [List.all_map, List.all_eq_true, Function.comp_apply, matches_equation]
  constructor
  · intro h key value hvalue
    exact h (key, value) (mem_labelPairs.mpr hvalue)
  · intro h p hp
    exact h p.1 p.2 (mem_labelPairs.mp hp)

lemma honoured_of_plain (plain : PlainLabels labels) :
    SelectorHonoured accepts (renderSelector labels) labels := by
  have hread := LabelSelector.parse_render (clean_labelPairs plain)
  rw [← renderSelector_eq] at hread
  unfold SelectorHonoured SelectsExactly labelGrammar interpret
  rw [hread, Option.filter_some]
  split
  · refine .inr ⟨_, rfl, fun object => ?_⟩
    exact all_equations_iff
  · exact .inl rfl

/-! ## Other labels are not -/

lemma lookup_insert_eq_update (object : StringMap String) (key value : String) :
    (object.insert key value).lookup = Function.update object.lookup key (some value) := by
  funext key'
  by_cases h : key' = key
  · subst h
    rw [AList.lookup_insert, Function.update_self]
  · rw [AList.lookup_insert_ne h, Function.update_of_ne h]

/-- A selector that selects exactly these labels names each of their pairs. -/
lemma plain_of_exactly (exactly : SelectsExactly (labelGrammar accepts) text labels) :
    PlainLabels labels := by
  obtain ⟨matched, hselects, hmatched⟩ := exactly
  obtain ⟨rs, hrs, rfl⟩ := Option.map_eq_some_iff.mp hselects
  obtain ⟨hparse, _⟩ := Option.filter_eq_some_iff.mp hrs
  simp only [List.all_eq_true] at hmatched
  intro key value hvalue
  have matched := (hmatched labels).mpr fun _ _ h => h
  have forced : ∀ w, (∀ r ∈ rs, r.Matches (Function.update labels.lookup key (some w))) →
      w = value := by
    intro w hw
    rw [← lookup_insert_eq_update] at hw
    have carried := (hmatched (labels.insert key w)).mp hw key value hvalue
    rw [AList.lookup_insert] at carried
    exact Option.some.inj carried
  obtain ⟨values, hmem, hin⟩ := LabelSelector.exists_oneOf_of_forced hvalue matched forced
  have read := LabelSelector.parse_readFrom hparse _ hmem
  refine ⟨LabelSelector.isWord_of_lexFrom (by simp) read.key, ?_⟩
  rcases read.values value hin with rfl | hword
  · simp [IsPlain]
  · exact (LabelSelector.isWord_of_lexFrom (by simp) hword).2

lemma renderSelector_honoured_iff : SelectorHonoured accepts (renderSelector labels) labels ↔
    labelGrammar accepts (renderSelector labels) = none ∨ PlainLabels labels := by
  constructor
  · rintro (refused | exactly)
    · exact .inl refused
    · exact .inr (plain_of_exactly exactly)
  · rintro (refused | plain)
    · exact .inl refused
    · exact honoured_of_plain plain

end

/-! ## The controllers -/

/-- The selector that a request to list objects is sent with. -/
def KubeCall.labelSelector : KubeCall → Option String
  | .listDataNodes _ params => params.labelSelector
  | .listDataPods _ params => params.labelSelector
  | .listPvcMetadata _ params => params.labelSelector
  | _ => none

def Call.labelSelector : Call → Option String
  | .kube c => c.labelSelector
  | _ => none

/-- Some run of the reconciler, however its calls are answered, lists objects with the selector. -/
def Queries (p : Reconcile Action) (text : String) : Prop :=
  p.CanMake (fun _ _ _ _ => True) () fun c => c.labelSelector = some text

/-- Whatever the reconciler lists objects with is refused or says what the labels say. -/
def HonoursLabels (accepts : Requirement → Bool) (labels : StringMap String)
    (p : Reconcile Action) : Prop :=
  ∀ text, Queries p text → SelectorHonoured accepts text labels

section
variable {accepts : Requirement → Bool} {labels : StringMap String} {p : Reconcile Action}

/-- No selector is sent but the rendered one. -/
def Call.SendsOnly (labels : StringMap String) (c : Call) : Prop :=
  ∀ text, c.labelSelector = some text → text = renderSelector labels

lemma sendsOnly_of_none {c : Call} (h : c.labelSelector = none) : c.SendsOnly labels := by
  intro text htext
  rw [h] at htext
  cases htext

lemma sendsOnly_rendered {c : Call} (h : c.labelSelector = some (renderSelector labels)) :
    c.SendsOnly labels := by
  intro text htext
  rw [h] at htext
  exact (Option.some.inj htext).symm

/-- A set lists its replicas by the labels that they are to match. -/
lemma reconcileSet_sendsOnly (drs : DataReplicaSet) :
    drs.reconcile.Uses (Call.SendsOnly drs.spec.selector.labels) := by
  apply uses_reconcileSet
  case hl => exact fun _ => sendsOnly_rendered rfl
  all_goals intros; exact sendsOnly_of_none rfl

lemma reconcilePod_sendsOnly {pod : DataPod} (h : pod.spec.dataNodeSelector = some labels) :
    pod.reconcile.Uses (Call.SendsOnly labels) := by
  apply uses_reconcilePod
  case hl =>
    intro ns selector hselector
    cases h.symm.trans hselector
    exact sendsOnly_rendered rfl
  all_goals intros; exact sendsOnly_of_none rfl

lemma honoursLabels_of (sends : p.Uses (Call.SendsOnly labels))
    (honoured : SelectorHonoured accepts (renderSelector labels) labels) :
    HonoursLabels accepts labels p := by
  rintro text ⟨τ, q, _, run, e, he, asked⟩
  rw [run.uses sends e he text asked]
  exact honoured

end

/-- A set that selects by the labels. -/
def setSelecting (labels : StringMap String) : DataReplicaSet where
  metadata := { name := some "set", ns := some "default", uid := some "set-uid" }
  spec :=
    { replicas := 1
      selector := ⟨labels⟩
      sourcePod := ⟨"source", none⟩
      template := ⟨⟨labels⟩, ⟨none, none, none, none⟩⟩ }
  status := none

/-- A `DataPod` that selects its `DataNode` by the labels. -/
def podSelecting (labels : StringMap String) : DataPod where
  metadata := { name := some "pod", ns := some "default", uid := some "pod-uid" }
  spec := ⟨some "/data", none, some labels, none⟩
  status := none

lemma setSelecting_queries (labels : StringMap String) :
    Queries (setSelecting labels).reconcile (renderSelector labels) := by
  have run : Prog.Exec (fun _ _ _ _ => True) (setSelecting labels).reconcile ()
      [⟨.kube (.listDataPods "default" ⟨some (renderSelector labels)⟩),
        (Except.error .failed : Except KubeError (List DataPod))⟩] _ () :=
    .step trivial (.refl _ _)
  exact ⟨_, _, _, run, _, List.mem_cons_self, rfl⟩

lemma podSelecting_queries (labels : StringMap String) :
    Queries (podSelecting labels).reconcile (renderSelector labels) := by
  have run : Prog.Exec (fun _ _ _ _ => True) (podSelecting labels).reconcile ()
      [⟨.kube (.getDataPod "default" "pod"),
          (Except.ok (podSelecting labels) : Except KubeError DataPod)⟩,
        ⟨.kube (.listDataNodes "default" ⟨some (renderSelector labels)⟩),
          (Except.error .failed : Except KubeError (List DataNode))⟩] _ () :=
    .step trivial (show Prog.Exec _ _ () _ _ _ from .step trivial (.refl _ _))
  exact ⟨_, _, _, run, _, List.mem_cons_of_mem _ List.mem_cons_self, rfl⟩

/-- For all labels, and whatever checks there are: the selectors that either controller sends are
refused or select exactly the objects with these labels if and only if the rendered text is refused
or the labels are plain. -/
theorem selector_honoured_iff (accepts : Requirement → Bool) (labels : StringMap String) :
    ((∀ drs : DataReplicaSet, drs.spec.selector.labels = labels →
        HonoursLabels accepts labels drs.reconcile) ↔
      labelGrammar accepts (renderSelector labels) = none ∨ PlainLabels labels) ∧
    ((∀ pod : DataPod, pod.spec.dataNodeSelector = some labels →
        HonoursLabels accepts labels pod.reconcile) ↔
      labelGrammar accepts (renderSelector labels) = none ∨ PlainLabels labels) := by
  rw [← renderSelector_honoured_iff]
  refine ⟨⟨fun honours => ?_, ?_⟩, ⟨fun honours => ?_, ?_⟩⟩
  · exact honours (setSelecting labels) rfl _ (setSelecting_queries labels)
  · rintro honoured drs rfl
    exact honoursLabels_of (reconcileSet_sendsOnly drs) honoured
  · exact honours (podSelecting labels) rfl _ (podSelecting_queries labels)
  · exact fun honoured pod hpod => honoursLabels_of (reconcilePod_sendsOnly hpod) honoured

/-! ## A value that is read as two requirements -/

/-- Checks on a name: letters, digits and the signs between them. -/
def isName (s : String) : Bool :=
  s.toList.all (fun c => c.isAlphanum || c ∈ ['-', '_', '.']) && s.toList.length ≤ 63 &&
    (s.toList.head?.any Char.isAlphanum) && (s.toList.getLast?.any Char.isAlphanum)

/-- The checks on keys without a prefix. -/
def nameChecks (r : Requirement) : Bool := isName r.key && r.values.all fun v => v = "" || isName v

/-- The labels with one pair. -/
def misreadLabels : StringMap String := AList.singleton "a" "b,c=d"

/-- An object with other labels. -/
def misreadObject : StringMap String := (AList.singleton "c" "d").insert "a" "b"

theorem selector_misread :
    labelGrammar nameChecks (renderSelector misreadLabels) ≠ none ∧
      (labelGrammar nameChecks (renderSelector misreadLabels)).any (fun matched =>
        matched misreadObject) = true ∧
      ¬ HasPairs misreadLabels misreadObject ∧
      ¬ HonoursLabels nameChecks misreadLabels (setSelecting misreadLabels).reconcile ∧
      ¬ HonoursLabels nameChecks misreadLabels (podSelecting misreadLabels).reconcile := by
  have htext : renderSelector misreadLabels = LabelSelector.render [("a", "b"), ("c", "d")] := by
    decide +kernel
  have clean : LabelSelector.Clean [("a", "b"), ("c", "d")] := by
    intro p hp
    simp only [List.mem_cons, List.not_mem_nil, or_false] at hp
    rcases hp with rfl | rfl
    · exact ⟨⟨by simp, by simp [IsPlain]; rfl⟩, by simp [IsPlain]; rfl⟩
    · exact ⟨⟨by simp, by simp [IsPlain]; rfl⟩, by simp [IsPlain]; rfl⟩
  have passes : ([("a", "b"), ("c", "d")].map fun p => Requirement.oneOf p.1 [p.2]).all
      nameChecks = true := by
    simp [nameChecks, isName, Requirement.key, Requirement.values]
  have hgrammar : ∃ matched, labelGrammar nameChecks (renderSelector misreadLabels) =
      some matched ∧ matched misreadObject = true := by
    rw [htext]
    unfold labelGrammar interpret
    rw [LabelSelector.parse_render clean, Option.filter_some, if_pos passes]
    exact ⟨_, rfl, by decide +kernel⟩
  obtain ⟨matched, hmatched, hselected⟩ := hgrammar
  have hlacks : ¬ HasPairs misreadLabels misreadObject := by
    intro has
    have hlookup := has "a" "b,c=d" rfl
    exact absurd hlookup (by decide +kernel)
  have misread : ¬ SelectorHonoured nameChecks (renderSelector misreadLabels) misreadLabels := by
    rintro (refused | ⟨matched', hmatched', hexactly⟩)
    · rw [hmatched] at refused
      cases refused
    · cases hmatched.symm.trans hmatched'
      exact hlacks ((hexactly misreadObject).mp hselected)
  refine ⟨by rw [hmatched]; simp, by rw [hmatched]; exact hselected, hlacks, ?_, ?_⟩
  · exact fun honours => misread (honours _ (setSelecting_queries misreadLabels))
  · exact fun honours => misread (honours _ (podSelecting_queries misreadLabels))

end Kubedal
