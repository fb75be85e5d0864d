import Kubedal.Utils.Pool

/-!
# Components

A service that is put together from others: each component handles its own kind of requests,
sees its own part of the state, and is disturbed by the others in known ways only.

* `Component` is the interface between the whole and one component;
* `Component.project`: every run of the whole is a run of the component, so that what holds of
  every run of the component holds of the whole.
-/

namespace Interaction

variable {S : Signature} {σ σ' ρ ρ' ε ε' α α' : Type}

namespace Prog

/-- The program with other names for its errors and results. -/
def rename (f : ε' → ε) (g : α' → α) : Prog S ε' α' → Prog S ε α
  | .pure a => .pure (g a)
  | .throw e => .throw (f e)
  | .call c k => .call c fun a => (k a).rename f g

variable {f : ε' → ε} {g : α' → α}

lemma rename_id (p : Prog S ε α) : p.rename id id = p := by
  induction p with
  | pure a => rfl
  | throw e => rfl
  | call c k ih => exact congrArg (Prog.call c) (funext ih)

lemma outcome_rename (p : Prog S ε' α') :
    (p.rename f g).outcome = p.outcome.map fun r => (r.mapError f).map g := by
  cases p <;> rfl

lemma rename_eq_call {p : Prog S ε' α'} {c : S.Call} {k : S.Reply c → Prog S ε α}
    (h : p.rename f g = .call c k) :
    ∃ k', p = .call c k' ∧ k = fun a => (k' a).rename f g := by
  cases p with
  | pure a => cases h
  | throw e => cases h
  | call c' k' =>
    cases h
    exact ⟨k', rfl, rfl⟩

lemma Uses.of_rename {C : S.Call → Prop} {p : Prog S ε' α'} (h : p.Uses C) :
    (p.rename f g).Uses C := by
  induction p with
  | pure a => trivial
  | throw e => trivial
  | call c k ih => exact ⟨h.1, fun a => ih a (h.2 a)⟩

lemma Uses.attempt {C : S.Call → Prop} {p : Prog S ε' α'} (h : p.Uses C) :
    (p.attempt : Prog S ε (Except ε' α')).Uses C := by
  induction p with
  | pure a => trivial
  | throw e => trivial
  | call c k ih => exact ⟨h.1, fun a => ih a (h.2 a)⟩

end Prog

/-- `V'` is a component of `V`: `request` are its requests, and `view` is its part of the state. -/
structure Component (V : Service S σ ρ ε α) (V' : Service S σ' ρ' ε' α') where
  request : ρ' → ρ
  error : ε' → ε
  result : α' → α
  view : σ → σ'
  /-- The request of the component, if it is one. -/
  own : ρ → Option ρ'
  own_iff : ∀ r r', own r = some r' ↔ r = request r'
  program : ∀ r', V.program (request r') = (V'.program r').rename error result
  admits : ∀ P r', V.admits P (request r') → ∀ P', V'.admits P' r'
  answers : ∀ r', (V.program (request r')).Uses fun c =>
    ∀ s a s', V.answers s c a s' → V'.answers (view s) c a (view s')
  others : ∀ r, own r = none → (V.program r).Uses fun c =>
    ∀ s a s', V.answers s c a s' → view s' = view s ∨ V'.disturbs (view s) (view s')
  disturbs : ∀ s s', V.disturbs s s' → view s' = view s ∨ V'.disturbs (view s) (view s')

namespace Component

variable {V : Service S σ ρ ε α} {V' : Service S σ' ρ' ε' α'} (C : Component V V')

/-- A task of the component in the whole. -/
def task (t : Task S ρ' ε' α') : Task S ρ ε α :=
  ⟨C.request t.request, t.past, t.prog.rename C.error C.result⟩

/-- A finished request of the component in the whole. -/
def response (y : Response S ρ' ε' α') : Response S ρ ε α :=
  ⟨C.request y.request, y.past, (y.result.mapError C.error).map C.result⟩

/-- The step of a request of the component. -/
def label : Label S ρ → Option (Label S ρ')
  | .arrives r => (C.own r).map .arrives
  | .answered r past e => (C.own r).map fun r' => .answered r' past e
  | .disturbed => none

/-- The steps of requests of the component. -/
def labels (steps : List (Service.Transition S σ ρ ε α)) : List (Label S ρ') :=
  (steps.map Service.Transition.label).filterMap C.label

end Component

/-- The steps of requests. -/
def requestLabels (steps : List (Service.Transition S σ ρ ε α)) : List (Label S ρ) :=
  (steps.map Service.Transition.label).filter fun l =>
    match l with
    | .disturbed => false
    | _ => true

lemma requestLabels_append (steps more : List (Service.Transition S σ ρ ε α)) :
    requestLabels (steps ++ more) = requestLabels steps ++ requestLabels more := by
  simp [requestLabels]

namespace Component

section
variable {V : Service S σ ρ ε α} {V' : Service S σ' ρ' ε' α'} (C : Component V V')

/-- The tasks of the component. -/
def tasks (l : List (Task S ρ ε α)) : List (Task S ρ ε α) :=
  l.filter fun t => (C.own t.request).isSome

/-- The finished requests of the component. -/
def responses (l : List (Response S ρ ε α)) : List (Response S ρ ε α) :=
  l.filter fun y => (C.own y.request).isSome

/-- The pool of the component is the part of the pool of the whole that belongs to it. -/
structure Projects (P : Pool S σ ρ ε α) (P' : Pool S σ' ρ' ε' α') : Prop where
  state : P'.state = C.view P.state
  running : C.tasks P.running = P'.running.map C.task
  finished : C.responses P.finished = P'.finished.map C.response

variable {C} {P : Pool S σ ρ ε α} {P' : Pool S σ' ρ' ε' α'}
  {before after : List (Task S ρ ε α)} {before' after' : List (Task S ρ' ε' α')}

lemma own_request (r : ρ') : C.own (C.request r) = some r := (C.own_iff _ r).mpr rfl

lemma tasks_append (l l' : List (Task S ρ ε α)) :
    C.tasks (l ++ l') = C.tasks l ++ C.tasks l' := List.filter_append l l'

lemma responses_append (l l' : List (Response S ρ ε α)) :
    C.responses (l ++ l') = C.responses l ++ C.responses l' := List.filter_append l l'

lemma tasks_cons_of_own {t : Task S ρ ε α} {r : ρ'} (h : C.own t.request = some r)
    (l : List (Task S ρ ε α)) : C.tasks (t :: l) = t :: C.tasks l :=
  List.filter_cons_of_pos (by simp [h])

lemma tasks_cons_of_other {t : Task S ρ ε α} (h : C.own t.request = none)
    (l : List (Task S ρ ε α)) : C.tasks (t :: l) = C.tasks l :=
  List.filter_cons_of_neg (by simp [h])

lemma responses_singleton {y : Response S ρ ε α} {r : ρ'} (h : C.own y.request = some r) :
    C.responses [y] = [y] := List.filter_cons_of_pos (by simp [h])

lemma responses_singleton_of_other {y : Response S ρ ε α} (h : C.own y.request = none) :
    C.responses [y] = [] := List.filter_cons_of_neg (by simp [h])

/-- A task of the component goes on in both. -/
lemma Projects.resume (h : C.Projects P P') (s : σ) (t : Task S ρ' ε' α')
    (hbefore : C.tasks before = before'.map C.task) (hafter : C.tasks after = after'.map C.task) :
    C.Projects (P.resume s before after (C.task t)) (P'.resume (C.view s) before' after' t) := by
  have hown : C.own (C.task t).request = some t.request := own_request t.request
  have houtcome : (C.task t).prog.outcome = _ := Prog.outcome_rename t.prog
  cases ho : t.prog.outcome with
  | none =>
    rw [ho] at houtcome
    rw [Pool.resume_of_none houtcome, Pool.resume_of_none ho]
    refine ⟨rfl, ?_, h.finished⟩
    rw [tasks_append, tasks_cons_of_own hown, hbefore, hafter, List.map_append, List.map_cons]
  | some r =>
    rw [ho] at houtcome
    rw [Pool.resume_of_some houtcome, Pool.resume_of_some ho]
    refine ⟨rfl, ?_, ?_⟩
    · rw [tasks_append, hbefore, hafter, List.map_append]
    · rw [responses_append, h.finished, List.map_append, responses_singleton hown]
      rfl

/-- A task of another component is left out. -/
lemma Projects.resume_other {s : σ} (hs : P'.state = C.view s) {t : Task S ρ ε α}
    (other : C.own t.request = none) (hothers : C.tasks (before ++ after) = P'.running.map C.task)
    (hfinished : C.responses P.finished = P'.finished.map C.response) :
    C.Projects (P.resume s before after t) P' := by
  cases ho : t.prog.outcome with
  | none =>
    rw [Pool.resume_of_none ho]
    refine ⟨hs, ?_, hfinished⟩
    rw [tasks_append, tasks_cons_of_other other, ← tasks_append, hothers]
  | some r =>
    rw [Pool.resume_of_some ho]
    refine ⟨hs, hothers, ?_⟩
    rw [responses_append, hfinished, responses_singleton_of_other other, List.append_nil]

/-- What the others do is nothing to the component, or a disturbance. -/
lemma rest {s₀ : σ'} {steps' : List (Service.Transition S σ' ρ' ε' α')} {s' : σ}
    (run : V'.Run s₀ steps' P') (hstate : P'.state = C.view P.state)
    (moved : C.view s' = C.view P.state ∨ V'.disturbs (C.view P.state) (C.view s')) :
    ∃ more, V'.Run s₀ more { P' with state := C.view s' } ∧
      requestLabels more = requestLabels steps' := by
  rcases moved with same | moved
  · refine ⟨steps', ?_, rfl⟩
    rw [same, ← hstate]
    exact run
  · rw [← hstate] at moved
    refine ⟨_, run.step (.disturb moved), ?_⟩
    rw [requestLabels_append]
    exact List.append_nil _

/-- Every run of the whole is a run of the component, with the same steps of its requests. -/
theorem project {s₀ : σ} {steps : List (Service.Transition S σ ρ ε α)} {P : Pool S σ ρ ε α}
    (C : Component V V') (run : V.Run s₀ steps P) :
    ∃ steps' P', V'.Run (C.view s₀) steps' P' ∧ C.Projects P P' ∧
      requestLabels steps' = C.labels steps := by
  induction run with
  | start => exact ⟨[], .idle (C.view s₀), .start, ⟨rfl, rfl, rfl⟩, rfl⟩
  | @step steps P Q l run last ih =>
    obtain ⟨steps', P', run', projects, hlabels⟩ := ih
    have labels_snoc : C.labels (steps ++ [⟨P, l, Q⟩]) = C.labels steps ++ (C.label l).toList := by
      rw [labels, labels, List.map_append, List.filterMap_append]
      congr 1
    have added : ∀ l' Q', l' ≠ .disturbed → C.label l = some l' →
        requestLabels (steps' ++ [⟨P', l', Q'⟩]) = C.labels (steps ++ [⟨P, l, Q⟩]) := by
      intro l' Q' hne hl'
      rw [requestLabels_append, labels_snoc, hlabels, hl']
      cases l' with
      | disturbed => exact absurd rfl hne
      | _ => rfl
    have skipped : C.label l = none → requestLabels steps' = C.labels (steps ++ [⟨P, l, Q⟩]) := by
      intro hnone
      rw [labels_snoc, hlabels, hnone, Option.toList_none, List.append_nil]
    cases last with
    | @arrive r admitted =>
      cases hr : C.own r with
      | none =>
        -- the request belongs to another component
        refine ⟨steps', P', run', .resume_other projects.state hr ?_ projects.finished,
          skipped (by simp [label, hr])⟩
        rw [List.append_nil]
        exact projects.running
      | some r' =>
        obtain rfl := (C.own_iff r r').mp hr
        have none_after : C.tasks [] = ([] : List (Task S ρ' ε' α')).map C.task := rfl
        have here := projects.resume P.state ⟨r', [], V'.program r'⟩ projects.running none_after
        have step := Service.Step.arrive (V := V') (P := P') (C.admits P r' admitted P')
        rw [projects.state] at step
        refine ⟨_, _, run'.step step, ?_, added _ _ (by simp) (by simp [label, own_request])⟩
        rw [C.program r']
        exact here
    | @answer before after r past c k a s' waiting answered =>
      have step : V.Step P (.answered r past ⟨c, a⟩) _ := .answer waiting answered
      cases hr : C.own r with
      | none =>
        have moved := run.uses_of_step step (C.others r hr) _ _ _ answered
        obtain ⟨more, hmore, hsame⟩ := rest run' projects.state moved
        refine ⟨more, _, hmore, .resume_other rfl hr ?_ projects.finished,
          hsame.trans (skipped (by simp [label, hr]))⟩
        have hrunning := projects.running
        rw [waiting, tasks_append, tasks_cons_of_other hr, ← tasks_append] at hrunning
        exact hrunning
      | some r' =>
        obtain rfl := (C.own_iff r r').mp hr
        -- the task of the component that waits for the same answer
        have hrunning := projects.running
        rw [waiting, tasks_append, tasks_cons_of_own (own_request r')] at hrunning
        obtain ⟨before', rest, hsplit, hbefore, hrest⟩ := List.map_eq_append_iff.mp hrunning.symm
        obtain ⟨t, after', hcons, htask, hafter⟩ := List.map_eq_cons_iff.mp hrest
        obtain ⟨r'', past', p⟩ := t
        simp only [task, Task.mk.injEq] at htask
        obtain ⟨hrequest, rfl, hprog⟩ := htask
        obtain rfl : r'' = r' := by
          have h₁ := own_request (C := C) r''
          rw [hrequest, own_request] at h₁
          exact (Option.some.inj h₁).symm
        obtain ⟨k', rfl, rfl⟩ := Prog.rename_eq_call hprog
        have hwaiting : P'.running = before' ++ ⟨r'', past', .call c k'⟩ :: after' := by
          rw [hsplit, hcons]
        have answered' := run.uses_of_step step (C.answers r'') _ _ _ answered
        rw [← projects.state] at answered'
        exact ⟨_, _, run'.step (.answer hwaiting answered'),
          projects.resume s' ⟨r'', past' ++ [(⟨c, a⟩ : Event S)], k' a⟩ hbefore.symm hafter.symm,
          added _ _ (by simp) (by simp [label, own_request])⟩
    | @disturb s' moved =>
      obtain ⟨more, hmore, hsame⟩ := rest run' projects.state (C.disturbs _ _ moved)
      exact ⟨more, _, hmore, ⟨rfl, projects.running, projects.finished⟩, hsame.trans (skipped rfl)⟩

/-- A step of a request in the run of the component is one in the run of the whole. -/
lemma mem_labels {steps : List (Service.Transition S σ ρ ε α)} {r' : ρ'} {past : List (Event S)}
    {e : Event S} (h : .answered r' past e ∈ C.labels steps) :
    ∃ x ∈ steps, x.label = .answered (C.request r') past e := by
  obtain ⟨l, hl, heq⟩ := List.mem_filterMap.mp h
  obtain ⟨x, hx, rfl⟩ := List.mem_map.mp hl
  refine ⟨x, hx, ?_⟩
  cases hlabel : x.label with
  | arrives r => simp [label, hlabel] at heq
  | disturbed => simp [label, hlabel] at heq
  | answered r past₁ e₁ =>
    simp only [hlabel, label, Option.map_eq_some_iff, Label.answered.injEq] at heq
    obtain ⟨r₁, hr₁, rfl, rfl, rfl⟩ := heq
    rw [(C.own_iff r r₁).mp hr₁]

/-- In a run of the whole, a request of the component has run its program in the component. -/
lemma exec_of_mem {s₀ : σ} {steps : List (Service.Transition S σ ρ ε α)} {P : Pool S σ ρ ε α}
    (C : Component V V') (run : V.Run s₀ steps P) {x : Service.Transition S σ ρ ε α}
    (hx : x ∈ steps) {r' : ρ'} {past : List (Event S)} {e : Event S}
    (hlabel : x.label = .answered (C.request r') past e) :
    ∃ q, Prog.Exec V'.Possible (V'.program r') () (past ++ [e]) q () := by
  obtain ⟨steps', P', run', _, hlabels⟩ := C.project run
  have own : C.label x.label = some (.answered r' past e) := by
    rw [hlabel]
    simp [label, own_request]
  have hmem : Label.answered r' past e ∈ C.labels steps :=
    List.mem_filterMap.mpr ⟨x.label, List.mem_map.mpr ⟨x, hx, rfl⟩, own⟩
  rw [← hlabels] at hmem
  obtain ⟨x', hx', hlabel'⟩ := List.mem_map.mp (List.mem_filter.mp hmem).1
  obtain ⟨earlier, _, run'', last⟩ := run'.of_mem hx'
  rw [hlabel'] at last
  exact run''.exec_of_step last

end

end Component

end Interaction
