import Kubedal.Utils.Pool

/-!
# Erasing requests without effect

A call and its answer are silent when they neither change the state nor depend on it. Silent calls
can be made at any later time, and a request that has made no other calls need not have come at
all.

* `Silences` says which calls are silent;
* `erase`: every run is, but for requests that were silent throughout, a run without them.
-/

namespace Interaction

variable {S : Signature} {σ ρ ε α : Type}

/-- The events of `Silent` neither change the state nor depend on it. -/
structure Silences (V : Service S σ ρ ε α) (Silent : Event S → Prop) : Prop where
  same : ∀ s c a s', V.answers s c a s' → Silent ⟨c, a⟩ → s' = s
  anywhere : ∀ s c a s', V.answers s c a s' → Silent ⟨c, a⟩ → ∀ s₁, V.answers s₁ c a s₁
  admits : ∀ P r, V.admits P r → ∀ P', V.admits P' r

section
variable {V : Service S σ ρ ε α} {Silent : Event S → Prop} {P P' : Pool S σ ρ ε α}
  {t : Task S ρ ε α}

/-- Silent calls can be made at any time. -/
lemma Silences.exec (h : Silences V Silent) {p q : Prog S ε α} {u u' : Unit}
    {past : List (Event S)} (exec : Prog.Exec V.Possible p u past q u')
    (silent : ∀ e ∈ past, Silent e) (s : σ) : Prog.Exec V.answers p s past q s := by
  induction exec with
  | refl p _ => exact .refl p s
  | @step c k a u u' u'' τ q answered rest ih =>
    obtain ⟨s₁, s₁', answered⟩ := answered
    have here := h.anywhere _ _ _ _ answered (silent _ List.mem_cons_self) s
    exact .step here (ih fun e he => silent e (List.mem_cons_of_mem _ he))

/-- A task that has not been there arrives, and makes its silent calls at once. -/
lemma Silences.catchUp (h : Silences V Silent) {s₀ : σ}
    {steps steps' : List (Service.Transition S σ ρ ε α)} (run : V.Run s₀ steps P)
    (run' : V.Run s₀ steps' P') (ht : t ∈ P.running) (waits : t.prog.outcome = none)
    (silent : ∀ e ∈ t.past, Silent e) :
    ∃ more, V.Run s₀ more ⟨P'.state, P'.running ++ [t], P'.finished⟩ := by
  obtain ⟨x, hx, hlabel⟩ := run.arrived.running t ht
  obtain ⟨earlier, _, _, last⟩ := run.of_mem hx
  rw [hlabel] at last
  have arrives := run'.step (.arrive (h.admits _ _ (Service.admits_of_arrives last) P'))
  have exec := h.exec (run.faithful.running t ht) silent P'.state
  have hprogram : (V.program t.request).outcome = none := by
    cases ho : (V.program t.request).outcome with
    | none => rfl
    | some r =>
      obtain ⟨_, heq, _⟩ := exec.of_outcome ho
      rw [heq, ho] at waits
      cases waits
  rw [Pool.resume_of_none hprogram] at arrives
  obtain ⟨later, hlater, _⟩ := arrives.advance (fun _ _ _ _ h => h) P'.running [] rfl hprogram exec
  have here : (⟨t.request, [] ++ t.past, t.prog⟩ : Task S ρ ε α).prog.outcome = none := waits
  rw [Pool.resume_of_none here] at hlater
  exact ⟨_, hlater⟩

end

section
variable (Silent : Event S → Prop) [DecidablePred Silent]

/-- The requests in progress that have had some effect. -/
def awake (l : List (Task S ρ ε α)) : List (Task S ρ ε α) :=
  l.filter fun t => ¬ ∀ e ∈ t.past, Silent e

/-- The finished requests that have had some effect. -/
def heard (l : List (Response S ρ ε α)) : List (Response S ρ ε α) :=
  l.filter fun y => ¬ ∀ e ∈ y.past, Silent e

/-- `P'` is `P` without the requests that have had no effect. -/
structure Erases (P P' : Pool S σ ρ ε α) : Prop where
  state : P'.state = P.state
  running : P'.running.Perm (awake Silent P.running)
  finished : P'.finished = heard Silent P.finished

end

section
variable {V : Service S σ ρ ε α} {Silent : Event S → Prop} [DecidablePred Silent]
  {P P' : Pool S σ ρ ε α} {s : σ} {t : Task S ρ ε α}
  {before after before' after' : List (Task S ρ ε α)}

lemma awake_append (l l' : List (Task S ρ ε α)) :
    awake Silent (l ++ l') = awake Silent l ++ awake Silent l' := List.filter_append l l'

lemma heard_append (l l' : List (Response S ρ ε α)) :
    heard Silent (l ++ l') = heard Silent l ++ heard Silent l' := List.filter_append l l'

lemma awake_cons_of_silent (h : ∀ e ∈ t.past, Silent e) (l : List (Task S ρ ε α)) :
    awake Silent (t :: l) = awake Silent l := List.filter_cons_of_neg (by simpa using h)

lemma awake_cons_of_not (h : ¬ ∀ e ∈ t.past, Silent e) (l : List (Task S ρ ε α)) :
    awake Silent (t :: l) = t :: awake Silent l := List.filter_cons_of_pos (decide_eq_true h)

/-- A task without any effect goes on. -/
lemma Erases.resume_silent (hstate : P'.state = s)
    (hrunning : P'.running.Perm (awake Silent (before ++ after)))
    (hfinished : P'.finished = heard Silent P.finished) (silent : ∀ e ∈ t.past, Silent e) :
    Erases Silent (P.resume s before after t) P' := by
  cases ho : t.prog.outcome with
  | none =>
    rw [Pool.resume_of_none ho]
    refine ⟨hstate, ?_, hfinished⟩
    rw [awake_append, awake_cons_of_silent silent, ← awake_append]
    exact hrunning
  | some r =>
    rw [Pool.resume_of_some ho]
    refine ⟨hstate, hrunning, ?_⟩
    have nothing : heard Silent [(⟨t.request, t.past, r⟩ : Response S ρ ε α)] = [] :=
      List.filter_cons_of_neg (by simpa using silent)
    rw [heard_append, nothing, List.append_nil, hfinished]

/-- A task with an effect goes on in both. -/
lemma Erases.resume (hothers : (before' ++ after').Perm (awake Silent (before ++ after)))
    (hfinished : P'.finished = heard Silent P.finished) (effect : ¬ ∀ e ∈ t.past, Silent e) :
    Erases Silent (P.resume s before after t) (P'.resume s before' after' t) := by
  cases ho : t.prog.outcome with
  | none =>
    rw [Pool.resume_of_none ho, Pool.resume_of_none ho]
    refine ⟨rfl, ?_, hfinished⟩
    rw [awake_append, awake_cons_of_not effect]
    refine (List.perm_middle.trans ?_).trans List.perm_middle.symm
    rw [← awake_append]
    exact hothers.cons t
  | some r =>
    rw [Pool.resume_of_some ho, Pool.resume_of_some ho]
    refine ⟨rfl, hothers, ?_⟩
    have this : heard Silent [(⟨t.request, t.past, r⟩ : Response S ρ ε α)] = [_] :=
      List.filter_cons_of_pos (decide_eq_true effect)
    rw [heard_append, this, hfinished]

/-- Every run is, but for the requests without effect, a run in which these have not come. -/
theorem erase (h : Silences V Silent) {s₀ : σ} {steps : List (Service.Transition S σ ρ ε α)}
    (run : V.Run s₀ steps P) : ∃ steps' P', V.Run s₀ steps' P' ∧ Erases Silent P P' := by
  induction run with
  | start => exact ⟨[], .idle s₀, .start, rfl, .refl _, rfl⟩
  | @step steps P Q l run last ih =>
    obtain ⟨steps', P', run', erases⟩ := ih
    cases last with
    | @arrive r admitted =>
      refine ⟨steps', P', run', .resume_silent erases.state ?_ erases.finished (by simp)⟩
      rw [List.append_nil]
      exact erases.running
    | @answer before after r past c k a s' waiting answered =>
      by_cases now : ∀ e ∈ past ++ [(⟨c, a⟩ : Event S)], Silent e
      · -- nothing has happened
        have silent : ∀ e ∈ past, Silent e := fun e he => now e (List.mem_append_left _ he)
        have same := h.same _ _ _ _ answered (now _ (List.mem_append_right _ List.mem_cons_self))
        refine ⟨steps', P', run', .resume_silent (erases.state.trans same.symm) ?_
          erases.finished now⟩
        have hrunning := erases.running
        rw [waiting, awake_append, awake_cons_of_silent silent, ← awake_append] at hrunning
        exact hrunning
      · have hrunning := erases.running
        rw [← erases.state] at answered
        by_cases silent : ∀ e ∈ past, Silent e
        · -- the first effect of the task: it has not been there until now
          obtain ⟨more, caught⟩ := h.catchUp run run' (Pool.mem_of_waiting waiting) rfl silent
          refine ⟨_, _, caught.step (.answer rfl answered), .resume ?_ erases.finished now⟩
          rw [waiting, awake_append, awake_cons_of_silent silent, ← awake_append] at hrunning
          rw [List.append_nil]
          exact hrunning
        · rw [waiting, awake_append, awake_cons_of_not silent] at hrunning
          obtain ⟨before', after', hsplit⟩ := List.append_of_mem
            (hrunning.mem_iff.mpr (List.mem_append_right _ List.mem_cons_self))
          refine ⟨_, _, run'.step (.answer hsplit answered), .resume ?_ erases.finished now⟩
          rw [hsplit] at hrunning
          rw [awake_append]
          exact (List.perm_middle.symm.trans (hrunning.trans List.perm_middle)).cons_inv
    | @disturb s' moved =>
      rw [← erases.state] at moved
      exact ⟨_, _, run'.step (.disturb moved), rfl, erases.running, erases.finished⟩

end

end Interaction
