import Kubedal.Utils.Session

/-!
# Requests that take effect when they end

Where a request changes nothing that can be seen until the step in which it ends, every run looks
like its finished requests one after another, in the order in which they have ended.

* `Run.trace`: the run is a trace of an abstract machine;
* `Run.finished_prefix`: the order is that in which the responses came.
-/

namespace Interaction

namespace Service

variable {S : Signature} {σ ρ ε α μ : Type} {V : Service S σ ρ ε α} {s₀ : σ}
  {steps : List (Transition S σ ρ ε α)} {P P' : Pool S σ ρ ε α}

/-- At most one request ends in a step. -/
lemma finished_of_step {l : Label S ρ} (h : V.Step P l P') :
    P'.finished = P.finished ∨ ∃ y, P'.finished = P.finished ++ [y] := by
  have ends : ∀ (s : σ) (before after : List (Task S ρ ε α)) (t : Task S ρ ε α),
      (P.resume s before after t).finished = P.finished ∨
        ∃ y, (P.resume s before after t).finished = P.finished ++ [y] := by
    intro s before after t
    cases ho : t.prog.outcome with
    | none =>
      rw [Pool.resume_of_none ho]
      exact .inl rfl
    | some result =>
      rw [Pool.resume_of_some ho]
      exact .inr ⟨_, rfl⟩
  cases h with
  | arrive admitted => exact ends _ _ _ _
  | answer waiting answered => exact ends _ _ _ _
  | disturb moved => exact .inl rfl

/-- What has ended by some step of a run stays first among what has ended. -/
lemma Run.finished_prefix (run : V.Run s₀ steps P) {x : Transition S σ ρ ε α} (hx : x ∈ steps) :
    x.source.finished <+: P.finished := by
  induction run with
  | start => cases hx
  | @step steps P P' l run last ih =>
    have grows : P.finished <+: P'.finished := by
      rcases finished_of_step last with same | ⟨y, more⟩
      · exact ⟨[], by rw [List.append_nil, same]⟩
      · rw [more]
        exact List.prefix_append _ _
    rcases List.mem_append.mp hx with hx | hx
    · exact (ih hx).trans grows
    · rw [List.mem_singleton.mp hx]
      exact grows

/-- The rule: a step without a response leaves what `view` shows, and a step with a response makes
a step of the machine. -/
lemma Run.trace {A : μ → ρ → Except ε α → μ → Prop} (view : σ → μ) (run : V.Run s₀ steps P)
    (waits : ∀ x ∈ steps, x.target.finished = x.source.finished →
      view x.target.state = view x.source.state)
    (ends : ∀ x ∈ steps, ∀ y, x.target.finished = x.source.finished ++ [y] →
      A (view x.source.state) y.request y.result (view x.target.state)) :
    Trace A (view s₀) P.finished (view P.state) := by
  induction run with
  | start => exact .start
  | @step steps P P' l run last ih =>
    have hlast : (⟨P, l, P'⟩ : Transition S σ ρ ε α) ∈ steps ++ [⟨P, l, P'⟩] :=
      List.mem_append_right _ List.mem_cons_self
    have earlier := ih (fun x hx => waits x (List.mem_append_left _ hx))
      fun x hx => ends x (List.mem_append_left _ hx)
    rcases finished_of_step last with same | ⟨y, more⟩
    · rw [same, show view P'.state = view P.state from waits _ hlast same]
      exact earlier
    · rw [more]
      exact .step earlier (ends _ hlast y more)

end Service

end Interaction
