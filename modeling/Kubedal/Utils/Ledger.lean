import Kubedal.Utils.Pool
import Mathlib

/-!
# Ledgers

A quantity that requests take in, pass between themselves and the state of their service, and
spend. What is taken in over a run is what is there at its end and what was spent.

* `Ledger` is what each step has to keep;
* `Ledger.balance` is the rule: it holds over every run.
-/

namespace Interaction

variable {S : Signature} {σ ρ ε α γ : Type}

/-- The sum over the steps of a run. -/
def total (f : σ → Label S ρ → ℕ) (steps : List (Service.Transition S σ ρ ε α)) : ℕ :=
  (steps.map fun x => f x.source.state x.label).sum

@[simp] lemma total_nil (f : σ → Label S ρ → ℕ) :
    total f ([] : List (Service.Transition S σ ρ ε α)) = 0 := rfl

lemma total_snoc (f : σ → Label S ρ → ℕ) (steps : List (Service.Transition S σ ρ ε α))
    (x : Service.Transition S σ ρ ε α) :
    total f (steps ++ [x]) = total f steps + f x.source.state x.label := by
  simp [total]

lemma total_add (f f' : σ → Label S ρ → ℕ) (steps : List (Service.Transition S σ ρ ε α)) :
    total (fun s l => f s l + f' s l) steps = total f steps + total f' steps := by
  simp [total, List.sum_map_add]

/-- Counting what the steps yield. -/
lemma count_filterMap_eq_total {κ : Type} [BEq κ] [LawfulBEq κ] [DecidableEq κ]
    (f : σ → Label S ρ → Option κ) (key : κ) (steps : List (Service.Transition S σ ρ ε α)) :
    (steps.filterMap fun x => f x.source.state x.label).count key =
      total (fun s l => if f s l = some key then 1 else 0) steps := by
  induction steps with
  | nil => rfl
  | cons x steps ih =>
    have hx : total (fun s l => if f s l = some key then 1 else 0) (x :: steps) =
        (if f x.source.state x.label = some key then 1 else 0) +
          total (fun s l => if f s l = some key then 1 else 0) steps := rfl
    rw [hx, ← ih]
    cases hf : f x.source.state x.label with
    | none => simp [hf]
    | some key' =>
      by_cases hkey : key' = key
      · simp [hf, hkey, Nat.add_comm]
      · simp [hf, hkey]

/-- `kept` is in the state, and `held` in the hands of a request. -/
structure Ledger (V : Service S σ ρ ε α) (s₀ : σ) (M : Monitor S γ) (start : ρ → γ)
    (post : ρ → γ → Except ε α → Prop) (kept : σ → ℕ) (held : ρ × γ → ℕ)
    (income expense : σ → Label S ρ → ℕ) : Prop where
  meets : ∀ P r, V.admits P r → (V.program r).wp M (start r) (post r)
  rely : ∀ s c a s', V.answers s c a s' → ∀ g, M.assumes g c a
  opens : kept s₀ = 0
  arrives : ∀ s r, held (r, start r) = 0 ∧ income s (.arrives r) = 0 ∧ expense s (.arrives r) = 0
  ends : ∀ r g result, post r g result → held (r, g) = 0
  step : ∀ {steps P} {before after : List (ρ × γ)} {r past c a s'}, V.Run s₀ steps P →
    P.phases M start = before ++ (r, M.after (start r) past) :: after →
    M.allows (M.after (start r) past) c → V.answers P.state c a s' →
    kept P.state + held (r, M.after (start r) past) + income P.state (.answered r past ⟨c, a⟩) =
      kept s' + held (r, M.next (M.after (start r) past) c a) +
        expense P.state (.answered r past ⟨c, a⟩)
  disturbed : ∀ s s', V.disturbs s s' →
    kept s + income s .disturbed = kept s' + expense s .disturbed

/-- What the requests in progress have in their hands. -/
def heldBy (held : ρ × γ → ℕ) (xs : List (ρ × γ)) : ℕ := (xs.map held).sum

lemma heldBy_append (held : ρ × γ → ℕ) (xs ys : List (ρ × γ)) :
    heldBy held (xs ++ ys) = heldBy held xs + heldBy held ys := by
  simp [heldBy]

@[simp] lemma heldBy_cons (held : ρ × γ → ℕ) (x : ρ × γ) (xs : List (ρ × γ)) :
    heldBy held (x :: xs) = held x + heldBy held xs := rfl

@[simp] lemma heldBy_nil (held : ρ × γ → ℕ) : heldBy held [] = 0 := rfl

namespace Ledger

variable {V : Service S σ ρ ε α} {s₀ : σ} {M : Monitor S γ} {start : ρ → γ}
  {post : ρ → γ → Except ε α → Prop} {kept : σ → ℕ} {held : ρ × γ → ℕ}
  {income expense : σ → Label S ρ → ℕ}

/-- The ledger needs no invariant of its own. -/
lemma watched (h : Ledger V s₀ M start post kept held income expense)
    {steps : List (Service.Transition S σ ρ ε α)} {P : Pool S σ ρ ε α} (run : V.Run s₀ steps P) :
    P.Watched M start post := by
  have always : Preserved V M start post (fun _ _ => True) fun _ _ _ => True :=
    { meets := h.meets
      rely := h.rely
      arrives := fun _ _ _ _ _ => trivial
      refuses := fun _ _ _ _ _ _ _ => trivial
      continues := fun _ _ _ _ _ _ _ _ _ _ _ _ _ _ => trivial
      returns := fun _ _ _ _ _ _ _ _ _ _ _ _ _ _ _ => trivial
      disturbed := fun _ _ _ _ _ => trivial }
  exact (always.run trivial run fun _ _ => trivial).1

/-- What is in the hands of the requests after a task has gone on. -/
lemma heldBy_resume {P : Pool S σ ρ ε α} {s : σ} {before after : List (Task S ρ ε α)}
    {t : Task S ρ ε α} (ends : ∀ result, t.prog.outcome = some result →
      held (t.request, M.after (start t.request) t.past) = 0) :
    heldBy held ((P.resume s before after t).phases M start) =
      heldBy held ((before ++ after).map fun t => (t.request, M.after (start t.request) t.past)) +
        held (t.request, M.after (start t.request) t.past) := by
  cases ho : t.prog.outcome with
  | none =>
    rw [Pool.resume_of_none ho]
    simp only [Pool.phases, List.map_append, List.map_cons, heldBy_append, heldBy_cons]
    omega
  | some result =>
    rw [Pool.resume_of_some ho, ends result ho]
    rfl

/-- What was taken in is there, or has been spent. -/
theorem balance (h : Ledger V s₀ M start post kept held income expense)
    {steps : List (Service.Transition S σ ρ ε α)} {P : Pool S σ ρ ε α} (run : V.Run s₀ steps P) :
    total income steps =
      kept P.state + heldBy held (P.phases M start) + total expense steps := by
  induction run with
  | start =>
    rw [total_nil, total_nil, Pool.idle, h.opens]
    rfl
  | @step steps P P' l run last ih =>
    rw [total_snoc, total_snoc]
    have watched' := h.watched (run.step last)
    cases last with
    | @arrive r admitted =>
      obtain ⟨hheld, hincome, hexpense⟩ := h.arrives P.state r
      rw [heldBy_resume fun _ _ => hheld, Pool.resume_state]
      simp only [List.append_nil]
      rw [ih, hincome, hexpense]
      show _ = _ + (heldBy held (P.phases M start) + held (r, start r)) + _
      omega
    | @answer before after r past c k a s' waiting answered =>
      have watched := h.watched run
      obtain ⟨allowed, hk⟩ := watched.meets _ (Pool.mem_of_waiting waiting)
      have hphases : P.phases M start =
          before.map (fun t => (t.request, M.after (start t.request) t.past)) ++
            (r, M.after (start r) past) ::
              after.map (fun t => (t.request, M.after (start t.request) t.past)) := by
        rw [Pool.phases, waiting]
        simp
      have hstep := h.step run hphases allowed answered
      have hnext : M.after (start r) (past ++ [⟨c, a⟩]) = M.next (M.after (start r) past) c a := by
        rw [Monitor.after_append]
        rfl
      rw [hphases, heldBy_append, heldBy_cons] at ih
      rw [heldBy_resume, Pool.resume_state, List.map_append, heldBy_append]
      · show _ = _ + (_ + held (r, M.after (start r) (past ++ [⟨c, a⟩]))) + _
        rw [hnext]
        show _ + income P.state (.answered r past ⟨c, a⟩) =
          _ + (_ + expense P.state (.answered r past ⟨c, a⟩))
        omega
      · intro result ho
        have hpost := Prog.wp_outcome (hk a (h.rely _ _ _ _ answered _)) ho
        show held (r, M.after (start r) (past ++ [⟨c, a⟩])) = 0
        rw [hnext]
        exact h.ends r _ result hpost
    | @disturb s' moved =>
      have hstep := h.disturbed _ _ moved
      show _ + income P.state .disturbed =
        kept s' + heldBy held (P.phases M start) + (_ + expense P.state .disturbed)
      omega

end Ledger

end Interaction
