import Kubedal.Utils.Pool
import Mathlib.Logic.Hydra

/-!
# Schedules

What becomes of the requests in progress when no new ones arrive, in whatever order their
calls are answered.

* `Service.Moves` is one such step; an answer leaves less of a program to do, and
  `Service.wellFounded_moves` adds that up over all requests;
* `Service.Drains` says that every schedule comes to an end, and with a response to every
  request; `Service.drains` is the rule for it.
-/

namespace Interaction

open Relation

variable {S : Signature} {σ ρ ε α : Type}

/-- A program after the answer to its next call. -/
inductive Prog.Continues : Prog S ε α → Prog S ε α → Prop
  | answer (c : S.Call) (k : S.Reply c → Prog S ε α) (a : S.Reply c) : Continues (k a) (.call c k)

lemma Prog.wellFounded_continues :
    WellFounded (Prog.Continues : Prog S ε α → Prog S ε α → Prop) := by
  refine ⟨fun p => ?_⟩
  induction p with
  | pure a => exact ⟨_, fun q h => by cases h⟩
  | throw e => exact ⟨_, fun q h => by cases h⟩
  | call c k ih =>
    refine ⟨_, fun q h => ?_⟩
    cases h with
    | answer _ _ a => exact ih a

namespace Pool

/-- What is left of the requests in progress. -/
def work (P : Pool S σ ρ ε α) : Multiset (Prog S ε α) := (P.running.map Task.prog : List _)

/-- All requests, whether they are in progress or finished. -/
def requests (P : Pool S σ ρ ε α) : List ρ :=
  P.finished.map Response.request ++ P.running.map Task.request

variable {P : Pool S σ ρ ε α} {s : σ} {before after : List (Task S ρ ε α)} {t : Task S ρ ε α}

lemma work_of_running (h : P.running = before ++ t :: after) :
    P.work = ((before ++ after).map Task.prog : List (Prog S ε α)) + {t.prog} := by
  unfold work
  rw [h, ← Multiset.coe_singleton, Multiset.coe_add, List.map_append, List.map_cons,
    List.map_append, List.append_assoc]
  refine Multiset.coe_eq_coe.mpr (List.Perm.append_left _ ?_)
  exact (List.perm_append_singleton _ _).symm

lemma requests_of_running (h : P.running = before ++ t :: after) : P.requests.Perm
    (t.request :: (P.finished.map Response.request ++ (before ++ after).map Task.request)) := by
  unfold requests
  rw [h, List.map_append, List.map_cons, List.map_append, ← List.append_assoc,
    ← List.append_assoc]
  exact List.perm_middle

/-- The task that is put back waits for its next call, or its request is finished. -/
lemma resume_cases (P : Pool S σ ρ ε α) (s : σ) (before after : List (Task S ρ ε α))
    (t : Task S ρ ε α) :
    ((P.resume s before after t).running = before ++ t :: after ∧
        (P.resume s before after t).finished = P.finished) ∨
      ∃ result, (P.resume s before after t).running = before ++ after ∧
        (P.resume s before after t).finished = P.finished ++ [⟨t.request, t.past, result⟩] := by
  cases ho : t.prog.outcome with
  | none =>
    rw [resume_of_none ho]
    exact .inl ⟨rfl, rfl⟩
  | some result =>
    rw [resume_of_some ho]
    exact .inr ⟨result, rfl, rfl⟩

end Pool

namespace Service

/-- One of the requests in progress gets an answer. -/
def Moves (V : Service S σ ρ ε α) (P P' : Pool S σ ρ ε α) : Prop :=
  ∃ r past e, V.Step P (.answered r past e) P'

variable {V : Service S σ ρ ε α} {P P' : Pool S σ ρ ε α}

/-- An answer replaces a program by what is left of it. -/
lemma Moves.cutExpand (h : V.Moves P P') : CutExpand Prog.Continues P'.work P.work := by
  obtain ⟨r, past, e, step⟩ := h
  obtain ⟨before, after, k, hrunning, _, hP'⟩ := step_answered step
  rw [hP', Pool.work_of_running hrunning]
  set t : Task S ρ ε α := ⟨r, past ++ [e], k e.reply⟩
  rcases Pool.resume_cases P P'.state before after t with ⟨hwaits, _⟩ | ⟨_, hdone, _⟩
  · rw [Pool.work_of_running hwaits]
    exact cutExpand_add_single _ (.answer e.call k e.reply)
  · refine ⟨0, .call e.call k, by simp, ?_⟩
    rw [add_zero]
    unfold Pool.work
    rw [hdone]

/-- Without new requests the answers come to an end, whatever they are. -/
theorem wellFounded_moves (V : Service S σ ρ ε α) : WellFounded fun P' P => V.Moves P P' :=
  Subrelation.wf Moves.cutExpand
    (InvImage.wf Pool.work (WellFounded.cutExpand Prog.wellFounded_continues))

/-- A step of a request loses none. -/
lemma Moves.requests (h : V.Moves P P') : P'.requests.Perm P.requests := by
  obtain ⟨r, past, e, step⟩ := h
  obtain ⟨before, after, k, hrunning, _, hP'⟩ := step_answered step
  rw [hP']
  set t : Task S ρ ε α := ⟨r, past ++ [e], k e.reply⟩
  refine List.Perm.trans ?_ (Pool.requests_of_running hrunning).symm
  rcases Pool.resume_cases P P'.state before after t with ⟨hwaits, hsame⟩ | ⟨_, hdone, hmore⟩
  · refine (Pool.requests_of_running hwaits).trans ?_
    rw [hsame]
  · unfold Pool.requests
    rw [hdone, hmore, List.map_append, List.append_assoc]
    exact List.perm_middle

/-- A request goes on when its call can be answered. -/
lemma moves_of_answer {t : Task S ρ ε α} (ht : t ∈ P.running) {c : S.Call}
    {k : S.Reply c → Prog S ε α} (hprog : t.prog = .call c k) {a : S.Reply c} {s' : σ}
    (answered : V.answers P.state c a s') : ∃ P', V.Moves P P' := by
  obtain ⟨before, after, hrunning⟩ := List.append_of_mem ht
  obtain ⟨r, past, p⟩ := t
  cases hprog
  exact ⟨_, r, past, ⟨c, a⟩, .answer hrunning answered⟩

lemma Run.moves {s₀ : σ} {steps : List (Transition S σ ρ ε α)} (run : V.Run s₀ steps P)
    (h : V.Moves P P') : ∃ more, V.Run s₀ (steps ++ more) P' := by
  obtain ⟨r, past, e, step⟩ := h
  exact ⟨_, run.step step⟩

/-- Every schedule of the requests in progress comes to an end, and then each of them has got its
response. -/
structure Drains (V : Service S σ ρ ε α) (P : Pool S σ ρ ε α) : Prop where
  ends : ¬ ∃ schedule : ℕ → Pool S σ ρ ε α, schedule 0 = P ∧
    ∀ n, V.Moves (schedule n) (schedule (n + 1))
  responds : ∀ P', ReflTransGen V.Moves P P' → (∀ P'', ¬ V.Moves P' P'') →
    P'.running = [] ∧ (P'.finished.map Response.request).Perm P.requests

/-- In all pools with requests in progress, some request can go on. -/
def NeverStuck (V : Service S σ ρ ε α) (s₀ : σ) : Prop :=
  ∀ steps P, V.Run s₀ steps P → P.running ≠ [] → ∃ P', V.Moves P P'

/-- A request in progress waits for an answer. -/
lemma Run.waiting {s₀ : σ} {steps : List (Transition S σ ρ ε α)} (run : V.Run s₀ steps P) :
    ∀ t ∈ P.running, t.prog.outcome = none := by
  induction run with
  | start => exact fun _ ht => by cases ht
  | @step _ P _ _ _ last ih =>
    cases last with
    | arrive =>
      intro t ht
      rcases Pool.mem_running_resume ht with ⟨rfl, waits⟩ | ht
      · exact waits
      · rw [List.append_nil] at ht
        exact ih t ht
    | answer hrunning =>
      intro t ht
      rcases Pool.mem_running_resume ht with ⟨rfl, waits⟩ | ht
      · exact waits
      · exact ih t (Pool.mem_of_others hrunning ht)
    | disturb => exact ih

/-- A service is never stuck when its environment answers every call. -/
lemma neverStuck_of_total (total : ∀ s c, ∃ a s', V.answers s c a s') (s₀ : σ) :
    V.NeverStuck s₀ := by
  intro steps P run busy
  obtain ⟨t, ht⟩ := List.exists_mem_of_ne_nil _ busy
  obtain ⟨c, k, hprog⟩ := Prog.outcome_eq_none_iff.mp (run.waiting t ht)
  obtain ⟨a, s', answered⟩ := total P.state c
  exact moves_of_answer ht hprog answered

lemma not_infinite (V : Service S σ ρ ε α) (P : Pool S σ ρ ε α) :
    ¬ ∃ schedule : ℕ → Pool S σ ρ ε α, schedule 0 = P ∧
      ∀ n, V.Moves (schedule n) (schedule (n + 1)) := by
  rintro ⟨schedule, _, moves⟩
  obtain ⟨P, ⟨n, rfl⟩, least⟩ := V.wellFounded_moves.has_min (Set.range schedule) ⟨_, 0, rfl⟩
  exact least _ ⟨n + 1, rfl⟩ (moves n)

/-- The rule: it is enough that the service is never stuck. -/
theorem drains {s₀ : σ} (live : V.NeverStuck s₀) {steps : List (Transition S σ ρ ε α)}
    (run : V.Run s₀ steps P) : V.Drains P := by
  refine ⟨not_infinite V P, fun P' moves stuck => ?_⟩
  have there : (∃ steps', V.Run s₀ steps' P') ∧ P'.requests.Perm P.requests := by
    clear stuck
    induction moves with
    | refl => exact ⟨⟨steps, run⟩, List.Perm.refl _⟩
    | tail _ move ih =>
      obtain ⟨⟨steps', run'⟩, hrequests⟩ := ih
      obtain ⟨more, run''⟩ := run'.moves move
      exact ⟨⟨_, run''⟩, move.requests.trans hrequests⟩
  obtain ⟨⟨steps', run'⟩, hrequests⟩ := there
  have hidle : P'.running = [] := by
    by_contra busy
    obtain ⟨P'', move⟩ := live steps' P' run' busy
    exact stuck P'' move
  refine ⟨hidle, ?_⟩
  unfold Pool.requests at hrequests
  rw [hidle, List.map_nil, List.append_nil] at hrequests
  exact hrequests

end Service

end Interaction
