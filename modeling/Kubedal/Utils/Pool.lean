import Kubedal.Utils.Interaction
import Mathlib.Data.List.Induction

/-!
# Interleaved requests

A `Service` handles each request with an interactive program. Any number of requests
are in progress at once, in a `Pool`; one step answers one call of one of them, lets a
new request arrive, or lets the environment move on its own. A request whose program
has no call left is finished in the very step that gave it its last answer.

`Preserved` is the rule for proving what holds in every state of every run. The tasks
are seen through a `Monitor` only: a task is its request together with its ghost state,
so an invariant never speaks about the program text.
-/

namespace Interaction

/-- A request in progress: what has been answered so far and what is left to do. -/
structure Task (S : Signature) (ρ ε α : Type) where
  request : ρ
  past : List (Event S)
  prog : Prog S ε α

/-- A finished request. -/
structure Response (S : Signature) (ρ ε α : Type) where
  request : ρ
  past : List (Event S)
  result : Except ε α

/-- The state of a service: its own state, the requests in progress and, oldest first,
the requests that are finished. -/
structure Pool (S : Signature) (σ ρ ε α : Type) where
  state : σ
  running : List (Task S ρ ε α)
  finished : List (Response S ρ ε α)

/-- How requests are handled, which may arrive, how calls are answered, and what else
can happen to the state. -/
structure Service (S : Signature) (σ ρ ε α : Type) where
  program : ρ → Prog S ε α
  admits : Pool S σ ρ ε α → ρ → Prop
  answers : σ → (c : S.Call) → S.Reply c → σ → Prop
  disturbs : σ → σ → Prop

/-- What happens in one step. -/
inductive Label (S : Signature) (ρ : Type) where
  | arrives (request : ρ)
  | answered (request : ρ) (past : List (Event S)) (event : Event S)
  | disturbed

variable {S : Signature} {σ ρ ε α γ : Type}

/-- The steps of a request that has been answered `past` when it gets the events of a list. -/
def Label.trace (r : ρ) : List (Event S) → List (Event S) → List (Label S ρ)
  | _, [] => []
  | past, e :: τ => .answered r past e :: Label.trace r (past ++ [e]) τ

lemma Label.mem_trace (r : ρ) (past before : List (Event S)) (e : Event S)
    (after : List (Event S)) :
    .answered r (past ++ before) e ∈ Label.trace r past (before ++ e :: after) := by
  induction before generalizing past with
  | nil =>
    rw [List.append_nil]
    exact List.mem_cons_self
  | cons x before ih =>
    have := ih (past ++ [x])
    rw [List.append_assoc] at this
    exact List.mem_cons_of_mem _ this

/-- The steps of a finished request. -/
def Response.trace (y : Response S ρ ε α) : List (Label S ρ) :=
  .arrives y.request :: Label.trace y.request [] y.past

namespace Pool

/-- The pool with nothing in progress. -/
def idle (s : σ) : Pool S σ ρ ε α := ⟨s, [], []⟩

/-- Puts a task back between the others, or among the finished requests. -/
def resume (P : Pool S σ ρ ε α) (s : σ) (before after : List (Task S ρ ε α))
    (t : Task S ρ ε α) : Pool S σ ρ ε α :=
  match t.prog.outcome with
  | none => ⟨s, before ++ t :: after, P.finished⟩
  | some r => ⟨s, before ++ after, P.finished ++ [⟨t.request, t.past, r⟩]⟩

/-- The requests in progress with the ghost states a monitor gives them. -/
def phases (P : Pool S σ ρ ε α) (M : Monitor S γ) (start : ρ → γ) : List (ρ × γ) :=
  P.running.map fun t => (t.request, M.after (start t.request) t.past)

@[simp] lemma resume_state (P : Pool S σ ρ ε α) (s : σ) (before after : List (Task S ρ ε α))
    (t : Task S ρ ε α) : (P.resume s before after t).state = s := by
  unfold resume
  split <;> rfl

lemma resume_of_none {P : Pool S σ ρ ε α} {s : σ} {before after : List (Task S ρ ε α)}
    {t : Task S ρ ε α} (h : t.prog.outcome = none) :
    P.resume s before after t = ⟨s, before ++ t :: after, P.finished⟩ := by
  unfold resume
  rw [h]

lemma resume_of_some {P : Pool S σ ρ ε α} {s : σ} {before after : List (Task S ρ ε α)}
    {t : Task S ρ ε α} {r : Except ε α} (h : t.prog.outcome = some r) :
    P.resume s before after t =
      ⟨s, before ++ after, P.finished ++ [⟨t.request, t.past, r⟩]⟩ := by
  unfold resume
  rw [h]

section
variable {P : Pool S σ ρ ε α} {s : σ} {before after : List (Task S ρ ε α)} {t u : Task S ρ ε α}

lemma mem_of_waiting (waiting : P.running = before ++ t :: after) : t ∈ P.running := by
  rw [waiting]
  exact List.mem_append_right _ List.mem_cons_self

/-- The tasks between which one waits wait themselves. -/
lemma mem_of_others (waiting : P.running = before ++ t :: after) (h : u ∈ before ++ after) :
    u ∈ P.running := by
  rw [waiting]
  rcases List.mem_append.mp h with h | h
  · exact List.mem_append_left _ h
  · exact List.mem_append_right _ (List.mem_cons_of_mem _ h)

/-- After the step of a task it waits again, or some other task does. -/
lemma mem_running_resume (h : u ∈ (P.resume s before after t).running) :
    (u = t ∧ t.prog.outcome = none) ∨ u ∈ before ++ after := by
  cases ho : t.prog.outcome with
  | none =>
    rw [resume_of_none ho] at h
    rcases List.mem_append.mp h with h | h
    · exact .inr (List.mem_append_left _ h)
    · rcases List.mem_cons.mp h with h | h
      · exact .inl ⟨h, rfl⟩
      · exact .inr (List.mem_append_right _ h)
  | some r =>
    rw [resume_of_some ho] at h
    exact .inr h

lemma mem_finished_resume {y : Response S ρ ε α}
    (h : y ∈ (P.resume s before after t).finished) :
    y ∈ P.finished ∨ ∃ r, t.prog.outcome = some r ∧ y = ⟨t.request, t.past, r⟩ := by
  cases ho : t.prog.outcome with
  | none =>
    rw [resume_of_none ho] at h
    exact .inl h
  | some r =>
    rw [resume_of_some ho] at h
    rcases List.mem_append.mp h with h | h
    · exact .inl h
    · exact .inr ⟨r, rfl, List.mem_singleton.mp h⟩

end

end Pool

namespace Service

/-- One step of the service. -/
inductive Step (V : Service S σ ρ ε α) :
    Pool S σ ρ ε α → Label S ρ → Pool S σ ρ ε α → Prop where
  | arrive {P : Pool S σ ρ ε α} {r : ρ} (admitted : V.admits P r) :
      Step V P (.arrives r) (P.resume P.state P.running [] ⟨r, [], V.program r⟩)
  | answer {P : Pool S σ ρ ε α} {before after : List (Task S ρ ε α)} {r : ρ}
      {past : List (Event S)} {c : S.Call} {k : S.Reply c → Prog S ε α} {a : S.Reply c}
      {s' : σ} (waiting : P.running = before ++ ⟨r, past, .call c k⟩ :: after)
      (answered : V.answers P.state c a s') :
      Step V P (.answered r past ⟨c, a⟩)
        (P.resume s' before after ⟨r, past ++ [⟨c, a⟩], k a⟩)
  | disturb {P : Pool S σ ρ ε α} {s' : σ} (moved : V.disturbs P.state s') :
      Step V P .disturbed { P with state := s' }

/-- One step of a run with the pools before and after it. -/
structure Transition (S : Signature) (σ ρ ε α : Type) where
  source : Pool S σ ρ ε α
  label : Label S ρ
  target : Pool S σ ρ ε α

/-- `V.Run s₀ steps P`: started with nothing in progress and in state `s₀`, the service
gets to `P` by `steps`. -/
inductive Run (V : Service S σ ρ ε α) (s₀ : σ) :
    List (Transition S σ ρ ε α) → Pool S σ ρ ε α → Prop where
  | start : Run V s₀ [] (.idle s₀)
  | step {steps : List (Transition S σ ρ ε α)} {P P' : Pool S σ ρ ε α} {l : Label S ρ}
      (run : Run V s₀ steps P) (last : V.Step P l P') :
      Run V s₀ (steps ++ [⟨P, l, P'⟩]) P'

/-- The pool an answered call leads to, with the task either waiting again or done. -/
lemma step_answered {V : Service S σ ρ ε α} {P P' : Pool S σ ρ ε α} {r : ρ}
    {past : List (Event S)} {e : Event S} (h : V.Step P (.answered r past e) P') :
    ∃ before after k, P.running = before ++ ⟨r, past, .call e.call k⟩ :: after ∧
      V.answers P.state e.call e.reply P'.state ∧
      P' = P.resume P'.state before after ⟨r, past ++ [e], k e.reply⟩ := by
  cases h with
  | answer waiting answered =>
    refine ⟨_, _, _, waiting, ?_, ?_⟩
    · rw [Pool.resume_state]
      exact answered
    · rw [Pool.resume_state]

/-- A new request does not change the state of the service. -/
lemma step_arrives {V : Service S σ ρ ε α} {P P' : Pool S σ ρ ε α} {r : ρ}
    (h : V.Step P (.arrives r) P') : P'.state = P.state := by
  cases h with
  | arrive => rw [Pool.resume_state]

lemma admits_of_arrives {V : Service S σ ρ ε α} {P P' : Pool S σ ρ ε α} {r : ρ}
    (h : V.Step P (.arrives r) P') : V.admits P r := by
  generalize hl : Label.arrives r = l at h
  cases h with
  | arrive admitted =>
    cases hl
    exact admitted
  | answer _ _ => cases hl
  | disturb _ => cases hl

/-- A request that finishes in a step has made no call, or the step answers its last one. -/
lemma step_finishes {V : Service S σ ρ ε α} {P P' : Pool S σ ρ ε α} {l : Label S ρ}
    {y : Response S ρ ε α} (h : V.Step P l P') (hy : P'.finished = P.finished ++ [y]) :
    l = .arrives y.request ∧ y.past = [] ∨
      ∃ past e, l = .answered y.request past e ∧ y.past = past ++ [e] := by
  have grows : ∀ {z : Response S ρ ε α}, P.finished ++ [z] = P.finished ++ [y] → z = y := by
    intro z hz
    exact List.singleton_inj.mp (List.append_cancel_left hz)
  have nothing : P.finished ≠ P.finished ++ [y] := by
    intro hsame
    exact List.cons_ne_nil y [] (List.append_right_eq_self.mp hsame.symm)
  cases h with
  | @arrive r admitted =>
    cases ho : (V.program r).outcome with
    | none =>
      rw [Pool.resume_of_none ho] at hy
      exact absurd hy nothing
    | some result =>
      rw [Pool.resume_of_some ho] at hy
      rw [← grows hy]
      exact .inl ⟨rfl, rfl⟩
  | @answer before after r past c k a s' waiting answered =>
    cases ho : (k a).outcome with
    | none =>
      rw [Pool.resume_of_none ho] at hy
      exact absurd hy nothing
    | some result =>
      rw [Pool.resume_of_some ho] at hy
      rw [← grows hy]
      exact .inr ⟨past, ⟨c, a⟩, rfl, rfl⟩
  | disturb moved => exact absurd hy nothing

/-- The step answers a call of `r`, in the way of `R`. -/
def Transition.AnswersBy (R : σ → (c : S.Call) → S.Reply c → σ → Prop) (r : ρ)
    (x : Transition S σ ρ ε α) : Prop :=
  ∃ past e, x.label = .answered r past e ∧ R x.source.state e.call e.reply x.target.state

section
variable {V : Service S σ ρ ε α} {R : σ → (c : S.Call) → S.Reply c → σ → Prop} {s₀ : σ}
  {steps : List (Transition S σ ρ ε α)}

/-- A task that runs on its own for a while. -/
lemma Run.advance (sound : ∀ s c a s', R s c a s' → V.answers s c a s') {P : Pool S σ ρ ε α}
    (before after : List (Task S ρ ε α)) {r : ρ} {past : List (Event S)} {p q : Prog S ε α}
    {τ : List (Event S)} {s' : σ} (run : V.Run s₀ steps P)
    (hrunning : P.running = before ++ ⟨r, past, p⟩ :: after) (hp : p.outcome = none)
    (exec : Prog.Exec R p P.state τ q s') :
    ∃ later, V.Run s₀ (steps ++ later) (P.resume s' before after ⟨r, past ++ τ, q⟩) ∧
      (∀ x ∈ later, x.AnswersBy R r) ∧
      later.map Transition.label = Label.trace r past τ := by
  generalize hs : P.state = s at exec
  -- induction on the calls of the task; the others stay where they are
  induction exec generalizing P steps past with
  | refl p s =>
    refine ⟨[], ?_, by simp, rfl⟩
    have hP : P.resume s before after ⟨r, past, p⟩ = P := by
      rw [Pool.resume_of_none hp, ← hrunning, ← hs]
    rw [List.append_nil, List.append_nil, hP]
    exact run
  | @step c k a s s₁ s'' τ q answered rest ih =>
    subst hs
    -- the first call makes one step, after which the task waits again or is done
    have first := run.step (.answer hrunning (sound _ _ _ _ answered))
    set P₁ := P.resume s₁ before after ⟨r, past ++ [⟨c, a⟩], k a⟩ with hP₁
    have here : (⟨P, .answered r past ⟨c, a⟩, P₁⟩ : Transition S σ ρ ε α).AnswersBy R r := by
      refine ⟨past, ⟨c, a⟩, rfl, ?_⟩
      show R P.state c a P₁.state
      rw [hP₁, Pool.resume_state]
      exact answered
    cases ho : (k a).outcome with
    | none =>
      have hP₁' : P₁ = ⟨s₁, before ++ ⟨r, past ++ [⟨c, a⟩], k a⟩ :: after, P.finished⟩ :=
        Pool.resume_of_none ho
      obtain ⟨later, hlater, honly, htrace⟩ := ih first (by rw [hP₁']) ho (by rw [hP₁'])
      have htarget : P₁.resume s'' before after ⟨r, past ++ [⟨c, a⟩] ++ τ, q⟩ =
          P.resume s'' before after ⟨r, past ++ ⟨c, a⟩ :: τ, q⟩ := by
        rw [hP₁']
        simp only [Pool.resume, List.append_assoc, List.singleton_append]
      rw [htarget] at hlater
      refine ⟨⟨P, .answered r past ⟨c, a⟩, P₁⟩ :: later, by simpa using hlater, ?_, ?_⟩
      · intro x hx
        rcases List.mem_cons.mp hx with rfl | hx
        · exact here
        · exact honly x hx
      · exact congrArg (List.cons _) htrace
    | some result =>
      obtain ⟨rfl, rfl, rfl⟩ := rest.of_outcome ho
      refine ⟨[⟨P, .answered r past ⟨c, a⟩, P₁⟩], first, ?_, rfl⟩
      intro x hx
      rw [List.mem_singleton.mp hx]
      exact here

/-- A request that is handled without any interleaving. -/
lemma Run.handle (sound : ∀ s c a s', R s c a s' → V.answers s c a s') {s s' : σ}
    {done : List (Response S ρ ε α)} {r : ρ} {q : Prog S ε α} {result : Except ε α}
    {τ : List (Event S)} (run : V.Run s₀ steps ⟨s, [], done⟩)
    (admitted : V.admits ⟨s, [], done⟩ r) (exec : Prog.Exec R (V.program r) s τ q s')
    (hq : q.outcome = some result) :
    ∃ later, V.Run s₀ (steps ++ later) ⟨s', [], done ++ [⟨r, τ, result⟩]⟩ ∧
      (∀ x ∈ later, x.label = .arrives r ∨ x.AnswersBy R r) ∧
      later.map Transition.label = .arrives r :: Label.trace r [] τ := by
  have first := run.step (.arrive admitted)
  cases ho : (V.program r).outcome with
  | none =>
    rw [Pool.resume_of_none ho] at first
    obtain ⟨later, hlater, honly, htrace⟩ := first.advance sound [] [] rfl ho exec
    rw [Pool.resume_of_some hq] at hlater
    refine ⟨_ :: later, by simpa using hlater, ?_, ?_⟩
    · intro x hx
      rcases List.mem_cons.mp hx with rfl | hx
      · exact .inl rfl
      · exact .inr (honly x hx)
    · rw [List.map_cons, htrace]
  | some result' =>
    obtain ⟨rfl, rfl, rfl⟩ := exec.of_outcome ho
    rw [ho] at hq
    cases hq
    rw [Pool.resume_of_some ho] at first
    refine ⟨[_], by simpa using first, ?_, rfl⟩
    intro x hx
    rw [List.mem_singleton.mp hx]
    exact .inl rfl

/-- A step of a run is a step from the end of a shorter run. -/
lemma Run.of_mem {P : Pool S σ ρ ε α} (run : V.Run s₀ steps P) {x : Transition S σ ρ ε α}
    (hx : x ∈ steps) : ∃ earlier, earlier ++ [x] <+: steps ∧ V.Run s₀ earlier x.source ∧
      V.Step x.source x.label x.target := by
  induction run with
  | start => cases hx
  -- the step is the last one, or it is in the shorter run
  | @step steps P P' l run last ih =>
    rcases List.mem_append.mp hx with hx | hx
    · obtain ⟨earlier, hearlier, hrun, hstep⟩ := ih hx
      exact ⟨earlier, hearlier.trans (List.prefix_append _ _), hrun, hstep⟩
    · rw [List.mem_singleton.mp hx]
      exact ⟨steps, List.prefix_rfl, run, last⟩

/-- The steps of a run determine where it ends. -/
lemma Run.end_eq {P : Pool S σ ρ ε α} (run : V.Run s₀ steps P) :
    P = (steps.getLast?.map Transition.target).getD (.idle s₀) := by
  cases run <;> simp

/-- What no later step changes is the same at the end. -/
lemma Run.unchanged {β : Type} {F : σ → β} {P P' : Pool S σ ρ ε α}
    {later : List (Transition S σ ρ ε α)} (run : V.Run s₀ steps P)
    (run' : V.Run s₀ (steps ++ later) P')
    (h : ∀ x ∈ later, F x.target.state = F x.source.state) : F P'.state = F P.state := by
  induction later using List.reverseRecOn generalizing P' with
  | nil =>
    rw [List.append_nil] at run'
    rw [run.end_eq, ← run'.end_eq]
  | append_singleton later x ih =>
    generalize hsteps : steps ++ (later ++ [x]) = steps' at run'
    cases run' with
    | start => simp at hsteps
    | step run₁ last =>
      rw [← List.append_assoc] at hsteps
      obtain ⟨rfl, hx⟩ := List.append_inj' hsteps rfl
      cases hx
      rw [← ih run₁ fun y hy => h y (List.mem_append_left _ hy)]
      exact h _ (List.mem_append_right _ List.mem_cons_self)

end

/-! ## The past of a request -/

/-- An answer that some state of the service can give. -/
def Possible (V : Service S σ ρ ε α) (_ : Unit) (c : S.Call) (a : S.Reply c) (_ : Unit) : Prop :=
  ∃ s s', V.answers s c a s'

/-- The past of every request is a run of its program on its own. -/
structure Faithful (V : Service S σ ρ ε α) (P : Pool S σ ρ ε α) : Prop where
  running : ∀ t ∈ P.running, Prog.Exec V.Possible (V.program t.request) () t.past t.prog ()
  finished : ∀ x ∈ P.finished, ∃ q, q.outcome = some x.result ∧
    Prog.Exec V.Possible (V.program x.request) () x.past q ()

lemma Faithful.resume {V : Service S σ ρ ε α} {P : Pool S σ ρ ε α} (h : V.Faithful P) {s : σ}
    {before after : List (Task S ρ ε α)} {t : Task S ρ ε α}
    (hsub : ∀ u ∈ before ++ after, u ∈ P.running)
    (ht : Prog.Exec V.Possible (V.program t.request) () t.past t.prog ()) :
    V.Faithful (P.resume s before after t) := by
  refine ⟨fun u hu => ?_, fun y hy => ?_⟩
  · rcases Pool.mem_running_resume hu with ⟨rfl, _⟩ | hu
    · exact ht
    · exact h.running u (hsub u hu)
  · rcases Pool.mem_finished_resume hy with hy | ⟨r, ho, rfl⟩
    · exact h.finished y hy
    · exact ⟨t.prog, ho, ht⟩

lemma Run.faithful {V : Service S σ ρ ε α} {s₀ : σ} {steps : List (Transition S σ ρ ε α)}
    {P : Pool S σ ρ ε α} (run : V.Run s₀ steps P) : V.Faithful P := by
  induction run with
  | start => exact ⟨fun _ h => (by cases h), fun _ h => (by cases h)⟩
  | @step _ P _ _ _ last ih =>
    cases last with
    | arrive => exact ih.resume (by simp) (.refl _ _)
    | answer waiting answered =>
      refine ih.resume (fun u hu => Pool.mem_of_others waiting hu) ?_
      exact (ih.running _ (Pool.mem_of_waiting waiting)).trans (.step ⟨_, _, answered⟩ (.refl _ _))
    | disturb => exact ⟨ih.running, ih.finished⟩

/-- A request that takes a step has run its program up to the call that is answered. -/
lemma Run.exec_of_step {V : Service S σ ρ ε α} {s₀ : σ} {steps : List (Transition S σ ρ ε α)}
    {P P' : Pool S σ ρ ε α} {r : ρ} {past : List (Event S)} {e : Event S}
    (run : V.Run s₀ steps P) (h : V.Step P (.answered r past e) P') :
    ∃ q, Prog.Exec V.Possible (V.program r) () (past ++ [e]) q () := by
  obtain ⟨before, after, k, hrunning, answered, _⟩ := step_answered h
  have past := run.faithful.running _ (Pool.mem_of_waiting hrunning)
  exact ⟨_, past.trans (.step ⟨_, _, answered⟩ (.refl _ _))⟩

/-- A request takes only steps that its program can make. -/
lemma Run.uses_of_step {V : Service S σ ρ ε α} {s₀ : σ} {steps : List (Transition S σ ρ ε α)}
    {P P' : Pool S σ ρ ε α} {r : ρ} {past : List (Event S)} {e : Event S} {C : S.Call → Prop}
    (run : V.Run s₀ steps P) (h : V.Step P (.answered r past e) P')
    (hp : (V.program r).Uses C) : C e.call := by
  obtain ⟨q, exec⟩ := run.exec_of_step h
  exact exec.uses hp e (List.mem_append_right _ List.mem_cons_self)

/-- Every request has arrived at some point. -/
structure Arrived (steps : List (Transition S σ ρ ε α)) (P : Pool S σ ρ ε α) : Prop where
  running : ∀ t ∈ P.running, ∃ x ∈ steps, x.label = .arrives t.request
  finished : ∀ y ∈ P.finished, ∃ x ∈ steps, x.label = .arrives y.request

lemma Arrived.resume {steps : List (Transition S σ ρ ε α)} {P : Pool S σ ρ ε α}
    (h : Arrived steps P) {s : σ} {before after : List (Task S ρ ε α)} {t : Task S ρ ε α}
    (hsub : ∀ u ∈ before ++ after, u ∈ P.running)
    (ht : ∃ x ∈ steps, x.label = .arrives t.request) :
    Arrived steps (P.resume s before after t) := by
  refine ⟨fun u hu => ?_, fun y hy => ?_⟩
  · rcases Pool.mem_running_resume hu with ⟨rfl, _⟩ | hu
    · exact ht
    · exact h.running u (hsub u hu)
  · rcases Pool.mem_finished_resume hy with hy | ⟨r, _, rfl⟩
    · exact h.finished y hy
    · exact ht

lemma Run.arrived {V : Service S σ ρ ε α} {s₀ : σ} {steps : List (Transition S σ ρ ε α)}
    {P : Pool S σ ρ ε α} (run : V.Run s₀ steps P) : Arrived steps P := by
  induction run with
  | start => exact ⟨fun _ h => (by cases h), fun _ h => (by cases h)⟩
  | @step steps P P' l run last ih =>
    have more : ∀ r, (∃ x ∈ steps, x.label = .arrives r) →
        ∃ x ∈ steps ++ [⟨P, l, P'⟩], x.label = .arrives r := by
      rintro r ⟨x, hx, hlabel⟩
      exact ⟨x, List.mem_append_left _ hx, hlabel⟩
    have ih' : Arrived (steps ++ [⟨P, l, P'⟩]) P :=
      ⟨fun t ht => more _ (ih.running t ht), fun y hy => more _ (ih.finished y hy)⟩
    cases last with
    | arrive =>
      exact ih'.resume (by simp) ⟨_, List.mem_append_right _ List.mem_cons_self, rfl⟩
    | answer waiting _ =>
      have arrived := ih'.running _ (Pool.mem_of_waiting waiting)
      exact ih'.resume (fun u hu => Pool.mem_of_others waiting hu) arrived
    | disturb => exact ⟨ih'.running, ih'.finished⟩

/-- A request that is answered was admitted when it arrived. -/
lemma Run.admits_of_answered {V : Service S σ ρ ε α} {s₀ : σ}
    {steps : List (Transition S σ ρ ε α)} {P : Pool S σ ρ ε α} (run : V.Run s₀ steps P)
    {x : Transition S σ ρ ε α} (hx : x ∈ steps) {r : ρ} {past : List (Event S)} {e : Event S}
    (hlabel : x.label = .answered r past e) : ∃ P', V.admits P' r := by
  obtain ⟨earlier, _, run', hstep⟩ := run.of_mem hx
  rw [hlabel] at hstep
  obtain ⟨_, _, _, hrunning, _⟩ := step_answered hstep
  obtain ⟨y, hy, harrives⟩ := run'.arrived.running _ (Pool.mem_of_waiting hrunning)
  obtain ⟨_, _, _, hfirst⟩ := run'.of_mem hy
  rw [harrives] at hfirst
  exact ⟨_, admits_of_arrives hfirst⟩

/-- Each answer that a request has got, it got in a step with the ones before as its past. -/
structure AnsweredInOrder (steps : List (Transition S σ ρ ε α)) (P : Pool S σ ρ ε α) : Prop where
  running : ∀ t ∈ P.running, ∀ past e later, t.past = past ++ e :: later →
    ∃ x ∈ steps, x.label = .answered t.request past e
  finished : ∀ y ∈ P.finished, ∀ past e later, y.past = past ++ e :: later →
    ∃ x ∈ steps, x.label = .answered y.request past e

lemma AnsweredInOrder.resume {steps : List (Transition S σ ρ ε α)} {P : Pool S σ ρ ε α}
    (h : AnsweredInOrder steps P) {s : σ} {before after : List (Task S ρ ε α)}
    {t : Task S ρ ε α} (hsub : ∀ u ∈ before ++ after, u ∈ P.running)
    (ht : ∀ past e later, t.past = past ++ e :: later →
      ∃ x ∈ steps, x.label = .answered t.request past e) :
    AnsweredInOrder steps (P.resume s before after t) := by
  refine ⟨fun u hu => ?_, fun y hy => ?_⟩
  · rcases Pool.mem_running_resume hu with ⟨rfl, _⟩ | hu
    · exact ht
    · exact h.running u (hsub u hu)
  · rcases Pool.mem_finished_resume hy with hy | ⟨r, _, rfl⟩
    · exact h.finished y hy
    · exact ht

lemma Run.answeredInOrder {V : Service S σ ρ ε α} {s₀ : σ} {steps : List (Transition S σ ρ ε α)}
    {P : Pool S σ ρ ε α} (run : V.Run s₀ steps P) : AnsweredInOrder steps P := by
  induction run with
  | start => exact ⟨fun _ h => (by cases h), fun _ h => (by cases h)⟩
  | @step steps P P' l run last ih =>
    have more : ∀ r past e, (∃ x ∈ steps, x.label = .answered r past e) →
        ∃ x ∈ steps ++ [⟨P, l, P'⟩], x.label = .answered r past e := by
      rintro r past e ⟨x, hx, hlabel⟩
      exact ⟨x, List.mem_append_left _ hx, hlabel⟩
    have ih' : AnsweredInOrder (steps ++ [⟨P, l, P'⟩]) P :=
      ⟨fun t ht past e later h => more _ _ e (ih.running t ht past e later h),
        fun y hy past e later h => more _ _ e (ih.finished y hy past e later h)⟩
    cases last with
    | arrive => exact ih'.resume (by simp) (by simp)
    | @answer before after r past c k a s' waiting _ =>
      have answered := ih'.running _ (Pool.mem_of_waiting waiting)
      refine ih'.resume (fun u hu => Pool.mem_of_others waiting hu) fun past' e later h => ?_
      -- the answer is the last one, or it is an earlier one
      rcases List.eq_nil_or_concat later with rfl | ⟨later, e', rfl⟩
      · obtain ⟨rfl, he⟩ := List.append_inj' h rfl
        cases he
        exact ⟨_, List.mem_append_right _ List.mem_cons_self, rfl⟩
      · rw [List.concat_eq_append] at h
        have hpast : past ++ [⟨c, a⟩] = (past' ++ e :: later) ++ [e'] := by
          rw [List.append_assoc, List.cons_append]
          exact h
        obtain ⟨hpast, _⟩ := List.append_inj' hpast rfl
        exact answered past' e later hpast
    | disturb => exact ⟨ih'.running, ih'.finished⟩

/-- What a request has been answered, it was answered in some step. -/
structure Answered (steps : List (Transition S σ ρ ε α)) (P : Pool S σ ρ ε α) : Prop where
  running : ∀ t ∈ P.running, ∀ e ∈ t.past, ∃ x ∈ steps, ∃ past, x.label = .answered t.request past e
  finished : ∀ y ∈ P.finished, ∀ e ∈ y.past,
    ∃ x ∈ steps, ∃ past, x.label = .answered y.request past e

lemma Run.answered {V : Service S σ ρ ε α} {s₀ : σ} {steps : List (Transition S σ ρ ε α)}
    {P : Pool S σ ρ ε α} (run : V.Run s₀ steps P) : Answered steps P := by
  refine ⟨fun t ht e he => ?_, fun y hy e he => ?_⟩
  · obtain ⟨past, later, h⟩ := List.append_of_mem he
    obtain ⟨x, hx, hlabel⟩ := run.answeredInOrder.running t ht past e later h
    exact ⟨x, hx, past, hlabel⟩
  · obtain ⟨past, later, h⟩ := List.append_of_mem he
    obtain ⟨x, hx, hlabel⟩ := run.answeredInOrder.finished y hy past e later h
    exact ⟨x, hx, past, hlabel⟩

/-! ## Requests one after another -/

/-- Handles requests one by one, each with at most `n` calls, answered by `serve`. -/
def serial (V : Service S σ ρ ε α) (serve : ρ → σ → (c : S.Call) → Option (S.Reply c × σ))
    (n : ℕ) : List ρ → σ → Option (List (Response S ρ ε α) × σ)
  | [], s => some ([], s)
  | r :: rs, s =>
    match (V.program r).follow (serve r) n s with
    | some (τ, q, s') =>
      match q.outcome, V.serial serve n rs s' with
      | some result, some (done, s'') => some (⟨r, τ, result⟩ :: done, s'')
      | _, _ => none
    | none => none

/-- A step of a serial run. -/
def Transition.Served (serve : ρ → σ → (c : S.Call) → Option (S.Reply c × σ))
    (x : Transition S σ ρ ε α) : Prop :=
  (∃ r, x.label = .arrives r) ∨
    ∃ r past c a, x.label = .answered r past ⟨c, a⟩ ∧
      serve r x.source.state c = some (a, x.target.state)

/-- Requests handled one by one make a run. -/
lemma Run.serial {V : Service S σ ρ ε α}
    {serve : ρ → σ → (c : S.Call) → Option (S.Reply c × σ)}
    (sound : ∀ r s c a s', serve r s c = some (a, s') → V.answers s c a s') {n : ℕ} {rs : List ρ}
    (admitted : ∀ P, ∀ r ∈ rs, V.admits P r) {s₀ s s' : σ}
    {steps : List (Transition S σ ρ ε α)} {earlier done : List (Response S ρ ε α)}
    (run : V.Run s₀ steps ⟨s, [], earlier⟩) (h : V.serial serve n rs s = some (done, s')) :
    ∃ later, V.Run s₀ (steps ++ later) ⟨s', [], earlier ++ done⟩ ∧
      (∀ x ∈ later, x.Served serve) ∧
      later.map Transition.label = done.flatMap Response.trace := by
  induction rs generalizing s steps earlier done with
  | nil =>
    obtain ⟨rfl, rfl⟩ : [] = done ∧ s = s' := by simpa [Service.serial] using h
    exact ⟨[], by simpa using run, by simp, rfl⟩
  | cons r rs ih =>
    simp only [Service.serial] at h
    split at h
    · rename_i τ q s₁ hfollow
      split at h
      · rename_i result rest s₂ hq hrest
        obtain ⟨rfl, rfl⟩ : ⟨r, τ, result⟩ :: rest = done ∧ s₂ = s' := by simpa using h
        have exec := Prog.exec_of_follow (fun _ _ _ _ h => h) hfollow
        obtain ⟨first, hfirst, hserved, htrace⟩ := Run.handle (sound r) run
          (admitted _ r List.mem_cons_self) exec hq
        obtain ⟨later, hlater, hserved', htrace'⟩ :=
          ih (fun P r hr => admitted P r (List.mem_cons_of_mem _ hr)) hfirst hrest
        refine ⟨first ++ later, by simpa using hlater, fun x hx => ?_, ?_⟩
        · rcases List.mem_append.mp hx with hx | hx
          · rcases hserved x hx with hlabel | ⟨past, e, hlabel, hserve⟩
            · exact .inl ⟨r, hlabel⟩
            · exact .inr ⟨r, past, e.call, e.reply, hlabel, hserve⟩
          · exact hserved' x hx
        · rw [List.map_append, htrace, htrace', List.flatMap_cons]
          rfl
      · cases h
    · cases h

end Service

/-! ## One task and the others -/

section
variable {β : Type} {before after : List β} {x y : β}

lemma mem_of_others (hx : x ∈ before ++ after) (y : β) : x ∈ before ++ y :: after := by
  rcases List.mem_append.mp hx with hx | hx
  · exact List.mem_append_left _ hx
  · exact List.mem_append_right _ (List.mem_cons_of_mem _ hx)

lemma eq_or_mem_others (hx : x ∈ before ++ y :: after) : x = y ∨ x ∈ before ++ after := by
  rcases List.mem_append.mp hx with hx | hx
  · exact .inr (List.mem_append_left _ hx)
  · rcases List.mem_cons.mp hx with rfl | hx
    · exact .inl rfl
    · exact .inr (List.mem_append_right _ hx)

end

/-! ## What a monitor knows about a pool -/

/-- Every task is waiting for an answer and meets its specification from the ghost state
its past has led to; every finished request has met its postcondition. -/
structure Pool.Watched (P : Pool S σ ρ ε α) (M : Monitor S γ) (start : ρ → γ)
    (post : ρ → γ → Except ε α → Prop) : Prop where
  waiting : ∀ t ∈ P.running, t.prog.outcome = none
  meets : ∀ t ∈ P.running, t.prog.wp M (M.after (start t.request) t.past) (post t.request)
  met : ∀ r ∈ P.finished, post r.request (M.after (start r.request) r.past) r.result

/-- The obligations for `Inv` to hold in every state of every run of `V` all of whose
steps satisfy `G`, with tasks seen as requests and ghost states of `M`. -/
structure Preserved (V : Service S σ ρ ε α) (M : Monitor S γ) (start : ρ → γ)
    (post : ρ → γ → Except ε α → Prop) (G : Pool S σ ρ ε α → Label S ρ → Prop)
    (Inv : σ → List (ρ × γ) → List (Response S ρ ε α) → Prop) : Prop where
  meets : ∀ P r, V.admits P r → (V.program r).wp M (start r) (post r)
  rely : ∀ s c a s', V.answers s c a s' → ∀ g, M.assumes g c a
  arrives : ∀ (P : Pool S σ ρ ε α) r, V.admits P r → G P (.arrives r) →
    Inv P.state (P.phases M start) P.finished →
    Inv P.state (P.phases M start ++ [(r, start r)]) P.finished
  refuses : ∀ (P : Pool S σ ρ ε α) r result, V.admits P r → G P (.arrives r) →
    post r (start r) result → Inv P.state (P.phases M start) P.finished →
    Inv P.state (P.phases M start) (P.finished ++ [⟨r, [], result⟩])
  continues : ∀ (P : Pool S σ ρ ε α) before after r past c a s',
    P.phases M start = before ++ (r, M.after (start r) past) :: after →
    G P (.answered r past ⟨c, a⟩) → V.answers P.state c a s' →
    M.allows (M.after (start r) past) c →
    (∃ c', M.allows (M.next (M.after (start r) past) c a) c') →
    Inv P.state (before ++ (r, M.after (start r) past) :: after) P.finished →
    Inv s' (before ++ (r, M.next (M.after (start r) past) c a) :: after) P.finished
  returns : ∀ (P : Pool S σ ρ ε α) before after r past c a s' result,
    P.phases M start = before ++ (r, M.after (start r) past) :: after →
    G P (.answered r past ⟨c, a⟩) → V.answers P.state c a s' →
    M.allows (M.after (start r) past) c →
    post r (M.next (M.after (start r) past) c a) result →
    Inv P.state (before ++ (r, M.after (start r) past) :: after) P.finished →
    Inv s' (before ++ after) (P.finished ++ [⟨r, past ++ [⟨c, a⟩], result⟩])
  disturbed : ∀ (P : Pool S σ ρ ε α) s', V.disturbs P.state s' → G P .disturbed →
    Inv P.state (P.phases M start) P.finished → Inv s' (P.phases M start) P.finished

namespace Preserved

variable {V : Service S σ ρ ε α} {M : Monitor S γ} {start : ρ → γ}
  {post : ρ → γ → Except ε α → Prop} {G : Pool S σ ρ ε α → Label S ρ → Prop}
  {Inv : σ → List (ρ × γ) → List (Response S ρ ε α) → Prop}

lemma watched_resume {P : Pool S σ ρ ε α} {s : σ} {before after : List (Task S ρ ε α)}
    {t : Task S ρ ε α} (hb : ∀ u ∈ before ++ after, u ∈ P.running)
    (hP : P.Watched M start post)
    (ht : t.prog.wp M (M.after (start t.request) t.past) (post t.request)) :
    (P.resume s before after t).Watched M start post := by
  refine ⟨fun u hu => ?_, fun u hu => ?_, fun y hy => ?_⟩
  · rcases Pool.mem_running_resume hu with ⟨rfl, ho⟩ | hu
    · exact ho
    · exact hP.waiting u (hb u hu)
  · rcases Pool.mem_running_resume hu with ⟨rfl, _⟩ | hu
    · exact ht
    · exact hP.meets u (hb u hu)
  · rcases Pool.mem_finished_resume hy with hy | ⟨r, ho, rfl⟩
    · exact hP.met y hy
    · exact Prog.wp_outcome ht ho

/-- One step keeps the pool watched and the invariant. -/
lemma step (h : Preserved V M start post G Inv) {P P' : Pool S σ ρ ε α} {l : Label S ρ}
    (hstep : V.Step P l P') (hG : G P l) (hP : P.Watched M start post)
    (hInv : Inv P.state (P.phases M start) P.finished) :
    P'.Watched M start post ∧ Inv P'.state (P'.phases M start) P'.finished := by
  cases hstep with
  | @arrive r admitted =>
    have ht := h.meets P r admitted
    refine ⟨watched_resume (by simp) hP ht, ?_⟩
    cases ho : (V.program r).outcome with
    | none =>
      rw [Pool.resume_of_none ho]
      simpa [Pool.phases] using h.arrives P r admitted hG hInv
    | some result =>
      rw [Pool.resume_of_some ho]
      have := h.refuses P r result admitted hG (Prog.wp_outcome ht ho) hInv
      simpa [Pool.phases] using this
  | @answer before after r past c k a s' waiting answered =>
    -- the specification of the task allows the call and covers its answer
    obtain ⟨allowed, hk⟩ := hP.meets _ (Pool.mem_of_waiting waiting)
    have ht := hk a (h.rely _ _ _ _ answered _)
    have ht' : (k a).wp M (M.after (start r) (past ++ [⟨c, a⟩])) (post r) := by
      simpa using ht
    refine ⟨watched_resume (fun u hu => Pool.mem_of_others waiting hu) hP ht', ?_⟩
    have hphases : P.phases M start =
        before.map (fun t => (t.request, M.after (start t.request) t.past)) ++
          (r, M.after (start r) past) ::
            after.map (fun t => (t.request, M.after (start t.request) t.past)) := by
      rw [Pool.phases, waiting]
      simp
    rw [hphases] at hInv
    cases ho : (k a).outcome with
    | none =>
      rw [Pool.resume_of_none ho]
      obtain ⟨c', k', hk'⟩ := Prog.outcome_eq_none_iff.mp ho
      rw [hk'] at ht
      have := h.continues P _ _ r past c a s' hphases hG answered allowed ⟨c', ht.1⟩ hInv
      simpa [Pool.phases] using this
    | some result =>
      rw [Pool.resume_of_some ho]
      have := h.returns P _ _ r past c a s' result hphases hG answered allowed
        (Prog.wp_outcome ht ho) hInv
      simpa [Pool.phases] using this
  | @disturb s' moved =>
    exact ⟨⟨hP.waiting, hP.meets, hP.met⟩, h.disturbed P s' moved hG hInv⟩

/-- The rule for an invariant that says nothing about finished requests: it is kept by new
requests and by every step, and a task can be left out. -/
lemma of_step {I : σ → List (ρ × γ) → Prop}
    (meets : ∀ P r, V.admits P r → (V.program r).wp M (start r) (post r))
    (rely : ∀ s c a s', V.answers s c a s' → ∀ g, M.assumes g c a)
    (arrives : ∀ (P : Pool S σ ρ ε α) r, V.admits P r → I P.state (P.phases M start) →
      I P.state (P.phases M start ++ [(r, start r)]))
    (step : ∀ (P : Pool S σ ρ ε α) before after r past c a s',
      P.phases M start = before ++ (r, M.after (start r) past) :: after →
      G P (.answered r past ⟨c, a⟩) → V.answers P.state c a s' →
      M.allows (M.after (start r) past) c →
      I P.state (before ++ (r, M.after (start r) past) :: after) →
      I s' (before ++ (r, M.next (M.after (start r) past) c a) :: after))
    (finish : ∀ s before after x, I s (before ++ x :: after) → I s (before ++ after))
    (disturbed : ∀ (P : Pool S σ ρ ε α) s', V.disturbs P.state s' → G P .disturbed →
      I P.state (P.phases M start) → I s' (P.phases M start)) :
    Preserved V M start post G fun s phases _ => I s phases where
  meets := meets
  rely := rely
  arrives := fun P r admitted _ h => arrives P r admitted h
  refuses := fun _ _ _ _ _ _ h => h
  continues := by
    intro P before after r past c a s' hphases hG answered allowed _ h
    exact step P before after r past c a s' hphases hG answered allowed h
  returns := by
    intro P before after r past c a s' result hphases hG answered allowed _ h
    exact finish _ _ _ _ (step P before after r past c a s' hphases hG answered allowed h)
  disturbed := disturbed

/-- The invariant holds in every state of every run whose steps satisfy `G`. -/
theorem run (h : Preserved V M start post G Inv) {s₀ : σ} (init : Inv s₀ [] [])
    {steps : List (Service.Transition S σ ρ ε α)} {P : Pool S σ ρ ε α}
    (hrun : V.Run s₀ steps P) (hG : ∀ t ∈ steps, G t.source t.label) :
    P.Watched M start post ∧ Inv P.state (P.phases M start) P.finished := by
  induction hrun with
  | start =>
    refine ⟨⟨?_, ?_, ?_⟩, init⟩
    all_goals intro t ht; cases ht
  | @step steps P P' l _ last ih =>
    have hlast : G P l := hG ⟨P, l, P'⟩ (List.mem_append_right _ List.mem_cons_self)
    obtain ⟨hP, hInv⟩ := ih fun t ht => hG t (List.mem_append_left _ ht)
    exact h.step last hlast hP hInv

end Preserved

end Interaction
