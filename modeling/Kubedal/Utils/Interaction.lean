import Mathlib.Tactic.Common

/-!
# Interactive programs

An asynchronous function is modelled as the tree of the calls it makes: at each
call the environment answers, and the rest of the function depends on the answer.

* `Prog S ε α` is such a tree over the calls of a `Signature`, ending in a value
  or in an error; it is a monad, so the functions read as they are written;
* `Prog.Uses` bounds the calls a program can make, whatever it is told;
* `Prog.Exec` runs a program against a relation that says how the environment may
  answer a call and how its state moves, and `Prog.Ensures` speaks about where it ends;
* `Monitor` and `Prog.wp` are the program logic: a ghost state is carried along the
  calls, every call has to be allowed in the ghost state it is made from, and the
  postcondition speaks about the final ghost state.
-/

namespace Interaction

/-- The calls a program can make and the type each of them is answered in. -/
structure Signature where
  Call : Type
  Reply : Call → Type

/-- One call together with the answer it got. -/
structure Event (S : Signature) where
  call : S.Call
  reply : S.Reply call

/-- A program over `S` that ends in a value of `α` or in an error of `ε`. -/
inductive Prog (S : Signature) (ε α : Type) where
  | pure (value : α)
  | throw (error : ε)
  | call (c : S.Call) (k : S.Reply c → Prog S ε α)

namespace Prog

variable {S : Signature} {ε ε' α β σ : Type}

/-! ## The monad -/

/-- Sequencing; an error ends the whole program. -/
def bind : Prog S ε α → (α → Prog S ε β) → Prog S ε β
  | .pure a, f => f a
  | .throw e, _ => .throw e
  | .call c k, f => .call c fun a => (k a).bind f

/-- Runs `handler` on the error of a program, if it ends in one. -/
def tryCatch : Prog S ε α → (ε → Prog S ε α) → Prog S ε α
  | .pure a, _ => .pure a
  | .throw e, handler => handler e
  | .call c k, handler => .call c fun a => (k a).tryCatch handler

instance : Monad (Prog S ε) where
  pure := Prog.pure
  bind := Prog.bind

instance : MonadExceptOf ε (Prog S ε) where
  throw := Prog.throw
  tryCatch := Prog.tryCatch

/-- Makes one call and returns its answer. -/
def perform (c : S.Call) : Prog S ε (S.Reply c) := .call c .pure

/-- The value of a fallible computation, or its error. -/
def ofExcept : Except ε α → Prog S ε α
  | .ok a => .pure a
  | .error e => .throw e

/-- The same program with its error converted. -/
def mapError (f : ε → ε') : Prog S ε α → Prog S ε' α
  | .pure a => .pure a
  | .throw e => .throw (f e)
  | .call c k => .call c fun a => (k a).mapError f

/-- Runs a program to its result, keeping an error as a value. -/
def attempt : Prog S ε α → Prog S ε' (Except ε α)
  | .pure a => .pure (.ok a)
  | .throw e => .pure (.error e)
  | .call c k => .call c fun a => (k a).attempt

/-- The result of a program that has no call left to make. -/
def outcome : Prog S ε α → Option (Except ε α)
  | .pure a => some (.ok a)
  | .throw e => some (.error e)
  | .call _ _ => none

@[simp] lemma pure_eq (a : α) : (Pure.pure a : Prog S ε α) = .pure a := rfl

@[simp] lemma throw_eq (e : ε) : (MonadExcept.throw e : Prog S ε α) = .throw e := rfl

@[simp] lemma pure_bind (a : α) (f : α → Prog S ε β) : (Prog.pure a >>= f) = f a := rfl

@[simp] lemma throw_bind (e : ε) (f : α → Prog S ε β) :
    (Prog.throw e >>= f) = .throw e := rfl

@[simp] lemma call_bind (c : S.Call) (k : S.Reply c → Prog S ε α) (f : α → Prog S ε β) :
    (Prog.call c k >>= f) = .call c fun a => k a >>= f := rfl

@[simp] lemma outcome_pure (a : α) : (Prog.pure a : Prog S ε α).outcome = some (.ok a) := rfl

@[simp] lemma outcome_throw (e : ε) :
    (Prog.throw e : Prog S ε α).outcome = some (.error e) := rfl

@[simp] lemma outcome_call (c : S.Call) (k : S.Reply c → Prog S ε α) :
    (Prog.call c k).outcome = none := rfl

lemma outcome_eq_ok_iff {p : Prog S ε α} {a : α} :
    p.outcome = some (.ok a) ↔ p = .pure a := by
  cases p <;> simp

/-- A program is finished or waits for the answer to a call. -/
lemma outcome_eq_none_iff {p : Prog S ε α} :
    p.outcome = none ↔ ∃ c k, p = .call c k := by
  cases p <;> simp

lemma bind_pure_right (p : Prog S ε α) : p.bind .pure = p := by
  induction p with
  | pure a => rfl
  | throw e => rfl
  | call c k ih => exact congrArg (Prog.call c) (funext ih)

lemma bind_bind (p : Prog S ε α) (f : α → Prog S ε β) {δ : Type} (g : β → Prog S ε δ) :
    (p.bind f).bind g = p.bind fun a => (f a).bind g := by
  induction p with
  | pure a => rfl
  | throw e => rfl
  | call c k ih => exact congrArg (Prog.call c) (funext ih)

instance : LawfulMonad (Prog S ε) :=
  LawfulMonad.mk' (Prog S ε) bind_pure_right (fun _ _ => rfl) fun p f g => bind_bind p f g

/-! ## The calls a program can make -/

/-- Every call the program can make satisfies `C`, whatever the answers are. -/
def Uses (C : S.Call → Prop) : Prog S ε α → Prop
  | .pure _ => True
  | .throw _ => True
  | .call c k => C c ∧ ∀ a, (k a).Uses C

section
variable {C D : S.Call → Prop}

@[simp] lemma uses_pure (a : α) : (Prog.pure a : Prog S ε α).Uses C := trivial

@[simp] lemma uses_throw (e : ε) : (Prog.throw e : Prog S ε α).Uses C := trivial

@[simp] lemma uses_call (c : S.Call) (k : S.Reply c → Prog S ε α) :
    (Prog.call c k).Uses C ↔ C c ∧ ∀ a, (k a).Uses C := Iff.rfl

lemma uses_any (p : Prog S ε α) : p.Uses fun _ => True := by
  induction p with
  | pure a => trivial
  | throw e => trivial
  | call c k ih => exact ⟨trivial, ih⟩

lemma Uses.bind {p : Prog S ε α} {f : α → Prog S ε β} (hp : p.Uses C)
    (hf : ∀ a, (f a).Uses C) : (p >>= f).Uses C := by
  induction p with
  | pure a => exact hf a
  | throw e => trivial
  | call c k ih => exact ⟨hp.1, fun a => ih a (hp.2 a)⟩

lemma Uses.mono {p : Prog S ε α} (hp : p.Uses C) (h : ∀ c, C c → D c) : p.Uses D := by
  induction p with
  | pure a => trivial
  | throw e => trivial
  | call c k ih => exact ⟨h c hp.1, fun a => ih a (hp.2 a)⟩

lemma Uses.mapError {p : Prog S ε α} (hp : p.Uses C) (f : ε → ε') : (p.mapError f).Uses C := by
  induction p with
  | pure a => trivial
  | throw e => trivial
  | call c k ih => exact ⟨hp.1, fun a => ih a (hp.2 a)⟩

end

/-! ## The errors a program can end in -/

/-- Every error the program can end in satisfies `E`, whatever the answers are. -/
def Fails (E : ε → Prop) : Prog S ε α → Prop
  | .pure _ => True
  | .throw e => E e
  | .call _ k => ∀ a, (k a).Fails E

section
variable {E : ε → Prop}

lemma Fails.bind {p : Prog S ε α} {f : α → Prog S ε β} (hp : p.Fails E)
    (hf : ∀ a, (f a).Fails E) : (p >>= f).Fails E := by
  induction p with
  | pure a => exact hf a
  | throw e => exact hp
  | call c k ih => exact fun a => ih a (hp a)

lemma Fails.mapError {E' : ε' → Prop} {f : ε → ε'} {p : Prog S ε α} (hp : p.Fails E)
    (h : ∀ e, E e → E' (f e)) : (p.mapError f).Fails E' := by
  induction p with
  | pure a => trivial
  | throw e => exact h e hp
  | call c k ih => exact fun a => ih a (hp a)

end

/-! ## Running a program against an environment -/

section
variable {R : σ → (c : S.Call) → S.Reply c → σ → Prop}

/-- `Exec R p s τ q s'`: with the environment in state `s`, the program `p` gets to `q`
by the calls and answers of `τ`, which leaves the environment in `s'`. -/
inductive Exec (R : σ → (c : S.Call) → S.Reply c → σ → Prop) :
    Prog S ε α → σ → List (Event S) → Prog S ε α → σ → Prop where
  | refl (p : Prog S ε α) (s : σ) : Exec R p s [] p s
  | step {c : S.Call} {k : S.Reply c → Prog S ε α} {a : S.Reply c} {s s' s'' : σ}
      {τ : List (Event S)} {q : Prog S ε α} (answered : R s c a s')
      (rest : Exec R (k a) s' τ q s'') : Exec R (.call c k) s (⟨c, a⟩ :: τ) q s''

lemma Exec.trans {p q r : Prog S ε α} {s s' s'' : σ} {τ τ' : List (Event S)}
    (h : Exec R p s τ q s') (h' : Exec R q s' τ' r s'') : Exec R p s (τ ++ τ') r s'' := by
  induction h with
  | refl p s => exact h'
  | step answered rest ih => exact .step answered (ih h')

/-- What holds of every answer holds of the answers of a run. -/
lemma Exec.events {E : (c : S.Call) → S.Reply c → Prop} {p q : Prog S ε α} {s s' : σ}
    {τ : List (Event S)} (h : Exec R p s τ q s') (hE : ∀ s c a s', R s c a s' → E c a) :
    ∀ e ∈ τ, E e.call e.reply := by
  induction h with
  | refl => simp
  | step answered _ ih =>
    intro e he
    rcases List.mem_cons.mp he with rfl | he
    · exact hE _ _ _ _ answered
    · exact ih e he

/-- A run makes only the calls that the program uses. -/
lemma Exec.uses {C : S.Call → Prop} {p q : Prog S ε α} {s s' : σ} {τ : List (Event S)}
    (h : Exec R p s τ q s') (hp : p.Uses C) : ∀ e ∈ τ, C e.call := by
  induction h with
  | refl => simp
  | step _ _ ih =>
    intro e he
    rcases List.mem_cons.mp he with rfl | he
    · exact hp.1
    · exact ih (hp.2 _) e he

/-- A run of `p` is a run of `p >>= f` that has not got to `f` yet. -/
lemma Exec.bind {p q : Prog S ε α} {s s' : σ} {τ : List (Event S)} (f : α → Prog S ε β)
    (h : Exec R p s τ q s') : Exec R (p >>= f) s τ (q >>= f) s' := by
  induction h with
  | refl p s => exact .refl _ _
  | step answered rest ih => exact .step answered ih

/-- A run of `p` to a value, and a run from there. -/
lemma Exec.andThen {p : Prog S ε α} {f : α → Prog S ε β} {q : Prog S ε β} {a : α} {s s₁ s' : σ}
    {τ τ' : List (Event S)} (h : Exec R p s τ (.pure a) s₁) (h' : Exec R (f a) s₁ τ' q s') :
    Exec R (p >>= f) s (τ ++ τ') q s' := (h.bind f).trans h'

/-- A run of `p >>= f` is inside `p`, or it has run `p` to a value and is inside `f`. -/
lemma exec_bind_iff {p : Prog S ε α} {f : α → Prog S ε β} {q : Prog S ε β} {s s' : σ}
    {τ : List (Event S)} :
    Exec R (p >>= f) s τ q s' ↔
      (∃ p', Exec R p s τ p' s' ∧ q = (p' >>= f)) ∨
      (∃ a τ₁ τ₂ s₁, τ = τ₁ ++ τ₂ ∧ Exec R p s τ₁ (.pure a) s₁ ∧ Exec R (f a) s₁ τ₂ q s') := by
  constructor
  · intro h
    -- induction on the first program; its calls come first in the run
    induction p generalizing s τ with
    | pure a => exact .inr ⟨a, [], τ, s, rfl, .refl _ _, h⟩
    | throw e =>
      cases h
      exact .inl ⟨.throw e, .refl _ _, rfl⟩
    | call c k ih =>
      cases h with
      | refl => exact .inl ⟨.call c k, .refl _ _, rfl⟩
      | @step _ _ a _ s₀ _ τ _ answered rest =>
        rcases ih a rest with ⟨p', hp, hq⟩ | ⟨b, τ₁, τ₂, s₁, hτ, hp, hf⟩
        · exact .inl ⟨p', .step answered hp, hq⟩
        · exact .inr ⟨b, ⟨c, a⟩ :: τ₁, τ₂, s₁, by rw [hτ]; rfl, .step answered hp, hf⟩
  · rintro (⟨p', hp, rfl⟩ | ⟨a, τ₁, τ₂, s₁, rfl, hp, hf⟩)
    · exact hp.bind f
    · exact (hp.bind f).trans hf

/-- A run of `p >>= f` that ends in a value went through a value of `p`. -/
lemma exec_bind_pure {p : Prog S ε α} {f : α → Prog S ε β} {b : β} {s s' : σ}
    {τ : List (Event S)} (h : Exec R (p >>= f) s τ (.pure b) s') :
    ∃ a τ₁ τ₂ s₁, τ = τ₁ ++ τ₂ ∧ Exec R p s τ₁ (.pure a) s₁ ∧
      Exec R (f a) s₁ τ₂ (.pure b) s' := by
  rcases exec_bind_iff.mp h with ⟨p', hp, hq⟩ | h
  · cases p' with
    | pure a => exact ⟨a, τ, [], s', by simp, hp, hq ▸ .refl _ _⟩
    | throw e => cases hq
    | call c k => cases hq
  · exact h

@[simp] lemma exec_pure_iff {a : α} {q : Prog S ε α} {s s' : σ} {τ : List (Event S)} :
    Exec R (.pure a) s τ q s' ↔ τ = [] ∧ q = .pure a ∧ s' = s := by
  constructor
  · rintro ⟨⟩
    exact ⟨rfl, rfl, rfl⟩
  · rintro ⟨rfl, rfl, rfl⟩
    exact .refl _ _

@[simp] lemma exec_throw_iff {e : ε} {q : Prog S ε α} {s s' : σ} {τ : List (Event S)} :
    Exec R (.throw e) s τ q s' ↔ τ = [] ∧ q = .throw e ∧ s' = s := by
  constructor
  · rintro ⟨⟩
    exact ⟨rfl, rfl, rfl⟩
  · rintro ⟨rfl, rfl, rfl⟩
    exact .refl _ _

/-- A finished program makes no further call. -/
lemma Exec.of_outcome {p q : Prog S ε α} {r : Except ε α} {s s' : σ} {τ : List (Event S)}
    (h : Exec R p s τ q s') (hp : p.outcome = some r) : τ = [] ∧ q = p ∧ s' = s := by
  cases h with
  | refl => exact ⟨rfl, rfl, rfl⟩
  | step answered rest => cases hp

/-- A run of a call to its end answers the call first. -/
lemma exec_call_outcome {c : S.Call} {k : S.Reply c → Prog S ε α} {q : Prog S ε α}
    {r : Except ε α} {s s' : σ} {τ : List (Event S)} (h : Exec R (.call c k) s τ q s')
    (hq : q.outcome = some r) :
    ∃ a s₁ τ', τ = ⟨c, a⟩ :: τ' ∧ R s c a s₁ ∧ Exec R (k a) s₁ τ' q s' := by
  cases h with
  | refl => cases hq
  | step answered rest => exact ⟨_, _, _, rfl, answered, rest⟩

lemma exec_call_pure {c : S.Call} {k : S.Reply c → Prog S ε α} {b : α} {s s' : σ}
    {τ : List (Event S)} (h : Exec R (.call c k) s τ (.pure b) s') :
    ∃ a s₁ τ', τ = ⟨c, a⟩ :: τ' ∧ R s c a s₁ ∧ Exec R (k a) s₁ τ' (.pure b) s' :=
  exec_call_outcome h rfl

/-- A run of `p >>= f` to its end ends with an error of `p`, or goes through a value of `p`. -/
lemma exec_bind_outcome {p : Prog S ε α} {f : α → Prog S ε β} {q : Prog S ε β} {s s' : σ}
    {τ : List (Event S)} {r : Except ε β} (h : Exec R (p >>= f) s τ q s')
    (hq : q.outcome = some r) :
    (∃ e, Exec R p s τ (.throw e) s' ∧ r = .error e) ∨
    (∃ a τ₁ τ₂ s₁, τ = τ₁ ++ τ₂ ∧ Exec R p s τ₁ (.pure a) s₁ ∧ Exec R (f a) s₁ τ₂ q s') := by
  rcases exec_bind_iff.mp h with ⟨p', hp, rfl⟩ | h
  · cases p' with
    | pure a => exact .inr ⟨a, τ, [], s', by simp, hp, .refl _ _⟩
    | throw e =>
      cases hq
      exact .inl ⟨e, hp, rfl⟩
    | call c k => cases hq
  · exact .inr h

/-- An attempt never ends in an error. -/
lemma not_exec_attempt_throw {p : Prog S ε α} {e : ε'} {s s' : σ} {τ : List (Event S)} :
    ¬ Exec R (p.attempt : Prog S ε' (Except ε α)) s τ (.throw e) s' := by
  intro h
  induction p generalizing s τ with
  | pure a => cases h
  | throw e => cases h
  | call c k ih =>
    cases h with
    | step answered rest => exact ih _ rest

/-- A run of `p.attempt` to a result is a run of `p` to that result. -/
lemma exec_attempt {p : Prog S ε α} {r : Except ε α} {s s' : σ} {τ : List (Event S)}
    (h : Exec R (p.attempt : Prog S ε' (Except ε α)) s τ (.pure r) s') :
    ∃ q, q.outcome = some r ∧ Exec R p s τ q s' := by
  induction p generalizing s τ with
  | pure a =>
    obtain ⟨rfl, hq, rfl⟩ := exec_pure_iff.mp h
    cases hq
    exact ⟨_, rfl, .refl _ _⟩
  | throw e =>
    obtain ⟨rfl, hq, rfl⟩ := exec_pure_iff.mp h
    cases hq
    exact ⟨_, rfl, .refl _ _⟩
  | call c k ih =>
    obtain ⟨a, s₁, τ', rfl, answered, rest⟩ := exec_call_pure h
    obtain ⟨q, hq, hexec⟩ := ih a rest
    exact ⟨q, hq, .step answered hexec⟩

/-- A run up to one of its events, and from there on. -/
lemma Exec.split {p q : Prog S ε α} {s s' : σ} {past later : List (Event S)} {e : Event S}
    (h : Exec R p s (past ++ e :: later) q s') :
    ∃ k s₁ s₂, Exec R p s past (.call e.call k) s₁ ∧ R s₁ e.call e.reply s₂ ∧
      Exec R (k e.reply) s₂ later q s' := by
  induction past generalizing p s with
  | nil =>
    cases h with
    | step answered rest => exact ⟨_, _, _, .refl _ _, answered, rest⟩
  | cons x past ih =>
    cases h with
    | step answered rest =>
      obtain ⟨k, s₁, s₂, before, answer, after⟩ := ih rest
      exact ⟨k, s₁, s₂, .step answered before, answer, after⟩

/-- If every call is answered in every state, every program can be run to its end. -/
lemma exists_exec (total : ∀ s c, ∃ a s', R s c a s') (p : Prog S ε α) (s : σ) :
    ∃ τ q s', Exec R p s τ q s' ∧ q.outcome ≠ none := by
  induction p generalizing s with
  | pure a => exact ⟨[], _, s, .refl _ _, by simp⟩
  | throw e => exact ⟨[], _, s, .refl _ _, by simp⟩
  | call c k ih =>
    obtain ⟨a, s₁, answered⟩ := total s c
    obtain ⟨τ, q, s', rest, hq⟩ := ih a s₁
    exact ⟨⟨c, a⟩ :: τ, q, s', .step answered rest, hq⟩

/-- A run is a run in every environment that can answer in the same way. -/
lemma Exec.mono {R' : σ → (c : S.Call) → S.Reply c → σ → Prop} {p q : Prog S ε α} {s s' : σ}
    {τ : List (Event S)} (h : Exec R p s τ q s') (hR : ∀ s c a s', R s c a s' → R' s c a s') :
    Exec R' p s τ q s' := by
  induction h with
  | refl => exact .refl _ _
  | step answered _ ih => exact .step (hR _ _ _ _ answered) ih

/-- Some run of the program comes to its end with a trace of `P`. -/
def CanEnd (R : σ → (c : S.Call) → S.Reply c → σ → Prop) (p : Prog S ε α) (s : σ)
    (P : List (Event S) → Prop) : Prop :=
  ∃ τ q s', Exec R p s τ q s' ∧ q.outcome ≠ none ∧ P τ

lemma canEnd_pure {P : List (Event S) → Prop} (a : α) (s : σ) (h : P []) :
    (Prog.pure a : Prog S ε α).CanEnd R s P := ⟨[], _, s, .refl _ _, by simp, h⟩

lemma canEnd_throw {P : List (Event S) → Prop} (e : ε) (s : σ) (h : P []) :
    (Prog.throw e : Prog S ε α).CanEnd R s P := ⟨[], _, s, .refl _ _, by simp, h⟩

lemma CanEnd.call {P : List (Event S) → Prop} {c : S.Call} {k : S.Reply c → Prog S ε α}
    {a : S.Reply c} {s s' : σ} (answered : R s c a s')
    (h : (k a).CanEnd R s' fun τ => P (⟨c, a⟩ :: τ)) : (Prog.call c k).CanEnd R s P := by
  obtain ⟨τ, q, s'', rest, finished, hP⟩ := h
  exact ⟨⟨c, a⟩ :: τ, q, s'', .step answered rest, finished, hP⟩

lemma CanEnd.assoc {δ : Type} {P : List (Event S) → Prop} {p : Prog S ε α} {f : α → Prog S ε β}
    {g : β → Prog S ε δ} {s : σ} (h : (p >>= fun a => f a >>= g).CanEnd R s P) :
    ((p >>= f) >>= g).CanEnd R s P := by
  rw [bind_assoc]
  exact h

/-- Answers up to `n` calls by `serve`; `none` when `serve` has no answer. -/
def follow (serve : σ → (c : S.Call) → Option (S.Reply c × σ)) :
    ℕ → Prog S ε α → σ → Option (List (Event S) × Prog S ε α × σ)
  | n + 1, .call c k, s =>
    match serve s c with
    | some (a, s₁) =>
      match follow serve n (k a) s₁ with
      | some (τ, q, s') => some (⟨c, a⟩ :: τ, q, s')
      | none => none
    | none => none
  | _, p, s => some ([], p, s)

/-- A computed run is a run in every environment that can answer as `serve` does. -/
lemma exec_of_follow {serve : σ → (c : S.Call) → Option (S.Reply c × σ)}
    (sound : ∀ s c a s', serve s c = some (a, s') → R s c a s') {n : ℕ} {p q : Prog S ε α}
    {s s' : σ} {τ : List (Event S)} (h : follow serve n p s = some (τ, q, s')) :
    Exec R p s τ q s' := by
  induction n generalizing p s τ with
  | zero =>
    have h' : some ([], p, s) = some (τ, q, s') := by
      cases p <;> exact h
    obtain ⟨rfl, rfl, rfl⟩ : [] = τ ∧ p = q ∧ s = s' := by simpa using h'
    exact .refl _ _
  | succ n ih =>
    cases p with
    | pure a =>
      obtain ⟨rfl, rfl, rfl⟩ : [] = τ ∧ Prog.pure a = q ∧ s = s' := by simpa [follow] using h
      exact .refl _ _
    | throw e =>
      obtain ⟨rfl, rfl, rfl⟩ : [] = τ ∧ Prog.throw e = q ∧ s = s' := by simpa [follow] using h
      exact .refl _ _
    | call c k =>
      simp only [follow] at h
      split at h
      · rename_i a s₁ hserve
        split at h
        · rename_i τ₁ q₁ s₂ hrest
          obtain ⟨rfl, rfl, rfl⟩ : ⟨c, a⟩ :: τ₁ = τ ∧ q₁ = q ∧ s₂ = s' := by simpa using h
          exact .step (sound _ _ _ _ hserve) (ih hrest)
        · cases h
      · cases h

/-- The computed run ends with a result and a state that pass `check`. -/
def followsTo (serve : σ → (c : S.Call) → Option (S.Reply c × σ)) (n : ℕ) (p : Prog S ε α) (s : σ)
    (check : Except ε α → σ → Bool) : Bool :=
  match p.follow serve n s with
  | some (_, q, s') =>
    match q.outcome with
    | some r => check r s'
    | none => false
  | none => false

lemma exec_of_followsTo {serve : σ → (c : S.Call) → Option (S.Reply c × σ)}
    (sound : ∀ s c a s', serve s c = some (a, s') → R s c a s') {n : ℕ} {p : Prog S ε α} {s : σ}
    {check : Except ε α → σ → Bool} (h : p.followsTo serve n s check) :
    ∃ τ q r s', Exec R p s τ q s' ∧ q.outcome = some r ∧ check r s' := by
  unfold followsTo at h
  split at h
  · rename_i τ q s' hfollow
    split at h
    · rename_i r hr
      exact ⟨τ, q, r, s', exec_of_follow sound hfollow, hr, h⟩
    · cases h
  · cases h

/-- What the answered calls of a program preserve, a run of it preserves. -/
lemma Exec.invariant {C : S.Call → Prop} {p q : Prog S ε α} {s s' : σ} {τ : List (Event S)}
    (h : Exec R p s τ q s') (hp : p.Uses C) (Inv : σ → Prop)
    (preserved : ∀ s c a s', C c → R s c a s' → Inv s → Inv s') (hs : Inv s) : Inv s' := by
  induction h with
  | refl p s => exact hs
  | step answered rest ih => exact ih (hp.2 _) (preserved _ _ _ _ hp.1 answered hs)

end

/-! ## What a program ensures -/

section
variable {R : σ → (c : S.Call) → S.Reply c → σ → Prop} {s : σ}

/-- Whenever the program ends, started in `s`, the state and the result satisfy `Q`. -/
def Ensures (R : σ → (c : S.Call) → S.Reply c → σ → Prop) (p : Prog S ε α) (s : σ)
    (Q : σ → Except ε α → Prop) : Prop :=
  ∀ τ q s' r, Exec R p s τ q s' → q.outcome = some r → Q s' r

lemma ensures_pure {a : α} {Q : σ → Except ε α → Prop} (h : Q s (.ok a)) :
    (Prog.pure a).Ensures R s Q := by
  intro τ q s' r run hq
  obtain ⟨rfl, rfl, rfl⟩ := exec_pure_iff.mp run
  cases hq
  exact h

lemma ensures_throw {e : ε} {Q : σ → Except ε α → Prop} (h : Q s (.error e)) :
    (Prog.throw e).Ensures R s Q := by
  intro τ q s' r run hq
  obtain ⟨rfl, rfl, rfl⟩ := exec_throw_iff.mp run
  cases hq
  exact h

lemma ensures_perform {c : S.Call} {Q : σ → Except ε (S.Reply c) → Prop}
    (h : ∀ a s', R s c a s' → Q s' (.ok a)) : (perform c).Ensures R s Q := by
  intro τ q s' r run hq
  cases run with
  | refl => cases hq
  | step answered rest =>
    obtain ⟨rfl, rfl, rfl⟩ := exec_pure_iff.mp rest
    cases hq
    exact h _ _ answered

lemma Ensures.mono {p : Prog S ε α} {Q Q' : σ → Except ε α → Prop} (h : p.Ensures R s Q)
    (hQ : ∀ s r, Q s r → Q' s r) : p.Ensures R s Q' := by
  intro τ q s' r run hq
  exact hQ _ _ (h τ q s' r run hq)

/-- The rule for sequencing: the second program starts where the first one ends. -/
lemma Ensures.bind {p : Prog S ε α} {f : α → Prog S ε β} {Q : σ → Except ε β → Prop}
    (h : p.Ensures R s fun s' r => match r with
      | .ok a => (f a).Ensures R s' Q
      | .error e => Q s' (.error e)) : (p >>= f).Ensures R s Q := by
  intro τ q s' r run hq
  rcases exec_bind_outcome run hq with ⟨e, hp, rfl⟩ | ⟨a, τ₁, τ₂, s₁, _, hp, hf⟩
  · exact h τ _ s' _ hp rfl
  · exact h τ₁ _ s₁ _ hp rfl τ₂ q s' r hf hq

/-- A program ends in a value or in one of its errors. -/
lemma Fails.ensures {E : ε → Prop} {p : Prog S ε α} {Q : σ → Except ε α → Prop} (hp : p.Fails E)
    (ok : ∀ s a, Q s (.ok a)) (error : ∀ s e, E e → Q s (.error e)) : p.Ensures R s Q := by
  intro τ q s' r run hq
  induction run with
  | refl p s =>
    cases p with
    | pure a =>
      cases hq
      exact ok s a
    | throw e =>
      cases hq
      exact error s e hp
    | call c k => cases hq
  | step answered rest ih => exact ih (hp _) hq

lemma Ensures.and {p : Prog S ε α} {Q Q' : σ → Except ε α → Prop} (h : p.Ensures R s Q)
    (h' : p.Ensures R s Q') : p.Ensures R s fun s r => Q s r ∧ Q' s r := by
  intro τ q s' r run hq
  exact ⟨h τ q s' r run hq, h' τ q s' r run hq⟩

/-- A program whose calls all leave the state where it is. -/
lemma Uses.ensures {C : S.Call → Prop} {p : Prog S ε α} {Q : σ → Except ε α → Prop}
    (hp : p.Uses C) (stays : ∀ s c a s', C c → R s c a s' → s' = s) (hQ : ∀ r, Q s r) :
    p.Ensures R s Q := by
  intro τ q s' r run _
  have hs : s' = s := run.invariant hp (fun x => x = s)
    (fun s₁ c a s₂ hc answered h => (stays s₁ c a s₂ hc answered).trans h) rfl
  rw [hs]
  exact hQ r

end

/-! ## What a program can do -/

section
variable {R : σ → (c : S.Call) → S.Reply c → σ → Prop} {s s₁ s' : σ}

/-- Some run of the program, started in `s`, ends with the result `r` in `s'`. -/
def Reaches (R : σ → (c : S.Call) → S.Reply c → σ → Prop) (p : Prog S ε α) (s : σ)
    (r : Except ε α) (s' : σ) : Prop :=
  ∃ τ q, Exec R p s τ q s' ∧ q.outcome = some r

lemma reaches_pure (a : α) : (Prog.pure a : Prog S ε α).Reaches R s (.ok a) s :=
  ⟨[], _, .refl _ _, rfl⟩

lemma reaches_throw (e : ε) : (Prog.throw e : Prog S ε α).Reaches R s (.error e) s :=
  ⟨[], _, .refl _ _, rfl⟩

lemma reaches_perform {c : S.Call} {a : S.Reply c} (answered : R s c a s') :
    (perform c : Prog S ε (S.Reply c)).Reaches R s (.ok a) s' :=
  ⟨_, _, .step answered (.refl _ _), rfl⟩

/-- The second program goes on where the first one ends. -/
lemma Reaches.andThen {p : Prog S ε α} {f : α → Prog S ε β} {a : α} {r : Except ε β}
    (h : p.Reaches R s (.ok a) s₁) (h' : (f a).Reaches R s₁ r s') :
    (p >>= f).Reaches R s r s' := by
  obtain ⟨τ, q, run, hq⟩ := h
  obtain ⟨τ', q', run', hq'⟩ := h'
  rw [outcome_eq_ok_iff.mp hq] at run
  exact ⟨_, q', run.andThen run', hq'⟩

/-- An error of the first program is one of both. -/
lemma Reaches.bind_error {p : Prog S ε α} {e : ε} (h : p.Reaches R s (.error e) s')
    (f : α → Prog S ε β) : (p >>= f).Reaches R s (.error e) s' := by
  obtain ⟨τ, q, run, hq⟩ := h
  cases q with
  | pure a => cases hq
  | throw e' =>
    cases hq
    exact ⟨τ, _, run.bind f, rfl⟩
  | call c k => cases hq

/-- Some run of the program, started in `s`, makes a call of the kind `C`. -/
def CanMake (R : σ → (c : S.Call) → S.Reply c → σ → Prop) (p : Prog S ε α) (s : σ)
    (C : S.Call → Prop) : Prop :=
  ∃ τ q s', Exec R p s τ q s' ∧ ∃ e ∈ τ, C e.call

lemma canMake_perform {C : S.Call → Prop} {c : S.Call} {a : S.Reply c} (answered : R s c a s')
    (h : C c) : (perform c : Prog S ε (S.Reply c)).CanMake R s C :=
  ⟨_, _, _, .step answered (.refl _ _), _, List.mem_cons_self, h⟩

/-- What the first program can call, both can. -/
lemma CanMake.bind {C : S.Call → Prop} {p : Prog S ε α} (h : p.CanMake R s C)
    (f : α → Prog S ε β) : (p >>= f).CanMake R s C := by
  obtain ⟨τ, q, s', run, made⟩ := h
  exact ⟨τ, _, s', run.bind f, made⟩

/-- What the second program can call where the first one ends, both can. -/
lemma Reaches.canMake {C : S.Call → Prop} {p : Prog S ε α} {f : α → Prog S ε β} {a : α}
    (h : p.Reaches R s (.ok a) s₁) (h' : (f a).CanMake R s₁ C) : (p >>= f).CanMake R s C := by
  obtain ⟨τ, q, run, hq⟩ := h
  obtain ⟨τ', q', s', run', e, he, made⟩ := h'
  rw [outcome_eq_ok_iff.mp hq] at run
  exact ⟨_, q', s', run.andThen run', e, List.mem_append_right _ he, made⟩

end

end Prog

/-- `serve`, with no answer to the calls that are not allowed. -/
def serveIf {S : Signature} {σ : Type} (allow : σ → S.Call → Bool)
    (serve : σ → (c : S.Call) → Option (S.Reply c × σ)) (s : σ) (c : S.Call) :
    Option (S.Reply c × σ) :=
  if allow s c then serve s c else none

lemma of_serveIf {S : Signature} {σ : Type} {allow : σ → S.Call → Bool}
    {serve : σ → (c : S.Call) → Option (S.Reply c × σ)} {s s' : σ} {c : S.Call}
    {a : S.Reply c} (h : serveIf allow serve s c = some (a, s')) :
    allow s c = true ∧ serve s c = some (a, s') := by
  unfold serveIf at h
  split at h
  · exact ⟨‹_›, h⟩
  · cases h

/-! ## Monitors and weakest preconditions -/

/-- A ghost state machine that watches the calls of a program: which calls are allowed
in a ghost state, which answers are assumed to come, and where they lead. -/
structure Monitor (S : Signature) (γ : Type) where
  allows : γ → S.Call → Prop
  assumes : γ → (c : S.Call) → S.Reply c → Prop
  next : γ → (c : S.Call) → S.Reply c → γ

namespace Monitor

variable {S : Signature} {γ : Type}

/-- The ghost state after a list of answered calls. -/
def after (M : Monitor S γ) (g : γ) (τ : List (Event S)) : γ :=
  τ.foldl (fun g e => M.next g e.call e.reply) g

@[simp] lemma after_nil (M : Monitor S γ) (g : γ) : M.after g [] = g := rfl

@[simp] lemma after_cons (M : Monitor S γ) (g : γ) (e : Event S) (τ : List (Event S)) :
    M.after g (e :: τ) = M.after (M.next g e.call e.reply) τ := rfl

@[simp] lemma after_append (M : Monitor S γ) (g : γ) (τ τ' : List (Event S)) :
    M.after g (τ ++ τ') = M.after (M.after g τ) τ' := List.foldl_append ..

/-- The monitor whose ghost state is the whole past of the program. -/
def history (allows : List (Event S) → S.Call → Prop)
    (assumes : (c : S.Call) → S.Reply c → Prop) : Monitor S (List (Event S)) where
  allows := allows
  assumes := fun _ => assumes
  next := fun past c a => past ++ [⟨c, a⟩]

@[simp] lemma history_after (allows : List (Event S) → S.Call → Prop)
    (assumes : (c : S.Call) → S.Reply c → Prop) (past τ : List (Event S)) :
    (history allows assumes).after past τ = past ++ τ := by
  induction τ generalizing past with
  | nil => simp
  | cons e τ ih => simpa [history] using ih (past ++ [e])

end Monitor

namespace Prog

variable {S : Signature} {γ ε ε' α β σ : Type} {M : Monitor S γ}

/-- From ghost state `g` the program makes only calls that `M` allows, and if it ends
then `Q` holds of the last ghost state and of the result. -/
def wp (M : Monitor S γ) : Prog S ε α → γ → (γ → Except ε α → Prop) → Prop
  | .pure a, g, Q => Q g (.ok a)
  | .throw e, g, Q => Q g (.error e)
  | .call c k, g, Q => M.allows g c ∧ ∀ a, M.assumes g c a → (k a).wp M (M.next g c a) Q

@[simp] lemma wp_pure (a : α) (g : γ) (Q : γ → Except ε α → Prop) :
    (Prog.pure a).wp M g Q ↔ Q g (.ok a) := Iff.rfl

@[simp] lemma wp_throw (e : ε) (g : γ) (Q : γ → Except ε α → Prop) :
    (Prog.throw e).wp M g Q ↔ Q g (.error e) := Iff.rfl

@[simp] lemma wp_call (c : S.Call) (k : S.Reply c → Prog S ε α) (g : γ)
    (Q : γ → Except ε α → Prop) :
    (Prog.call c k).wp M g Q ↔
      M.allows g c ∧ ∀ a, M.assumes g c a → (k a).wp M (M.next g c a) Q := Iff.rfl

lemma wp_mono {p : Prog S ε α} {g : γ} {Q Q' : γ → Except ε α → Prop} (h : p.wp M g Q)
    (hQ : ∀ g r, Q g r → Q' g r) : p.wp M g Q' := by
  induction p generalizing g with
  | pure a => exact hQ _ _ h
  | throw e => exact hQ _ _ h
  | call c k ih => exact ⟨h.1, fun a ha => ih a (h.2 a ha)⟩

lemma wp_and {p : Prog S ε α} {g : γ} {Q Q' : γ → Except ε α → Prop} (h : p.wp M g Q)
    (h' : p.wp M g Q') : p.wp M g fun g r => Q g r ∧ Q' g r := by
  induction p generalizing g with
  | pure a => exact ⟨h, h'⟩
  | throw e => exact ⟨h, h'⟩
  | call c k ih => exact ⟨h.1, fun a ha => ih a (h.2 a ha) (h'.2 a ha)⟩

/-- The rule for sequencing: the second program starts where the first one ends. -/
lemma wp_bind {p : Prog S ε α} {f : α → Prog S ε β} {g : γ} {Q : γ → Except ε β → Prop}
    (h : p.wp M g fun g' r => match r with
      | .ok a => (f a).wp M g' Q
      | .error e => Q g' (.error e)) : (p >>= f).wp M g Q := by
  induction p generalizing g with
  | pure a => exact h
  | throw e => exact h
  | call c k ih => exact ⟨h.1, fun a ha => ih a (h.2 a ha)⟩

lemma wp_attempt {p : Prog S ε α} {g : γ} {Q : γ → Except ε' (Except ε α) → Prop}
    (h : p.wp M g fun g' r => Q g' (.ok r)) : p.attempt.wp M g Q := by
  induction p generalizing g with
  | pure a => exact h
  | throw e => exact h
  | call c k ih => exact ⟨h.1, fun a ha => ih a (h.2 a ha)⟩

lemma wp_mapError {p : Prog S ε α} {f : ε → ε'} {g : γ} {Q : γ → Except ε' α → Prop}
    (h : p.wp M g fun g result => Q g (result.mapError f)) : (p.mapError f).wp M g Q := by
  induction p generalizing g with
  | pure a => exact h
  | throw e => exact h
  | call c k ih => exact ⟨h.1, fun a assumed => ih a (h.2 a assumed)⟩

lemma wp_ofExcept {r : Except ε α} {g : γ} {Q : γ → Except ε α → Prop} (h : Q g r) :
    (ofExcept r).wp M g Q := by
  cases r <;> exact h

/-- A program whose calls are all allowed and leave the ghost state where it is. -/
lemma Uses.wp {C : S.Call → Prop} {p : Prog S ε α} {g : γ} {Q : γ → Except ε α → Prop}
    (hp : p.Uses C) (allowed : ∀ c, C c → M.allows g c)
    (stays : ∀ c a, C c → M.next g c a = g) (hQ : ∀ r, Q g r) : p.wp M g Q := by
  induction p with
  | pure a => exact hQ _
  | throw e => exact hQ _
  | call c k ih =>
    refine ⟨allowed c hp.1, fun a _ => ?_⟩
    rw [stays c a hp.1]
    exact ih a (hp.2 a)

/-- A program whose calls all keep a property of the ghost state. -/
lemma Uses.wp_invariant {C : S.Call → Prop} {p : Prog S ε α} {g : γ}
    {Q : γ → Except ε α → Prop} (hp : p.Uses C) (Inv : γ → Prop)
    (allowed : ∀ g c, C c → Inv g → M.allows g c)
    (kept : ∀ g c a, C c → M.assumes g c a → Inv g → Inv (M.next g c a)) (hg : Inv g)
    (hQ : ∀ g r, Inv g → Q g r) : p.wp M g Q := by
  induction p generalizing g with
  | pure a => exact hQ _ _ hg
  | throw e => exact hQ _ _ hg
  | call c k ih =>
    refine ⟨allowed g c hp.1 hg, fun a assumed => ?_⟩
    exact ih a (hp.2 a) (kept g c a hp.1 assumed hg)

/-- A program under the history monitor: what is known afterwards are the calls it can make. -/
lemma Uses.wp_history {allows : List (Event S) → S.Call → Prop}
    {assumes : (c : S.Call) → S.Reply c → Prop} {C : S.Call → Prop} {p : Prog S ε α}
    {past : List (Event S)} {Q : List (Event S) → Except ε α → Prop} (hp : p.Uses C)
    (allowed : ∀ past c, C c → allows past c)
    (hQ : ∀ τ r, (∀ e ∈ τ, C e.call) → Q (past ++ τ) r) :
    p.wp (Monitor.history allows assumes) past Q := by
  induction p generalizing past with
  | pure a => simpa using hQ [] (.ok a) (by simp)
  | throw e => simpa using hQ [] (.error e) (by simp)
  | call c k ih =>
    refine ⟨allowed past c hp.1, fun a _ => ih a (hp.2 a) fun τ r hτ => ?_⟩
    have := hQ (⟨c, a⟩ :: τ) r fun e he => by
      rcases List.mem_cons.mp he with rfl | he
      · exact hp.1
      · exact hτ e he
    show Q ((past ++ [⟨c, a⟩]) ++ τ) r
    rw [List.append_assoc]
    exact this

/-- What a program is known to have seen at its end it has seen under any history monitor that
allows its calls. -/
lemma Uses.wp_history_of {allows allows' : List (Event S) → S.Call → Prop}
    {assumes : (c : S.Call) → S.Reply c → Prop} {C : S.Call → Prop} {p : Prog S ε α}
    {past : List (Event S)} {Q : List (Event S) → Except ε α → Prop} (hp : p.Uses C)
    (allowed : ∀ past c, C c → allows' past c) (h : p.wp (Monitor.history allows assumes) past Q) :
    p.wp (Monitor.history allows' assumes) past Q := by
  induction p generalizing past with
  | pure a => exact h
  | throw e => exact h
  | call c k ih =>
    exact ⟨allowed past c hp.1, fun a assumed => ih a (hp.2 a) (h.2 a assumed)⟩

/-- Soundness: along a run whose answers are the assumed ones, the rest of the program
meets its specification from the ghost state reached. -/
lemma wp_exec {R : σ → (c : S.Call) → S.Reply c → σ → Prop} {p q : Prog S ε α} {g : γ}
    {Q : γ → Except ε α → Prop} {s s' : σ} {τ : List (Event S)} (h : p.wp M g Q)
    (run : Exec R p s τ q s') (rely : ∀ s c a s', R s c a s' → ∀ g, M.assumes g c a) :
    q.wp M (M.after g τ) Q := by
  induction run generalizing g with
  | refl p s => exact h
  | step answered rest ih => exact ih (h.2 _ (rely _ _ _ _ answered _))

/-- What the allowed calls of a run preserve, of the state and the ghost state together, holds
at its end. -/
lemma wp_exec_invariant {R : σ → (c : S.Call) → S.Reply c → σ → Prop} {p q : Prog S ε α} {g : γ}
    {Q : γ → Except ε α → Prop} {s s' : σ} {τ : List (Event S)} (h : p.wp M g Q)
    (run : Exec R p s τ q s') (rely : ∀ s c a s', R s c a s' → ∀ g, M.assumes g c a)
    (Inv : σ → γ → Prop)
    (preserved : ∀ s g c a s', ⟨c, a⟩ ∈ τ → M.allows g c → R s c a s' → Inv s g →
      Inv s' (M.next g c a))
    (init : Inv s g) : Inv s' (M.after g τ) := by
  induction run generalizing g with
  | refl p s => exact init
  | step answered rest ih =>
    have first := preserved _ _ _ _ _ List.mem_cons_self h.1 answered init
    exact ih (h.2 _ (rely _ _ _ _ answered _))
      (fun s g c a s' he => preserved s g c a s' (List.mem_cons_of_mem _ he)) first

/-- Soundness when the assumed answers depend on the state: it is related to the ghost state, and
every answer keeps it so. -/
lemma wp_exec_related {R : σ → (c : S.Call) → S.Reply c → σ → Prop} {p q : Prog S ε α} {g : γ}
    {Q : γ → Except ε α → Prop} {s s' : σ} {τ : List (Event S)} (Rel : σ → γ → Prop)
    (related : ∀ s g c a s', ⟨c, a⟩ ∈ τ → M.allows g c → R s c a s' → Rel s g →
      M.assumes g c a ∧ Rel s' (M.next g c a))
    (h : p.wp M g Q) (run : Exec R p s τ q s') (init : Rel s g) :
    q.wp M (M.after g τ) Q ∧ Rel s' (M.after g τ) := by
  induction run generalizing g with
  | refl p s => exact ⟨h, init⟩
  | step answered rest ih =>
    obtain ⟨assumed, still⟩ := related _ _ _ _ _ List.mem_cons_self h.1 answered init
    exact ih (fun s g c a s' he => related s g c a s' (List.mem_cons_of_mem _ he))
      (h.2 _ assumed) still

/-- Soundness when the ghost state is the state of the environment itself. -/
lemma wp_exec_self {R : γ → (c : S.Call) → S.Reply c → γ → Prop} {p q : Prog S ε α} {g g' : γ}
    {Q : γ → Except ε α → Prop} {τ : List (Event S)}
    (coupled : ∀ g c a g', R g c a g' → M.assumes g c a ∧ g' = M.next g c a)
    (h : p.wp M g Q) (run : Exec R p g τ q g') : q.wp M g' Q := by
  induction run with
  | refl p s => exact h
  | step answered rest ih =>
    obtain ⟨assumed, rfl⟩ := coupled _ _ _ _ answered
    exact ih (h.2 _ assumed)

/-- Every call of a run was allowed in the ghost state it was made from. -/
lemma wp_event {R : σ → (c : S.Call) → S.Reply c → σ → Prop} {p q : Prog S ε α} {g : γ}
    {Q : γ → Except ε α → Prop} {s s' : σ} {past later : List (Event S)} {e : Event S}
    (h : p.wp M g Q) (run : Exec R p s (past ++ e :: later) q s')
    (rely : ∀ s c a s', R s c a s' → ∀ g, M.assumes g c a) :
    M.allows (M.after g past) e.call := by
  induction past generalizing p g s with
  | nil =>
    cases run with
    | step _ _ => exact h.1
  | cons x past ih =>
    cases run with
    | step answered rest => exact ih (h.2 _ (rely _ _ _ _ answered _)) rest

/-- A finished program has established its postcondition. -/
lemma wp_outcome {p : Prog S ε α} {g : γ} {Q : γ → Except ε α → Prop} {r : Except ε α}
    (h : p.wp M g Q) (hr : p.outcome = some r) : Q g r := by
  cases p with
  | pure a => exact Option.some.inj hr ▸ h
  | throw e => exact Option.some.inj hr ▸ h
  | call c k => cases hr

/-- What a program establishes under a monitor, it ensures of its result. -/
lemma Ensures.of_wp {R : σ → (c : S.Call) → S.Reply c → σ → Prop} {p : Prog S ε α} {g : γ} {s : σ}
    {Q : γ → Except ε α → Prop} (h : p.wp M g Q)
    (rely : ∀ s c a s', R s c a s' → ∀ g, M.assumes g c a) :
    p.Ensures R s fun _ r => ∃ g, Q g r := by
  intro τ q s' r run hq
  exact ⟨_, wp_outcome (wp_exec h run rely) hq⟩

end Prog

end Interaction
