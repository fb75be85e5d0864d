import Kubedal.Utils.Interaction
import Mathlib.Data.List.Forall2

/-!
# Programs side by side

What a program may learn from the answers to its calls, told by running two programs next to
each other against answers that are alike.

* `Prog.play` runs a program against an oracle, which answers by all that has happened so far;
* `Prog.Lockstep`: as long as the answers are alike, and until something happens that sets the
  programs free, both make the same calls and end alike;
* `Prog.Lockstep.play`: so they do against any two oracles that answer alike.
-/

namespace Interaction

variable {S : Signature} {ε α β : Type}

/-- What answers a call, after all that has happened. -/
abbrev Oracle (S : Signature) := List (Event S) → (c : S.Call) → S.Reply c

/-- The history and the result of a program against an oracle. -/
def Prog.play (o : Oracle S) (past : List (Event S)) : Prog S ε α → List (Event S) × Except ε α
  | .pure a => (past, .ok a)
  | .throw e => (past, .error e)
  | .call c k => (k (o past c)).play o (past ++ [⟨c, o past c⟩])

/-- The same call, with answers that are alike. -/
inductive Event.Alike (R : (c : S.Call) → S.Reply c → S.Reply c → Prop) :
    Event S → Event S → Prop
  | mk (c : S.Call) {a b : S.Reply c} (h : R c a b) : Alike R ⟨c, a⟩ ⟨c, b⟩

/-- The oracles answer alike, whatever has happened that was alike. -/
def Oracle.Alike (R : (c : S.Call) → S.Reply c → S.Reply c → Prop) (o o' : Oracle S) : Prop :=
  ∀ past past' c, List.Forall₂ (Event.Alike R) past past' → R c (o past c) (o' past' c)

namespace Prog

variable {R : (c : S.Call) → S.Reply c → S.Reply c → Prop} {Free : List (Event S) → Prop}

/-- The two programs go on from `past` in lockstep until it is `Free`. They end in the same error,
or in values that satisfy `Q`. -/
inductive Lockstep (R : (c : S.Call) → S.Reply c → S.Reply c → Prop)
    (Free : List (Event S) → Prop) (Q : List (Event S) → α → β → Prop) :
    List (Event S) → Prog S ε α → Prog S ε β → Prop
  | pure {past : List (Event S)} {a : α} {b : β} (h : Q past a b) :
      Lockstep R Free Q past (.pure a) (.pure b)
  | throw (past : List (Event S)) (e : ε) : Lockstep R Free Q past (.throw e) (.throw e)
  | call {past : List (Event S)} (c : S.Call) (k : S.Reply c → Prog S ε α)
      (k' : S.Reply c → Prog S ε β)
      (h : ∀ a b, R c a b → ¬ Free (past ++ [⟨c, a⟩]) →
        Lockstep R Free Q (past ++ [⟨c, a⟩]) (k a) (k' b)) :
      Lockstep R Free Q past (.call c k) (.call c k')

/-- The same error, or values that are related. -/
def Results (Q : α → β → Prop) : Except ε α → Except ε β → Prop
  | .ok a, .ok b => Q a b
  | .error e, .error e' => e = e'
  | _, _ => False

namespace Lockstep

variable {Q : List (Event S) → α → β → Prop} {past past' : List (Event S)} {p : Prog S ε α}
  {q : Prog S ε β} {o o' : Oracle S}

lemma perform {c : S.Call} {Q : List (Event S) → S.Reply c → S.Reply c → Prop}
    (h : ∀ a b, R c a b → ¬ Free (past ++ [⟨c, a⟩]) → Q (past ++ [⟨c, a⟩]) a b) :
    Lockstep R Free Q past (.perform c : Prog S ε (S.Reply c)) (.perform c) :=
  .call c _ _ fun a b hab bound => .pure (h a b hab bound)

lemma mono {Q' : List (Event S) → α → β → Prop} (h : Lockstep R Free Q past p q)
    (hQ : ∀ past a b, Q past a b → Q' past a b) : Lockstep R Free Q' past p q := by
  induction h with
  | pure h => exact .pure (hQ _ _ _ h)
  | throw past e => exact .throw past e
  | call c k k' _ ih => exact .call c k k' ih

/-- What comes after the first parts goes on in lockstep, if they return. -/
lemma bind {γ δ : Type} {p : Prog S ε γ} {q : Prog S ε δ} {f : γ → Prog S ε α}
    {g : δ → Prog S ε β} {M : List (Event S) → γ → δ → Prop} (h : Lockstep R Free M past p q)
    (next : ∀ past' a b, past <+: past' → M past' a b → Lockstep R Free Q past' (f a) (g b)) :
    Lockstep R Free Q past (p >>= f) (q >>= g) := by
  induction h with
  | pure h => exact next _ _ _ List.prefix_rfl h
  | throw past e => exact .throw past e
  | call c k k' _ ih =>
    refine .call c _ _ fun a b hab bound => ih a b hab bound fun past' x y hpast => ?_
    exact next past' x y ((List.prefix_append _ _).trans hpast)

/-- A program whose calls get the same answer is in lockstep with itself. -/
lemma refl {C : S.Call → Prop} {p : Prog S ε α} (uses : p.Uses C)
    (same : ∀ c a b, C c → R c a b → a = b) (past : List (Event S)) :
    Lockstep R Free (fun _ a b => a = b) past p p := by
  induction p generalizing past with
  | pure a => exact .pure rfl
  | throw e => exact .throw past e
  | call c k ih =>
    refine .call c k k fun a b hab _ => ?_
    obtain rfl := same c a b uses.1 hab
    exact ih a (uses.2 a) _

/-- The history of a program goes on from where it starts. -/
lemma prefix_play (p : Prog S ε α) (o : Oracle S) (past : List (Event S)) :
    past <+: (p.play o past).1 := by
  induction p generalizing past with
  | pure a => exact List.prefix_rfl
  | throw e => exact List.prefix_rfl
  | call c k ih => exact (List.prefix_append _ _).trans (ih _ _)

/-- Against oracles that answer alike, the histories stay alike until the programs are set free, if
they ever are, and otherwise the programs end alike. -/
theorem play (h : Lockstep R Free Q past p q) (alike : o.Alike R o')
    (hpast : List.Forall₂ (Event.Alike R) past past') :
    (∃ free free', Free free ∧ free <+: (p.play o past).1 ∧ free' <+: (q.play o' past').1 ∧
        List.Forall₂ (Event.Alike R) free free') ∨
      List.Forall₂ (Event.Alike R) (p.play o past).1 (q.play o' past').1 ∧
        Results (Q (p.play o past).1) (p.play o past).2 (q.play o' past').2 := by
  induction h generalizing past' with
  | pure h => exact .inr ⟨hpast, h⟩
  | throw past e => exact .inr ⟨hpast, rfl⟩
  | @call past c k k' h ih =>
    have hanswer := alike past past' c hpast
    have hpast' : List.Forall₂ (Event.Alike R) (past ++ [⟨c, o past c⟩])
        (past' ++ [⟨c, o' past' c⟩]) := List.rel_append hpast (.cons (.mk c hanswer) .nil)
    by_cases free : Free (past ++ [⟨c, o past c⟩])
    · exact .inl ⟨_, _, free, prefix_play (k _) o _, prefix_play (k' _) o' _, hpast'⟩
    · exact ih _ _ hanswer free hpast'

end Lockstep

end Prog

end Interaction
