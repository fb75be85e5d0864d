import Kubedal.Utils.Pool

/-!
# Requests one after another

A `Session` of a `Service` handles one request at a time. Between two requests the environment
may move on its own, and it may do so in the middle of a request, which is then cut off.

* `Session.invariant` is the rule for what holds in every state of a session;
* `Session.agree` is the rule for two properties of the turns to be the same;
* `Session.simulated` is the rule for a session to be a run of an abstract machine.
-/

namespace Interaction

variable {S : Signature} {σ ρ ε α μ : Type}

/-! ## Sessions -/

/-- What happens next in a session. -/
inductive Turn (S : Signature) (ρ ε α : Type) where
  | handled (response : Response S ρ ε α)
  | cutOff (request : ρ) (past : List (Event S))
  | disturbed

/-- The request that is finished in the turn. -/
def Turn.response : Turn S ρ ε α → Option (Response S ρ ε α)
  | .handled x => some x
  | _ => none

namespace Service

/-- What a turn does to the state: a request that is cut off has got no further than the
environment lets it. -/
inductive Takes (V : Service S σ ρ ε α) : σ → Turn S ρ ε α → σ → Prop where
  | handle {s s' : σ} {r : ρ} {τ : List (Event S)} {q : Prog S ε α} {result : Except ε α}
      (run : Prog.Exec V.answers (V.program r) s τ q s') (ends : q.outcome = some result) :
      Takes V s (.handled ⟨r, τ, result⟩) s'
  | cutOff {s s' s'' : σ} {r : ρ} {τ : List (Event S)} {q : Prog S ε α}
      (run : Prog.Exec V.answers (V.program r) s τ q s') (moved : V.disturbs s' s'') :
      Takes V s (.cutOff r τ) s''
  | disturb {s s' : σ} (moved : V.disturbs s s') : Takes V s .disturbed s'

/-- `V.Session s₀ turns s`: started in `s₀`, the turns lead to `s`; each of them comes with the
state it is taken in. -/
inductive Session (V : Service S σ ρ ε α) (s₀ : σ) : List (σ × Turn S ρ ε α) → σ → Prop where
  | start : Session V s₀ [] s₀
  | turn {turns : List (σ × Turn S ρ ε α)} {s s' : σ} {t : Turn S ρ ε α}
      (earlier : Session V s₀ turns s) (takes : V.Takes s t s') :
      Session V s₀ (turns ++ [(s, t)]) s'

/-- The requests that were finished in a session. -/
def responses (turns : List (σ × Turn S ρ ε α)) : List (Response S ρ ε α) :=
  turns.filterMap fun x => x.2.response

namespace Session

variable {V : Service S σ ρ ε α} {s₀ s : σ} {turns : List (σ × Turn S ρ ε α)}

/-- What the turns preserve holds at the end of a session. -/
lemma invariant (session : V.Session s₀ turns s) {G : σ → Turn S ρ ε α → Prop} (Inv : σ → Prop)
    (preserved : ∀ s t s', G s t → V.Takes s t s' → Inv s → Inv s')
    (hG : ∀ x ∈ turns, G x.1 x.2) (init : Inv s₀) : Inv s := by
  induction session with
  | start => exact init
  | @turn turns s s' t earlier takes ih =>
    have ih' : Inv s := ih fun x hx => hG x (List.mem_append_left _ hx)
    exact preserved s t s' (hG (s, t) (List.mem_append_right _ List.mem_cons_self)) takes ih'

/-- Requests that are answered by `serve` one after another make a session. -/
lemma serial {serve : ρ → σ → (c : S.Call) → Option (S.Reply c × σ)}
    (sound : ∀ r s c a s', serve r s c = some (a, s') → V.answers s c a s') {n : ℕ} {rs : List ρ}
    {s' : σ} {done : List (Response S ρ ε α)} (session : V.Session s₀ turns s)
    (h : V.serial serve n rs s = some (done, s')) :
    ∃ later, V.Session s₀ (turns ++ later) s' ∧ later.map Prod.snd = done.map .handled := by
  induction rs generalizing s turns done with
  | nil =>
    obtain ⟨rfl, rfl⟩ : [] = done ∧ s = s' := by simpa [Service.serial] using h
    exact ⟨[], by simpa using session, rfl⟩
  | cons r rs ih =>
    simp only [Service.serial] at h
    split at h
    · rename_i τ q s₁ hfollow
      split at h
      · rename_i result rest s₂ hq hrest
        obtain ⟨rfl, rfl⟩ : ⟨r, τ, result⟩ :: rest = done ∧ s₂ = s' := by simpa using h
        have takes : V.Takes s (.handled ⟨r, τ, result⟩) s₁ :=
          .handle (Prog.exec_of_follow (sound r) hfollow) hq
        obtain ⟨later, hlater, hdone⟩ := ih (session.turn takes) hrest
        refine ⟨(s, .handled ⟨r, τ, result⟩) :: later, by simpa using hlater, ?_⟩
        rw [List.map_cons, List.map_cons, hdone]
      · cases h
    · cases h

end Session

lemma responses_of_handled {turns : List (σ × Turn S ρ ε α)} {done : List (Response S ρ ε α)}
    (h : turns.map Prod.snd = done.map .handled) : responses turns = done := by
  have hmap : responses turns = (turns.map Prod.snd).filterMap Turn.response := by
    rw [List.filterMap_map]
    rfl
  rw [hmap, h, List.filterMap_map]
  exact List.filterMap_some

/-! ## Each turn of a session -/

/-- The state that `later` begins in, in a session that ends in `s`. -/
def entered : List (σ × Turn S ρ ε α) → σ → σ
  | [], s => s
  | x :: _, _ => x.1

/-- `Q` holds of each turn, with the turns before it and the states it is taken in and leads
to. -/
def EachTurn (Q : List (σ × Turn S ρ ε α) → σ → Turn S ρ ε α → σ → Prop)
    (turns : List (σ × Turn S ρ ε α)) (s : σ) : Prop :=
  ∀ earlier s₁ t later, turns = earlier ++ (s₁, t) :: later → Q earlier s₁ t (entered later s)

section
variable {Q : List (σ × Turn S ρ ε α) → σ → Turn S ρ ε α → σ → Prop} {s s' : σ}
  {turns : List (σ × Turn S ρ ε α)} {t : Turn S ρ ε α}

@[simp] lemma eachTurn_nil : EachTurn Q [] s := by
  intro earlier s₁ t later h
  simp at h

lemma eachTurn_append :
    EachTurn Q (turns ++ [(s, t)]) s' ↔ EachTurn Q turns s ∧ Q turns s t s' := by
  constructor
  · intro h
    refine ⟨fun earlier s₁ t₁ later hturns => ?_, h turns s t [] rfl⟩
    have hQ := h earlier s₁ t₁ (later ++ [(s, t)]) (by simp [hturns])
    -- the turn after an earlier one is the last turn, or is there without it
    cases later with
    | nil => exact hQ
    | cons x later => exact hQ
  · rintro ⟨hturns, hlast⟩ earlier s₁ t₁ later h
    rcases List.eq_nil_or_concat later with rfl | ⟨later, x, rfl⟩
    · obtain ⟨rfl, hx⟩ := List.append_inj' h rfl
      cases hx
      exact hlast
    · have h' : turns ++ [(s, t)] = (earlier ++ (s₁, t₁) :: later) ++ [x] := by simpa using h
      obtain ⟨hearlier, hx⟩ := List.append_inj' h' rfl
      cases hx
      have hQ := hturns earlier s₁ t₁ later hearlier
      cases later with
      | nil => exact hQ
      | cons y later => exact hQ

end

/-- The rule for agreement: `P` and `C` hold of the same sessions if they agree on every turn
that starts from the invariant, and the turns with `P` keep the invariant. -/
lemma Session.agree {V : Service S σ ρ ε α} {s₀ s : σ} {turns : List (σ × Turn S ρ ε α)}
    {H P C : List (σ × Turn S ρ ε α) → σ → Turn S ρ ε α → σ → Prop}
    (session : V.Session s₀ turns s) (Inv : List (σ × Turn S ρ ε α) → σ → Prop)
    (agrees : ∀ turns s t s', H turns s t s' → V.Takes s t s' → Inv turns s →
      (P turns s t s' ↔ C turns s t s'))
    (keeps : ∀ turns s t s', H turns s t s' → V.Takes s t s' → Inv turns s → P turns s t s' →
      Inv (turns ++ [(s, t)]) s')
    (hH : EachTurn H turns s) (init : Inv [] s₀) : EachTurn P turns s ↔ EachTurn C turns s := by
  -- along the session, the invariant holds as long as `P` does
  have both : (EachTurn P turns s ↔ EachTurn C turns s) ∧ (EachTurn P turns s → Inv turns s) := by
    induction session with
    | start => exact ⟨by simp, fun _ => init⟩
    | @turn turns s s' t earlier takes ih =>
      obtain ⟨hearlier, hlast⟩ := eachTurn_append.mp hH
      obtain ⟨same, holds⟩ := ih hearlier
      rw [eachTurn_append, eachTurn_append, ← same]
      refine ⟨and_congr_right fun h => ?_, fun ⟨h, hP⟩ => ?_⟩
      · exact agrees _ _ _ _ hlast takes (holds h)
      · exact keeps _ _ _ _ hlast takes (holds h) hP
  exact both.1

/-! ## Abstract machines -/

/-- A run of an abstract machine, whose steps are requests with their results. -/
inductive Trace (A : μ → ρ → Except ε α → μ → Prop) (m₀ : μ) :
    List (Response S ρ ε α) → μ → Prop where
  | start : Trace A m₀ [] m₀
  | step {done : List (Response S ρ ε α)} {m m' : μ} {x : Response S ρ ε α}
      (earlier : Trace A m₀ done m) (last : A m x.request x.result m') :
      Trace A m₀ (done ++ [x]) m'

/-- A trace can be taken apart anywhere. -/
lemma Trace.split {A : μ → ρ → Except ε α → μ → Prop} {m₀ m : μ}
    {done done' : List (Response S ρ ε α)} (h : Trace A m₀ (done ++ done') m) :
    ∃ m₁, Trace A m₀ done m₁ ∧ Trace A m₁ done' m := by
  -- induction on the second part, from its end
  induction done' using List.reverseRecOn generalizing m with
  | nil => exact ⟨m, by simpa using h, .start⟩
  | append_singleton done' x ih =>
    generalize hall : done ++ (done' ++ [x]) = all at h
    cases h with
    | start => simp at hall
    | step earlier last =>
      rw [← List.append_assoc] at hall
      obtain ⟨rfl, hx⟩ := List.append_inj' hall rfl
      cases hx
      obtain ⟨m₁, hfirst, hsecond⟩ := ih earlier
      exact ⟨m₁, hfirst, .step hsecond last⟩

lemma Trace.eq_of_nil {A : μ → ρ → Except ε α → μ → Prop} {m₀ m : μ}
    (h : Trace A m₀ ([] : List (Response S ρ ε α)) m) : m = m₀ := by
  generalize hnil : ([] : List (Response S ρ ε α)) = done at h
  cases h with
  | start => rfl
  | step _ _ => simp at hnil

/-- The first step of a trace. -/
lemma Trace.head {A : μ → ρ → Except ε α → μ → Prop} {m₀ m : μ} {x : Response S ρ ε α}
    {done : List (Response S ρ ε α)} (h : Trace A m₀ (x :: done) m) :
    ∃ m₁, A m₀ x.request x.result m₁ ∧ Trace A m₁ done m := by
  have h' : Trace A m₀ ([x] ++ done) m := h
  obtain ⟨m₁, hfirst, hrest⟩ := h'.split
  generalize hone : [x] = one at hfirst
  cases hfirst with
  | start => cases hone
  | @step done₁ m₂ _ y earlier last =>
    have hone' : [] ++ [x] = done₁ ++ [y] := hone
    obtain ⟨hdone, hy⟩ := List.append_inj' hone' rfl
    cases hy
    rw [← hdone] at earlier
    rw [earlier.eq_of_nil] at last
    exact ⟨m₁, last, hrest⟩

/-- What the steps of a machine preserve, a trace of it preserves. -/
lemma Trace.invariant {A : μ → ρ → Except ε α → μ → Prop} {m₀ m : μ}
    {done : List (Response S ρ ε α)} (h : Trace A m₀ done m) (Inv : μ → Prop)
    (preserved : ∀ m, ∀ x ∈ done, ∀ m', A m x.request x.result m' → Inv m → Inv m')
    (init : Inv m₀) : Inv m := by
  induction h with
  | start => exact init
  | @step done m m' x earlier last ih =>
    have ih' : Inv m := ih fun m y hy => preserved m y (List.mem_append_left _ hy)
    exact preserved m x (List.mem_append_right _ List.mem_cons_self) m' last ih'

/-- The rule for simulation, when the environment does not move on its own: every session is a
run of the machine if each request makes a step of it. -/
lemma Session.simulated {V : Service S σ ρ ε α} {A : μ → ρ → Except ε α → μ → Prop}
    {Sim : σ → μ → Prop} {s₀ s : σ} {turns : List (σ × Turn S ρ ε α)} {m₀ : μ}
    (session : V.Session s₀ turns s) (quiet : ∀ s s', ¬ V.disturbs s s')
    (step : ∀ s m r, Sim s m → (V.program r).Ensures V.answers s fun s' result =>
      ∃ m', A m r result m' ∧ Sim s' m')
    (init : Sim s₀ m₀) : ∃ m, Trace A m₀ (responses turns) m ∧ Sim s m := by
  induction session with
  | start => exact ⟨m₀, .start, init⟩
  | @turn turns s s' t earlier takes ih =>
    obtain ⟨m, htrace, hsim⟩ := ih
    cases takes with
    | handle run ends =>
      obtain ⟨m', hstep, hsim'⟩ := step s m _ hsim _ _ _ _ run ends
      refine ⟨m', ?_, hsim'⟩
      rw [responses, List.filterMap_append]
      exact .step htrace hstep
    | cutOff _ moved => exact absurd moved (quiet _ _)
    | disturb moved => exact absurd moved (quiet _ _)

end Service

end Interaction
