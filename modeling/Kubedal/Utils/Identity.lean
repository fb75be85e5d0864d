import Kubedal.Utils.Pool

/-!
# Objects and their identities

Objects come and go in a state that steps change, and each has an identity that is given out only
once. So what is never written of an object can be told by its identity, at any time of a run.

* `Fixed`: among these objects, an identity stands for one value of `f`;
* `Advances` is what a step may do to the objects;
* `Run.fixed`: if every step does only this, an identity stands for one value of `f` among all
  objects that a run has seen.
-/

namespace Interaction

/-! ## One step -/

section
variable {κ ι β : Type} {ident : κ → Option ι} {f : κ → β} {objects objects' seen : List κ}
  {given given' : List ι} {k : κ}

/-- One of the objects has the identity of `k`, and the same `f`. -/
def SameAs (ident : κ → Option ι) (f : κ → β) (objects : List κ) (k : κ) : Prop :=
  ∃ old ∈ objects, ident k = ident old ∧ f k = f old

/-- Every object has an identity that was given out, and each of them stands for one `f`. -/
structure Fixed (ident : κ → Option ι) (f : κ → β) (objects : List κ) (given : List ι) : Prop where
  named : ∀ k ∈ objects, ∃ i ∈ given, ident k = some i
  same : ∀ k ∈ objects, ∀ k' ∈ objects, ident k = ident k' → f k = f k'

/-- Each object is one that was there or has an identity that was not given out before, and each
new identity stands for one `f`. -/
structure Advances (ident : κ → Option ι) (f : κ → β) (objects : List κ) (given : List ι)
    (objects' : List κ) (given' : List ι) : Prop where
  more : given ⊆ given'
  old_or_new : ∀ k ∈ objects', SameAs ident f objects k ∨
    ∃ i ∈ given', i ∉ given ∧ ident k = some i
  once : ∀ k ∈ objects', ∀ k' ∈ objects', ∀ i ∉ given, ident k = some i → ident k' = some i →
    f k = f k'

lemma SameAs.of_mem (h : k ∈ objects) : SameAs ident f objects k := ⟨k, h, rfl, rfl⟩

lemma SameAs.congr {k' : κ} (h : SameAs ident f objects k) (hident : ident k' = ident k)
    (hf : f k' = f k) : SameAs ident f objects k' := by
  obtain ⟨old, hold, hid, hsame⟩ := h
  exact ⟨old, hold, hident.trans hid, hf.trans hsame⟩

lemma SameAs.mono (h : SameAs ident f objects k) (sub : objects ⊆ seen) :
    SameAs ident f seen k := by
  obtain ⟨old, hold, same⟩ := h
  exact ⟨old, sub hold, same⟩

/-- What is like an object that is there has an identity that was given out. -/
lemma Fixed.named_same (h : Fixed ident f objects given) (same : SameAs ident f objects k) :
    ∃ i ∈ given, ident k = some i := by
  obtain ⟨old, hold, hid, _⟩ := same
  obtain ⟨i, hi, hident⟩ := h.named old hold
  exact ⟨i, hi, hid.trans hident⟩

lemma Fixed.subset (h : Fixed ident f seen given) (sub : objects ⊆ seen) :
    Fixed ident f objects given :=
  ⟨fun k hk => h.named k (sub hk), fun k hk k' hk' => h.same k (sub hk) k' (sub hk')⟩

/-- No object is new. -/
lemma Fixed.advances_of_same (h : Fixed ident f objects given) (more : given ⊆ given')
    (same : ∀ k ∈ objects', SameAs ident f objects k) :
    Advances ident f objects given objects' given' := by
  refine ⟨more, fun k hk => .inl (same k hk), fun k hk k' _ i fresh hi _ => ?_⟩
  obtain ⟨i', hi', hident⟩ := h.named_same (same k hk)
  rw [hi] at hident
  cases hident
  exact absurd hi' fresh

/-- One object is new. -/
lemma Fixed.advances_of_add (h : Fixed ident f objects given) {i : ι} (hi : ident k = some i)
    (fresh : i ∉ given) (more : given ⊆ given') (there : i ∈ given') :
    Advances ident f objects given (objects ++ [k]) given' := by
  have new : ∀ k' ∈ objects ++ [k], ∀ i' ∉ given, ident k' = some i' → k' = k := by
    intro k' hk' i' fresh' hi'
    rcases List.mem_append.mp hk' with hk' | hk'
    · obtain ⟨j, hj, hident⟩ := h.named k' hk'
      rw [hi'] at hident
      cases hident
      exact absurd hj fresh'
    · exact List.mem_singleton.mp hk'
  refine ⟨more, fun k' hk' => ?_, fun k₁ h₁ k₂ h₂ i' fresh' hi₁ hi₂ => ?_⟩
  · rcases List.mem_append.mp hk' with hk' | hk'
    · exact .inl (.of_mem hk')
    · rw [List.mem_singleton.mp hk']
      exact .inr ⟨i, there, fresh, hi⟩
  · rw [new k₁ h₁ i' fresh' hi₁, new k₂ h₂ i' fresh' hi₂]

/-- An identity stands for one `f` also among the objects after the step. -/
lemma Fixed.advances (h : Fixed ident f seen given) (sub : objects ⊆ seen)
    (next : Advances ident f objects given objects' given') :
    Fixed ident f (seen ++ objects') given' := by
  have old_or_new : ∀ k ∈ seen ++ objects', SameAs ident f seen k ∨
      k ∈ objects' ∧ ∃ i ∈ given', i ∉ given ∧ ident k = some i := by
    intro k hk
    rcases List.mem_append.mp hk with hk | hk
    · exact .inl (.of_mem hk)
    · rcases next.old_or_new k hk with same | new
      · exact .inl (same.mono sub)
      · exact .inr ⟨hk, new⟩
  -- an identity that was given out before is not one of a new object
  have apart : ∀ k k', SameAs ident f seen k → (∃ i ∈ given', i ∉ given ∧ ident k' = some i) →
      ident k ≠ ident k' := by
    intro k k' same new heq
    obtain ⟨i, hi, hident⟩ := h.named_same same
    obtain ⟨i', _, fresh, hident'⟩ := new
    rw [hident, hident'] at heq
    cases heq
    exact fresh hi
  refine ⟨fun k hk => ?_, fun k hk k' hk' heq => ?_⟩
  · rcases old_or_new k hk with same | ⟨_, i, hi, _, hident⟩
    · obtain ⟨i, hi, hident⟩ := h.named_same same
      exact ⟨i, next.more hi, hident⟩
    · exact ⟨i, hi, hident⟩
  · rcases old_or_new k hk with same | ⟨there, new⟩
    · rcases old_or_new k' hk' with same' | ⟨_, new'⟩
      · obtain ⟨old, hold, hid, hf⟩ := same
        obtain ⟨old', hold', hid', hf'⟩ := same'
        rw [hf, hf']
        exact h.same old hold old' hold' (hid.symm.trans (heq.trans hid'))
      · exact absurd heq (apart k k' same new')
    · rcases old_or_new k' hk' with same' | ⟨there', _⟩
      · exact absurd heq.symm (apart k' k same' new)
      · obtain ⟨i, _, fresh, hident⟩ := new
        exact next.once k there k' there' i fresh hident (heq ▸ hident)

end

/-! ## Runs -/

section
variable {S : Signature} {σ ρ ε α κ ι β : Type} {V : Service S σ ρ ε α} {s₀ : σ}
  {steps : List (Service.Transition S σ ρ ε α)} {P : Pool S σ ρ ε α} {ident : κ → Option ι}
  {f : κ → β} (objects : σ → List κ) (given : σ → List ι)

/-- The objects that were there at some time of a run. -/
def seenIn (steps : List (Service.Transition S σ ρ ε α)) (P : Pool S σ ρ ε α) : List κ :=
  (steps.flatMap fun x => objects x.source.state) ++ objects P.state

lemma seenIn_snoc {l : Label S ρ} {P' : Pool S σ ρ ε α} :
    seenIn objects (steps ++ [⟨P, l, P'⟩]) P' = seenIn objects steps P ++ objects P'.state := by
  unfold seenIn
  rw [List.flatMap_append, List.flatMap_singleton]

variable {objects} in
lemma mem_seenIn {x : Service.Transition S σ ρ ε α} (hx : x ∈ steps) {k : κ}
    (hk : k ∈ objects x.source.state) : k ∈ seenIn objects steps P :=
  List.mem_append_left _ (List.mem_flatMap.mpr ⟨x, hx, hk⟩)

variable {objects} in
/-- What is there after a step was there at some time. -/
lemma mem_seenIn_of_target (run : V.Run s₀ steps P) {x : Service.Transition S σ ρ ε α}
    (hx : x ∈ steps) {k : κ} (hk : k ∈ objects x.target.state) : k ∈ seenIn objects steps P := by
  induction run with
  | start => cases hx
  | @step steps P P' l run last ih =>
    rw [seenIn_snoc]
    rcases List.mem_append.mp hx with hx | hx
    · exact List.mem_append_left _ (ih hx)
    · rw [List.mem_singleton.mp hx] at hk
      exact List.mem_append_right _ hk

variable {objects given} in
/-- Over a run whose steps do no more than this, an identity stands for one `f` at all times. -/
theorem Service.Run.fixed (init : Fixed ident f (objects s₀) (given s₀))
    (next : ∀ P l P', V.Step P l P' → Fixed ident f (objects P.state) (given P.state) →
      Advances ident f (objects P.state) (given P.state) (objects P'.state) (given P'.state))
    (run : V.Run s₀ steps P) : Fixed ident f (seenIn objects steps P) (given P.state) := by
  induction run with
  | start => exact init
  | @step steps P P' l run last ih =>
    have sub : objects P.state ⊆ seenIn objects steps P := List.subset_append_right _ _
    rw [seenIn_snoc]
    exact ih.advances sub (next P l P' last (ih.subset sub))

end

end Interaction
