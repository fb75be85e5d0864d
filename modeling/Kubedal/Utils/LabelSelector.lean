import Mathlib

/-!
# Label selectors

The label selectors of Kubernetes: requirements between commas, each `key=value`, `key==value`,
`key!=value`, `key`, `!key`, a set expression or a comparison.

* `lex` and `parse` read a selector;
* `Requirement.Matches` is what a requirement asks of labels.
-/

namespace LabelSelector

/-! ## Tokens -/

inductive Token where
  /-- A key, a value, `in` or `notin`. -/
  | word (s : String)
  | equals
  | doubleEquals
  | notEquals
  | not
  | openPar
  | closedPar
  | comma
  | less
  | greater
deriving DecidableEq

/-- The symbol that is written with one character. -/
def specialSymbol : Char → Option Token
  | '=' => some .equals
  | '!' => some .not
  | '(' => some .openPar
  | ')' => some .closedPar
  | ',' => some .comma
  | '<' => some .less
  | '>' => some .greater
  | _ => none

def isWhitespace (c : Char) : Bool := c = ' ' || c = '\t' || c = '\r' || c = '\n'

/-- The character can be part of a word. -/
def isWordChar (c : Char) : Bool :=
  (specialSymbol c).isNone && !isWhitespace c && c.toNat ≠ 0

/-- The word that has been read up to here, if there is one. -/
def pendingWord : Option (List Char) → List Token
  | some (c :: cs) => [.word (String.ofList (c :: cs))]
  | _ => []

/-- The tokens of a text of which a part has been read: `some` with the word that has been begun,
which is empty directly after a symbol, or `none` where a new token begins. A zero byte ends a
token, or the text if no token stands before it. -/
def lexFrom : Option (List Char) → List Char → List Token
  | pending, [] => pendingWord pending
  | pending, '=' :: '=' :: cs => pendingWord pending ++ .doubleEquals :: lexFrom (some []) cs
  | pending, '!' :: '=' :: cs => pendingWord pending ++ .notEquals :: lexFrom (some []) cs
  | pending, c :: cs =>
    match specialSymbol c with
    | some token => pendingWord pending ++ token :: lexFrom (some []) cs
    | none =>
      if isWhitespace c then pendingWord pending ++ lexFrom none cs
      else if c.toNat = 0 then
        if pending.isNone then [] else pendingWord pending ++ lexFrom none cs
      else lexFrom (some (pending.getD [] ++ [c])) cs

def lex (text : String) : List Token := lexFrom none text.toList

/-- All characters can be part of a word. -/
def IsPlain (s : String) : Prop := ∀ c ∈ s.toList, isWordChar c

/-- A key, or a value that is not empty. -/
def IsWord (s : String) : Prop := s ≠ "" ∧ IsPlain s

instance (s : String) : Decidable (IsPlain s) := inferInstanceAs (Decidable (∀ _ ∈ _, _))

instance (s : String) : Decidable (IsWord s) := inferInstanceAs (Decidable (_ ∧ _))

section
variable {pending : Option (List Char)} {cs : List Char} {s : String}

lemma isWord_of_pendingWord (hpending : ∀ c ∈ pending.getD [], isWordChar c)
    (h : .word s ∈ pendingWord pending) : IsWord s := by
  unfold pendingWord at h
  split at h
  · cases List.mem_singleton.mp h
    exact ⟨by simp, fun c hc => hpending c (by simpa using hc)⟩
  · cases h

lemma specialSymbol_ne_word {c : Char} {token : Token} (h : specialSymbol c = some token) :
    token ≠ .word s := by
  rintro rfl
  unfold specialSymbol at h
  split at h
  all_goals cases h

/-- The words are made of the characters that words are made of. -/
lemma isWord_of_lexFrom (hpending : ∀ c ∈ pending.getD [], isWordChar c)
    (h : .word s ∈ lexFrom pending cs) : IsWord s := by
  -- a token that is no word follows a word, which ends there
  have afterSymbol : ∀ {pending : Option (List Char)} {token : Token} {ts : List Token},
      (∀ c ∈ pending.getD [], isWordChar c) → token ≠ .word s → (.word s ∈ ts → IsWord s) →
        .word s ∈ pendingWord pending ++ token :: ts → IsWord s := by
    intro pending token ts hpending hne hts hmem
    rcases List.mem_append.mp hmem with hmem | hmem
    · exact isWord_of_pendingWord hpending hmem
    · rcases List.mem_cons.mp hmem with heq | hmem
      · exact absurd heq.symm hne
      · exact hts hmem
  fun_induction lexFrom pending cs with
  | case1 pending => exact isWord_of_pendingWord hpending h
  | case2 pending cs ih => exact afterSymbol hpending (by simp) (ih (by simp)) h
  | case3 pending cs ih => exact afterSymbol hpending (by simp) (ih (by simp)) h
  | case4 pending c cs _ _ token htoken ih =>
    exact afterSymbol hpending (specialSymbol_ne_word htoken) (ih (by simp)) h
  | case5 pending c cs _ _ htoken hspace ih =>
    rcases List.mem_append.mp h with hmem | hmem
    · exact isWord_of_pendingWord hpending hmem
    · exact ih (by simp) hmem
  | case6 => cases h
  | case7 pending c cs _ _ _ _ _ _ ih =>
    rcases List.mem_append.mp h with hmem | hmem
    · exact isWord_of_pendingWord hpending hmem
    · exact ih (by simp) hmem
  | case8 pending c cs _ _ htoken hspace hzero ih =>
    refine ih (fun c' hc' => ?_) h
    rcases List.mem_append.mp hc' with hmem | hmem
    · exact hpending c' hmem
    · cases List.mem_singleton.mp hmem
      simp [isWordChar, htoken, hspace, hzero]

end

/-! ## Requirements -/

inductive Requirement where
  | present (key : String)
  | absent (key : String)
  | oneOf (key : String) (values : List String)
  | noneOf (key : String) (values : List String)
  | above (key bound : String)
  | below (key bound : String)
deriving DecidableEq

/-- A value, which is empty if none is written. -/
def parseExactValue : List Token → Option (String × List Token)
  | [] => some ("", [])
  | .comma :: ts => some ("", .comma :: ts)
  | .word s :: ts => some (s, ts)
  | _ => none

/-- The rest of a set of values, up to the parenthesis; between two commas the value is empty. -/
def parseIdentifiersList (values : List String) : List Token → Option (List String × List Token)
  | .word s :: .comma :: ts => parseIdentifiersList (s :: values) (.comma :: ts)
  | .word s :: .closedPar :: ts => some (s :: values, ts)
  | .comma :: .closedPar :: ts => some ("" :: values, ts)
  | .comma :: .comma :: ts => parseIdentifiersList ("" :: values) ts
  | .comma :: ts => parseIdentifiersList (if values = [] then [""] else values) ts
  | _ => none

def parseValues : List Token → Option (List String × List Token)
  | .openPar :: .closedPar :: ts => some ([], ts)
  | .openPar :: ts => parseIdentifiersList [] ts
  | _ => none

/-- The requirement that a value completes. -/
def withValue (make : String → Requirement) (ts : List Token) : Option (Requirement × List Token) :=
  (parseExactValue ts).map fun x => (make x.1, x.2)

/-- The requirement that a set of values completes. -/
def withValues (make : List String → Requirement) (ts : List Token) :
    Option (Requirement × List Token) :=
  (parseValues ts).map fun x => (make x.1, x.2)

/-- The first requirement, and what is left. -/
def parseRequirement : List Token → Option (Requirement × List Token)
  | .not :: .word key :: ts => some (.absent key, ts)
  | [.word key] => some (.present key, [])
  | .word key :: .comma :: ts => some (.present key, .comma :: ts)
  | .word key :: .equals :: ts => withValue (fun value => .oneOf key [value]) ts
  | .word key :: .doubleEquals :: ts => withValue (fun value => .oneOf key [value]) ts
  | .word key :: .notEquals :: ts => withValue (fun value => .noneOf key [value]) ts
  | .word key :: .greater :: ts => withValue (.above key) ts
  | .word key :: .less :: ts => withValue (.below key) ts
  | .word key :: .word operator :: ts =>
    if operator = "in" then withValues (.oneOf key) ts
    else if operator = "notin" then withValues (.noneOf key) ts
    else none
  | _ => none

namespace Requirement

def key : Requirement → String
  | present key => key
  | absent key => key
  | oneOf key _ => key
  | noneOf key _ => key
  | above key _ => key
  | below key _ => key

/-- The values that a set expression or an equation names. -/
def values : Requirement → List String
  | oneOf _ values => values
  | noneOf _ values => values
  | _ => []

end Requirement

/-! ### What is read and what is left -/

/-- The value is one of the words, or empty. -/
def Written (ts : List Token) (value : String) : Prop := value = "" ∨ .word value ∈ ts

/-- The keys and the values of the requirement are among the words. -/
structure ReadFrom (ts : List Token) (r : Requirement) : Prop where
  key : .word r.key ∈ ts
  values : ∀ value ∈ r.values, Written ts value

section
variable {ts rest : List Token}

lemma Written.mono {ts' : List Token} {value : String} (h : Written ts value) (hts : ts ⊆ ts') :
    Written ts' value := h.imp_right fun h => hts h

lemma ReadFrom.mono {ts' : List Token} {r : Requirement} (h : ReadFrom ts r) (hts : ts ⊆ ts') :
    ReadFrom ts' r := ⟨hts h.key, fun value hvalue => (h.values value hvalue).mono hts⟩

lemma parseExactValue_spec {value : String} (h : parseExactValue ts = some (value, rest)) :
    rest <:+ ts ∧ Written ts value := by
  unfold parseExactValue at h
  split at h
  · cases h
    exact ⟨List.suffix_refl _, .inl rfl⟩
  · cases h
    exact ⟨List.suffix_refl _, .inl rfl⟩
  · cases h
    exact ⟨List.suffix_cons _ _, .inr List.mem_cons_self⟩
  · cases h

lemma parseIdentifiersList_spec {values values' : List String}
    (h : parseIdentifiersList values ts = some (values', rest)) :
    rest <:+ ts ∧ ∀ value ∈ values', value ∈ values ∨ Written ts value := by
  fun_induction parseIdentifiersList values ts with
  | case1 values s ts ih =>
    obtain ⟨suffix, read⟩ := ih h
    refine ⟨suffix.trans (List.suffix_cons _ _), fun value hvalue => ?_⟩
    rcases read value hvalue with hmem | written
    · rcases List.mem_cons.mp hmem with rfl | hmem
      · exact .inr (.inr List.mem_cons_self)
      · exact .inl hmem
    · exact .inr (written.mono (List.subset_cons_self _ _))
  | case2 values s ts =>
    cases h
    refine ⟨⟨[_, _], rfl⟩, fun value hvalue => ?_⟩
    rcases List.mem_cons.mp hvalue with rfl | hmem
    · exact .inr (.inr List.mem_cons_self)
    · exact .inl hmem
  | case3 values ts =>
    cases h
    refine ⟨⟨[_, _], rfl⟩, fun value hvalue => ?_⟩
    rcases List.mem_cons.mp hvalue with rfl | hmem
    · exact .inr (.inl rfl)
    · exact .inl hmem
  | case4 values ts ih =>
    obtain ⟨suffix, read⟩ := ih h
    refine ⟨suffix.trans ⟨[_, _], rfl⟩, fun value hvalue => ?_⟩
    rcases read value hvalue with hmem | written
    · rcases List.mem_cons.mp hmem with rfl | hmem
      · exact .inr (.inl rfl)
      · exact .inl hmem
    · exact .inr (written.mono fun t ht => List.mem_cons_of_mem _ (List.mem_cons_of_mem _ ht))
  | case5 values ts _ _ ih =>
    obtain ⟨suffix, read⟩ := ih h
    refine ⟨suffix.trans (List.suffix_cons _ _), fun value hvalue => ?_⟩
    rcases read value hvalue with hmem | written
    · split at hmem
      · exact .inr (.inl (List.mem_singleton.mp hmem))
      · exact .inl hmem
    · exact .inr (written.mono (List.subset_cons_self _ _))
  | case6 => cases h

lemma parseValues_spec {values : List String} (h : parseValues ts = some (values, rest)) :
    rest <:+ ts ∧ ∀ value ∈ values, Written ts value := by
  unfold parseValues at h
  split at h
  · cases h
    exact ⟨⟨[_, _], rfl⟩, by simp⟩
  · obtain ⟨suffix, read⟩ := parseIdentifiersList_spec h
    refine ⟨suffix.trans (List.suffix_cons _ _), fun value hvalue => ?_⟩
    exact ((read value hvalue).resolve_left (by simp)).mono (List.subset_cons_self _ _)
  · cases h

lemma withValue_spec {make : String → Requirement} {r : Requirement}
    (h : withValue make ts = some (r, rest)) :
    rest <:+ ts ∧ ∃ value, r = make value ∧ Written ts value := by
  obtain ⟨⟨value, rest'⟩, hparse, heq⟩ := Option.map_eq_some_iff.mp h
  cases heq
  obtain ⟨suffix, written⟩ := parseExactValue_spec hparse
  exact ⟨suffix, value, rfl, written⟩

lemma withValues_spec {make : List String → Requirement} {r : Requirement}
    (h : withValues make ts = some (r, rest)) :
    rest <:+ ts ∧ ∃ values, r = make values ∧ ∀ value ∈ values, Written ts value := by
  obtain ⟨⟨values, rest'⟩, hparse, heq⟩ := Option.map_eq_some_iff.mp h
  cases heq
  obtain ⟨suffix, written⟩ := parseValues_spec hparse
  exact ⟨suffix, values, rfl, written⟩

/-- A requirement takes at least one token, and it is made of the words that it takes. -/
lemma parseRequirement_spec {r : Requirement} (h : parseRequirement ts = some (r, rest)) :
    ∃ t ts', ts = t :: ts' ∧ rest <:+ ts' ∧ ReadFrom ts r := by
  -- with an operator, the key is the first of two tokens
  have operated : ∀ {key : String} {t : Token} {ts' : List Token} {values : List String},
      r.key = key → r.values = values → rest <:+ ts' → (∀ value ∈ values, Written ts' value) →
        ts = .word key :: t :: ts' → ∃ t ts', ts = t :: ts' ∧ rest <:+ ts' ∧ ReadFrom ts r := by
    rintro key t ts' values rfl rfl suffix written rfl
    refine ⟨_, _, rfl, suffix.trans (List.suffix_cons _ _), List.mem_cons_self, ?_⟩
    intro value hvalue
    exact (written value hvalue).mono fun t ht =>
      List.mem_cons_of_mem _ (List.mem_cons_of_mem _ ht)
  unfold parseRequirement at h
  split at h
  · cases h
    exact ⟨_, _, rfl, List.suffix_cons _ _, by simp [Requirement.key], by simp [Requirement.values]⟩
  · cases h
    exact ⟨_, _, rfl, List.suffix_refl _, List.mem_cons_self, by simp [Requirement.values]⟩
  · cases h
    exact ⟨_, _, rfl, List.suffix_refl _, List.mem_cons_self, by simp [Requirement.values]⟩
  · obtain ⟨suffix, value, rfl, written⟩ := withValue_spec h
    exact operated rfl rfl suffix (by simpa [Requirement.values] using written) rfl
  · obtain ⟨suffix, value, rfl, written⟩ := withValue_spec h
    exact operated rfl rfl suffix (by simpa [Requirement.values] using written) rfl
  · obtain ⟨suffix, value, rfl, written⟩ := withValue_spec h
    exact operated rfl rfl suffix (by simpa [Requirement.values] using written) rfl
  · obtain ⟨suffix, value, rfl, _⟩ := withValue_spec h
    exact operated rfl rfl suffix (by simp [Requirement.values]) rfl
  · obtain ⟨suffix, value, rfl, _⟩ := withValue_spec h
    exact operated rfl rfl suffix (by simp [Requirement.values]) rfl
  · split at h
    · obtain ⟨suffix, values, rfl, written⟩ := withValues_spec h
      exact operated rfl rfl suffix written rfl
    split at h
    · obtain ⟨suffix, values, rfl, written⟩ := withValues_spec h
      exact operated rfl rfl suffix written rfl
    · cases h
  · cases h

end

/-! ### All requirements -/

/-- One requirement, and then one after each comma. -/
def parseRequirements (ts : List Token) : Option (List Requirement) :=
  match _h : parseRequirement ts with
  | some (r, []) => some [r]
  | some (r, .comma :: rest) => (parseRequirements rest).map (r :: ·)
  | _ => none
termination_by ts.length
decreasing_by
  obtain ⟨t, ts', rfl, suffix, _⟩ := parseRequirement_spec _h
  have hle : (Token.comma :: rest).length ≤ ts'.length := suffix.length_le
  simp only [List.length_cons] at hle ⊢
  omega

/-- Nothing at all is a selector too. -/
def parse (ts : List Token) : Option (List Requirement) :=
  if ts = [] then some [] else parseRequirements ts

lemma parseRequirements_readFrom {ts : List Token} {rs : List Requirement}
    (h : parseRequirements ts = some rs) : ∀ r ∈ rs, ReadFrom ts r := by
  fun_induction parseRequirements ts generalizing rs with
  | case1 ts r hparse =>
    cases h
    obtain ⟨_, _, _, _, read⟩ := parseRequirement_spec hparse
    simpa using read
  | case2 ts r rest hparse ih =>
    obtain ⟨rs', hrs', rfl⟩ := Option.map_eq_some_iff.mp h
    obtain ⟨t, ts', rfl, suffix, read⟩ := parseRequirement_spec hparse
    intro r' hr'
    rcases List.mem_cons.mp hr' with rfl | hr'
    · exact read
    · have suffix' : rest <:+ t :: ts' :=
        ((List.suffix_cons _ _).trans suffix).trans (List.suffix_cons _ _)
      exact (ih hrs' r' hr').mono suffix'.subset
  | case3 => cases h

/-- A selector is made of its words. -/
lemma parse_readFrom {ts : List Token} {rs : List Requirement} (h : parse ts = some rs) :
    ∀ r ∈ rs, ReadFrom ts r := by
  unfold parse at h
  split at h
  · cases h
    simp
  · exact parseRequirements_readFrom h

/-! ## Rendering equations -/

/-- An equation for each pair, without any escaping. -/
def render (pairs : List (String × String)) : String :=
  String.intercalate "," (pairs.map fun p => p.1 ++ "=" ++ p.2)

/-- The pairs can be told apart in a rendering. -/
def Clean (pairs : List (String × String)) : Prop := ∀ p ∈ pairs, IsWord p.1 ∧ IsPlain p.2

section
variable {pending : Option (List Char)} {cs word : List Char} {ts rest : List Token}
  {r : Requirement}

lemma lexFrom_wordChar {c : Char} (h : isWordChar c) :
    lexFrom pending (c :: cs) = lexFrom (some (pending.getD [] ++ [c])) cs := by
  simp only [isWordChar, Bool.and_eq_true, Option.isNone_iff_eq_none, Bool.not_eq_true',
    decide_eq_true_eq] at h
  obtain ⟨⟨hsymbol, hspace⟩, hzero⟩ := h
  have hequals : c ≠ '=' := by
    rintro rfl
    cases hsymbol
  have hnot : c ≠ '!' := by
    rintro rfl
    cases hsymbol
  rw [lexFrom]
  · simp [hsymbol, hspace, hzero]
  · simp [hequals]
  · simp [hnot]

/-- A word is read up to its end. -/
lemma lexFrom_word (hword : ∀ c ∈ word, isWordChar c) (hpending : pending.getD [] ++ word ≠ []) :
    lexFrom pending (word ++ cs) = lexFrom (some (pending.getD [] ++ word)) cs := by
  induction word generalizing pending with
  | nil =>
    cases pending with
    | none => simp at hpending
    | some word => simp
  | cons c word ih =>
    have hrest : ∀ c ∈ word, isWordChar c := fun c hc => hword c (List.mem_cons_of_mem _ hc)
    rw [List.cons_append, lexFrom_wordChar (hword c List.mem_cons_self), ih hrest (by simp)]
    simp

lemma lexFrom_comma : lexFrom pending (',' :: cs) =
    pendingWord pending ++ .comma :: lexFrom (some []) cs := by
  rw [lexFrom]
  · rfl
  · simp
  · simp

lemma lexFrom_equals (h : cs.head? ≠ some '=') : lexFrom pending ('=' :: cs) =
    pendingWord pending ++ .equals :: lexFrom (some []) cs := by
  rw [lexFrom]
  · rfl
  · rintro cs' _ rfl
    exact h rfl
  · simp

lemma parseRequirements_last (h : parseRequirement ts = some (r, [])) :
    parseRequirements ts = some [r] := by
  rw [parseRequirements]
  split <;> simp_all

lemma parseRequirements_comma (h : parseRequirement ts = some (r, .comma :: rest)) :
    parseRequirements ts = (parseRequirements rest).map (r :: ·) := by
  rw [parseRequirements]
  split <;> simp_all

/-- An equation is read back, whatever comes after its comma. -/
lemma parseRequirement_equation {key value : String}
    (hrest : rest = [] ∨ ∃ ts, rest = .comma :: ts) :
    parseRequirement (.word key :: .equals :: (pendingWord (some value.toList) ++ rest)) =
      some (.oneOf key [value], rest) := by
  cases hvalue : value.toList with
  | nil =>
    have hempty : value = "" := String.toList_inj.mp hvalue
    subst hempty
    rcases hrest with rfl | ⟨ts, rfl⟩
    · rfl
    · rfl
  | cons c cs =>
    have hword : pendingWord (some (c :: cs)) = [.word value] := by
      rw [pendingWord, ← hvalue, String.ofList_toList]
    rw [hword]
    rfl

lemma lexFrom_equation {key value : String} (hkey : IsWord key) (hvalue : IsPlain value)
    (hpending : pending.getD [] = []) (hcs : cs.head? ≠ some '=') :
    lexFrom pending ((key ++ "=" ++ value).toList ++ cs) =
      .word key :: .equals :: lexFrom (some value.toList) cs := by
  have hnil : key.toList ≠ [] := fun h => hkey.1 (String.toList_inj.mp h)
  have hlist : (key ++ "=" ++ value).toList ++ cs = key.toList ++ '=' :: (value.toList ++ cs) := by
    simp
  -- no other sign follows the sign, since a value does not begin with one
  have hhead : (value.toList ++ cs).head? ≠ some '=' := by
    intro h
    cases hchars : value.toList with
    | nil =>
      rw [hchars] at h
      exact hcs h
    | cons c tail =>
      rw [hchars] at h
      cases Option.some.inj h
      have hplain : isWordChar '=' := hvalue '=' (by simp [hchars])
      cases hplain
  have hread : lexFrom (some []) (value.toList ++ cs) = lexFrom (some value.toList) cs := by
    by_cases hempty : value.toList = []
    · rw [hempty, List.nil_append]
    · exact lexFrom_word hvalue (by simpa using hempty)
  have hpendingWord : pendingWord (some key.toList) = [.word key] := by
    obtain ⟨c, tail, hchars⟩ := List.exists_cons_of_ne_nil hnil
    rw [hchars, pendingWord, ← hchars, String.ofList_toList]
  rw [hlist, lexFrom_word hkey.2 (by simpa [hpending] using hnil), hpending, List.nil_append,
    lexFrom_equals hhead, hread, hpendingWord]
  rfl

/-- What is rendered of clean pairs is read back as one equation for each. -/
lemma parseRequirements_render {p : String × String} {pairs : List (String × String)}
    (clean : Clean (p :: pairs)) (hpending : pending.getD [] = []) :
    parseRequirements (lexFrom pending (render (p :: pairs)).toList) =
      some ((p :: pairs).map fun p => .oneOf p.1 [p.2]) := by
  obtain ⟨hkey, hvalue⟩ := clean p List.mem_cons_self
  induction pairs generalizing p pending with
  | nil =>
    have hlist : (render [p]).toList = (p.1 ++ "=" ++ p.2).toList ++ [] := by simp [render]
    rw [hlist, lexFrom_equation hkey hvalue hpending (by simp), lexFrom]
    have hread : parseRequirement
        (.word p.1 :: .equals :: (pendingWord (some p.2.toList) ++ [])) =
          some (.oneOf p.1 [p.2], []) := parseRequirement_equation (.inl rfl)
    rw [List.append_nil] at hread
    exact parseRequirements_last hread
  | cons q pairs ih =>
    have hlist : (render (p :: q :: pairs)).toList =
        (p.1 ++ "=" ++ p.2).toList ++ ',' :: (render (q :: pairs)).toList := by
      simp [render, String.intercalate_cons_cons]
    have hclean : Clean (q :: pairs) := fun x hx => clean x (List.mem_cons_of_mem _ hx)
    obtain ⟨hkey', hvalue'⟩ := hclean q List.mem_cons_self
    rw [hlist, lexFrom_equation hkey hvalue hpending (by simp), lexFrom_comma,
      parseRequirements_comma (parseRequirement_equation (.inr ⟨_, rfl⟩)),
      ih hclean rfl hkey' hvalue']
    rfl

/-- Nothing is rendered of no pairs, and nothing is read back. -/
lemma parse_render {pairs : List (String × String)} (clean : Clean pairs) :
    parse (lex (render pairs)) = some (pairs.map fun p => .oneOf p.1 [p.2]) := by
  cases pairs with
  | nil => rfl
  | cons p pairs =>
    have hread : parseRequirements (lex (render (p :: pairs))) =
        some ((p :: pairs).map fun p => .oneOf p.1 [p.2]) := parseRequirements_render clean rfl
    have hne : lex (render (p :: pairs)) ≠ [] := by
      intro hnil
      rw [hnil, parseRequirements] at hread
      cases hread
    rw [parse, if_neg hne, hread]

end

/-! ## What requirements ask of labels -/

/-- The digits that are left of a number, the first ones of which are worth `n`. -/
def parseDigitsFrom (n : ℕ) : List Char → Option ℕ
  | [] => some n
  | c :: cs => if c.isDigit then parseDigitsFrom (10 * n + (c.toNat - '0'.toNat)) cs else none

/-- A number without its sign. -/
def parseDigits (cs : List Char) : Option ℕ := if cs = [] then none else parseDigitsFrom 0 cs

/-- A number with or without a sign. -/
def parseSigned : List Char → Option ℤ
  | '-' :: cs => (parseDigits cs).map fun n : ℕ => -(n : ℤ)
  | '+' :: cs => (parseDigits cs).map fun n : ℕ => (n : ℤ)
  | cs => (parseDigits cs).map fun n : ℕ => (n : ℤ)

/-- `strconv.ParseInt` for 64 bits and base ten. -/
def parseInt (s : String) : Option ℤ :=
  (parseSigned s.toList).filter fun n => decide (-2 ^ 63 ≤ n ∧ n < 2 ^ 63)

namespace Requirement

/-- Whether the labels may have this value for the key, or none. -/
def admits : Requirement → Option String → Bool
  | present _, value => value.isSome
  | absent _, value => value.isNone
  | oneOf _ values, some value => decide (value ∈ values)
  | oneOf _ _, none => false
  | noneOf _ values, some value => decide (value ∉ values)
  | noneOf _ _, none => true
  | above _ bound, some value =>
    match parseInt value, parseInt bound with
    | some m, some n => decide (n < m)
    | _, _ => false
  | above _ _, none => false
  | below _ bound, some value =>
    match parseInt value, parseInt bound with
    | some m, some n => decide (m < n)
    | _, _ => false
  | below _ _, none => false

def Matches (r : Requirement) (labels : String → Option String) : Bool := r.admits (labels r.key)

end Requirement

/-- What a selector says, if it is well formed and each requirement passes the checks. -/
def interpret (accepts : Requirement → Bool) (text : String) : Option (List Requirement) :=
  (parse (lex text)).filter fun rs => rs.all accepts

/-! ## Values that are forced -/

/-- The same number with zeros in front. -/
def padZeros (k : ℕ) : List Char → List Char
  | '-' :: cs => '-' :: (List.replicate k '0' ++ cs)
  | '+' :: cs => '+' :: (List.replicate k '0' ++ cs)
  | cs => List.replicate k '0' ++ cs

section
variable {cs : List Char}

lemma parseDigitsFrom_zeros (k : ℕ) (cs : List Char) :
    parseDigitsFrom 0 (List.replicate k '0' ++ cs) = parseDigitsFrom 0 cs := by
  induction k with
  | zero => rfl
  | succ k ih =>
    rw [List.replicate_succ, List.cons_append, parseDigitsFrom]
    exact ih

lemma parseDigits_zeros (k : ℕ) {cs : List Char} {n : ℕ} (h : parseDigits cs = some n) :
    parseDigits (List.replicate k '0' ++ cs) = some n := by
  unfold parseDigits at h ⊢
  split at h
  · cases h
  · rename_i hne
    rw [if_neg (by simp [hne]), parseDigitsFrom_zeros]
    exact h

lemma length_padZeros (k : ℕ) (cs : List Char) : (padZeros k cs).length = k + cs.length := by
  unfold padZeros
  split
  · simp
    omega
  · simp
    omega
  · simp

lemma parseSigned_padZeros (k : ℕ) {n : ℤ} (h : parseSigned cs = some n) :
    parseSigned (padZeros k cs) = some n := by
  unfold parseSigned at h
  split at h
  · obtain ⟨m, hm, rfl⟩ := Option.map_eq_some_iff.mp h
    rw [padZeros, parseSigned, parseDigits_zeros k hm, Option.map_some]
  · obtain ⟨m, hm, rfl⟩ := Option.map_eq_some_iff.mp h
    rw [padZeros, parseSigned, parseDigits_zeros k hm, Option.map_some]
  · rename_i hminus hplus
    obtain ⟨m, hm, rfl⟩ := Option.map_eq_some_iff.mp h
    have hpadded := parseDigits_zeros k hm
    rw [padZeros]
    · cases k with
      | zero =>
        rw [parseSigned, hpadded, Option.map_some]
        · exact hminus
        · exact hplus
      | succ k =>
        rw [List.replicate_succ, List.cons_append] at hpadded ⊢
        rw [parseSigned, hpadded, Option.map_some]
        · simp
        · simp
    · exact hminus
    · exact hplus

lemma exists_length_lt (strings : List String) : ∃ k, ∀ s ∈ strings, s.length < k := by
  induction strings with
  | nil => exact ⟨0, by simp⟩
  | cons first rest ih =>
    obtain ⟨k, hk⟩ := ih
    refine ⟨k + first.length + 1, fun s hs => ?_⟩
    rcases List.mem_cons.mp hs with rfl | hs
    · omega
    · have hlt := hk s hs
      omega

/-- There are as many ways to write a number as one needs. -/
lemma exists_sameNumber (v : String) (avoid : List String) :
    ∃ w, w ≠ v ∧ w ∉ avoid ∧ ∀ n, parseInt v = some n → parseInt w = some n := by
  obtain ⟨k, hk⟩ := exists_length_lt (v :: avoid)
  let w := String.ofList (padZeros k v.toList)
  have hlonger : ∀ s ∈ v :: avoid, s.length < w.length := by
    intro s hs
    have hw : w.length = k + v.toList.length := by
      rw [← length_padZeros, ← String.length_toList, String.toList_ofList]
    have hlt := hk s hs
    omega
  refine ⟨w, fun heq => ?_, fun hmem => ?_, fun n hn => ?_⟩
  · have hlt := hlonger v List.mem_cons_self
    rw [heq] at hlt
    exact Nat.lt_irrefl _ hlt
  · exact Nat.lt_irrefl _ (hlonger _ (List.mem_cons_of_mem _ hmem))
  · obtain ⟨hsigned, hrange⟩ := Option.filter_eq_some_iff.mp hn
    rw [parseInt, String.toList_ofList, parseSigned_padZeros k hsigned]
    exact Option.filter_eq_some_iff.mpr ⟨rfl, hrange⟩

end

namespace Requirement

/-- Only a requirement that names a value tells it from another one that is the same number. -/
lemma admits_other {r : Requirement} {v w : String} (h : r.admits (some v))
    (hnot : ∀ key values, r = .oneOf key values → v ∉ values) (hw : w ∉ r.values)
    (hnumber : ∀ n, parseInt v = some n → parseInt w = some n) : r.admits (some w) := by
  cases r with
  | present key => rfl
  | absent key => cases h
  | oneOf key values => exact absurd (of_decide_eq_true h) (hnot key values rfl)
  | noneOf key values => exact decide_eq_true hw
  | above key bound =>
    simp only [admits] at h ⊢
    split at h
    · rename_i m n hm hn
      rw [hnumber m hm, hn]
      exact h
    · cases h
  | below key bound =>
    simp only [admits] at h ⊢
    split at h
    · rename_i m n hm hn
      rw [hnumber m hm, hn]
      exact h
    · cases h

lemma matches_update_of_ne {r : Requirement} {labels : String → Option String} {key : String}
    {value : Option String} (h : r.key ≠ key) :
    r.Matches (Function.update labels key value) = r.Matches labels := by
  rw [Matches, Function.update_of_ne h, Matches]

end Requirement

/-- A value that the requirements leave no other choice for is named by one of them. -/
lemma exists_oneOf_of_forced {rs : List Requirement} {labels : String → Option String}
    {key v : String} (hv : labels key = some v) (matched : ∀ r ∈ rs, r.Matches labels)
    (forced : ∀ w, (∀ r ∈ rs, r.Matches (Function.update labels key (some w))) → w = v) :
    ∃ values, .oneOf key values ∈ rs ∧ v ∈ values := by
  by_contra hnone
  simp only [not_exists, not_and] at hnone
  obtain ⟨w, hne, hw, hnumber⟩ := exists_sameNumber v (rs.flatMap Requirement.values)
  refine hne (forced w fun r hr => ?_)
  by_cases hkey : r.key = key
  · have hadmits : r.admits (some v) := by
      have hr := matched r hr
      rwa [Requirement.Matches, hkey, hv] at hr
    rw [Requirement.Matches, hkey, Function.update_self]
    refine Requirement.admits_other hadmits ?_ ?_ hnumber
    · rintro key' values rfl
      cases hkey
      exact hnone values hr
    · exact fun hmem => hw (List.mem_flatMap.mpr ⟨r, hr, hmem⟩)
  · rw [Requirement.matches_update_of_ne hkey]
    exact matched r hr

end LabelSelector
