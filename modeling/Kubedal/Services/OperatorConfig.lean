import Kubedal.Services.NodePublish

/-!
# The configuration of an operator

What `get_operator` hands to OpenDAL, for the node service and the controller of `DataNode`s.

* `configured` is the configuration as a function: the secret, where it has a key, and else the
  `config` of the `DataNode`;
* `Unbuildable` are the reasons not to build an operator;
* `operator_config_union` is about every run of `get_operator`, in whatever order the entries of
  the secret are visited.
-/

namespace Kubedal

open Interaction Kube Resource Utf8

/-! ## The loop over a secret -/

/-- The value for `key` once the entries have been put into `cfg`. -/
def overridden (cfg : StringMap String) (entries : List (Sigma fun _ : String => ByteArray))
    (key : String) : Option String :=
  match entries.dlookup key with
  | some bytes => String.fromUTF8? bytes
  | none => cfg.lookup key

/-- What the loop over the entries makes of `cfg`: it stops at a value that is no text. -/
def Overrides (cfg : StringMap String) (entries : List (Sigma fun _ : String => ByteArray)) :
    Except Status (StringMap String) → Prop
  | .ok cfg' => (∀ e ∈ entries, String.fromUTF8? e.2 ≠ none) ∧
    ∀ key, cfg'.lookup key = overridden cfg entries key
  | .error _ => ∃ e ∈ entries, String.fromUTF8? e.2 = none

lemma insertSecretData_overrides {entries : List (Sigma fun _ : String => ByteArray)}
    (nodup : entries.NodupKeys) (cfg : StringMap String) :
    Overrides cfg entries (insertSecretData cfg entries) := by
  induction entries generalizing cfg with
  | nil => exact ⟨by simp, fun key => rfl⟩
  | cons e rest ih =>
    obtain ⟨k, v⟩ := e
    obtain ⟨hnew, hrest⟩ := List.nodupKeys_cons.mp nodup
    unfold insertSecretData fromUtf8
    cases hv : String.fromUTF8? v with
    | none => exact ⟨⟨k, v⟩, List.mem_cons_self, hv⟩
    | some text =>
      have after := ih hrest (cfg.insert k text)
      show Overrides cfg (⟨k, v⟩ :: rest) (insertSecretData (cfg.insert k text) rest)
      cases hcfg : insertSecretData (cfg.insert k text) rest with
      | error status =>
        rw [hcfg] at after
        obtain ⟨e, he, hnone⟩ := after
        exact ⟨e, List.mem_cons_of_mem _ he, hnone⟩
      | ok cfg' =>
        rw [hcfg] at after
        obtain ⟨hall, hlookup⟩ := after
        refine ⟨fun e he => ?_, fun key => ?_⟩
        · rcases List.mem_cons.mp he with rfl | he
          · simp [hv]
          · exact hall e he
        · rw [hlookup key]
          unfold overridden
          by_cases hkey : key = k
          · -- no later entry has the key
            subst hkey
            rw [List.dlookup_cons_eq, List.dlookup_eq_none.mpr hnew]
            show (cfg.insert key text).lookup key = String.fromUTF8? v
            rw [hv]
            exact AList.lookup_insert _
          · rw [List.dlookup_cons_ne _ _ hkey]
            cases rest.dlookup key with
            | some bytes => rfl
            | none => exact AList.lookup_insert_ne hkey

/-- The error of the loop names the first byte of a value that is no text. -/
lemma insertSecretData_error {entries : List (Sigma fun _ : String => ByteArray)}
    {cfg : StringMap String} {status : Status}
    (h : insertSecretData cfg entries = .error status) :
    ∃ e ∈ entries, ∃ err : Utf8Error,
      status = .internal ("Failed to deserialize secret: " ++ err.message) ∧
      err.validUpTo < e.2.size ∧ e.2.utf8DecodeChar? err.validUpTo = none := by
  induction entries generalizing cfg with
  | nil => cases h
  | cons e rest ih =>
    obtain ⟨k, v⟩ := e
    unfold insertSecretData at h
    cases hv : fromUtf8 v with
    | ok text =>
      rw [hv] at h
      obtain ⟨e, he, rest⟩ := ih h
      exact ⟨e, List.mem_cons_of_mem _ he, rest⟩
    | error err =>
      rw [hv] at h
      exact ⟨⟨k, v⟩, List.mem_cons_self, err, (Except.error.inj h).symm, fromUtf8_error hv⟩

/-! ## The secret of a `DataNode` -/

/-- The secrets of the cluster, by namespace and name. -/
abbrev Secrets := String → String → Except KubeError Secret

/-- The same entries, in some order. -/
def SameEntries : Option (StringMap ByteArray) → Option (StringMap ByteArray) → Prop
  | some data, some data' => data.entries.Perm data'.entries
  | none, none => True
  | _, _ => False

/-- The same answer, up to the order of the entries. -/
def SameData : Except KubeError Secret → Except KubeError Secret → Prop
  | .ok secret, .ok secret' => SameEntries secret.data secret'.data
  | .error _, .error _ => True
  | _, _ => False

/-- The namespace that the reference resolves to. -/
def resolvedNs (node : DataNode) (cred : Ref) : Option String := cred.ns.or node.metadata.ns

/-- What the secret that `node` refers to has under `key`. -/
def secretValue (secrets : Secrets) (node : DataNode) (key : String) : Option ByteArray := do
  let cred ← node.spec.secretRef
  let ns ← resolvedNs node cred
  let data ← (secrets ns cred.name).toOption.bind Secret.data
  data.lookup key

/-- The value for `key` that the operator is configured with. -/
def configured (secrets : Secrets) (node : DataNode) (key : String) : Option String :=
  match secretValue secrets node key with
  | some bytes => String.fromUTF8? bytes
  | none => node.spec.config.lookup key

/-- Why no operator can be built. -/
inductive Unbuildable (secrets : Secrets) (node : DataNode) : Prop where
  | unresolved {cred : Ref} (refers : node.spec.secretRef = some cred)
      (resolves : resolvedNs node cred = none) : Unbuildable secrets node
  | unfetched {cred : Ref} {ns : String} {e : KubeError} (refers : node.spec.secretRef = some cred)
      (resolves : resolvedNs node cred = some ns) (refused : secrets ns cred.name = .error e) :
      Unbuildable secrets node
  | undecoded {key : String} {bytes : ByteArray} (value : secretValue secrets node key = some bytes)
      (invalid : String.fromUTF8? bytes = none) : Unbuildable secrets node

/-- The secrets are answered as they are; any other call may be answered in any way. -/
def secretsEnv (secrets : Secrets) : Unit → (c : Call) → c.Reply → Unit → Prop
  | _, .kube (.getSecret ns name), a, _ => a = secrets ns name
  | _, _, _, _ => True

section
variable {secrets visited : Secrets} {node : DataNode}

lemma SameEntries.symm {data data' : Option (StringMap ByteArray)} (h : SameEntries data data') :
    SameEntries data' data := by
  cases data with
  | some data =>
    cases data' with
    | some data' => exact List.Perm.symm h
    | none => exact h.elim
  | none =>
    cases data' with
    | some data' => exact h.elim
    | none => trivial

lemma SameData.symm {a a' : Except KubeError Secret} (h : SameData a a') : SameData a' a := by
  cases a with
  | ok secret =>
    cases a' with
    | ok secret' => exact SameEntries.symm h
    | error e => exact h.elim
  | error e =>
    cases a' with
    | ok secret' => exact h.elim
    | error e' => trivial

lemma SameData.error {a : Except KubeError Secret} {e : KubeError} (h : SameData (.error e) a) :
    ∃ e', a = .error e' := by
  cases a with
  | ok secret => exact h.elim
  | error e' => exact ⟨e', rfl⟩

/-- The order of the entries has no part in the values. -/
lemma SameData.lookup {a a' : Except KubeError Secret} (h : SameData a a') (key : String) :
    (a.toOption.bind Secret.data).bind (fun data => data.lookup key) =
      (a'.toOption.bind Secret.data).bind fun data => data.lookup key := by
  cases a with
  | error e =>
    obtain ⟨e', rfl⟩ := h.error
    rfl
  | ok secret =>
    cases a' with
    | error e => exact h.elim
    | ok secret' =>
      have hentries : SameEntries secret.data secret'.data := h
      show secret.data.bind _ = secret'.data.bind _
      cases hdata : secret.data with
      | none =>
        cases hdata' : secret'.data with
        | none => rfl
        | some data' =>
          rw [hdata, hdata'] at hentries
          exact hentries.elim
      | some data =>
        cases hdata' : secret'.data with
        | none =>
          rw [hdata, hdata'] at hentries
          exact hentries.elim
        | some data' =>
          rw [hdata, hdata'] at hentries
          exact AList.perm_lookup hentries

lemma secretValue_congr (same : ∀ ns name, SameData (secrets ns name) (visited ns name))
    (key : String) : secretValue secrets node key = secretValue visited node key := by
  unfold secretValue
  cases node.spec.secretRef with
  | none => rfl
  | some cred =>
    cases hns : resolvedNs node cred with
    | none => simp [hns]
    | some ns => simpa [hns] using (same ns cred.name).lookup key

lemma Unbuildable.congr (h : Unbuildable secrets node)
    (same : ∀ ns name, SameData (secrets ns name) (visited ns name)) :
    Unbuildable visited node := by
  cases h with
  | unresolved refers resolves => exact .unresolved refers resolves
  | @unfetched cred ns e refers resolves refused =>
    have hsame := same ns cred.name
    rw [refused] at hsame
    obtain ⟨e', hvisited⟩ := hsame.error
    exact .unfetched refers resolves hvisited
  | undecoded value invalid =>
    rw [secretValue_congr same] at value
    exact .undecoded value invalid

end

/-! ## What is handed to OpenDAL -/

/-- The environment as a monitor, whose ghost state is what has been built. -/
def buildMonitor (secrets : Secrets) : Monitor signature (List Operator) where
  allows := fun _ _ => True
  assumes := fun _ c a => secretsEnv secrets () c a ()
  next := fun built c _ => built ++ c.build.toList

lemma buildMonitor_after (secrets : Secrets) (built : List Operator) (τ : List (Event signature)) :
    (buildMonitor secrets).after built τ = built ++ builds τ := by
  induction τ generalizing built with
  | nil => simp [builds]
  | cons e τ ih =>
    rw [Monitor.after_cons, ih]
    show (built ++ e.call.build.toList) ++ builds τ = built ++ builds (e :: τ)
    unfold builds
    cases hbuild : e.call.build with
    | none => simp [hbuild]
    | some operator => simp [hbuild]

/-- The operator is built once, from the right configuration. -/
def BuildsConfigured (secrets : Secrets) (node : DataNode) (built : List Operator) : Prop :=
  ∃ operator, built = [operator] ∧ operator.backend = node.spec.backend ∧
    ∀ key, operator.config.lookup key = configured secrets node key

section
variable {secrets : Secrets} {node : DataNode}

/-- The secret that is fetched is the one that the values are taken from, and nothing but one of
its values can still be wrong. -/
lemma fetchSecret_builds {Q : List Operator → Except (Fault Status) (Option Secret) → Prop}
    (ok : ∀ secret, (∀ key, secretValue secrets node key =
        (secret.bind Secret.data).bind fun data => data.lookup key) →
      (Unbuildable secrets node → ∃ key bytes, secretValue secrets node key = some bytes ∧
        String.fromUTF8? bytes = none) → Q [] (.ok secret))
    (error : ∀ e, Unbuildable secrets node → Q [] (.error (.error e))) :
    (fetchSecret node).wp (buildMonitor secrets) [] Q := by
  unfold fetchSecret
  split
  · rename_i hnone
    apply ok
    · intro key
      simp [secretValue, hnone]
    · intro unbuildable
      cases unbuildable with
      | unresolved refers _ => simp [hnone] at refers
      | unfetched refers _ _ => simp [hnone] at refers
      | undecoded value invalid => exact ⟨_, _, value, invalid⟩
  · rename_i cred refers
    apply Prog.wp_bind
    apply wp_orReturn
    · intro ns hns
      have resolves : resolvedNs node cred = some ns := eq_some_of_okOr hns
      apply Prog.wp_bind
      refine ⟨trivial, fun reply answered => ?_⟩
      have hreply : reply = secrets ns cred.name := answered
      subst hreply
      apply Prog.wp_bind
      cases fetched : secrets ns cred.name with
      | error e => exact error _ (.unfetched refers resolves fetched)
      | ok secret =>
        apply ok
        · intro key
          simp [secretValue, refers, resolves, fetched, Except.toOption]
        · intro unbuildable
          cases unbuildable with
          | unresolved refers' resolves' =>
            cases refers.symm.trans refers'
            cases resolves.symm.trans resolves'
          | unfetched refers' resolves' refused =>
            cases refers.symm.trans refers'
            cases resolves.symm.trans resolves'
            cases fetched.symm.trans refused
          | undecoded value invalid => exact ⟨_, _, value, invalid⟩
    · intro e herror
      apply error
      apply Unbuildable.unresolved refers
      unfold secretNamespace at herror
      cases hns : resolvedNs node cred with
      | none => rfl
      | some ns =>
        have hns' : cred.ns.or node.metadata.ns = some ns := hns
        rw [hns'] at herror
        cases herror

/-- The loop goes over the entries of the secret. Without a secret, or without data, there are
none. -/
lemma exists_entries {secret : Option Secret} (hvalue : ∀ key, secretValue secrets node key =
      (secret.bind Secret.data).bind fun data => data.lookup key) :
    ∃ entries : List (Sigma fun _ : String => ByteArray), entries.NodupKeys ∧
      withSecretData node.spec.config secret = insertSecretData node.spec.config entries ∧
      ∀ key, secretValue secrets node key = entries.dlookup key := by
  unfold withSecretData
  cases hdata : secret.bind Secret.data with
  | none =>
    refine ⟨[], List.nodupKeys_nil, rfl, fun key => ?_⟩
    rw [hvalue, hdata]
    rfl
  | some data =>
    refine ⟨data.entries, data.nodupKeys, rfl, fun key => ?_⟩
    rw [hvalue, hdata]
    rfl

lemma getOperator_builds (secrets : Secrets) (node : DataNode) :
    (getOperator node).wp (buildMonitor secrets) [] fun built result =>
      (built = [] ∧ (∃ e, result = .error (.error e)) ∧ Unbuildable secrets node) ∨
        (¬ Unbuildable secrets node ∧ BuildsConfigured secrets node built) := by
  unfold getOperator
  apply Prog.wp_bind
  apply fetchSecret_builds
  case error =>
    intro e unbuildable
    exact .inl ⟨rfl, ⟨e, rfl⟩, unbuildable⟩
  intro secret hvalue hundecoded
  obtain ⟨entries, nodup, hwith, hlookup⟩ := exists_entries hvalue
  have overrides := insertSecretData_overrides nodup node.spec.config
  rw [← hwith] at overrides
  apply Prog.wp_bind
  apply wp_orReturn
  · intro cfg hcfg
    rw [hcfg] at overrides
    obtain ⟨valid, hconfig⟩ := overrides
    have buildable : ¬ Unbuildable secrets node := by
      intro unbuildable
      obtain ⟨key, bytes, value, invalid⟩ := hundecoded unbuildable
      rw [hlookup] at value
      exact valid ⟨key, bytes⟩ (List.of_mem_dlookup value) invalid
    unfold initService
    apply Prog.wp_bind
    refine ⟨trivial, fun reply _ => ?_⟩
    have built : BuildsConfigured secrets node [⟨node.spec.backend, cfg⟩] := by
      refine ⟨_, rfl, rfl, fun key => ?_⟩
      rw [hconfig key]
      unfold overridden configured
      rw [hlookup]
    apply Prog.wp_bind
    exact wp_orReturn (fun _ _ => .inr ⟨buildable, built⟩) fun _ _ => .inr ⟨buildable, built⟩
  · intro e herror
    rw [herror] at overrides
    obtain ⟨⟨key, bytes⟩, hmem, invalid⟩ := overrides
    have value : secretValue secrets node key = some bytes := by
      rw [hlookup]
      exact List.mem_dlookup nodup hmem
    exact .inl ⟨rfl, ⟨e, rfl⟩, .undecoded value invalid⟩

end

section
variable {secrets visited : Secrets} {node : DataNode} {τ : List (Event signature)}
  {q : Handler Operator} {result : Except (Fault Status) Operator}

/-- In whatever order the entries of the secrets are visited, `get_operator` fails before it builds
an operator exactly when the namespace of the secret, the secret or one of its values is missing or
invalid. Otherwise it builds one from the union of the secret and the `config`. -/
theorem operator_config_union (same : ∀ ns name, SameData (secrets ns name) (visited ns name))
    (run : Prog.Exec (secretsEnv visited) (getOperator node) () τ q ())
    (ends : q.outcome = some result) :
    ((builds τ = [] ∧ ∃ e, result = .error (.error e)) ↔ Unbuildable secrets node) ∧
      (¬ Unbuildable secrets node → BuildsConfigured secrets node (builds τ)) := by
  have unbuildable : Unbuildable secrets node ↔ Unbuildable visited node :=
    ⟨fun h => h.congr same, fun h => h.congr fun ns name => (same ns name).symm⟩
  have configures : ∀ key, configured secrets node key = configured visited node key := by
    intro key
    unfold configured
    rw [secretValue_congr same]
  have answered : ∀ (s : Unit) (c : Call) (a : c.Reply) (s' : Unit), secretsEnv visited s c a s' →
      ∀ g, (buildMonitor visited).assumes g c a := fun _ _ _ _ h _ => h
  have meets := Prog.wp_outcome (Prog.wp_exec (getOperator_builds visited node) run answered) ends
  rw [buildMonitor_after, List.nil_append] at meets
  rw [unbuildable]
  unfold BuildsConfigured at meets ⊢
  simp only [configures]
  rcases meets with ⟨hnone, herror, h⟩ | ⟨h, built⟩
  · exact ⟨⟨fun _ => h, fun _ => ⟨hnone, herror⟩⟩, fun h' => absurd h h'⟩
  · refine ⟨⟨fun ⟨hnone, _⟩ => ?_, fun h' => absurd h' h⟩, fun _ => built⟩
    obtain ⟨operator, hbuilt, _⟩ := built
    rw [hbuilt] at hnone
    cases hnone

end

/-! ## A `DataNode` with credentials -/

def credentialsNode : DataNode where
  metadata := { name := some "n", ns := some "default", uid := some "0" }
  spec := ⟨.s3, false, some ⟨"credentials", none⟩, .ofList [("bucket", "b"), ("key", "")]⟩
  status := none

/-- There is one secret, with this data. -/
def oneSecret (data : List (String × ByteArray)) : Secrets := fun ns name =>
  if ns = "default" ∧ name = "credentials" then .ok ⟨{}, some (.ofList data)⟩ else .error .notFound

/-- Everything succeeds that has to do with an operator. -/
def secretsServe (secrets : Secrets) (_ : Unit) : (c : Call) → Option (c.Reply × Unit)
  | .kube (.getSecret ns name) => some (secrets ns name, ())
  | .opendal (.fromIter _ _) => some (.ok (), ())
  | _ => none

lemma secretsEnv_of_serve (secrets : Secrets) (s : Unit) (c : Call) (a : c.Reply) (s' : Unit)
    (h : secretsServe secrets s c = some (a, s')) : secretsEnv secrets s c a s' := by
  unfold secretsServe at h
  split at h
  · cases h
    rfl
  · trivial
  · cases h

/-- The key of the `config` is overridden, whichever entry of the secret comes first. -/
theorem operator_config_union_credentials : ∃ τ q,
    Prog.Exec (secretsEnv (oneSecret [("region", ⟨#[66]⟩), ("key", ⟨#[65]⟩)]))
      (getOperator credentialsNode) () τ q () ∧
    BuildsConfigured (oneSecret [("key", ⟨#[65]⟩), ("region", ⟨#[66]⟩)]) credentialsNode
      (builds τ) := by
  have same : ∀ ns name, SameData (oneSecret [("key", ⟨#[65]⟩), ("region", ⟨#[66]⟩)] ns name)
      (oneSecret [("region", ⟨#[66]⟩), ("key", ⟨#[65]⟩)] ns name) := by
    intro ns name
    unfold oneSecret
    split
    · exact List.Perm.swap _ _ _
    · trivial
  obtain ⟨τ, q, result, hfollow, hq, hbuilt⟩ : ∃ τ q result,
      (getOperator credentialsNode).follow
        (secretsServe (oneSecret [("region", ⟨#[66]⟩), ("key", ⟨#[65]⟩)])) 5 () =
          some (τ, q, ()) ∧ q.outcome = some result ∧ builds τ ≠ [] :=
    ⟨_, _, _, rfl, rfl, List.cons_ne_nil _ _⟩
  have run := Prog.exec_of_follow (secretsEnv_of_serve _) hfollow
  obtain ⟨fails, builds⟩ := operator_config_union same run hq
  exact ⟨τ, q, run, builds fun unbuildable => hbuilt (fails.mpr unbuildable).1⟩

end Kubedal
