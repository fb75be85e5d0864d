import Kubedal.Services.VolumeStore
import Kubedal.Utils.Session

/-!
# The volumes as a partial map

Requests to the controller service that are handled one after another act on the map of
volumes as on a partial map from names to volumes.

* `VolumeMap.Step` says what each request does to the partial map;
* `VolumeState.Sound` is the invariant: different names have volumes with different ids,
  which is why a deletion by id removes one entry whichever the map comes upon first;
* `volumes_refine_map` puts them together for every sequence of requests.
-/

namespace Kubedal

open Interaction Kube Resource

/-! ## The partial map -/

/-- The volumes by their names. -/
abbrev VolumeMap := String → Option CsiVolume

namespace VolumeMap

def empty : VolumeMap := fun _ => none

/-- The map without the volumes of that id. -/
def without (m : VolumeMap) (volumeId : String) : VolumeMap :=
  fun name => (m name).filter fun volume => volume.volumeId ≠ volumeId

/-- What a request that is finished with a result has done to the map. -/
inductive Step (m : VolumeMap) :
    VolumeRequest → Except (Fault Status) VolumeReply → VolumeMap → Prop where
  | found {r : CreateVolumeRequest} {volume : CsiVolume} (there : m r.name = some volume) :
      Step m (.create r) (.ok (.created volume)) m
  | created {r : CreateVolumeRequest} {volume : CsiVolume} (missing : m r.name = none)
      (new : ∀ name other, m name = some other → other.volumeId ≠ volume.volumeId)
      (capacity : volume.capacityBytes = capacityBytes r.capacityRange) :
      Step m (.create r) (.ok (.created volume)) (Function.update m r.name (some volume))
  | deleted {r : DeleteVolumeRequest} :
      Step m (.delete r) (.ok .deleted) (m.without r.volumeId)
  | listed {volumes : List CsiVolume} (once : volumes.Nodup)
      (all : ∀ volume, volume ∈ volumes ↔ ∃ name, m name = some volume) :
      Step m .list (.ok (.listed volumes)) m
  | failed {r : VolumeRequest} {e : Fault Status} : Step m r (.error e) m

lemma without_eq_some {m : VolumeMap} {volumeId name : String} {volume : CsiVolume} :
    m.without volumeId name = some volume ↔ m name = some volume ∧ volume.volumeId ≠ volumeId := by
  simp [without, Option.filter_eq_some_iff]

lemma without_of_none {m : VolumeMap} {volumeId name : String} (h : m name = none) :
    m.without volumeId name = none := by
  rw [without, h]
  rfl

lemma without_of_eq {m : VolumeMap} {volumeId name : String} {volume : CsiVolume}
    (h : m name = some volume) (hid : volume.volumeId = volumeId) :
    m.without volumeId name = none := by
  rw [without, h, Option.filter_some, if_neg (by simpa using hid)]

lemma without_of_ne {m : VolumeMap} {volumeId name : String} {volume : CsiVolume}
    (h : m name = some volume) (hid : volume.volumeId ≠ volumeId) :
    m.without volumeId name = some volume := without_eq_some.mpr ⟨h, hid⟩

/-- A volume stays where it is until its deletion is asked for. -/
lemma Step.keeps {m m' : VolumeMap} {r : VolumeRequest} {name : String} {volume : CsiVolume}
    {result : Except (Fault Status) VolumeReply} (h : Step m r result m')
    (there : m name = some volume) (hr : r ≠ .delete ⟨volume.volumeId⟩) :
    m' name = some volume := by
  cases h with
  | found => exact there
  | @created r _ missing _ _ =>
    by_cases hname : name = r.name
    · rw [← hname, there] at missing
      cases missing
    · rw [Function.update_of_ne hname]
      exact there
  | deleted =>
    refine without_eq_some.mpr ⟨there, fun hid => hr ?_⟩
    rw [hid]
  | listed => exact there
  | failed => exact there

end VolumeMap

/-! ## The invariant of the store -/

namespace VolumeState

/-- The partial map that the store stands for. -/
def map (s : VolumeState) : VolumeMap := fun name => s.volumes.lookup name

/-- The ids of the volumes come from the random ids, each from another one. -/
structure Sound (s : VolumeState) : Prop where
  distinct : ∀ name name' volume volume', s.map name = some volume →
    s.map name' = some volume' → volume.volumeId = volume'.volumeId → name = name'
  drawn : ∀ name volume, s.map name = some volume →
    ∃ uuid ∈ s.used, volume.volumeId = "kubedal-" ++ uuid

lemma Sound.init : Sound .init := by
  refine ⟨fun name name' volume volume' h _ _ => ?_, fun name volume h => ?_⟩
  · cases h
  · cases h

lemma map_insert (s : VolumeState) (name : String) (volume : CsiVolume) (used : List String) :
    map ⟨s.volumes.insert name volume, used⟩ = Function.update s.map name (some volume) := by
  funext name'
  by_cases h : name' = name
  · rw [h, Function.update_self]
    exact AList.lookup_insert _
  · rw [Function.update_of_ne h]
    exact AList.lookup_insert_ne h

/-- A volume whose id comes from a new random id has an id of its own. -/
lemma Sound.new {s : VolumeState} (sound : s.Sound) {uuid name : String} {volume : CsiVolume}
    (fresh : uuid ∉ s.used) (there : s.map name = some volume) :
    volume.volumeId ≠ "kubedal-" ++ uuid := by
  intro heq
  obtain ⟨uuid', hused, hid⟩ := sound.drawn name volume there
  have hsame : uuid' = uuid := by
    rw [heq] at hid
    exact (String.append_right_inj "kubedal-").mp hid.symm
  exact fresh (hsame ▸ hused)

lemma Sound.insert {s : VolumeState} (sound : s.Sound) {uuid name : String} {volume : CsiVolume}
    (fresh : uuid ∉ s.used) (hid : volume.volumeId = "kubedal-" ++ uuid) :
    Sound ⟨s.volumes.insert name volume, uuid :: s.used⟩ := by
  have old : ∀ name' volume', name' ≠ name →
      map ⟨s.volumes.insert name volume, uuid :: s.used⟩ name' = some volume' →
      s.map name' = some volume' := by
    intro name' volume' hne h
    rw [map_insert, Function.update_of_ne hne] at h
    exact h
  have here : ∀ volume',
      map ⟨s.volumes.insert name volume, uuid :: s.used⟩ name = some volume' →
      volume' = volume := by
    intro volume' h
    rw [map_insert, Function.update_self] at h
    exact (Option.some.inj h).symm
  refine ⟨fun name₁ name₂ volume₁ volume₂ h₁ h₂ heq => ?_, fun name₁ volume₁ h₁ => ?_⟩
  -- the new entry is under `name`, and all others are old
  · by_cases hname₁ : name₁ = name
    · by_cases hname₂ : name₂ = name
      · rw [hname₁, hname₂]
      · subst hname₁
        rw [here volume₁ h₁, hid] at heq
        exact absurd heq.symm (sound.new fresh (old name₂ volume₂ hname₂ h₂))
    · by_cases hname₂ : name₂ = name
      · subst hname₂
        rw [here volume₂ h₂, hid] at heq
        exact absurd heq (sound.new fresh (old name₁ volume₁ hname₁ h₁))
      · exact sound.distinct name₁ name₂ volume₁ volume₂ (old name₁ volume₁ hname₁ h₁)
          (old name₂ volume₂ hname₂ h₂) heq
  · by_cases hname₁ : name₁ = name
    · subst hname₁
      rw [here volume₁ h₁]
      exact ⟨uuid, List.mem_cons_self, hid⟩
    · obtain ⟨uuid', hused, hid'⟩ := sound.drawn name₁ volume₁ (old name₁ volume₁ hname₁ h₁)
      exact ⟨uuid', List.mem_cons_of_mem _ hused, hid'⟩

/-- Whichever entry with the id the map comes upon first, it is the only one. -/
lemma Sound.map_removes {s s' : VolumeState} (sound : s.Sound) {volumeId : String}
    (removes : s.Removes volumeId s') : s'.map = s.map.without volumeId ∧ s'.used = s.used := by
  rcases removes with ⟨name, volume, there, hid, rfl⟩ | ⟨hnone, rfl⟩
  · refine ⟨funext fun name' => ?_, rfl⟩
    have there' : s.map name = some volume := there
    by_cases hname : name' = name
    · have hleft : map { s with volumes := s.volumes.erase name } name' = none := by
        rw [hname]
        exact AList.lookup_erase _ _
      rw [hleft, hname, VolumeMap.without_of_eq there' hid]
    · have hleft : map { s with volumes := s.volumes.erase name } name' = s.map name' :=
        AList.lookup_erase_ne hname
      rw [hleft]
      cases hv : s.map name' with
      | none => exact (VolumeMap.without_of_none hv).symm
      | some volume' =>
        have hne : volume'.volumeId ≠ volumeId := by
          intro heq
          exact hname (sound.distinct name' name volume' volume hv there' (heq.trans hid.symm))
        exact (VolumeMap.without_of_ne hv hne).symm
  · refine ⟨funext fun name => ?_, rfl⟩
    cases hv : s'.map name with
    | none => exact (VolumeMap.without_of_none hv).symm
    | some volume => exact (VolumeMap.without_of_ne hv (hnone name volume hv)).symm

lemma Sound.removes {s s' : VolumeState} (sound : s.Sound) {volumeId : String}
    (removes : s.Removes volumeId s') : s'.Sound := by
  obtain ⟨hmap, hused⟩ := sound.map_removes removes
  have old : ∀ name volume, s'.map name = some volume → s.map name = some volume := by
    intro name volume h
    rw [hmap] at h
    exact (VolumeMap.without_eq_some.mp h).1
  refine ⟨fun name name' volume volume' h h' => ?_, fun name volume h => ?_⟩
  · exact sound.distinct name name' volume volume' (old name volume h) (old name' volume' h')
  · rw [hused]
    exact sound.drawn name volume (old name volume h)

/-- The values of the map, in whatever order, are the volumes without repetition. -/
lemma Sound.listed {s : VolumeState} (sound : s.Sound) {volumes : List CsiVolume}
    (all : List.Perm volumes (s.volumes.entries.map Sigma.snd)) :
    volumes.Nodup ∧ ∀ volume, volume ∈ volumes ↔ ∃ name, s.map name = some volume := by
  have entry : ∀ e ∈ s.volumes.entries, s.map e.1 = some e.2 := by
    intro e he
    exact AList.mem_lookup_iff.mpr he
  constructor
  · refine all.symm.nodup (List.Nodup.map_on ?_ s.volumes.nodupKeys.nodup)
    intro e he e' he' heq
    have hname : e.1 = e'.1 :=
      sound.distinct e.1 e'.1 e.2 e'.2 (entry e he) (entry e' he') (by rw [heq])
    exact Sigma.ext hname (heq_of_eq heq)
  · intro volume
    rw [all.mem_iff, List.mem_map]
    constructor
    · rintro ⟨e, he, rfl⟩
      exact ⟨e.1, entry e he⟩
    · rintro ⟨name, h⟩
      exact ⟨⟨name, volume⟩, AList.mem_lookup_iff.mp h, rfl⟩

end VolumeState

/-! ## The requests -/

section
variable {s : VolumeState}

/-- What a create request makes of the store. -/
def CreateSteps (s : VolumeState) (r : CreateVolumeRequest) (s' : VolumeState)
    (result : Except (Fault Status) CsiVolume) : Prop :=
  s'.Sound ∧ s.map.Step (.create r) (result.map .created) s'.map

lemma createNewVolume_ensures {r : CreateVolumeRequest} (sound : s.Sound)
    (missing : s.map r.name = none) :
    (createNewVolume r).Ensures VolumeState.Answers s (CreateSteps s r) := by
  have failed : ∀ e, CreateSteps s r s (.error e) := fun e => ⟨sound, .failed⟩
  unfold createNewVolume
  apply Prog.Ensures.bind
  apply ensures_orReturn
  case herror =>
    intro e _
    exact failed _
  intro ns _
  apply Prog.Ensures.bind
  -- the claim is only read
  have reads : (getPvc ns r.name).Uses fun c : Call => ∃ k, c = .kube k := uses_getPvc ⟨_, rfl⟩
  have stays : ∀ (s : VolumeState) (c : Call) (a : c.Reply) (s' : VolumeState),
      (∃ k, c = .kube k) → s.Answers c a s' → s' = s := by
    rintro s c a s' ⟨k, rfl⟩ answered
    exact answered
  refine reads.ensures stays fun found => ?_
  rcases found with e | pvcMeta
  · exact failed _
  apply Prog.Ensures.bind
  apply ensures_orReturn
  case herror =>
    intro e _
    exact failed _
  intro context _
  apply Prog.Ensures.bind
  apply Prog.ensures_perform
  rintro uuid s₁ ⟨fresh, rfl⟩
  apply Prog.Ensures.bind
  apply ensures_volumes
  rintro _ s₂ rfl
  apply Prog.ensures_pure
  refine ⟨sound.insert fresh rfl, ?_⟩
  rw [VolumeState.map_insert]
  exact .created missing (fun name other there => sound.new fresh there) rfl

lemma createVolume_ensures {r : CreateVolumeRequest} (sound : s.Sound) :
    (createVolume r).Ensures VolumeState.Answers s (CreateSteps s r) := by
  unfold createVolume
  split
  · exact Prog.ensures_throw ⟨sound, .failed⟩
  apply Prog.Ensures.bind
  apply ensures_volumes
  rintro existing s₁ ⟨hexisting, rfl⟩
  rcases existing with _ | volume
  · exact createNewVolume_ensures sound hexisting.symm
  · exact Prog.ensures_pure ⟨sound, .found hexisting.symm⟩

/-- Each request makes a step of the partial map. -/
theorem volumeProgram_ensures (r : VolumeRequest) (sound : s.Sound) :
    r.program.Ensures VolumeState.Answers s fun s' result =>
      s'.Sound ∧ s.map.Step r result s'.map := by
  rcases r with r | r | _
  · apply Prog.Ensures.bind
    refine (createVolume_ensures sound).mono fun s' result steps => ?_
    rcases result with e | volume
    · exact steps
    · exact Prog.ensures_pure steps
  · apply Prog.Ensures.bind
    unfold deleteVolume
    split
    · exact Prog.ensures_throw ⟨sound, .failed⟩
    apply ensures_volumes
    intro _ s' removes
    apply Prog.ensures_pure
    refine ⟨sound.removes removes, ?_⟩
    rw [(sound.map_removes removes).1]
    exact .deleted
  · apply Prog.Ensures.bind
    apply ensures_volumes
    rintro volumes s' ⟨all, rfl⟩
    apply Prog.ensures_pure
    obtain ⟨once, mem⟩ := sound.listed all
    exact ⟨sound, .listed once mem⟩

end

/-! ## Every sequence of requests -/

/-- Until it is deleted, a volume is returned as it is by every request to create one of its
name. -/
def Repeats (done : List VolumeResponse) : Prop :=
  ∀ earlier between later x y name volume volume',
    done = earlier ++ x :: (between ++ y :: later) → Created x name volume →
    Created y name volume' → (∀ z ∈ between, z.request ≠ .delete ⟨volume.volumeId⟩) →
    volume' = volume

/-- The store is a partial map to which the finished requests have made their steps. -/
structure RefinesMap (done : List VolumeResponse) (s : VolumeState) : Prop where
  steps : Service.Trace VolumeMap.Step .empty done s.map
  distinct : ∀ name name' volume volume', s.map name = some volume →
    s.map name' = some volume' → volume.volumeId = volume'.volumeId → name = name'
  repeats : Repeats done

/-- After a volume is returned it is in the map. -/
lemma VolumeMap.Step.there_of_created {m m' : VolumeMap} {x : VolumeResponse} {name : String}
    {volume : CsiVolume} (h : m.Step x.request x.result m') (hx : Created x name volume) :
    m' name = some volume := by
  obtain ⟨⟨r, hr, rfl⟩, hresult⟩ := hx
  rw [hr, hresult] at h
  cases h with
  | found there => exact there
  | created => exact Function.update_self ..

/-- A volume that is in the map is the one that is returned. -/
lemma VolumeMap.Step.eq_of_created {m m' : VolumeMap} {x : VolumeResponse} {name : String}
    {volume volume' : CsiVolume} (h : m.Step x.request x.result m') (hx : Created x name volume')
    (there : m name = some volume) : volume' = volume := by
  obtain ⟨⟨r, hr, rfl⟩, hresult⟩ := hx
  rw [hr, hresult] at h
  cases h with
  | found there' => exact Option.some.inj (there'.symm.trans there)
  | created missing =>
    rw [there] at missing
    cases missing

lemma repeats_of_trace {done : List VolumeResponse} {m₀ m : VolumeMap}
    (h : Service.Trace VolumeMap.Step m₀ done m) : Repeats done := by
  rintro earlier between later x y name volume volume' rfl hx hy hbetween
  obtain ⟨m₁, _, h₁⟩ := h.split
  obtain ⟨m₂, hstep, h₂⟩ := h₁.head
  obtain ⟨m₃, hkept, h₃⟩ := h₂.split
  obtain ⟨m₄, hagain, _⟩ := h₃.head
  -- the volume is in the map after the first request, and still before the second one
  have there : m₂ name = some volume := hstep.there_of_created hx
  have still : m₃ name = some volume :=
    hkept.invariant (fun m => m name = some volume)
      (fun m z hz m' hz' hm => hz'.keeps hm (hbetween z hz)) there
  exact hagain.eq_of_created hy still

/-- Answers a deletion, too, with the first entry of the id. -/
def VolumeState.serveAll (s : VolumeState) : (c : Call) → Option (c.Reply × VolumeState)
  | .volumes (.removeById volumeId) =>
    match s.volumes.entries.find? fun e => e.2.volumeId = volumeId with
    | some e => some ⟨(), { s with volumes := s.volumes.erase e.1 }⟩
    | none => some ⟨(), s⟩
  | c => s.serve c

lemma VolumeState.answers_of_serveAll (s : VolumeState) (c : Call) (a : c.Reply)
    (s' : VolumeState) (h : s.serveAll c = some (a, s')) : s.Answers c a s' := by
  unfold serveAll at h
  split at h
  · rename_i volumeId
    split at h
    · rename_i e hfind
      cases h
      have hmem : e ∈ s.volumes.entries := List.mem_of_find?_eq_some hfind
      exact .inl ⟨e.1, e.2, AList.mem_lookup_iff.mpr hmem, by simpa using List.find?_some hfind,
        rfl⟩
    · rename_i hfind
      cases h
      refine .inr ⟨fun name volume there => ?_, rfl⟩
      have hmem : (⟨name, volume⟩ : Sigma fun _ : String => CsiVolume) ∈ s.volumes.entries :=
        AList.mem_lookup_iff.mp there
      simpa using List.find?_eq_none.mp hfind _ hmem
  · exact s.answers_of_serve _ a s' h

end Kubedal
