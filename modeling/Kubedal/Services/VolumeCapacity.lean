import Kubedal.Services.VolumeMap

/-!
# The capacity of the volumes

A volume has the capacity that was asked for when it was made. A request that finds it in the map
returns it as it is, and no request looks at `limit_bytes`.

* `MadeBy` is the request that the volume under a name goes back to;
* `capacity_honoured_iff` says for every sequence of requests which of them are returned a
  capacity in their range.
-/

namespace Kubedal

open Interaction Kube Resource

/-- The volume is as big as it must be, and not bigger than it may be. -/
structure CapacityRange.Contains (range : CapacityRange) (bytes : ℤ) : Prop where
  required : range.requiredBytes ≤ bytes
  limit : range.limitBytes ≠ 0 → bytes ≤ range.limitBytes

/-- No bound is negative. -/
structure CapacityRange.Valid (range : CapacityRange) : Prop where
  required : 0 ≤ range.requiredBytes
  limit : 0 ≤ range.limitBytes

abbrev VolumeTurn := Turn signature VolumeRequest (Fault Status) VolumeReply

/-- In the turn a request for a volume within the range is successful. -/
structure Returns (t : VolumeTurn) (r : CreateVolumeRequest) (range : CapacityRange)
    (volume : CsiVolume) : Prop where
  handled : ∃ τ, t = .handled ⟨.create r, τ, .ok (.created volume)⟩
  asked : r.capacityRange = some range
  valid : range.Valid

/-- The volume under the name goes back to the request `r₀`: then the name was not in the map, and
it has been there since. -/
inductive MadeBy (name : String) (r₀ : CreateVolumeRequest) :
    List (VolumeState × VolumeTurn) → Prop where
  | made {turns : List (VolumeState × VolumeTurn)} {s : VolumeState} {x : VolumeResponse}
      (missing : s.map name = none) (request : x.request = .create r₀) (named : r₀.name = name) :
      MadeBy name r₀ (turns ++ [(s, .handled x)])
  | kept {turns : List (VolumeState × VolumeTurn)} {s : VolumeState} {t : VolumeTurn}
      (earlier : MadeBy name r₀ turns) (there : s.map name ≠ none) :
      MadeBy name r₀ (turns ++ [(s, t)])

/-- The capacity that is returned in the turn is in the range that was asked for. -/
def CapacityHonoured (_ : List (VolumeState × VolumeTurn)) (_ : VolumeState) (t : VolumeTurn)
    (_ : VolumeState) : Prop :=
  ∀ r range volume, Returns t r range volume → range.Contains volume.capacityBytes

/-- The range has room for a new volume, and the one that is in the map was asked for with a
capacity in the range. -/
def CapacityAsked (earlier : List (VolumeState × VolumeTurn)) (s : VolumeState) (t : VolumeTurn)
    (_ : VolumeState) : Prop :=
  ∀ r range volume, Returns t r range volume →
    (s.map r.name = none → range.limitBytes = 0 ∨ range.requiredBytes ≤ range.limitBytes) ∧
    ∀ r₀, s.map r.name ≠ none → MadeBy r.name r₀ earlier →
      range.Contains (capacityBytes r₀.capacityRange)

/-! ## One step of the map -/

namespace VolumeMap

section
variable {m m' : VolumeMap} {r : VolumeRequest} {result : Except (Fault Status) VolumeReply}
  {name : String} {volume volume' : CsiVolume}

/-- A volume is never replaced. -/
lemma Step.same (h : Step m r result m') (there : m name = some volume)
    (there' : m' name = some volume') : volume' = volume := by
  cases h with
  | found | listed | failed => exact Option.some.inj (there'.symm.trans there)
  | @created r _ missing _ _ =>
    by_cases hname : name = r.name
    · rw [← hname, there] at missing
      cases missing
    · rw [Function.update_of_ne hname, there] at there'
      exact (Option.some.inj there').symm
  | deleted =>
    rw [(without_eq_some.mp there').1] at there
    exact Option.some.inj there

/-- A volume that was not there is made with the capacity that is asked for. -/
lemma Step.made (h : Step m r result m') (missing : m name = none)
    (there : m' name = some volume) : ∃ r₀ : CreateVolumeRequest, r = .create r₀ ∧
      r₀.name = name ∧ volume.capacityBytes = capacityBytes r₀.capacityRange := by
  cases h with
  | found | listed | failed =>
    rw [missing] at there
    cases there
  | @created r _ _ _ capacity =>
    by_cases hname : name = r.name
    · rw [hname, Function.update_self] at there
      cases there
      exact ⟨r, rfl, hname.symm, capacity⟩
    · rw [Function.update_of_ne hname, missing] at there
      cases there
  | deleted =>
    rw [without_of_none missing] at there
    cases there

end

end VolumeMap

/-! ## The requests of a session -/

section
variable {turns : List (VolumeState × VolumeTurn)} {s s' : VolumeState} {t : VolumeTurn}
  {name : String} {r₀ : CreateVolumeRequest}

lemma madeBy_append_of_missing (missing : s.map name = none) :
    MadeBy name r₀ (turns ++ [(s, t)]) ↔
      ∃ x, t = .handled x ∧ x.request = .create r₀ ∧ r₀.name = name := by
  constructor
  · intro h
    generalize hall : turns ++ [(s, t)] = all at h
    cases h with
    | made _ request named =>
      obtain ⟨_, hlast⟩ := List.append_inj' hall rfl
      cases hlast
      exact ⟨_, rfl, request, named⟩
    | kept _ there =>
      obtain ⟨_, hlast⟩ := List.append_inj' hall rfl
      cases hlast
      exact absurd missing there
  · rintro ⟨x, rfl, request, named⟩
    exact .made missing request named

lemma madeBy_append_of_there (there : s.map name ≠ none) :
    MadeBy name r₀ (turns ++ [(s, t)]) ↔ MadeBy name r₀ turns := by
  constructor
  · intro h
    generalize hall : turns ++ [(s, t)] = all at h
    cases h with
    | made missing _ _ =>
      obtain ⟨_, hlast⟩ := List.append_inj' hall rfl
      cases hlast
      exact absurd missing there
    | kept earlier _ =>
      obtain ⟨rfl, _⟩ := List.append_inj' hall rfl
      exact earlier
  · intro earlier
    exact .kept earlier there

/-- Every volume goes back to a request, and has the capacity that this one asked for. -/
structure GoBack (turns : List (VolumeState × VolumeTurn)) (s : VolumeState) : Prop where
  sound : s.Sound
  made : ∀ name volume, s.map name = some volume → ∃ r₀, MadeBy name r₀ turns
  capacity : ∀ name volume r₀, s.map name = some volume → MadeBy name r₀ turns →
    volume.capacityBytes = capacityBytes r₀.capacityRange

lemma takes_handled (takes : volumeService.Takes s t s') (sound : s.Sound) :
    ∃ x, t = .handled x ∧ s'.Sound ∧ s.map.Step x.request x.result s'.map := by
  cases takes with
  | handle run ends =>
    obtain ⟨sound', step⟩ := volumeProgram_ensures _ sound _ _ _ _ run ends
    exact ⟨_, rfl, sound', step⟩
  | cutOff _ moved => exact moved.elim
  | disturb moved => exact moved.elim

lemma GoBack.turn (h : GoBack turns s) (takes : volumeService.Takes s t s') :
    GoBack (turns ++ [(s, t)]) s' := by
  obtain ⟨x, rfl, sound', step⟩ := takes_handled takes h.sound
  constructor
  case sound => exact sound'
  case made =>
    intro name volume there'
    cases there : s.map name with
    | none =>
      obtain ⟨r₀, request, named, _⟩ := step.made there there'
      exact ⟨r₀, .made there request named⟩
    | some old =>
      obtain ⟨r₀, earlier⟩ := h.made name old there
      exact ⟨r₀, .kept earlier (by simp [there])⟩
  case capacity =>
    intro name volume r₀ there' made
    cases there : s.map name with
    | none =>
      obtain ⟨r₁, request₁, _, capacity⟩ := step.made there there'
      obtain ⟨y, hy, request, _⟩ := (madeBy_append_of_missing there).mp made
      cases hy
      rw [request₁] at request
      cases request
      exact capacity
    | some old =>
      rw [step.same there there']
      exact h.capacity name old r₀ there ((madeBy_append_of_there (by simp [there])).mp made)

/-- A new volume is as big as its range requires. -/
lemma contains_required {range : CapacityRange} :
    range.Contains range.requiredBytes ↔
      (range.limitBytes = 0 ∨ range.requiredBytes ≤ range.limitBytes) := by
  constructor
  · intro h
    by_cases hlimit : range.limitBytes = 0
    · exact .inl hlimit
    · exact .inr (h.limit hlimit)
  · intro h
    exact ⟨Int.le_refl _, fun hlimit => h.resolve_left hlimit⟩

lemma GoBack.honoured_iff (h : GoBack turns s) (takes : volumeService.Takes s t s') :
    CapacityHonoured turns s t s' ↔ CapacityAsked turns s t s' := by
  refine forall₄_congr fun r range volume returns => ?_
  obtain ⟨x, hx, _, step⟩ := takes_handled takes h.sound
  obtain ⟨τ, rfl⟩ := returns.handled
  cases hx
  have there' : s'.map r.name = some volume :=
    step.there_of_created ⟨⟨r, rfl, rfl⟩, rfl⟩
  cases there : s.map r.name with
  | none =>
    obtain ⟨r₀, request, _, capacity⟩ := step.made there there'
    cases request
    rw [returns.asked] at capacity
    rw [capacity]
    refine contains_required.trans ⟨fun room => ⟨fun _ => room, fun _ hne => ?_⟩, fun h => h.1 rfl⟩
    exact absurd rfl hne
  | some old =>
    obtain rfl := step.same there there'
    constructor
    · refine fun contains => ⟨nofun, fun r₀ _ made => ?_⟩
      rwa [← h.capacity r.name volume r₀ there made]
    · rintro ⟨_, asked⟩
      obtain ⟨r₀, made⟩ := h.made r.name volume there
      rw [h.capacity r.name volume r₀ there made]
      exact asked r₀ (by simp) made

end

/-- For every sequence of requests: the capacities that are returned are in the ranges of their
requests exactly when there is room in the range for each new volume, and each volume that is in
the map was made by a request for a capacity in the range. -/
theorem capacity_honoured_iff {turns : List (VolumeState × VolumeTurn)} {s : VolumeState}
    (session : volumeService.Session .init turns s) :
    Service.EachTurn CapacityHonoured turns s ↔ Service.EachTurn CapacityAsked turns s := by
  have start : GoBack [] .init := by
    refine ⟨.init, fun name volume there => ?_, fun name volume r₀ there => ?_⟩
    all_goals cases there
  refine session.agree (H := fun _ _ _ _ => True) GoBack ?_ ?_ ?_ start
  · intro turns s t s' _ takes h
    exact h.honoured_iff takes
  · intro turns s t s' _ takes h _
    exact h.turn takes
  · intro _ _ _ _ _
    trivial

/-! ## Two requests of one name -/

/-- Asks for the volume of the claim `1` with a size in the range. -/
def sampleSized (range : CapacityRange) : VolumeRequest :=
  .create ⟨"pvc-1", some range, .ofList [("resourceNamespace", "default")]⟩

/-- The second request is satisfied with what the first one has asked for. -/
theorem capacity_honoured_iff_sample : ∃ turns s, volumeService.Session .init turns s ∧
    (Service.responses turns).length = 2 ∧ Service.EachTurn CapacityAsked turns s ∧
    Service.EachTurn CapacityHonoured turns s := by
  obtain ⟨τ, τ', volume, s, hserial, hcapacity⟩ : ∃ τ τ' volume s,
      volumeService.serial (fun _ => VolumeState.serve) 40
        [sampleSized ⟨5, 10⟩, sampleSized ⟨2, 8⟩] .init =
          some ([⟨sampleSized ⟨5, 10⟩, τ, .ok (.created volume)⟩,
            ⟨sampleSized ⟨2, 8⟩, τ', .ok (.created volume)⟩], s) ∧
      volume.capacityBytes = 5 :=
    ⟨_, _, _, _, rfl, rfl⟩
  obtain ⟨turns, session, hdone⟩ := Service.Session.serial
    (fun _ s c a s' h => VolumeState.answers_of_serve s c a s' h) .start hserial
  have honoured : Service.EachTurn CapacityHonoured turns s := by
    rintro earlier s₁ t later hturns r range other ⟨⟨τ'', ht⟩, hrange, _⟩
    have hmem : t ∈ turns.map Prod.snd := by
      rw [hturns]
      exact List.mem_map.mpr ⟨(s₁, t), List.mem_append_right _ List.mem_cons_self, rfl⟩
    rw [hdone, ht] at hmem
    -- it is one of the two requests, and both got the same volume
    rcases List.mem_cons.mp hmem with hfirst | hmem
    · cases hfirst
      cases hrange
      rw [hcapacity]
      exact ⟨by decide, fun _ => by decide⟩
    · cases List.mem_singleton.mp hmem
      cases hrange
      rw [hcapacity]
      exact ⟨by decide, fun _ => by decide⟩
  refine ⟨turns, s, session, ?_, (capacity_honoured_iff session).mp honoured, honoured⟩
  rw [Service.responses_of_handled hdone]
  rfl

/-- A volume of one byte is returned to a request for ten. -/
theorem capacity_too_small : ¬ ∀ turns s, volumeService.Session .init turns s →
    Service.EachTurn CapacityHonoured turns s := by
  intro claim
  obtain ⟨first, τ, volume, s, hserial, hcapacity⟩ : ∃ first τ volume s,
      volumeService.serial (fun _ => VolumeState.serve) 40
        [sampleSized ⟨1, 0⟩, sampleSized ⟨10, 0⟩] .init =
          some ([first, ⟨sampleSized ⟨10, 0⟩, τ, .ok (.created volume)⟩], s) ∧
      volume.capacityBytes = 1 :=
    ⟨_, _, _, _, rfl, rfl⟩
  obtain ⟨turns, session, hdone⟩ := Service.Session.serial
    (fun _ s c a s' h => VolumeState.answers_of_serve s c a s' h) .start hserial
  obtain ⟨x, y, rfl⟩ : ∃ x y, turns = [x, y] := by
    have hlength := congrArg List.length hdone
    simp only [List.length_map] at hlength
    exact List.length_eq_two.mp hlength
  have hsecond : y.2 = .handled ⟨sampleSized ⟨10, 0⟩, τ, .ok (.created volume)⟩ := by
    simp only [List.map_cons, List.cons.injEq] at hdone
    exact hdone.2.1
  have honoured := claim _ s session [x] y.1 y.2 [] rfl _ ⟨10, 0⟩ volume
    ⟨⟨τ, hsecond⟩, rfl, ⟨by decide, by decide⟩⟩
  have hten : 10 ≤ volume.capacityBytes := honoured.required
  rw [hcapacity] at hten
  exact absurd hten (by decide)

end Kubedal
