import Kubedal.Services.Controller
import Kubedal.Services.NodeMonitor
import Kubedal.Utils.Pool

/-!
# The volumes of the controller service

Any number of create, delete and list requests run over the map of volumes; each section
under its mutex is one call.

* `volumeService` is the service, `VolumeStep` what one call of a request can do;
* `create_volume_idempotent`: as long as a volume is only put into the map under a name that
  is not in it, equal names get equal volumes, and no volume is missing from a later list.
-/

namespace Kubedal

open Interaction Kube Resource

/-! ## The service -/

/-- The map of volumes, and the random ids that were given out. -/
structure VolumeState where
  volumes : StringMap CsiVolume
  used : List String

namespace VolumeState

def init : VolumeState := ⟨∅, []⟩

/-- Removes an entry whose volume has the id, whichever the map comes upon first. -/
def Removes (s : VolumeState) (volumeId : String) (s' : VolumeState) : Prop :=
  (∃ name volume, s.volumes.lookup name = some volume ∧ volume.volumeId = volumeId ∧
    s' = { s with volumes := s.volumes.erase name }) ∨
  ((∀ name volume, s.volumes.lookup name = some volume → volume.volumeId ≠ volumeId) ∧ s' = s)

def VolumesAnswers (s : VolumeState) : (c : VolumesCall) → c.Reply → VolumeState → Prop
  | .lookup name, r, s' => r = s.volumes.lookup name ∧ s' = s
  | .insert name volume, _, s' => s' = { s with volumes := s.volumes.insert name volume }
  | .removeById volumeId, _, s' => s.Removes volumeId s'
  | .values, r, s' => List.Perm r (s.volumes.entries.map Sigma.snd) ∧ s' = s

/-- Random ids are fresh; the API server may answer anything. -/
def Answers (s : VolumeState) : (c : Call) → c.Reply → VolumeState → Prop
  | .volumes c, r, s' => s.VolumesAnswers c r s'
  | .newUuid, r, s' => r ∉ s.used ∧ s' = { s with used := r :: s.used }
  | _, _, s' => s' = s

end VolumeState

inductive VolumeRequest where
  | create (request : CreateVolumeRequest)
  | delete (request : DeleteVolumeRequest)
  | list
deriving DecidableEq

inductive VolumeReply where
  | created (volume : CsiVolume)
  | deleted
  | listed (volumes : List CsiVolume)
deriving DecidableEq

def VolumeRequest.program : VolumeRequest → Handler VolumeReply
  | .create request => return .created (← createVolume request)
  | .delete request => do
    deleteVolume request
    return .deleted
  | .list => return .listed (← listVolumes)

abbrev VolumePool := Pool signature VolumeState VolumeRequest (Fault Status) VolumeReply

abbrev VolumeResponse := Response signature VolumeRequest (Fault Status) VolumeReply

abbrev VolumeLabel := Label signature VolumeRequest

abbrev VolumeTransition :=
  Service.Transition signature VolumeState VolumeRequest (Fault Status) VolumeReply

/-- The controller service for any requests in any number and order. -/
def volumeService : Service signature VolumeState VolumeRequest (Fault Status) VolumeReply where
  program := VolumeRequest.program
  admits := fun _ _ => True
  answers := VolumeState.Answers
  disturbs := fun _ _ => False

/-! ## What a request does to the map -/

/-- How far a request is with the map. -/
inductive VolumeStage where
  | waiting
  /-- The name of the volume was not in the map. -/
  | missing
  | ended (reply : VolumeReply)
deriving DecidableEq

namespace VolumeStage

def found : Option CsiVolume → VolumeStage
  | some volume => .ended (.created volume)
  | none => .missing

/-- The stage after a call and its answer. -/
def next (g : VolumeStage) : (c : Call) → c.Reply → VolumeStage
  | .volumes (.lookup _), a => found a
  | .volumes (.insert _ volume), _ => .ended (.created volume)
  | .volumes (.removeById _), _ => .ended .deleted
  | .volumes .values, a => .ended (.listed a)
  | _, _ => g

end VolumeStage

namespace VolumeRequest

/-- The calls a request may make in a stage. -/
def Allows : VolumeRequest → VolumeStage → Call → Prop
  | .create r, .waiting, .volumes (.lookup name) => name = r.name
  | .create r, .missing, .volumes (.insert name _) => name = r.name
  | .create _, .missing, .volumes _ => False
  | .create _, .missing, _ => True
  | .delete r, .waiting, .volumes (.removeById volumeId) => volumeId = r.volumeId
  | .list, .waiting, .volumes .values => True
  | _, _, _ => False

/-- A request that succeeds has ended with its reply. -/
def Ends (g : VolumeStage) : Except (Fault Status) VolumeReply → Prop
  | .ok reply => g = .ended reply
  | .error _ => g = .waiting ∨ g = .missing

end VolumeRequest

def volumeMonitor : Monitor signature (VolumeRequest × VolumeStage) where
  allows := fun g c => g.1.Allows g.2 c
  assumes := fun _ _ _ => True
  next := fun g c a => (g.1, g.2.next c a)

def VolumeRequest.start (r : VolumeRequest) : VolumeRequest × VolumeStage := (r, .waiting)

def VolumeRequest.post (_ : VolumeRequest) (g : VolumeRequest × VolumeStage)
    (result : Except (Fault Status) VolumeReply) : Prop := VolumeRequest.Ends g.2 result

lemma volumeMonitor_after_fst (g : VolumeRequest × VolumeStage) (τ : List (Event signature)) :
    (volumeMonitor.after g τ).1 = g.1 := by
  induction τ generalizing g with
  | nil => rfl
  | cons e τ ih => exact ih _

/-- The call does not use the map of volumes. -/
def Call.OffMap : Call → Prop
  | .volumes _ => False
  | _ => True

lemma uses_getPvc {C : Call → Prop} {ns uid : String} (h : C (.kube (.listPvcMetadata ns {}))) :
    (getPvc ns uid).Uses C := by
  unfold getPvc
  apply (uses_orReturn _).bind
  intro uid
  apply (uses_kube _ h).bind
  intro reply
  apply (uses_orReturn _).bind
  intro allPvc
  exact uses_orReturn _

/-- A program of a create request that has not found its name, and does not use the map. -/
lemma wp_offMap {α : Type} {p : Handler α} {r : CreateVolumeRequest}
    {Q : VolumeRequest × VolumeStage → Except (Fault Status) α → Prop}
    (hp : p.Uses Call.OffMap) (hQ : ∀ result, Q (.create r, .missing) result) :
    p.wp volumeMonitor (.create r, .missing) Q := by
  refine hp.wp (fun c hc => ?_) (fun c a hc => ?_) hQ
  · rcases c with c | c | c | c | c | _ | _
    case volumes => exact hc.elim
    all_goals trivial
  · rcases c with c | c | c | c | c | _ | _
    case volumes => exact hc.elim
    all_goals rfl

lemma createNewVolume_meets (r : CreateVolumeRequest) :
    (createNewVolume r).wp volumeMonitor (.create r, .missing) fun g result =>
      match result with
      | .ok volume => g.2 = .ended (.created volume)
      | .error _ => g.2 = .missing := by
  unfold createNewVolume
  refine Prog.wp_bind (wp_offMap (uses_orReturn _) fun result => ?_)
  rcases result with e | ns
  · rfl
  refine Prog.wp_bind (wp_offMap (uses_getPvc trivial) fun result => ?_)
  rcases result with e | pvcMeta
  · rfl
  refine Prog.wp_bind (wp_offMap (uses_orReturn _) fun result => ?_)
  rcases result with e | context
  · rfl
  refine Prog.wp_bind (wp_offMap (uses_perform trivial) fun result => ?_)
  rcases result with e | uuid
  · rfl
  exact Prog.wp_bind (wp_volumes rfl fun _ _ => rfl)

lemma createVolume_meets (r : CreateVolumeRequest) :
    (createVolume r).wp volumeMonitor (.create r, .waiting) fun g result =>
      match result with
      | .ok volume => g.2 = .ended (.created volume)
      | .error _ => g.2 = .waiting ∨ g.2 = .missing := by
  unfold createVolume
  split
  · exact .inl rfl
  · refine Prog.wp_bind (wp_volumes rfl fun existing _ => ?_)
    rcases existing with _ | volume
    · apply Prog.wp_mono (createNewVolume_meets r)
      intro g result hg
      rcases result with e | volume
      · exact .inr hg
      · exact hg
    · rfl

lemma deleteVolume_meets (r : DeleteVolumeRequest) :
    (deleteVolume r).wp volumeMonitor (.delete r, .waiting) fun g result =>
      match result with
      | .ok _ => g.2 = .ended .deleted
      | .error _ => g.2 = .waiting := by
  unfold deleteVolume
  split
  · rfl
  · exact wp_volumes rfl fun _ _ => rfl

/-- The handlers of the controller service follow the protocol. -/
theorem volumeProgram_meets (r : VolumeRequest) : r.program.wp volumeMonitor r.start r.post := by
  rcases r with r | r | _
  · refine Prog.wp_bind (Prog.wp_mono (createVolume_meets r) fun g result hg => ?_)
    rcases result with e | volume <;> exact hg
  · refine Prog.wp_bind (Prog.wp_mono (deleteVolume_meets r) fun g result hg => ?_)
    rcases result with e | _
    · exact .inl hg
    · exact hg
  · exact Prog.wp_bind (wp_volumes trivial fun _ _ => rfl)

/-- What an allowed call does to a request, its stage and the map. -/
inductive VolumeStep (s : VolumeState) (c : Call) :
    VolumeRequest → VolumeStage → VolumeStage → VolumeState → Prop where
  | found {r : CreateVolumeRequest} {volume : CsiVolume}
      (there : s.volumes.lookup r.name = some volume) :
      VolumeStep s c (.create r) .waiting (.ended (.created volume)) s
  | missing {r : CreateVolumeRequest} : VolumeStep s c (.create r) .waiting .missing s
  | quiet {r : CreateVolumeRequest} {used : List String} :
      VolumeStep s c (.create r) .missing .missing { s with used }
  | insert {r : CreateVolumeRequest} {volume : CsiVolume}
      (call : c = .volumes (.insert r.name volume)) :
      VolumeStep s c (.create r) .missing (.ended (.created volume))
        { s with volumes := s.volumes.insert r.name volume }
  | remove {r : DeleteVolumeRequest} {s' : VolumeState} (removes : s.Removes r.volumeId s') :
      VolumeStep s c (.delete r) .waiting (.ended .deleted) s'
  | list {volumes : List CsiVolume}
      (all : List.Perm volumes (s.volumes.entries.map Sigma.snd)) :
      VolumeStep s c .list .waiting (.ended (.listed volumes)) s

/-- Everything that an answered call of a request can do to the map. -/
theorem volumeStep_of_answers {r : VolumeRequest} {g : VolumeStage} {s s' : VolumeState}
    {c : Call} {a : c.Reply} (allowed : r.Allows g c) (answered : s.Answers c a s') :
    VolumeStep s c r g (g.next c a) s' := by
  -- what a request may call depends on its stage, and each call does one thing to the map
  rcases r with r | r | _
  · rcases g with _ | _ | reply
    · rcases c with c | c | c | c | c | _ | _
      case volumes =>
        rcases c with name | ⟨name, volume⟩ | volumeId | _
        case lookup =>
          cases allowed
          obtain ⟨ha, rfl⟩ := answered
          rcases a with _ | volume
          · exact .missing
          · exact .found ha.symm
        all_goals exact allowed.elim
      all_goals exact allowed.elim
    · rcases c with c | c | c | c | c | _ | _
      case volumes =>
        rcases c with name | ⟨name, volume⟩ | volumeId | _
        case insert =>
          cases allowed
          cases answered
          exact .insert rfl
        all_goals exact allowed.elim
      case newUuid =>
        obtain ⟨_, rfl⟩ := answered
        exact .quiet
      all_goals
        cases answered
        exact .quiet
    · exact allowed.elim
  · rcases g with _ | _ | reply
    · rcases c with c | c | c | c | c | _ | _
      case volumes =>
        rcases c with name | ⟨name, volume⟩ | volumeId | _
        case removeById =>
          cases allowed
          exact .remove answered
        all_goals exact allowed.elim
      all_goals exact allowed.elim
    all_goals exact allowed.elim
  · rcases g with _ | _ | reply
    · rcases c with c | c | c | c | c | _ | _
      case volumes =>
        rcases c with name | ⟨name, volume⟩ | volumeId | _
        case values =>
          obtain ⟨all, rfl⟩ := answered
          exact .list all
        all_goals exact allowed.elim
      all_goals exact allowed.elim
    all_goals exact allowed.elim

/-! ## Equal names, equal volumes -/

/-- The response to a request for `name` is `volume`. -/
def Created (x : VolumeResponse) (name : String) (volume : CsiVolume) : Prop :=
  (∃ r, x.request = .create r ∧ r.name = name) ∧ x.result = .ok (.created volume)

/-- Somebody has asked for the deletion of `volumeId`. -/
def AskedToDelete (phases : List (VolumeRequest × (VolumeRequest × VolumeStage)))
    (done : List VolumeResponse) (volumeId : String) : Prop :=
  (∃ x ∈ phases, x.1 = .delete ⟨volumeId⟩) ∨ ∃ x ∈ done, x.request = .delete ⟨volumeId⟩

/-- Volumes that were returned and not deleted are in the map, under the name they were
returned for, and in every list returned after them. -/
structure Kept (s : VolumeState)
    (phases : List (VolumeRequest × (VolumeRequest × VolumeStage)))
    (done : List VolumeResponse) : Prop where
  there : ∀ x ∈ done, ∀ name volume, Created x name volume →
    ¬ AskedToDelete phases done volume.volumeId → s.volumes.lookup name = some volume
  listed : done.Pairwise fun x y => ∀ name volume volumes, Created x name volume →
    y.result = .ok (.listed volumes) → ¬ AskedToDelete phases done volume.volumeId →
    volume ∈ volumes

/-- A call that puts no volume under a name that is in the map. -/
def VolumeState.insertsNew (s : VolumeState) : Call → Bool
  | .volumes (.insert name _) => (s.volumes.lookup name).isNone
  | _ => true

/-- The step replaces no volume. -/
def InsertsNew (P : VolumePool) : VolumeLabel → Prop
  | .answered _ _ e => P.state.insertsNew e.call
  | _ => True

namespace VolumeStep

variable {s s' : VolumeState} {c : Call} {r : VolumeRequest} {g g' : VolumeStage}

/-- A volume goes only by a request to delete it. -/
lemma lookup_eq (h : VolumeStep s c r g g' s') (new : s.insertsNew c) {name : String}
    {volume : CsiVolume} (other : r ≠ .delete ⟨volume.volumeId⟩)
    (hv : s.volumes.lookup name = some volume) : s'.volumes.lookup name = some volume := by
  cases h with
  | found => exact hv
  | missing => exact hv
  | quiet => exact hv
  -- the name of the new volume had none, so it is not the one looked at
  | @insert r volume' call =>
    subst call
    have hnone : s.volumes.lookup r.name = none := Option.isNone_iff_eq_none.mp new
    have hne : name ≠ r.name := by
      intro heq
      rw [heq, hnone] at hv
      cases hv
    show (s.volumes.insert r.name volume').lookup name = some volume
    rw [AList.lookup_insert_ne hne]
    exact hv
  -- only the volume with the id of the request goes
  | @remove r _ removes =>
    rcases removes with ⟨name', volume', hv', hid, rfl⟩ | ⟨_, rfl⟩
    · have hne : name ≠ name' := by
        intro heq
        rw [heq, hv'] at hv
        cases hv
        exact other (by rw [hid])
      show (s.volumes.erase name').lookup name = some volume
      rw [AList.lookup_erase_ne hne]
      exact hv
    · exact hv
  | list => exact hv

/-- The volume a create request returns is in the map under its name. -/
lemma created {request : CreateVolumeRequest} {volume : CsiVolume}
    (h : VolumeStep s c (.create request) g (.ended (.created volume)) s') :
    s'.volumes.lookup request.name = some volume := by
  cases h with
  | found there => exact there
  | insert => exact AList.lookup_insert _

/-- A list holds every volume of the map. -/
lemma listed {all : List CsiVolume} (h : VolumeStep s c r g (.ended (.listed all)) s')
    {name : String} {volume : CsiVolume} (hv : s'.volumes.lookup name = some volume) :
    volume ∈ all := by
  cases h with
  | list hall =>
    refine hall.mem_iff.mpr (List.mem_map.mpr ⟨⟨name, volume⟩, ?_, rfl⟩)
    exact AList.mem_lookup_iff.mp hv

end VolumeStep

namespace AskedToDelete

variable {phases before after : List (VolumeRequest × (VolumeRequest × VolumeStage))}
  {done : List VolumeResponse} {r : VolumeRequest} {g g' : VolumeRequest × VolumeStage}
  {volumeId : String}

lemma arrive (h : AskedToDelete phases done volumeId) :
    AskedToDelete (phases ++ [(r, g)]) done volumeId := by
  rcases h with ⟨x, hx, hdelete⟩ | h
  · exact .inl ⟨x, List.mem_append_left _ hx, hdelete⟩
  · exact .inr h

lemma refuse {x : VolumeResponse} (h : AskedToDelete phases done volumeId) :
    AskedToDelete phases (done ++ [x]) volumeId := by
  rcases h with h | ⟨y, hy, hdelete⟩
  · exact .inl h
  · exact .inr ⟨y, List.mem_append_left _ hy, hdelete⟩

lemma step (h : AskedToDelete (before ++ (r, g) :: after) done volumeId) :
    AskedToDelete (before ++ (r, g') :: after) done volumeId := by
  rcases h with ⟨x, hx, hdelete⟩ | h
  · rcases List.mem_append.mp hx with hx | hx
    · exact .inl ⟨x, List.mem_append_left _ hx, hdelete⟩
    · rcases List.mem_cons.mp hx with rfl | hx
      · exact .inl ⟨_, List.mem_append_right _ List.mem_cons_self, hdelete⟩
      · exact .inl ⟨x, List.mem_append_right _ (List.mem_cons_of_mem _ hx), hdelete⟩
  · exact .inr h

lemma finish {past : List (Event signature)} {result : Except (Fault Status) VolumeReply}
    (h : AskedToDelete (before ++ (r, g) :: after) done volumeId) :
    AskedToDelete (before ++ after) (done ++ [⟨r, past, result⟩]) volumeId := by
  rcases h with ⟨x, hx, hdelete⟩ | ⟨y, hy, hdelete⟩
  · rcases List.mem_append.mp hx with hx | hx
    · exact .inl ⟨x, List.mem_append_left _ hx, hdelete⟩
    · rcases List.mem_cons.mp hx with rfl | hx
      · exact .inr ⟨_, List.mem_append_right _ List.mem_cons_self, hdelete⟩
      · exact .inl ⟨x, List.mem_append_right _ hx, hdelete⟩
  · exact .inr ⟨y, List.mem_append_left _ hy, hdelete⟩

/-- The request itself may be the one that asks. -/
lemma of_request (h : r = .delete ⟨volumeId⟩) :
    AskedToDelete (before ++ (r, g) :: after) done volumeId :=
  .inl ⟨_, List.mem_append_right _ List.mem_cons_self, h⟩

end AskedToDelete

namespace Kept

variable {s s' : VolumeState}
  {phases phases' before after : List (VolumeRequest × (VolumeRequest × VolumeStage))}
  {done : List VolumeResponse} {r : VolumeRequest}

lemma init : Kept .init [] [] := ⟨fun _ h => (by cases h), .nil⟩

/-- The state and the tasks may change as long as no volume goes that nobody wants deleted. -/
lemma mono (h : Kept s phases done)
    (asked : ∀ volumeId, AskedToDelete phases done volumeId → AskedToDelete phases' done volumeId)
    (keeps : ∀ name volume, ¬ AskedToDelete phases' done volume.volumeId →
      s.volumes.lookup name = some volume → s'.volumes.lookup name = some volume) :
    Kept s' phases' done := by
  refine ⟨fun x hx name volume hcreated hnot => ?_, h.listed.imp ?_⟩
  · have hnot' := fun hasked => hnot (asked _ hasked)
    exact keeps name volume hnot (h.there x hx name volume hcreated hnot')
  · intro x y hxy name volume all hcreated hlisted hnot
    exact hxy name volume all hcreated hlisted fun hasked => hnot (asked _ hasked)

/-- A response is added to the ones there are. -/
lemma finish {x : VolumeResponse} (h : Kept s phases done)
    (asked : ∀ volumeId, AskedToDelete phases done volumeId →
      AskedToDelete phases' (done ++ [x]) volumeId)
    (created : ∀ name volume, Created x name volume → s.volumes.lookup name = some volume)
    (listed : ∀ all, x.result = .ok (.listed all) → ∀ name volume,
      s.volumes.lookup name = some volume → volume ∈ all) :
    Kept s phases' (done ++ [x]) := by
  refine ⟨fun y hy name volume hcreated hnot => ?_, ?_⟩
  · rcases List.mem_append.mp hy with hy | hy
    · exact h.there y hy name volume hcreated fun hasked => hnot (asked _ hasked)
    · rw [List.mem_singleton.mp hy] at hcreated
      exact created name volume hcreated
  · refine List.pairwise_append.mpr ⟨h.listed.imp ?_, List.pairwise_singleton _ _, ?_⟩
    · intro y z hyz name volume all hcreated hlisted hnot
      exact hyz name volume all hcreated hlisted fun hasked => hnot (asked _ hasked)
    · intro y hy z hz name volume all hcreated hlisted hnot
      rw [List.mem_singleton.mp hz] at hlisted
      have hthere := h.there y hy name volume hcreated fun hasked => hnot (asked _ hasked)
      exact listed all hlisted name volume hthere

/-- A step of a request that replaces no volume. -/
lemma step {c : Call} {g g' : VolumeRequest × VolumeStage}
    (h : Kept s (before ++ (r, g) :: after) done) (hstep : VolumeStep s c r g.2 g'.2 s')
    (new : s.insertsNew c) : Kept s' (before ++ (r, g') :: after) done := by
  refine h.mono (fun _ hasked => hasked.step) fun name volume hnot hv => ?_
  exact hstep.lookup_eq new (fun hdelete => hnot (.of_request hdelete)) hv

/-- The step with which a request ends. -/
lemma returns {c : Call} {g g' : VolumeRequest × VolumeStage} {past : List (Event signature)}
    {result : Except (Fault Status) VolumeReply}
    (h : Kept s (before ++ (r, g) :: after) done) (hstep : VolumeStep s c r g.2 g'.2 s')
    (new : s.insertsNew c) (hends : VolumeRequest.Ends g'.2 result) :
    Kept s' (before ++ after) (done ++ [⟨r, past, result⟩]) := by
  refine (h.step hstep new).finish (fun _ hasked => hasked.finish) ?_ ?_
  · rintro name volume ⟨⟨request, rfl, rfl⟩, hresult⟩
    cases hresult
    rw [show g'.2 = .ended (.created volume) from hends] at hstep
    exact hstep.created
  · intro all hresult name volume hv
    cases hresult
    rw [show g'.2 = .ended (.listed all) from hends] at hstep
    exact hstep.listed hv

end Kept

lemma allows_of_monitor {r : VolumeRequest} {past : List (Event signature)} {c : Call}
    (allowed : volumeMonitor.allows (volumeMonitor.after r.start past) c) :
    r.Allows (volumeMonitor.after r.start past).2 c := by
  have hfst : (volumeMonitor.after r.start past).1 = r := volumeMonitor_after_fst _ _
  have allowed' : (volumeMonitor.after r.start past).1.Allows
      (volumeMonitor.after r.start past).2 c := allowed
  rw [hfst] at allowed'
  exact allowed'

/-- Volumes are kept in every run that replaces none. -/
theorem kept_preserved :
    Preserved volumeService volumeMonitor VolumeRequest.start VolumeRequest.post InsertsNew
      Kept where
  meets := fun _ r _ => volumeProgram_meets r
  rely := fun _ _ _ _ _ _ => trivial
  arrives := fun P r _ _ h => h.mono (fun _ hasked => hasked.arrive) fun _ _ _ hv => hv
  refuses := by
    intro P r result _ _ hpost h
    -- a request that has made no call ends with an error only
    rcases result with e | reply
    · refine h.finish (fun _ hasked => hasked.refuse) ?_ ?_
      · rintro name volume ⟨_, hresult⟩
        cases hresult
      · intro all hresult
        cases hresult
    · cases hpost
  continues := by
    intro P before after r past c a s' _ hG answered allowed _ h
    exact h.step (volumeStep_of_answers (allows_of_monitor allowed) answered) hG
  returns := by
    intro P before after r past c a s' result _ hG answered allowed hpost h
    exact h.returns (volumeStep_of_answers (allows_of_monitor allowed) answered) hG hpost
  disturbed := fun _ _ moved => moved.elim

/-- Somebody has asked for the deletion of `volumeId` in the run. -/
def Deleted (steps : List VolumeTransition) (volumeId : String) : Prop :=
  ∃ x ∈ steps, x.label = .arrives (.delete ⟨volumeId⟩)

/-- Equal names got equal volumes, and every list holds the volumes that were returned before
it, as far as nobody has asked for their deletion. -/
structure Idempotent (steps : List VolumeTransition) (done : List VolumeResponse) : Prop where
  same : ∀ x ∈ done, ∀ y ∈ done, ∀ name volume volume', Created x name volume →
    Created y name volume' → ¬ Deleted steps volume.volumeId →
    ¬ Deleted steps volume'.volumeId →
    volume.volumeId = volume'.volumeId ∧ volume.volumeContext = volume'.volumeContext
  listed : done.Pairwise fun x y => ∀ name volume all, Created x name volume →
    y.result = .ok (.listed all) → ¬ Deleted steps volume.volumeId → volume ∈ all

/-- In every run that puts a volume only under a name that is not in the map, creating is
idempotent. -/
theorem create_volume_idempotent {steps : List VolumeTransition} {P : VolumePool}
    (run : volumeService.Run .init steps P)
    (new : ∀ x ∈ steps, InsertsNew x.source x.label) : Idempotent steps P.finished := by
  obtain ⟨_, kept⟩ := kept_preserved.run Kept.init run new
  have deleted : ∀ volumeId, AskedToDelete (P.phases volumeMonitor VolumeRequest.start)
      P.finished volumeId → Deleted steps volumeId := by
    rintro volumeId (⟨y, hy, hdelete⟩ | ⟨y, hy, hdelete⟩)
    · obtain ⟨t, ht, rfl⟩ := List.mem_map.mp hy
      obtain ⟨x, hx, hlabel⟩ := run.arrived.running t ht
      exact ⟨x, hx, by rw [hlabel, ← hdelete]⟩
    · obtain ⟨x, hx, hlabel⟩ := run.arrived.finished y hy
      exact ⟨x, hx, by rw [hlabel, hdelete]⟩
  refine ⟨?_, ?_⟩
  -- both volumes are still in the map, under the same name
  · intro x hx y hy name volume volume' hcreated hcreated' hnot hnot'
    have hthere := kept.there x hx name volume hcreated fun h => hnot (deleted _ h)
    have hthere' := kept.there y hy name volume' hcreated' fun h => hnot' (deleted _ h)
    have heq : volume = volume' := by
      rw [hthere] at hthere'
      exact Option.some.inj hthere'
    rw [heq]
    exact ⟨rfl, rfl⟩
  · refine kept.listed.imp fun hxy => ?_
    intro name volume all hcreated hlisted hnot
    exact hxy name volume all hcreated hlisted fun h => hnot (deleted _ h)

/-! Two requests for one claim -/

/-- The claim `1`, which asks for the `DataPod` `p`. -/
def samplePvc : ObjectMeta where
  name := some "claim"
  ns := some "default"
  uid := some "1"
  annotations := some (StringMap.ofList
    [("kubedal.arunaengine.org/data-node-name", "data"),
      ("kubedal.arunaengine.org/data-pod-name", "p"),
      ("kubedal.arunaengine.org/mount", "cache")])

/-- Answers with the one claim, and with ids that count. -/
def VolumeState.serve (s : VolumeState) : (c : Call) → Option (c.Reply × VolumeState)
  | .volumes (.lookup name) => some ⟨s.volumes.lookup name, s⟩
  | .volumes (.insert name volume) =>
    some ⟨(), { s with volumes := s.volumes.insert name volume }⟩
  | .volumes .values => some ⟨s.volumes.entries.map Sigma.snd, s⟩
  | .kube (.listPvcMetadata _ _) => some (Except.ok [samplePvc], s)
  | .newUuid =>
    let uuid := String.ofList (List.replicate s.used.length '0')
    if uuid ∈ s.used then none else some (uuid, { s with used := uuid :: s.used })
  | _ => none

lemma VolumeState.answers_of_serve (s : VolumeState) (c : Call) (a : c.Reply) (s' : VolumeState)
    (h : s.serve c = some (a, s')) : s.Answers c a s' := by
  rcases c with c | c | c | c | c | _ | _
  case volumes =>
    rcases c with name | ⟨name, volume⟩ | volumeId | _
    case removeById => cases h
    case values =>
      cases h
      exact ⟨.refl _, rfl⟩
    all_goals
      cases h
      first | rfl | exact ⟨rfl, rfl⟩
  case kube =>
    rcases c with _ | _ | _ | _ | _ | _ | _ | _ | _ | _ | _ | _ | _
    case listPvcMetadata =>
      cases h
      rfl
    all_goals cases h
  case newUuid =>
    simp only [VolumeState.serve] at h
    split at h
    · cases h
    · cases h
      exact ⟨‹_›, rfl⟩
  all_goals cases h

/-- The volume of the claim `1`. -/
def sampleCreate : VolumeRequest :=
  .create ⟨"pvc-1", none, .ofList [("resourceNamespace", "default")]⟩

/-- The steps of a request are not the arrival of another one. -/
lemma arrives_of_answersBy {R : VolumeState → (c : Call) → c.Reply → VolumeState → Prop}
    {r r' : VolumeRequest} {x : VolumeTransition} (h : x.AnswersBy R r) :
    x.label ≠ .arrives r' := by
  obtain ⟨past, e, hlabel, _⟩ := h
  rw [hlabel]
  exact fun h => by cases h

/-- Both requests look for the name before either of them puts its volume there. -/
lemma two_creates : ∃ (steps : List VolumeTransition) (P : VolumePool),
    volumeService.Run .init steps P ∧ (∀ x ∈ steps, ∀ r, x.label = .arrives r → r = sampleCreate) ∧
    ∃ x ∈ P.finished, ∃ y ∈ P.finished, ∃ volume volume', Created x "pvc-1" volume ∧
      Created y "pvc-1" volume' ∧ volume.volumeId ≠ volume'.volumeId := by
  obtain ⟨τ₁, q₁, s₁, τ₂, volume₂, s₂, τ₃, volume₃, s₃, hlook, hwait, hsecond, hfirst, hne⟩ :
      ∃ τ₁ q₁ s₁ τ₂ volume₂ s₂ τ₃ volume₃ s₃,
        Prog.follow VolumeState.serve 1 sampleCreate.program .init = some (τ₁, q₁, s₁) ∧
        q₁.outcome = none ∧
        Prog.follow VolumeState.serve 20 sampleCreate.program s₁ =
          some (τ₂, .pure (.created volume₂), s₂) ∧
        Prog.follow VolumeState.serve 20 q₁ s₂ = some (τ₃, .pure (.created volume₃), s₃) ∧
        volume₂.volumeId ≠ volume₃.volumeId :=
    ⟨_, _, _, _, _, _, _, _, _, rfl, rfl, rfl, rfl, by decide⟩
  have sound := VolumeState.answers_of_serve
  have exec₁ := Prog.exec_of_follow (fun _ _ _ _ h => h) hlook
  have exec₂ := Prog.exec_of_follow (fun _ _ _ _ h => h) hsecond
  have exec₃ := Prog.exec_of_follow (fun _ _ _ _ h => h) hfirst
  -- the first request looks the name up, and waits
  have run₁ : volumeService.Run .init _ _ := .step .start (.arrive (r := sampleCreate) trivial)
  rw [Pool.resume_of_none rfl] at run₁
  obtain ⟨steps₁, run₂, only₁, _⟩ := run₁.advance sound [] [] rfl rfl exec₁
  rw [Pool.resume_of_none hwait] at run₂
  -- the second one is handled to its end
  have run₃ := run₂.step (.arrive (r := sampleCreate) trivial)
  rw [Pool.resume_of_none rfl] at run₃
  obtain ⟨steps₂, run₄, only₂, _⟩ := run₃.advance sound [_] [] rfl rfl exec₂
  rw [Pool.resume_of_some rfl] at run₄
  -- and the first one goes on
  obtain ⟨steps₃, run₅, only₃, _⟩ := run₄.advance sound [] [] rfl hwait exec₃
  rw [Pool.resume_of_some rfl] at run₅
  refine ⟨_, _, run₅, fun x hx r hr => ?_, _, List.mem_append_left _ (List.mem_singleton_self _),
    _, List.mem_append_right _ (List.mem_singleton_self _), volume₂, volume₃,
    ⟨⟨_, rfl, rfl⟩, rfl⟩, ⟨⟨_, rfl, rfl⟩, rfl⟩, hne⟩
  rcases List.mem_append.mp hx with hx | hx
  · rcases List.mem_append.mp hx with hx | hx
    · rcases List.mem_append.mp hx with hx | hx
      · rcases List.mem_append.mp hx with hx | hx
        · rw [List.mem_singleton.mp hx] at hr
          cases hr
          rfl
        · exact absurd hr (arrives_of_answersBy (only₁ x hx))
      · rw [List.mem_singleton.mp hx] at hr
        cases hr
        rfl
    · exact absurd hr (arrives_of_answersBy (only₂ x hx))
  · exact absurd hr (arrives_of_answersBy (only₃ x hx))

/-- Two requests for one name get different volumes, though nobody has deleted any. -/
theorem create_volume_not_idempotent :
    ¬ ∀ (steps : List VolumeTransition) (P : VolumePool),
      volumeService.Run .init steps P → Idempotent steps P.finished := by
  intro claim
  obtain ⟨steps, P, run, only, x, hx, y, hy, volume, volume', hcreated, hcreated', hne⟩ :=
    two_creates
  have hnot : ∀ volumeId, ¬ Deleted steps volumeId := by
    rintro volumeId ⟨z, hz, hlabel⟩
    have := only z hz _ hlabel
    cases this
  have same := (claim steps P run).same x hx y hy _ _ _ hcreated hcreated' (hnot _) (hnot _)
  exact hne same.1

/-- The same two requests one after the other, and a list. -/
theorem create_volume_idempotent_in_turn :
    ∃ (steps : List VolumeTransition) (P : VolumePool), volumeService.Run .init steps P ∧
      P.finished.length = 3 ∧ Idempotent steps P.finished := by
  obtain ⟨done, s, hserial, hlength⟩ : ∃ done s,
      volumeService.serial (fun _ => serveIf VolumeState.insertsNew VolumeState.serve) 40
        [sampleCreate, sampleCreate, .list] .init = some (done, s) ∧ done.length = 3 :=
    ⟨_, _, rfl, rfl⟩
  obtain ⟨steps, hrun, hserved, _⟩ := Service.Run.serial
    (fun _ s c a s' h => VolumeState.answers_of_serve s c a s' (of_serveIf h).2)
    (fun _ _ _ => trivial) .start hserial
  refine ⟨steps, _, hrun, hlength, create_volume_idempotent hrun fun x hx => ?_⟩
  rcases hserved x hx with ⟨r, hlabel⟩ | ⟨r, past, c, a, hlabel, hserve⟩
  · rw [hlabel]
    trivial
  · rw [hlabel]
    exact (of_serveIf hserve).1

end Kubedal
