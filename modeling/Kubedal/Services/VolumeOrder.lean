import Kubedal.Services.VolumeOrigin
import Kubedal.Services.VolumeMap
import Kubedal.Utils.Commit

/-!
# Interleaved requests for volumes

`volumes_refine_map` is about requests one after another. Between the lookup of a name and the
insertion of the volume `create_volume` does not keep the mutex, but all its other calls leave the
map alone.

* `NamesApart`: of the requests in progress no two create a volume of one name;
* `volumes_linearizable`: then every interleaving looks like the requests one after another, in the
  order of their responses.
-/

namespace Kubedal

open Interaction Kube Resource

/-! ## The random ids of requests in progress -/

def drawnBy : Event signature → Option String
  | ⟨.newUuid, uuid⟩ => some uuid
  | _ => none

/-- The random ids that a request has got. -/
def draws (past : List (Event signature)) : List String := past.filterMap drawnBy

/-- The random ids in the hands of the requests in progress. -/
def VolumePool.drawn (P : VolumePool) : List String := P.running.flatMap fun t => draws t.past

/-- The ids in the hands of requests are all different, and no volume has one of them yet. -/
structure Unspent (s : VolumeState) (drawn : List String) : Prop where
  sound : s.Sound
  once : drawn.Nodup
  used : ∀ uuid ∈ drawn, uuid ∈ s.used
  unspent : ∀ uuid ∈ drawn, ∀ name volume, s.map name = some volume →
    volume.volumeId ≠ "kubedal-" ++ uuid

namespace Unspent

variable {s s' : VolumeState} {drawn drawn' : List String} {uuid name volumeId : String}
  {volume : CsiVolume}

lemma perm (h : Unspent s drawn) (same : drawn.Perm drawn') : Unspent s drawn' := by
  refine ⟨h.sound, same.nodup h.once, fun uuid hu => ?_, fun uuid hu => ?_⟩
  · exact h.used uuid (same.mem_iff.mpr hu)
  · exact h.unspent uuid (same.mem_iff.mpr hu)

lemma sublist (h : Unspent s drawn) (sub : drawn'.Sublist drawn) : Unspent s drawn' := by
  refine ⟨h.sound, h.once.sublist sub, fun uuid hu => ?_, fun uuid hu => ?_⟩
  · exact h.used uuid (sub.subset hu)
  · exact h.unspent uuid (sub.subset hu)

lemma draw (h : Unspent s drawn) (fresh : uuid ∉ s.used) :
    Unspent { s with used := uuid :: s.used } (uuid :: drawn) := by
  have sound : VolumeState.Sound { s with used := uuid :: s.used } := by
    refine ⟨h.sound.distinct, fun name volume there => ?_⟩
    obtain ⟨uuid', hused, hid⟩ := h.sound.drawn name volume there
    exact ⟨uuid', List.mem_cons_of_mem _ hused, hid⟩
  refine ⟨sound, List.nodup_cons.mpr ⟨fun hu => fresh (h.used uuid hu), h.once⟩, ?_, ?_⟩
  · intro uuid' hu
    rcases List.mem_cons.mp hu with rfl | hu
    · exact List.mem_cons_self
    · exact List.mem_cons_of_mem _ (h.used uuid' hu)
  · intro uuid' hu name volume there
    rcases List.mem_cons.mp hu with rfl | hu
    · exact h.sound.new fresh there
    · exact h.unspent uuid' hu name volume there

/-- An id that no volume has might as well not have been given out. -/
lemma sound_insert (h : Unspent s drawn) (hu : uuid ∈ drawn)
    (hid : volume.volumeId = "kubedal-" ++ uuid) :
    VolumeState.Sound { s with volumes := s.volumes.insert name volume } := by
  have sound : VolumeState.Sound ⟨s.volumes, s.used.filter fun uuid' => uuid' ≠ uuid⟩ := by
    refine ⟨h.sound.distinct, fun name' volume' there => ?_⟩
    obtain ⟨uuid', hused, hid'⟩ := h.sound.drawn name' volume' there
    have hne : uuid' ≠ uuid := by
      rintro rfl
      exact h.unspent uuid' hu name' volume' there hid'
    exact ⟨uuid', List.mem_filter.mpr ⟨hused, by simpa using hne⟩, hid'⟩
  have inserted : VolumeState.Sound ⟨s.volumes.insert name volume,
      uuid :: s.used.filter fun uuid' => uuid' ≠ uuid⟩ := sound.insert (by simp) hid
  refine ⟨inserted.distinct, fun name' volume' there => ?_⟩
  obtain ⟨uuid', hused, hid'⟩ := inserted.drawn name' volume' there
  rcases List.mem_cons.mp hused with rfl | hused
  · exact ⟨uuid', h.used uuid' hu, hid'⟩
  · exact ⟨uuid', (List.mem_filter.mp hused).1, hid'⟩

lemma insert (h : Unspent s (uuid :: drawn)) (hid : volume.volumeId = "kubedal-" ++ uuid) :
    Unspent { s with volumes := s.volumes.insert name volume } drawn := by
  obtain ⟨hnot, once⟩ := List.nodup_cons.mp h.once
  refine ⟨h.sound_insert List.mem_cons_self hid, once, fun uuid' hu => ?_, ?_⟩
  · exact h.used uuid' (List.mem_cons_of_mem _ hu)
  · intro uuid' hu name' volume' there
    have there' : Function.update s.map name (some volume) name' = some volume' := by
      rw [← VolumeState.map_insert s name volume s.used]
      exact there
    by_cases hname : name' = name
    · rw [hname, Function.update_self] at there'
      cases there'
      rw [hid]
      intro heq
      have hsame : uuid = uuid' := (String.append_right_inj "kubedal-").mp heq
      exact hnot (hsame ▸ hu)
    · rw [Function.update_of_ne hname] at there'
      exact h.unspent uuid' (List.mem_cons_of_mem _ hu) name' volume' there'

lemma remove (h : Unspent s drawn) (removes : s.Removes volumeId s') : Unspent s' drawn := by
  obtain ⟨hmap, hused⟩ := h.sound.map_removes removes
  refine ⟨h.sound.removes removes, h.once, fun uuid hu => ?_, fun uuid hu name volume there => ?_⟩
  · rw [hused]
    exact h.used uuid hu
  · rw [hmap] at there
    exact h.unspent uuid hu name volume (VolumeMap.without_eq_some.mp there).1

end Unspent

/-! ## What a request has drawn when it makes a volume -/

/-- A new volume has an id that its request has drawn, and the capacity that it asks for. -/
def InsertsDrawn (r : CreateVolumeRequest) (past : List (Event signature)) (c : Call) : Prop :=
  ∀ name volume, c = .volumes (.insert name volume) → ∃ uuid ∈ draws past,
    volume.volumeId = "kubedal-" ++ uuid ∧ volume.capacityBytes = capacityBytes r.capacityRange

section
variable {r : CreateVolumeRequest} {past : List (Event signature)}

/-- The requests of a creation are monitored by their past. -/
def drawMonitor (r : CreateVolumeRequest) : Monitor signature (List (Event signature)) :=
  Monitor.history (InsertsDrawn r) fun _ _ => True

def NoInsert (c : Call) : Prop := ∀ name volume, c ≠ .volumes (.insert name volume)

/-- A program that makes no volume. -/
lemma wp_noInsert {α : Type} {p : Handler α}
    {Q : List (Event signature) → Except (Fault Status) α → Prop}
    (hp : p.Uses NoInsert) (hQ : ∀ τ result, Q (past ++ τ) result) :
    p.wp (drawMonitor r) past Q :=
  hp.wp_history (fun _ _ hc name volume h => absurd h (hc name volume)) fun τ result _ =>
    hQ τ result

lemma createVolume_draws :
    (createVolume r).wp (drawMonitor r) past fun _ _ => True := by
  unfold createVolume
  split
  · trivial
  refine Prog.wp_bind (wp_noInsert (uses_perform (by simp [NoInsert])) fun τ result => ?_)
  rcases result with e | existing
  · trivial
  rcases existing with _ | volume
  case some => trivial
  show (createNewVolume r).wp _ _ _
  unfold createNewVolume
  refine Prog.wp_bind (wp_noInsert (uses_orReturn _) fun τ result => ?_)
  rcases result with e | ns
  · trivial
  refine Prog.wp_bind (wp_noInsert (uses_getPvc (by simp [NoInsert])) fun τ result => ?_)
  rcases result with e | pvcMeta
  · trivial
  refine Prog.wp_bind (wp_noInsert (uses_orReturn _) fun τ result => ?_)
  rcases result with e | context
  · trivial
  -- the volume gets the id that is drawn here
  refine Prog.wp_bind ⟨fun name volume h => (by cases h), fun uuid _ => ?_⟩
  refine Prog.wp_bind ⟨fun name volume h => ?_, fun _ _ => trivial⟩
  cases h
  refine ⟨uuid, List.mem_filterMap.mpr ⟨⟨.newUuid, uuid⟩, ?_, rfl⟩, rfl, rfl⟩
  exact List.mem_append_right _ List.mem_cons_self

lemma createProgram_draws :
    (VolumeRequest.create r).program.wp (drawMonitor r) [] fun _ _ => True := by
  refine Prog.wp_bind (Prog.wp_mono createVolume_draws fun past' result _ => ?_)
  rcases result with e | volume <;> trivial

end

/-! ## What a call does -/

section
variable {s s' : VolumeState} {r : VolumeRequest} {g : VolumeStage} {c : Call} {a : c.Reply}
  {past : List (Event signature)} {drawn others : List String}

lemma draws_append (past τ : List (Event signature)) : draws (past ++ τ) = draws past ++ draws τ :=
  List.filterMap_append

lemma VolumeRequest.error_of_ends {result : Except (Fault Status) VolumeReply}
    (waits : g = .waiting ∨ g = .missing) (h : VolumeRequest.Ends g result) :
    ∃ e, result = .error e := by
  rcases result with e | reply
  · exact ⟨e, rfl⟩
  · rw [show g = .ended reply from h] at waits
    rcases waits with h | h <;> cases h

lemma VolumeRequest.ok_of_ends {reply : VolumeReply} {result : Except (Fault Status) VolumeReply}
    (h : VolumeRequest.Ends (.ended reply) result) : result = .ok reply := by
  rcases result with e | reply'
  · rcases h with h | h <;> cases h
  · cases h
    rfl

/-- A call that is no insertion: the ids stay in the hands of those who have drawn them. -/
lemma Unspent.answered (h : Unspent s (draws past ++ others)) (answered : s.Answers c a s')
    (other : NoInsert c) :
    Unspent s' (draws (past ++ [⟨c, a⟩]) ++ others) := by
  rw [draws_append]
  have quiet : ∀ e : Event signature, drawnBy e = none → s' = s →
      Unspent s' (draws past ++ draws [e] ++ others) := by
    intro e he same
    have hnone : draws [e] = [] := List.filterMap_cons_none he
    rw [hnone, List.append_nil, same]
    exact h
  rcases c with c | c | c | c | c | _ | _
  case volumes =>
    rcases c with name | ⟨name, volume⟩ | volumeId | _
    case insert => exact absurd rfl (other name volume)
    case removeById =>
      have hnone : draws [⟨.volumes (.removeById volumeId), a⟩] = [] := rfl
      rw [hnone, List.append_nil]
      exact h.remove answered
    all_goals
      obtain ⟨_, same⟩ := answered
      exact quiet _ rfl same
  case newUuid =>
    obtain ⟨fresh, rfl⟩ := answered
    have moved : ∀ uuid : String,
        (uuid :: (draws past ++ others)).Perm
          (draws past ++ draws [⟨.newUuid, uuid⟩] ++ others) := by
      intro uuid
      rw [List.append_assoc]
      exact List.perm_middle.symm
    exact (h.draw fresh).perm (moved a)
  all_goals exact quiet _ rfl answered

/-- An insertion uses up one of the ids that its request has drawn. -/
lemma Unspent.inserted {name : String} {volume : CsiVolume}
    (h : Unspent s (draws past ++ others))
    (spends : ∃ uuid ∈ draws past, volume.volumeId = "kubedal-" ++ uuid) :
    Unspent { s with volumes := s.volumes.insert name volume } others := by
  obtain ⟨uuid, hu, hid⟩ := spends
  have first : (uuid :: others).Subperm (draws past ++ others) := by
    obtain ⟨before, after, heq⟩ := List.append_of_mem hu
    rw [heq, List.append_assoc, List.cons_append]
    refine List.Subperm.trans ?_ List.perm_middle.symm.subperm
    have rest : others.Sublist (before ++ (after ++ others)) :=
      (List.sublist_append_right _ _).trans (List.sublist_append_right _ _)
    exact (rest.cons_cons _).subperm
  obtain ⟨drawn, same, sub⟩ := first
  exact ((h.sublist sub).perm same).insert hid

/-- A request changes the map when it ends, and not before. -/
lemma steps_of_answers (h : Unspent s drawn) (allowed : r.Allows g c) (answered : s.Answers c a s')
    (new : s.insertsNew c)
    (spends : ∀ name volume, c = .volumes (.insert name volume) →
      (∃ uuid ∈ drawn, volume.volumeId = "kubedal-" ++ uuid) ∧
      ∀ r', r = .create r' → volume.capacityBytes = capacityBytes r'.capacityRange) :
    (∀ c', r.Allows (g.next c a) c' → s'.map = s.map) ∧
      ∀ result, VolumeRequest.Ends (g.next c a) result → s.map.Step r result s'.map := by
  have fails : ∀ {g' : VolumeStage}, g' = .waiting ∨ g' = .missing → s'.map = s.map →
      ∀ result, VolumeRequest.Ends g' result → s.map.Step r result s'.map := by
    intro g' waits same result ends
    obtain ⟨e, rfl⟩ := VolumeRequest.error_of_ends waits ends
    rw [same]
    exact .failed
  have ended : ∀ {reply : VolumeReply} c', ¬ r.Allows (.ended reply) c' := by
    intro reply c' h
    rcases r with r | r | _ <;> exact h
  rcases r with r | r | _
  · rcases g with _ | _ | reply
    · rcases c with c | c | c | c | c | _ | _
      case volumes =>
        rcases c with name | ⟨name, volume⟩ | volumeId | _
        case lookup =>
          cases allowed
          obtain ⟨ha, rfl⟩ := answered
          rcases a with _ | volume
          · exact ⟨fun _ _ => rfl, fails (.inr rfl) rfl⟩
          · refine ⟨fun c' h => absurd h (ended c'), fun result ends => ?_⟩
            rw [VolumeRequest.ok_of_ends ends]
            exact .found ha.symm
        all_goals exact allowed.elim
      all_goals exact allowed.elim
    · rcases c with c | c | c | c | c | _ | _
      case volumes =>
        rcases c with name | ⟨name, volume⟩ | volumeId | _
        case insert =>
          cases allowed
          cases answered
          obtain ⟨⟨uuid, hu, hid⟩, capacity⟩ := spends _ _ rfl
          refine ⟨fun c' h => absurd h (ended c'), fun result ends => ?_⟩
          rw [VolumeRequest.ok_of_ends ends, VolumeState.map_insert]
          have missing : s.map r.name = none := Option.isNone_iff_eq_none.mp new
          refine .created missing (fun name other there => ?_) (capacity r rfl)
          rw [hid]
          exact h.unspent uuid hu name other there
        all_goals exact allowed.elim
      case newUuid =>
        obtain ⟨_, rfl⟩ := answered
        exact ⟨fun _ _ => rfl, fails (.inr rfl) rfl⟩
      all_goals
        cases answered
        exact ⟨fun _ _ => rfl, fails (.inr rfl) rfl⟩
    · exact allowed.elim
  · rcases g with _ | _ | reply
    · rcases c with c | c | c | c | c | _ | _
      case volumes =>
        rcases c with name | ⟨name, volume⟩ | volumeId | _
        case removeById =>
          cases allowed
          refine ⟨fun c' h => absurd h (ended c'), fun result ends => ?_⟩
          rw [VolumeRequest.ok_of_ends ends, (h.sound.map_removes answered).1]
          exact .deleted
        all_goals exact allowed.elim
      all_goals exact allowed.elim
    all_goals exact allowed.elim
  · rcases g with _ | _ | reply
    · rcases c with c | c | c | c | c | _ | _
      case volumes =>
        rcases c with name | ⟨name, volume⟩ | volumeId | _
        case values =>
          obtain ⟨all, rfl⟩ := answered
          refine ⟨fun c' h => absurd h (ended c'), fun result ends => ?_⟩
          rw [VolumeRequest.ok_of_ends ends]
          obtain ⟨once, mem⟩ := h.sound.listed all
          exact .listed once mem
        all_goals exact allowed.elim
      all_goals exact allowed.elim
    all_goals exact allowed.elim

end

/-! ## Runs -/

section
variable {s₀ : VolumeState} {steps : List VolumeTransition} {P P' : VolumePool}
  {r : VolumeRequest} {past : List (Event signature)} {c : Call} {a : c.Reply}

lemma volumes_watched (run : volumeService.Run s₀ steps P) :
    P.Watched volumeMonitor VolumeRequest.start VolumeRequest.post := by
  have preserved : Preserved volumeService volumeMonitor VolumeRequest.start VolumeRequest.post
      (fun _ _ => True) fun _ _ _ => True :=
    { meets := fun _ r _ => volumeProgram_meets r
      rely := fun _ _ _ _ _ _ => trivial
      arrives := fun _ _ _ _ _ => trivial
      refuses := fun _ _ _ _ _ _ _ => trivial
      continues := fun _ _ _ _ _ _ _ _ _ _ _ _ _ _ => trivial
      returns := fun _ _ _ _ _ _ _ _ _ _ _ _ _ _ _ => trivial
      disturbed := fun _ _ _ _ _ => trivial }
  exact (preserved.run trivial run fun _ _ => trivial).1

/-- How far a request is that has been answered `past`. -/
def VolumeRequest.stage (r : VolumeRequest) (past : List (Event signature)) : VolumeStage :=
  (volumeMonitor.after r.start past).2

/-- The request that is answered stays in progress, or it ends in that step. -/
inductive Moves (P P' : VolumePool) (before after : List (Task signature VolumeRequest
    (Fault Status) VolumeReply)) (r : VolumeRequest) (past : List (Event signature)) : Prop where
  | waits {p : Handler VolumeReply} {c' : Call}
      (running : P'.running = before ++ ⟨r, past, p⟩ :: after)
      (finished : P'.finished = P.finished) (allowed : r.Allows (r.stage past) c')
  | ends {result : Except (Fault Status) VolumeReply} (running : P'.running = before ++ after)
      (finished : P'.finished = P.finished ++ [⟨r, past, result⟩])
      (ended : VolumeRequest.Ends (r.stage past) result)

lemma stage_snoc (r : VolumeRequest) (past : List (Event signature)) (c : Call) (a : c.Reply) :
    r.stage (past ++ [⟨c, a⟩]) = (r.stage past).next c a := by
  unfold VolumeRequest.stage
  rw [Monitor.after_append]
  rfl

lemma moves_of_step (run : volumeService.Run s₀ steps P)
    (last : volumeService.Step P (.answered r past ⟨c, a⟩) P') :
    ∃ before after k, P.running = before ++ ⟨r, past, .call c k⟩ :: after ∧
      P.state.Answers c a P'.state ∧ r.Allows (r.stage past) c ∧
      Moves P P' before after r (past ++ [⟨c, a⟩]) := by
  obtain ⟨before, after, k, hrunning, answered, hP'⟩ := Service.step_answered last
  have watched := volumes_watched run
  have watched' := volumes_watched (run.step last)
  obtain ⟨allowed, _⟩ := watched.meets _ (Pool.mem_of_waiting hrunning)
  refine ⟨before, after, k, hrunning, answered, allows_of_monitor allowed, ?_⟩
  cases ho : (k a).outcome with
  | none =>
    rw [Pool.resume_of_none ho] at hP'
    have running : P'.running = before ++ ⟨r, past ++ [⟨c, a⟩], k a⟩ :: after := by rw [hP']
    obtain ⟨c', k', hk'⟩ := Prog.outcome_eq_none_iff.mp ho
    have meets := watched'.meets _ (Pool.mem_of_waiting running)
    rw [show (⟨r, past ++ [⟨c, a⟩], k a⟩ : Task signature VolumeRequest (Fault Status)
      VolumeReply).prog = _ from hk'] at meets
    exact .waits running (by rw [hP']) (allows_of_monitor meets.1)
  | some result =>
    rw [Pool.resume_of_some ho] at hP'
    have finished : P'.finished = P.finished ++ [⟨r, past ++ [⟨c, a⟩], result⟩] := by rw [hP']
    refine .ends (by rw [hP']) finished ?_
    exact watched'.met _ (by rw [finished]; exact List.mem_append_right _ List.mem_cons_self)

lemma VolumePool.drawn_perm {P : VolumePool} {before after : List (Task signature VolumeRequest
    (Fault Status) VolumeReply)} {t : Task signature VolumeRequest (Fault Status) VolumeReply}
    (h : P.running = before ++ t :: after) :
    (VolumePool.drawn P).Perm
      (draws t.past ++ (before ++ after).flatMap fun t => draws t.past) := by
  rw [VolumePool.drawn, h, List.flatMap_append, List.flatMap_cons, List.flatMap_append]
  exact List.perm_append_comm_assoc _ _ _

/-- A volume that is inserted has an id that its request has drawn. -/
lemma spends_of_step (run : volumeService.Run s₀ steps P)
    (last : volumeService.Step P (.answered r past ⟨c, a⟩) P') {name : String}
    {volume : CsiVolume} (hc : c = .volumes (.insert name volume)) :
    (∃ uuid ∈ draws past, volume.volumeId = "kubedal-" ++ uuid) ∧
      ∀ r', r = .create r' → volume.capacityBytes = capacityBytes r'.capacityRange := by
  obtain ⟨q, exec⟩ := run.exec_of_step last
  subst hc
  obtain ⟨r', rfl, _⟩ := insert_of_create exec
  have drawn := Prog.wp_event createProgram_draws exec fun _ _ _ _ _ _ => trivial
  rw [drawMonitor, Monitor.history_after] at drawn
  obtain ⟨uuid, hu, hid, capacity⟩ := drawn name volume rfl
  refine ⟨⟨uuid, hu, hid⟩, ?_⟩
  rintro _ ⟨⟩
  exact capacity

/-- One step: the ids stay unspent, and the map changes with a response only. -/
lemma unspent_step (run : volumeService.Run s₀ steps P) {l : VolumeLabel}
    (last : volumeService.Step P l P') (new : InsertsNew P l)
    (unspent : Unspent P.state (VolumePool.drawn P)) :
    Unspent P'.state (VolumePool.drawn P') ∧
      (P'.finished = P.finished → P'.state.map = P.state.map) ∧
      ∀ y, P'.finished = P.finished ++ [y] →
        P.state.map.Step y.request y.result P'.state.map := by
  cases l with
  | disturbed =>
    cases last with
    | disturb moved => exact moved.elim
  | arrives r =>
    have same := Service.step_arrives last
    rw [same]
    have watched' := volumes_watched (run.step last)
    refine ⟨?_, fun _ => rfl, fun y hy => ?_⟩
    · have drawn : VolumePool.drawn P' = VolumePool.drawn P := by
        cases last with
        | arrive admitted =>
          unfold VolumePool.drawn Pool.resume
          split <;> simp [draws]
      rw [drawn]
      exact unspent
    · -- a request that makes no call has failed
      rcases Service.step_finishes last hy with ⟨_, hpast⟩ | ⟨_, _, hlabel, _⟩
      · have met := watched'.met y (by rw [hy]; exact List.mem_append_right _ List.mem_cons_self)
        rw [hpast] at met
        obtain ⟨e, he⟩ := VolumeRequest.error_of_ends (.inl rfl) met
        rw [he]
        exact .failed
      · cases hlabel
  | answered r past e =>
    obtain ⟨c, a⟩ := e
    obtain ⟨before, after, k, hrunning, answered, allowed, moves⟩ := moves_of_step run last
    have drawn := VolumePool.drawn_perm hrunning
    have unspent' := unspent.perm drawn
    obtain ⟨waits, ends⟩ := steps_of_answers unspent' allowed answered new fun name volume hc => by
      obtain ⟨⟨uuid, hu, hid⟩, capacity⟩ := spends_of_step run last hc
      exact ⟨⟨uuid, List.mem_append_left _ hu, hid⟩, capacity⟩
    rw [← stage_snoc] at waits ends
    have differs : ∀ {y : VolumeResponse}, P.finished ≠ P.finished ++ [y] := by
      intro y h
      simp at h
    cases moves with
    | @waits p c' running finished allowed' =>
      refine ⟨?_, fun _ => waits c' allowed', fun y hy => ?_⟩
      · have other : NoInsert c := by
          -- an insertion would have been the last call
          rintro name volume rfl
          rw [stage_snoc] at allowed'
          rcases r with r | r | _ <;> exact allowed'
        exact (unspent'.answered answered other).perm (VolumePool.drawn_perm running).symm
      · rw [finished] at hy
        exact absurd hy differs
    | @ends result running finished ended =>
      refine ⟨?_, fun h => ?_, fun y hy => ?_⟩
      · have rest : VolumePool.drawn P' = (before ++ after).flatMap fun t => draws t.past := by
          rw [VolumePool.drawn, running]
        rw [rest]
        by_cases insertion : ∃ name volume, c = .volumes (.insert name volume)
        · obtain ⟨name, volume, rfl⟩ := insertion
          rw [show P'.state = _ from answered]
          exact unspent'.inserted (spends_of_step run last rfl).1
        · have other : NoInsert c := fun name volume hc => insertion ⟨name, volume, hc⟩
          exact (unspent'.answered answered other).sublist (List.sublist_append_right _ _)
      · rw [finished] at h
        exact absurd h.symm differs
      · rw [finished] at hy
        rw [← List.singleton_inj.mp (List.append_cancel_left hy)]
        exact ends result ended

lemma unspent_of_run (run : volumeService.Run .init steps P)
    (new : ∀ x ∈ steps, InsertsNew x.source x.label) :
    Unspent P.state (VolumePool.drawn P) := by
  induction run with
  | start => exact ⟨.init, List.nodup_nil, fun _ h => (by cases h), fun _ h => (by cases h)⟩
  | @step steps P P' l run last ih =>
    have unspent := ih fun x hx => new x (List.mem_append_left _ hx)
    have hnew := new _ (List.mem_append_right _ List.mem_cons_self)
    exact (unspent_step run last hnew unspent).1

/-- A run in which no volume replaces another one. -/
theorem refinesMap_of_insertsNew (run : volumeService.Run .init steps P)
    (new : ∀ x ∈ steps, InsertsNew x.source x.label) : RefinesMap P.finished P.state := by
  have step : ∀ x ∈ steps,
      (x.target.finished = x.source.finished → x.target.state.map = x.source.state.map) ∧
      ∀ y, x.target.finished = x.source.finished ++ [y] →
        x.source.state.map.Step y.request y.result x.target.state.map := by
    intro x hx
    obtain ⟨earlier, hearlier, run', last⟩ := run.of_mem hx
    have hsub : earlier ⊆ steps := ((List.prefix_append _ _).trans hearlier).subset
    have unspent := unspent_of_run run' fun x hx => new x (hsub hx)
    exact (unspent_step run' last (new x hx) unspent).2
  have trace : Service.Trace VolumeMap.Step .empty P.finished P.state.map :=
    run.trace VolumeState.map (fun x hx => (step x hx).1) fun x hx => (step x hx).2
  exact ⟨trace, (unspent_of_run run new).sound.distinct, repeats_of_trace trace⟩

/-! ## Names apart -/

/-- The name that the request wants a volume for. -/
def VolumeRequest.createsFor : VolumeRequest → Option String
  | .create r => some r.name
  | _ => none

/-- Of the requests in progress, no two create a volume of one name. -/
def NamesApart (P : VolumePool) : Prop :=
  (P.running.filterMap fun t => t.request.createsFor).Nodup

/-- What a request has not found is still not there. -/
def StillMissing (P : VolumePool) : Prop :=
  ∀ t ∈ P.running, ∀ r, t.request = .create r → VolumeRequest.stage (.create r) t.past = .missing →
    P.state.map r.name = none

/-- A call that makes no volume puts none into the map. -/
lemma missing_step {r' : CreateVolumeRequest} {s s' : VolumeState} (answered : s.Answers c a s')
    (other : ∀ volume, c ≠ .volumes (.insert r'.name volume)) (missing : s.map r'.name = none) :
    s'.map r'.name = none := by
  cases hmap : s'.map r'.name with
  | none => rfl
  | some volume =>
    rcases lookup_of_volumeStep answered hmap with old | hc
    · exact absurd (missing.symm.trans old) (by simp)
    · exact absurd hc (other volume)

lemma missing_of_next {r' : CreateVolumeRequest} {g : VolumeStage} {s s' : VolumeState}
    (allowed : (VolumeRequest.create r').Allows g c) (answered : s.Answers c a s')
    (next : g.next c a = .missing) (missing : g = .missing → s.map r'.name = none) :
    s'.map r'.name = none := by
  rcases g with _ | _ | reply
  · rcases c with c | c | c | c | c | _ | _
    case volumes =>
      rcases c with name | ⟨name, volume⟩ | volumeId | _
      case lookup =>
        cases allowed
        obtain ⟨ha, rfl⟩ := answered
        rcases a with _ | volume
        · exact ha.symm
        · cases next
      all_goals exact allowed.elim
    all_goals exact allowed.elim
  · refine missing_step answered (fun volume hc => ?_) (missing rfl)
    subst hc
    cases next
  · exact allowed.elim

lemma stillMissing_step (run : volumeService.Run s₀ steps P) {l : VolumeLabel}
    (last : volumeService.Step P l P') (apart : NamesApart P) (missing : StillMissing P) :
    StillMissing P' := by
  cases l with
  | disturbed =>
    cases last with
    | disturb moved => exact moved.elim
  | arrives r =>
    have same := Service.step_arrives last
    intro t ht r' hr hstage
    rw [same]
    cases last with
    | arrive admitted =>
      rcases Pool.mem_running_resume ht with ⟨rfl, _⟩ | ht
      · cases hstage
      · exact missing t (by simpa using ht) r' hr hstage
  | answered r past e =>
    obtain ⟨c, a⟩ := e
    obtain ⟨before, after, k, hrunning, answered, allowed, moves⟩ := moves_of_step run last
    -- the others look for other names
    have others : ∀ t ∈ before ++ after, ∀ r', t.request = .create r' →
        VolumeRequest.stage (.create r') t.past = .missing → P'.state.map r'.name = none := by
      intro t ht r' hr hstage
      have there := Pool.mem_of_others hrunning ht
      refine missing_step answered (fun volume hc => ?_) (missing t there r' hr hstage)
      subst hc
      obtain ⟨q, exec⟩ := run.exec_of_step last
      obtain ⟨r'', rfl, hname, _⟩ := insert_of_create exec
      rw [NamesApart, hrunning, List.filterMap_append] at apart
      have apart' : (List.filterMap (fun t => t.request.createsFor) before ++
          r''.name :: List.filterMap (fun t => t.request.createsFor) after).Nodup := apart
      refine (List.nodup_middle.mp apart').notMem ?_
      rw [← List.filterMap_append, hname]
      exact List.mem_filterMap.mpr ⟨t, ht, by rw [hr]; rfl⟩
    cases moves with
    | ends running =>
      intro t ht
      rw [running] at ht
      exact others t ht
    | @waits p c' running finished allowed' =>
      intro t ht r' hr hstage
      rw [running] at ht
      rcases eq_or_mem_others ht with rfl | ht
      · cases hr
        rw [stage_snoc] at hstage
        exact missing_of_next allowed answered hstage
          (missing _ (Pool.mem_of_waiting hrunning) r' rfl)
      · exact others t ht r' hr hstage

lemma stillMissing_of_run (run : volumeService.Run s₀ steps P)
    (apart : ∀ x ∈ steps, NamesApart x.source) : StillMissing P := by
  induction run with
  | start => exact fun _ h => (by cases h)
  | @step steps P P' l run last ih =>
    have missing := ih fun x hx => apart x (List.mem_append_left _ hx)
    have names := apart _ (List.mem_append_right _ List.mem_cons_self)
    exact stillMissing_step run last names missing

/-- Requests for different names replace no volumes. -/
lemma insertsNew_of_apart (run : volumeService.Run s₀ steps P)
    (apart : ∀ x ∈ steps, NamesApart x.source) : ∀ x ∈ steps, InsertsNew x.source x.label := by
  intro x hx
  obtain ⟨earlier, hearlier, run', last⟩ := run.of_mem hx
  have hsub : earlier ⊆ steps := ((List.prefix_append _ _).trans hearlier).subset
  have missing := stillMissing_of_run run' fun x hx => apart x (hsub hx)
  rcases hl : x.label with r | ⟨r, past, ⟨c, a⟩⟩ | _
  case answered =>
    rw [hl] at last
    obtain ⟨before, after, k, hrunning, answered, allowed, moves⟩ := moves_of_step run' last
    show x.source.state.insertsNew c
    unfold VolumeState.insertsNew
    split
    · rename_i name volume
      obtain ⟨q, exec⟩ := run'.exec_of_step last
      obtain ⟨r', rfl, rfl, _⟩ := insert_of_create exec
      rw [Option.isNone_iff_eq_none]
      refine missing _ (Pool.mem_of_waiting hrunning) r' rfl ?_
      rcases hg : VolumeRequest.stage (.create r') past with _ | _ | reply
      case missing => rfl
      all_goals
        rw [hg] at allowed
        exact allowed.elim
    · rfl
  all_goals trivial

/-- The run looks like its requests one after another: they act on a partial map in the order of
their responses, and what has ended before a step comes first in that order. -/
structure Linearized (steps : List VolumeTransition) (P : VolumePool) : Prop where
  refines : RefinesMap P.finished P.state
  inTime : ∀ x ∈ steps, x.source.finished <+: P.finished

/-- Where no two requests in progress create a volume of one name, every interleaving of requests
to create, delete and list volumes looks like these requests one after another. -/
theorem volumes_linearizable (run : volumeService.Run .init steps P)
    (apart : ∀ x ∈ steps, NamesApart x.source) : Linearized steps P :=
  ⟨refinesMap_of_insertsNew run (insertsNew_of_apart run apart), fun _ hx => run.finished_prefix hx⟩

/-! Two requests that overlap -/

/-- The name that is asked for in the step. -/
def asksFor : VolumeLabel → Option String
  | .arrives r => r.createsFor
  | _ => none

/-- The names that were asked for in the run. -/
def namesAsked (steps : List VolumeTransition) : List String :=
  steps.filterMap fun x => asksFor x.label

lemma namesAsked_snoc (steps : List VolumeTransition) (x : VolumeTransition) :
    namesAsked (steps ++ [x]) = namesAsked steps ++ (asksFor x.label).toList := by
  unfold namesAsked
  rw [List.filterMap_append]
  cases hx : asksFor x.label <;> simp [hx]

lemma namesAsked_of_answers {later : List VolumeTransition}
    (only : ∀ x ∈ later, x.AnswersBy VolumeState.Answers r) :
    namesAsked (steps ++ later) = namesAsked steps := by
  have none : later.filterMap (fun x => asksFor x.label) = [] := by
    rw [List.filterMap_eq_nil_iff]
    intro x hx
    obtain ⟨past, e, hlabel, _⟩ := only x hx
    rw [hlabel]
    rfl
  unfold namesAsked
  rw [List.filterMap_append, none, List.append_nil]

/-- The names of the requests in progress were asked for. -/
lemma names_subperm (run : volumeService.Run s₀ steps P) :
    (P.running.filterMap fun t => t.request.createsFor).Subperm (namesAsked steps) := by
  induction run with
  | start => exact List.Subperm.refl _
  | @step steps P P' l run last ih =>
    have more := ih.trans (List.sublist_append_left _ (asksFor l).toList).subperm
    rw [namesAsked_snoc]
    cases last with
    | @arrive r admitted =>
      cases ho : (volumeService.program r).outcome with
      | none =>
        rw [Pool.resume_of_none ho, List.filterMap_append]
        have one : [(⟨r, [], volumeService.program r⟩ : Task signature VolumeRequest (Fault Status)
            VolumeReply)].filterMap (fun t => t.request.createsFor) = r.createsFor.toList := by
          cases hr : r.createsFor <;> simp [hr]
        rw [one]
        exact (List.subperm_append_right _).mpr ih
      | some result =>
        rw [Pool.resume_of_some ho, List.append_nil]
        exact more
    | @answer before after r past c k a s' waiting answered =>
      refine List.Subperm.trans (List.Sublist.subperm ?_) more
      rw [waiting]
      cases ho : (k a).outcome with
      | none =>
        rw [Pool.resume_of_none ho]
        simp [List.filterMap_append, List.filterMap_cons]
      | some result =>
        rw [Pool.resume_of_some ho, List.filterMap_append, List.filterMap_append]
        exact (List.Sublist.refl _).append ((List.sublist_cons_self _ _).filterMap _)
    | disturb moved => exact moved.elim

/-- Names are apart if nobody asks for one twice. -/
lemma namesApart_of_asked (run : volumeService.Run s₀ steps P) (once : (namesAsked steps).Nodup) :
    ∀ x ∈ steps, NamesApart x.source := by
  intro x hx
  obtain ⟨earlier, hearlier, run', _⟩ := run.of_mem hx
  have hprefix : earlier <+: steps := (List.prefix_append _ _).trans hearlier
  have sub : (namesAsked earlier).Sublist (namesAsked steps) := hprefix.sublist.filterMap _
  obtain ⟨names, same, asked⟩ := names_subperm run'
  exact same.nodup_iff.mp (once.sublist (asked.trans sub))

/-- The volume of the claim `2`. -/
def sampleOther : VolumeRequest :=
  .create ⟨"pvc-2", none, .ofList [("resourceNamespace", "default")]⟩

/-- A volume is created while the request for another one waits, and then both are listed. -/
theorem volumes_linearizable_overlap : ∃ steps P, volumeService.Run .init steps P ∧
    P.finished.map Response.request = [sampleOther, sampleCreate, .list] ∧ Linearized steps P := by
  obtain ⟨τ₁, q₁, s₁, τ₂, reply₂, s₂, τ₃, reply₃, s₃, τ₄, reply₄, s₄, hlook, hwait, hsecond, hfirst,
      hlist⟩ :
      ∃ τ₁ q₁ s₁ τ₂ reply₂ s₂ τ₃ reply₃ s₃ τ₄ reply₄ s₄,
        Prog.follow VolumeState.serve 1 sampleCreate.program .init = some (τ₁, q₁, s₁) ∧
        q₁.outcome = none ∧
        Prog.follow (VolumeState.serveClaim { samplePvc with uid := some "2" }) 20
          sampleOther.program s₁ = some (τ₂, .pure reply₂, s₂) ∧
        Prog.follow VolumeState.serve 20 q₁ s₂ = some (τ₃, .pure reply₃, s₃) ∧
        Prog.follow VolumeState.serve 20 VolumeRequest.list.program s₃ =
          some (τ₄, .pure reply₄, s₄) :=
    ⟨_, _, _, _, _, _, _, _, _, _, _, _, rfl, rfl, rfl, rfl, rfl⟩
  have sound := VolumeState.answers_of_serve
  have exec₁ := Prog.exec_of_follow sound hlook
  have exec₂ := Prog.exec_of_follow
    (VolumeState.answers_of_serveClaim { samplePvc with uid := some "2" }) hsecond
  have exec₃ := Prog.exec_of_follow sound hfirst
  have exec₄ := Prog.exec_of_follow sound hlist
  -- the first request looks its name up, and waits
  have run₁ : volumeService.Run .init _ _ := .step .start (.arrive (r := sampleCreate) trivial)
  rw [Pool.resume_of_none rfl] at run₁
  obtain ⟨steps₁, run₂, only₁, _⟩ := run₁.advance (fun _ _ _ _ h => h) [] [] rfl rfl exec₁
  rw [Pool.resume_of_none hwait] at run₂
  -- the second one is handled to its end
  have run₃ := run₂.step (.arrive (r := sampleOther) trivial)
  rw [Pool.resume_of_none rfl] at run₃
  obtain ⟨steps₂, run₄, only₂, _⟩ := run₃.advance (fun _ _ _ _ h => h) [_] [] rfl rfl exec₂
  rw [Pool.resume_of_some rfl] at run₄
  -- and the first one goes on
  obtain ⟨steps₃, run₅, only₃, _⟩ := run₄.advance (fun _ _ _ _ h => h) [] [] rfl hwait exec₃
  rw [Pool.resume_of_some rfl] at run₅
  have run₆ := run₅.step (.arrive (r := .list) trivial)
  rw [Pool.resume_of_none rfl] at run₆
  obtain ⟨steps₄, run₇, only₄, _⟩ := run₆.advance (fun _ _ _ _ h => h) [] [] rfl rfl exec₄
  rw [Pool.resume_of_some rfl] at run₇
  refine ⟨_, _, run₇, rfl, volumes_linearizable run₇ (namesApart_of_asked run₇ ?_)⟩
  rw [namesAsked_of_answers only₄, namesAsked_snoc, namesAsked_of_answers only₃,
    namesAsked_of_answers only₂, namesAsked_snoc, namesAsked_of_answers only₁]
  show ["pvc-1", "pvc-2"].Nodup
  decide

end

end Kubedal
