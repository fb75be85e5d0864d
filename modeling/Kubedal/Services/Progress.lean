import Kubedal.Resource.ReplicaCollection
import Kubedal.Services.NodeMounts
import Kubedal.Services.VolumeStore
import Kubedal.Utils.Schedule

/-!
# Requests get their responses

`node_unpublish_volume` keeps the mutex of the map of mounts while it unmounts, and everything
else that uses the map waits for it.

* `node_neverStuck`: who holds the mutex does not wait for it;
* `requests_drain`: in the node service, the controller service and the reconcilers, every
  request gets a response in whatever order the calls are answered.
-/

namespace Kubedal

open Interaction Kube Resource

/-! ## The node service -/

/-- The call waits for the mutex of `NodeService::mounts`. -/
def Call.NeedsMutex : Call → Prop
  | .mounts (.insert _ _) => True
  | .mounts (.remove _) => True
  | _ => False

/-- While the mutex is free, every call can be answered. -/
lemma NodeState.exists_answer {s : NodeState} {c : Call} (free : c.NeedsMutex → s.locked = false) :
    ∃ a s', s.Answers c a s' := by
  obtain ⟨a⟩ := c.exists_reply
  rcases c with c | c | c | c | c | _ | _
  case host =>
    cases c
    case bindMount => exact ⟨Joined.panicked, s, rfl⟩
    case unmount => exact ⟨Joined.panicked, s, rfl⟩
    case fuseMount => exact ⟨Except.error ⟨.unknown, ""⟩, s, rfl⟩
    case unmountHandle => exact ⟨Except.error ⟨.unknown, ""⟩, s, .inl rfl⟩
    all_goals exact ⟨a, s, rfl⟩
  case mounts =>
    cases c
    case insert => exact ⟨(), _, free trivial, s, .inl rfl, rfl⟩
    case remove => exact ⟨_, _, free trivial, rfl, rfl⟩
    case unlock => exact ⟨(), _, rfl⟩
  all_goals exact ⟨a, s, rfl⟩

/-- Who holds the mutex unmounts or gives it back. -/
lemma NodeRequest.Allows.not_needsMutex {r : NodeRequest} {g : MountStage} {c : Call}
    (allowed : r.Allows g c) (locks : g.locks = true) : ¬ c.NeedsMutex := by
  intro needs
  rcases c with _ | _ | _ | c | _ | _ | _
  case mounts =>
    cases c
    case unlock => exact needs
    all_goals
      rcases g with _ | _ | _ | _ | _ | _ <;> cases r
      all_goals first | exact allowed | cases locks
  all_goals exact needs

theorem node_neverStuck (sent : NodeRequest → Prop) : (nodeService sent).NeverStuck .init := by
  intro steps P run busy
  obtain ⟨watched, mutex⟩ := (NodeState.Mutex.invariant sent).run run fun _ _ => trivial
  -- the holder of the mutex can go on, or anyone if it is free
  have able : ∃ t ∈ P.running, ∀ c k, t.prog = .call c k → c.NeedsMutex →
      P.state.locked = false := by
    cases hlocked : P.state.locked with
    | false =>
      obtain ⟨t, ht⟩ := List.exists_mem_of_ne_nil _ busy
      exact ⟨t, ht, fun _ _ _ _ => rfl⟩
    | true =>
      have hcount := mutex.locked
      rw [hlocked, if_pos rfl] at hcount
      obtain ⟨x, hx, locks⟩ := List.countP_pos_iff.mp (hcount.symm ▸ Nat.one_pos)
      obtain ⟨t, ht, rfl⟩ := List.mem_map.mp hx
      refine ⟨t, ht, fun c k hprog needs => ?_⟩
      have meets := watched.meets t ht
      rw [hprog] at meets
      have allowed : t.request.Allows (mountMonitor.after t.request.start t.past).2 c := by
        have allowed' := meets.1
        obtain ⟨g, hg⟩ := MountInvariant.start_stage t.request t.past
        rw [hg] at allowed' ⊢
        exact allowed'
      exact absurd needs (allowed.not_needsMutex locks)
  obtain ⟨t, ht, free⟩ := able
  obtain ⟨c, k, hprog⟩ := Prog.outcome_eq_none_iff.mp (watched.waiting t ht)
  obtain ⟨a, s', answered⟩ := NodeState.exists_answer (free c k hprog)
  exact Service.moves_of_answer ht hprog answered

/-! ## The controller service and the reconcilers -/

lemma VolumeState.exists_answer (s : VolumeState) (c : Call) : ∃ a s', s.Answers c a s' := by
  obtain ⟨a⟩ := c.exists_reply
  rcases c with c | c | c | c | c | _ | _
  case volumes =>
    cases c
    case lookup => exact ⟨_, s, rfl, rfl⟩
    case insert => exact ⟨(), _, rfl⟩
    case values => exact ⟨_, s, List.Perm.refl _, rfl⟩
    case removeById volumeId =>
      by_cases there : ∃ name volume, s.volumes.lookup name = some volume ∧
          volume.volumeId = volumeId
      · obtain ⟨name, volume, hlookup, hid⟩ := there
        exact ⟨(), _, .inl ⟨name, volume, hlookup, hid, rfl⟩⟩
      · exact ⟨(), s, .inr ⟨fun name volume hlookup hid => there ⟨name, volume, hlookup, hid⟩, rfl⟩⟩
  case newUuid => exact ⟨freshUid s.used, _, freshUid_notMem _, rfl⟩
  all_goals exact ⟨a, s, rfl⟩

/-- In all three services, and whatever has happened before: when no new requests arrive, every
order of answering the requests in progress comes to an end (a storage object has finitely many
chunks), and every request that has arrived has got its response then. -/
theorem requests_drain :
    (∀ sent steps P, (nodeService sent).Run .init steps P → (nodeService sent).Drains P) ∧
    (∀ s steps P, volumeService.Run s steps P → volumeService.Drains P) ∧
    ∀ selects s steps P, (clusterService selects).Run s steps P →
      (clusterService selects).Drains P := by
  refine ⟨fun sent steps P run => Service.drains (node_neverStuck sent) run,
    fun s steps P run => Service.drains ?_ run,
    fun selects s steps P run => Service.drains ?_ run⟩
  · exact Service.neverStuck_of_total VolumeState.exists_answer s
  · exact Service.neverStuck_of_total (clusterEnv_total selects True) s

/-- One of two requests to unpublish holds the mutex, and both get their responses. -/
theorem requests_drain_locked : ∃ steps P, (nodeService fun _ => True).Run .init steps P ∧
    P.state.locked = true ∧ P.running.length = 2 ∧ (nodeService fun _ => True).Drains P := by
  have first : (nodeService fun _ => True).Run .init [] (.idle .init) := .start
  have second := first.step (.arrive (r := unpublish "v" "/t") trivial)
  have third := second.step (.arrive (r := unpublish "v" "/t") trivial)
  have fourth := third.step (.answer rfl ⟨rfl, rfl, rfl⟩)
  exact ⟨_, _, fourth, rfl, rfl, requests_drain.1 _ _ _ fourth⟩

end Kubedal
