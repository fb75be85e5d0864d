import Kubedal.Services.NodeMounts
import Kubedal.Utils.Erasure

/-!
# Publishes that fail

A publish that does not return `Ok` has mounted nothing and has tracked nothing, at whatever call
it has failed and whatever was going on beside it. Directories and files, which it may well leave,
are not part of the state here.

* `leavesMounts` are the events that have no effect on the mount table and on what is tracked;
* `failed_publish_erased`: every run ends with the mounts of a run in which the publishes that
  fail have not come.
-/

namespace Kubedal

open Interaction Kube Resource

/-! ## Events without effect -/

/-- The event leaves the mount table and the tracked volumes as they are: its call is not about
mounts, though it may be about files, or it is a mount that fails. -/
def leavesMounts : Event signature → Bool
  | ⟨.host (.bindMount _ _ _), Joined.done (.ok _)⟩ => false
  | ⟨.host (.fuseMount _ _ _), Except.ok _⟩ => false
  | ⟨.host (.unmount _), _⟩ => false
  | ⟨.host (.unmountHandle _), _⟩ => false
  | ⟨.mounts _, _⟩ => false
  | _ => true

lemma node_silences (sent : NodeRequest → Prop) :
    Silences (nodeService sent) fun e => leavesMounts e = true := by
  have same : ∀ (s : NodeState) (c : Call) (a : c.Reply) (s' : NodeState),
      s.Answers c a s' → leavesMounts ⟨c, a⟩ = true →
        s' = s ∧ ∀ s₁ : NodeState, s₁.Answers c a s₁ := by
    intro s c a s' answered silent
    rcases c with c | c | c | c | c | _ | _
    case host =>
      rcases c with _ | _ | _ | _ | _ | _ | _ | _
      case bindMount =>
        rcases a with _ | ⟨e | _⟩
        · exact ⟨answered, fun _ => rfl⟩
        · exact ⟨answered, fun _ => rfl⟩
        · cases silent
      case fuseMount =>
        rcases a with e | handle
        · exact ⟨answered, fun _ => rfl⟩
        · cases silent
      case unmount => cases silent
      case unmountHandle => cases silent
      all_goals exact ⟨answered, fun _ => rfl⟩
    case mounts => cases silent
    all_goals exact ⟨answered, fun _ => rfl⟩
  exact ⟨fun s c a s' h silent => (same s c a s' h silent).1,
    fun s c a s' h silent => (same s c a s' h silent).2, fun _ _ admitted _ => admitted⟩

/-! ## When a request has had no effect -/

lemma next_of_silent {c : Call} {a : c.Reply} (silent : leavesMounts ⟨c, a⟩ = true)
    (g : MountStage) : g.next c a = g := by
  rcases c with c | c | c | c | c | _ | _
  case host =>
    rcases c with _ | _ | _ | _ | _ | _ | _ | _
    case bindMount =>
      rcases a with _ | ⟨e | _⟩
      · rfl
      · rfl
      · cases silent
    case fuseMount =>
      rcases a with e | handle
      · rfl
      · cases silent
    case unmount => cases silent
    case unmountHandle => cases silent
    all_goals rfl
  case mounts => cases silent
  all_goals rfl

lemma silent_of_quiet {c : Call} (a : c.Reply) (quiet : c.Quiet) :
    leavesMounts ⟨c, a⟩ = true := by
  rcases c with c | c | c | c | c | _ | _
  case host => cases c <;> first | rfl | exact quiet.elim
  case mounts => exact quiet.elim
  all_goals rfl

/-- Whoever has done something is never waiting again. -/
lemma of_next_waiting {r : NodeRequest} {g : MountStage} {c : Call} {a : c.Reply}
    (allowed : r.Allows g c) (h : g.next c a = .waiting) :
    g = .waiting ∧ leavesMounts ⟨c, a⟩ = true := by
  by_cases quiet : c.Quiet
  · rw [MountStage.next_quiet _ _ _ quiet] at h
    exact ⟨h, silent_of_quiet a quiet⟩
  rcases c with c | c | c | c | c | _ | _
  case host =>
    rcases c with _ | _ | _ | _ | _ | _ | _ | _
    case bindMount =>
      rcases a with _ | ⟨e | _⟩
      · exact ⟨h, rfl⟩
      · exact ⟨h, rfl⟩
      · cases h
    case fuseMount =>
      rcases a with e | handle
      · exact ⟨h, rfl⟩
      · cases h
    case unmount => rcases a with _ | ⟨e | _⟩ <;> cases h
    case unmountHandle => rcases a with e | _ <;> cases h
    all_goals exact absurd trivial quiet
  case mounts =>
    rcases c with _ | _ | _
    case insert => cases h
    case remove => rcases a with _ | mount <;> cases h
    case unlock =>
      rcases g with _ | handle | _ | mount | unmounted | unmounted <;> cases h
  all_goals exact absurd trivial quiet

/-- A request has had no effect as long as it is waiting. -/
lemma silent_iff_waiting {sent : NodeRequest → Prop} {r : NodeRequest}
    {past : List (Event signature)} {q : Handler Unit}
    (exec : Prog.Exec (nodeService sent).Possible r.program () past q ()) :
    (∀ e ∈ past, leavesMounts e = true) ↔ (mountMonitor.after r.start past).2 = .waiting := by
  induction past using List.reverseRecOn generalizing q with
  | nil =>
    refine ⟨fun _ => rfl, fun _ e he => ?_⟩
    cases he
  | append_singleton past e ih =>
    obtain ⟨_, _, _, before, _⟩ := exec.split
    have allowed := Prog.wp_event (program_meets r) exec fun _ _ _ _ _ _ => trivial
    obtain ⟨g, hg⟩ := MountInvariant.start_stage r past
    rw [hg] at allowed
    have hnext : (mountMonitor.after r.start (past ++ [e])).2 = g.next e.call e.reply := by
      rw [Monitor.after_append, hg]
      rfl
    have here := ih before
    rw [hg] at here
    rw [hnext]
    constructor
    · intro silent
      rw [next_of_silent (silent e (List.mem_append_right _ List.mem_cons_self))]
      exact here.mp fun e he => silent e (List.mem_append_left _ he)
    · intro h
      obtain ⟨waiting, silent⟩ := of_next_waiting allowed h
      intro e' he'
      rcases List.mem_append.mp he' with he' | he'
      · exact here.mpr waiting e' he'
      · rw [List.mem_singleton.mp he']
        exact silent

/-! ## Runs without failing publishes -/

/-- A publish that returns `Ok`, or an unpublish that has passed its checks. -/
def NodeResponse.Succeeded (y : NodeResponse) : Prop :=
  match y.request with
  | .publish _ => y.result.toOption = some ()
  | .unpublish r => (checkPath r.volumeId r.targetPath).toOption = some ()

instance : DecidablePred NodeResponse.Succeeded := fun y => by
  unfold NodeResponse.Succeeded
  split <;> infer_instance

section
variable {sent : NodeRequest → Prop} {steps : List NodeTransition} {P : NodePool}

/-- What has succeeded has had an effect on the mounts, and nothing else has. -/
lemma succeeded_iff_effect (run : (nodeService sent).Run .init steps P) {y : NodeResponse}
    (hy : y ∈ P.finished) : y.Succeeded ↔ ¬ ∀ e ∈ y.past, leavesMounts e = true := by
  obtain ⟨watched, _⟩ := (NodeState.Sound.invariant sent).run run fun _ _ => trivial
  have ends := watched.met y hy
  obtain ⟨q, hq, exec⟩ := run.faithful.finished y hy
  rw [silent_iff_waiting exec]
  rcases y with ⟨r, past, result⟩
  cases r with
  | publish r =>
    rcases result with e | _
    · have waiting : (mountMonitor.after (NodeRequest.publish r).start past).2 = .waiting := ends
      rw [waiting]
      simp [NodeResponse.Succeeded, Except.toOption]
    · have tracked : (mountMonitor.after (NodeRequest.publish r).start past).2 = .tracked := ends
      rw [tracked]
      simp [NodeResponse.Succeeded, Except.toOption]
  | unpublish r =>
    cases hchecked : checkPath r.volumeId r.targetPath with
    | error e =>
      have rejected : (nodeUnpublishVolume r).outcome = some (.error (.error e)) := by
        rw [unpublish_rejected hchecked]
        rfl
      obtain ⟨hpast, _⟩ := exec.of_outcome rejected
      have hpast' : past = [] := hpast
      rw [hpast']
      simp [NodeResponse.Succeeded, hchecked, Except.toOption, NodeRequest.start]
    | ok _ =>
      have unlocked := Prog.wp_outcome (Prog.wp_exec (unpublish_checked_meets hchecked) exec
        fun _ _ _ _ _ _ => trivial) hq
      have left : (mountMonitor.after (NodeRequest.unpublish r).start past).2 = .unlocked _ :=
        unlocked
      rw [left]
      simp [NodeResponse.Succeeded, hchecked, Except.toOption]

/-- Publishes that fail leave no mount and no tracked volume: every run of the node service ends
with the mounts and the tracked volumes of a run without them. That run has the responses to the
other publishes and to the unpublishes that pass their checks, and of the requests in progress those
that have had an effect on the mounts. -/
theorem failed_publish_erased (run : (nodeService sent).Run .init steps P) :
    ∃ steps' P', (nodeService sent).Run .init steps' P' ∧ P'.state = P.state ∧
      P'.running.Perm (awake (fun e => leavesMounts e = true) P.running) ∧
      P'.finished = P.finished.filter NodeResponse.Succeeded := by
  obtain ⟨steps', P', run', state, running, finished⟩ := erase (node_silences sent) run
  refine ⟨steps', P', run', state, running, finished.trans ?_⟩
  refine List.filter_congr fun y hy => ?_
  exact decide_eq_decide.mpr (succeeded_iff_effect run hy).symm

end

/-- A publish that lacks the volume context fails between two that succeed. -/
theorem failed_publish_erased_between : ∃ steps P steps' P',
    (nodeService fun _ => True).Run .init steps P ∧ P.finished.length = 3 ∧
    P'.finished.length = 2 ∧
    (nodeService fun _ => True).Run .init steps' P' ∧ P'.state = P.state ∧
    P'.running.Perm (awake (fun e => leavesMounts e = true) P.running) ∧
    P'.finished = P.finished.filter NodeResponse.Succeeded := by
  obtain ⟨done, s, hserial, hlength, hsucceeded⟩ : ∃ done s,
      (nodeService fun _ => True).serial (fun _ => NodeState.sampleServe) 40
        [publishCached "v" "/t", .publish ⟨"w", "/u", none, false, ∅⟩, publishCached "x" "/y"]
        .init = some (done, s) ∧ done.length = 3 ∧
      (done.filter NodeResponse.Succeeded).length = 2 := ⟨_, _, rfl, rfl, by decide⟩
  obtain ⟨steps, run, _, _⟩ := Service.Run.serial (fun _ => NodeState.answers_of_serve)
    (fun _ _ _ => trivial) .start hserial
  rw [List.nil_append, List.nil_append] at run
  obtain ⟨steps', P', run', state, running, finished⟩ := failed_publish_erased run
  exact ⟨_, _, steps', P', run, hlength, finished ▸ hsucceeded, run', state, running, finished⟩

end Kubedal
