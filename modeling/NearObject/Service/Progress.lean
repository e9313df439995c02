/-
**`ServiceRuntime` — where the callers and the worker come to rest.**

The environment calls `Start`, `Stop` and the destructor, and wakes the worker spuriously. Whatever
the order of the steps, a run is no longer than what these cost, and the threads that are left alone
come to rest (`Transition.CallersPay`).

At rest the gate is free (`free_of_rest`), so that no `Start` or `Stop` is on its way, and the only
call that can remain is the destructor in its join. It remains where the worker is blocked: because
the wake-up was lost, or because another caller has started the runtime again in the meantime.
-/

import NearObject.Service.Shutdown
import NearObject.Transition.Potential

namespace NearObject.ServiceRuntime

open Transition

section

variable {Thread : Type} {s t : State Thread}

/-! ### Costs and savings -/

/-- What is left of a call, with the launch of a worker or the wake-up that it causes. -/
def Call.debt : Call → ℕ
  | .idle => 0
  | .starting => 6
  | .exchanging => 5
  | .launching => 4
  | .stopping .stop => 8
  | .stopping .destructor => 9
  | .notifying .stop => 7
  | .notifying .destructor => 8
  | .joining => 1

/-- What is left for the worker until it blocks. -/
def Worker.debt : Worker → ℕ
  | .absent | .blocked | .exited => 0
  | .holding => 1
  | .acquiring => 2
  | .testing => 3
  | .handling => 4
  | .checking => 5
  | .notified => 6

/-- What the environment pays for a step: the step, and all that follows from it. -/
def Label.cost : Label Thread → ℕ
  | .call _ operation => operation.first.debt + 1
  | .wakeSpuriously => 7
  | _ => 0

/-- The caller that takes the step. -/
def Label.caller? : Label Thread → Option Thread
  | .call thread _ | .lock thread | .exchange thread | .launch thread | .notify thread
  | .join thread => some thread
  | _ => none

def State.Busy (s : State Thread) (thread : Thread) : Prop :=
  s.call thread ≠ .idle

/-- The potential, where the callers are in a list. -/
def State.potential (callers : List Thread) (s : State Thread) : ℕ :=
  s.worker.debt + debts Call.debt s.call callers + (!s.terminated).toNat

theorem notifyOne_debt_le : s.notifyOne.worker.debt ≤ s.worker.debt + 6 := by
  unfold State.notifyOne
  split
  · exact Nat.le_add_left _ _
  · exact Nat.le_add_right _ _

theorem notifyOne_call : s.notifyOne.call = s.call := by
  unfold State.notifyOne
  split <;> rfl

theorem notifyOne_terminated : s.notifyOne.terminated = s.terminated := by
  unfold State.notifyOne
  split <;> rfl

theorem notifying_debt (site : StopSite) : (Call.notifying site).debt = site.next.debt + 7 := by
  cases site <;> rfl

theorem stopping_debt (site : StopSite) :
    (Call.stopping site).debt = (Call.notifying site).debt + 1 := by
  cases site <;> rfl

variable [DecidableEq Thread] {callers : List Thread}

/-! ### The potential pays -/

/-- A caller that moves changes its own share of the potential. -/
theorem setCall_potential {thread : Thread} (once : callers.Nodup) (member : thread ∈ callers)
    (call : Call) : (s.setCall thread call).potential callers + (s.call thread).debt =
      s.potential callers + call.debt := by
  have share : debts Call.debt (s.setCall thread call).call callers + (s.call thread).debt =
      debts Call.debt s.call callers + ((s.setCall thread call).call thread).debt :=
    debts_move once member fun _ different => setCall_of_ne different call
  rw [setCall_self] at share
  change s.worker.debt + debts Call.debt (s.setCall thread call).call callers +
    (!s.terminated).toNat + _ = s.worker.debt + debts Call.debt s.call callers + _ + _
  omega

/-- A step of a caller, by its share and that of the worker. -/
theorem potential_of_setCall {thread : Thread} {before after : Call} {paid : ℕ} {u : State Thread}
    (once : callers.Nodup) (member : thread ∈ callers) (place : u.call thread = before)
    (enough : u.potential callers + after.debt + 1 ≤ s.potential callers + before.debt + paid) :
    (u.setCall thread after).potential callers + 1 ≤ s.potential callers + paid := by
  have share := setCall_potential (s := u) once member after
  rw [place] at share
  omega

/-- **Every step is paid for.** -/
theorem potential_step {label : Label Thread} (once : callers.Nodup)
    (among : Among Label.caller? callers label) (taken : Step s label t) :
    t.potential callers + 1 ≤ s.potential callers + label.cost := by
  obtain ⟨running, moved⟩ := step_iff.mp taken
  cases label with
  | call thread operation =>
    obtain ⟨-, idle, rfl⟩ := move_call.mp moved
    exact potential_of_setCall once (among thread rfl) idle (Nat.le_refl _)
  | lock thread =>
    obtain ⟨starting, -, rfl⟩ := move_lock.mp moved
    exact potential_of_setCall once (among thread rfl) starting (Nat.le_refl _)
  | exchange thread =>
    obtain ⟨exchanging, -, rfl⟩ | ⟨exchanging, -, rfl⟩ | ⟨site, stopping, ⟨-, rfl⟩ | ⟨-, rfl⟩⟩ :=
      move_exchange.mp moved
    · refine potential_of_setCall once (among thread rfl) exchanging ?_
      exact Nat.add_le_add_left (Nat.le_of_ble_eq_true rfl) _
    · exact potential_of_setCall once (among thread rfl) exchanging (Nat.le_refl _)
    · refine potential_of_setCall once (among thread rfl) stopping ?_
      rw [stopping_debt]
      exact Nat.le_refl _
    · refine potential_of_setCall once (among thread rfl) stopping ?_
      rw [stopping_debt, notifying_debt]
      omega
  | launch thread =>
    obtain ⟨launching, ⟨-, rfl⟩ | ⟨-, rfl⟩⟩ := move_launch.mp moved
    · simp [State.potential, running, Label.cost]
    · refine potential_of_setCall once (among thread rfl) launching ?_
      simp only [State.potential, Worker.debt, Call.debt, Label.cost]
      omega
  | notify thread =>
    obtain ⟨site, notifying, rfl⟩ := move_notify.mp moved
    refine potential_of_setCall once (among thread rfl)
      (show s.notifyOne.call thread = _ by rw [notifyOne_call, notifying]) ?_
    have wakes := notifyOne_debt_le (s := s)
    rw [notifying_debt]
    simp only [State.potential, notifyOne_call, notifyOne_terminated, Label.cost]
    omega
  | join thread =>
    obtain ⟨joining, -, rfl⟩ := move_join.mp moved
    exact potential_of_setCall once (among thread rfl) joining (Nat.le_refl _)
  | test =>
    obtain ⟨testing, rfl⟩ := move_test.mp moved
    simp only [State.potential, testing, Label.cost]
    split <;> simp only [Worker.debt] <;> omega
  | acquire =>
    obtain ⟨acquiring, -, rfl⟩ := move_acquire.mp moved
    simp only [State.potential, acquiring, Worker.debt]
    omega
  | wait =>
    obtain ⟨holding, rfl⟩ := move_wait.mp moved
    simp only [State.potential, holding, Worker.debt]
    omega
  | wakeSpuriously =>
    obtain ⟨blocked, rfl⟩ := move_wakeSpuriously.mp moved
    simp only [State.potential, blocked, Worker.debt, Label.cost]
    omega
  | reacquire =>
    obtain ⟨notified, -, rfl⟩ := move_reacquire.mp moved
    simp only [State.potential, notified, Worker.debt]
    omega
  | check =>
    obtain ⟨checking, ⟨-, rfl⟩ | ⟨-, rfl⟩⟩ := move_check.mp moved <;>
      simp only [State.potential, checking, Worker.debt] <;> omega
  | handle =>
    obtain ⟨handling, rfl⟩ := move_handle.mp moved
    simp only [State.potential, handling, Worker.debt]
    omega

/-- Only its own steps move a caller. -/
theorem call_frame {label : Label Thread} {other : Thread} (taken : Step s label t)
    (elsewhere : label.caller? ≠ some other) : t.call other = s.call other := by
  obtain ⟨-, moved⟩ := step_iff.mp taken
  have different {thread : Thread} (own : label.caller? = some thread) : other ≠ thread :=
    fun same => elsewhere (same ▸ own)
  cases label with
  | call thread operation =>
    obtain ⟨-, -, rfl⟩ := move_call.mp moved
    exact setCall_of_ne (different rfl) _
  | lock thread =>
    obtain ⟨-, -, rfl⟩ := move_lock.mp moved
    exact setCall_of_ne (different rfl) _
  | exchange thread =>
    obtain ⟨-, -, rfl⟩ | ⟨-, -, rfl⟩ | ⟨site, -, ⟨-, rfl⟩ | ⟨-, rfl⟩⟩ := move_exchange.mp moved <;>
      exact setCall_of_ne (different rfl) _
  | launch thread =>
    obtain ⟨-, ⟨-, rfl⟩ | ⟨-, rfl⟩⟩ := move_launch.mp moved
    · rfl
    · exact setCall_of_ne (different rfl) _
  | notify thread =>
    obtain ⟨site, -, rfl⟩ := move_notify.mp moved
    rw [setCall_of_ne (different rfl), notifyOne_call]
  | join thread =>
    obtain ⟨-, -, rfl⟩ := move_join.mp moved
    exact setCall_of_ne (different rfl) _
  | test =>
    obtain ⟨-, rfl⟩ := move_test.mp moved
    rfl
  | acquire =>
    obtain ⟨-, -, rfl⟩ := move_acquire.mp moved
    rfl
  | wait =>
    obtain ⟨-, rfl⟩ := move_wait.mp moved
    rfl
  | wakeSpuriously =>
    obtain ⟨-, rfl⟩ := move_wakeSpuriously.mp moved
    rfl
  | reacquire =>
    obtain ⟨-, -, rfl⟩ := move_reacquire.mp moved
    rfl
  | check =>
    obtain ⟨-, ⟨-, rfl⟩ | ⟨-, rfl⟩⟩ := move_check.mp moved <;> rfl
  | handle =>
    obtain ⟨-, rfl⟩ := move_handle.mp moved
    rfl

/-- A step without a cost is one of the worker, or of a caller that is in a call. -/
theorem busy_of_free {label : Label Thread} {thread : Thread} (taken : Step s label t)
    (free : label.cost = 0) (own : label.caller? = some thread) : s.Busy thread := by
  obtain ⟨-, moved⟩ := step_iff.mp taken
  intro idle
  cases label with
  | call other operation => cases free
  | lock other =>
    cases own
    obtain ⟨starting, -⟩ := move_lock.mp moved
    simp_all
  | exchange other =>
    cases own
    obtain ⟨exchanging, -⟩ | ⟨exchanging, -⟩ | ⟨site, stopping, -⟩ := move_exchange.mp moved <;>
      simp_all
  | launch other =>
    cases own
    obtain ⟨launching, -⟩ := move_launch.mp moved
    simp_all
  | notify other =>
    cases own
    obtain ⟨site, notifying, -⟩ := move_notify.mp moved
    simp_all
  | join other =>
    cases own
    obtain ⟨joining, -⟩ := move_join.mp moved
    simp_all
  | _ => cases own

theorem callersPay : CallersPay Step Label.caller? State.Busy
    (fun callers (s : State Thread) => s.potential callers) Label.cost where
  frame := fun s label t thread taken elsewhere idle => by
    rwa [State.Busy, call_frame taken elsewhere]
  free := fun _ _ _ _ taken free own => busy_of_free taken free own
  pays := fun _ _ _ _ once among taken => potential_step once among taken

omit [DecidableEq Thread] in
theorem potential_init (callers : List Thread) : (init Thread).potential callers = 1 := by
  have free : debts Call.debt (init Thread).call callers = 0 := debts_eq_zero fun _ => rfl
  rw [State.potential, free]
  rfl

/-! ### Rest -/

/-- A caller that holds the gate is at the compare-exchange of its `Start`, and a thread that can be
joined has been launched. -/
structure Held (s : State Thread) : Prop where
  holder : ∀ thread, s.runEventGate = some (.client thread) → s.call thread = .exchanging
  launched : s.joinable = true → s.worker ≠ .absent

/-- A caller that does not hold the gate leaves its holder alone. -/
theorem holder_frame {thread : Thread} {before after : Call} {u : State Thread}
    (held : ∀ other, u.runEventGate = some (.client other) → u.call other = .exchanging)
    (place : u.call thread = before) (elsewhere : before ≠ .exchanging) (other : Thread)
    (holds : u.runEventGate = some (.client other)) :
    (u.setCall thread after).call other = .exchanging := by
  have different : other ≠ thread := by
    rintro rfl
    exact elsewhere (place.symm.trans (held other holds))
  rw [setCall_of_ne different]
  exact held other holds

theorem held_step {label : Label Thread} (taken : Step s label t) (held : Held s) : Held t := by
  obtain ⟨-, moved⟩ := step_iff.mp taken
  have ⟨holder, launched⟩ := held
  cases label with
  | call thread operation =>
    obtain ⟨-, idle, rfl⟩ := move_call.mp moved
    exact ⟨holder_frame holder idle (by simp), launched⟩
  | lock thread =>
    obtain ⟨-, -, rfl⟩ := move_lock.mp moved
    refine ⟨fun other holds => ?_, launched⟩
    obtain rfl := Holder.client.inj (Option.some.inj holds)
    exact setCall_self _
  | exchange thread =>
    obtain ⟨-, -, rfl⟩ | ⟨-, -, rfl⟩ | ⟨site, stopping, ⟨-, rfl⟩ | ⟨-, rfl⟩⟩ :=
      move_exchange.mp moved
    · exact ⟨fun _ holds => (by cases holds), launched⟩
    · exact ⟨fun _ holds => (by cases holds), launched⟩
    · refine ⟨?_, launched⟩
      exact holder_frame (u := { s with running := false }) holder stopping (by simp)
    · exact ⟨holder_frame holder stopping (by simp), launched⟩
  | launch thread =>
    obtain ⟨launching, ⟨-, rfl⟩ | ⟨-, rfl⟩⟩ := move_launch.mp moved
    · exact ⟨holder, launched⟩
    · refine ⟨?_, fun _ same => by cases same⟩
      exact holder_frame (u := { s with worker := .testing, joinable := true }) holder launching
        (by simp)
  | notify thread =>
    obtain ⟨site, notifying, rfl⟩ := move_notify.mp moved
    constructor
    · have place : s.notifyOne.call thread = .notifying site := by rw [notifyOne_call, notifying]
      refine holder_frame ?_ place (by simp)
      rw [notifyOne_call, notifyOne_runEventGate]
      exact holder
    · intro joinable absent
      have woken : s.notifyOne.worker = .absent := absent
      unfold State.notifyOne at woken
      split at woken
      · cases woken
      · exact launched (notifyOne_joinable ▸ joinable) woken
  | join thread =>
    obtain ⟨joining, -, rfl⟩ := move_join.mp moved
    refine ⟨?_, fun same => by cases same⟩
    exact holder_frame (u := { s with joinable := false, destroyed := true }) holder joining
      (by simp)
  | test =>
    obtain ⟨testing, rfl⟩ := move_test.mp moved
    refine ⟨holder, fun _ absent => ?_⟩
    split at absent <;> cases absent
  | acquire =>
    obtain ⟨-, -, rfl⟩ := move_acquire.mp moved
    exact ⟨fun _ holds => (by cases holds), fun _ same => by cases same⟩
  | wait =>
    obtain ⟨-, rfl⟩ := move_wait.mp moved
    exact ⟨fun _ holds => (by cases holds), fun _ same => by cases same⟩
  | wakeSpuriously =>
    obtain ⟨-, rfl⟩ := move_wakeSpuriously.mp moved
    exact ⟨holder, fun _ same => by cases same⟩
  | reacquire =>
    obtain ⟨-, -, rfl⟩ := move_reacquire.mp moved
    exact ⟨fun _ holds => (by cases holds), fun _ same => by cases same⟩
  | check =>
    obtain ⟨-, ⟨-, rfl⟩ | ⟨-, rfl⟩⟩ := move_check.mp moved
    · exact ⟨holder, fun _ same => by cases same⟩
    · exact ⟨fun _ holds => (by cases holds), fun _ same => by cases same⟩
  | handle =>
    obtain ⟨-, rfl⟩ := move_handle.mp moved
    exact ⟨fun _ holds => (by cases holds), fun _ same => by cases same⟩

theorem held_run {trace : List (Label Thread)} (run : Run Step (init Thread) trace s) : Held s :=
  run.invariant Held ⟨fun _ holds => (by cases holds), fun same => by cases same⟩
    fun _ _ _ held taken => held_step taken held

/-- A state at rest takes no step of itself. -/
theorem not_move_of_rest (rest : AtRest Step Label.cost s) (running : s.terminated = false)
    {label : Label Thread} (free : label.cost = 0) : s.move label ≠ some t :=
  fun moved => rest label t ⟨free, step_iff.mpr ⟨running, moved⟩⟩

/-- At rest the gate is free: whoever holds it goes on. -/
theorem free_of_rest (held : Held s) (placed : Placed s) (rest : AtRest Step Label.cost s)
    (running : s.terminated = false) : s.runEventGate = none := by
  have stuck {label : Label Thread} (free : label.cost = 0) (t : State Thread) :
      s.move label ≠ some t := not_move_of_rest rest running free
  cases gate : s.runEventGate with
  | none => rfl
  | some holder =>
    cases holder with
    | client thread =>
      have exchanging := held.holder thread gate
      cases up : s.running with
      | true => exact absurd (move_exchange.mpr (.inl ⟨exchanging, up, rfl⟩)) (stuck rfl _)
      | false =>
        exact absurd (move_exchange.mpr (.inr (.inl ⟨exchanging, up, rfl⟩))) (stuck rfl _)
    | worker =>
      have inside := placed.gate gate
      cases place : s.worker with
      | holding => exact absurd (move_wait.mpr ⟨place, rfl⟩) (stuck rfl _)
      | checking =>
        cases up : s.running with
        | true => exact absurd (move_check.mpr ⟨place, .inl ⟨up, rfl⟩⟩) (stuck rfl _)
        | false => exact absurd (move_check.mpr ⟨place, .inr ⟨up, rfl⟩⟩) (stuck rfl _)
      | handling => exact absurd (move_handle.mpr ⟨place, rfl⟩) (stuck rfl _)
      | _ => simp [place, Worker.holdsGate] at inside

end

end NearObject.ServiceRuntime
