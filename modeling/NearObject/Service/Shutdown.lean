/-
**`ServiceRuntime` — when `Stop` reaches the worker.**

Between its true test of `m_running` and the wait, the worker does not see that the flag changes,
and it is not waiting yet, so that a `notify_one` then is lost. `LosesWakeup` is such a step: the
last notification to be issued, with the flag down, where nothing keeps the worker from the wait.

* Runs without such a step never reach a missed shutdown (`covered_of_run`): the wait, together with
  the way to it, is a wait point of the discipline in `Transition.Wakeup`. What is owed to the
  worker is a notification, or the compare-exchange of a `Start` that holds the gate: it raises the
  flag again before the worker can take the gate.
* From any such step the worker goes on to the wait, and is missed (`missed_of_loses`).
-/

import NearObject.Service.Runtime
import NearObject.Transition.Wakeup
import Mathlib.Data.Fintype.Basic

namespace NearObject.ServiceRuntime

open Transition

section

variable {Thread : Type} {s t : State Thread}

def Call.notifies : Call → Bool
  | .notifying _ => true
  | _ => false

/-- The `notify_one` of this caller is still to be issued. -/
def State.Owes (s : State Thread) (thread : Thread) : Prop :=
  (s.call thread).notifies = true

instance (s : State Thread) (thread : Thread) : Decidable (s.Owes thread) :=
  inferInstanceAs (Decidable (_ = _))

/-- **A missed shutdown**: the flag is down, nobody will notify, and the worker is blocked. -/
structure State.Missed (s : State Thread) : Prop where
  stopped : s.running = false
  silent : ∀ thread, ¬ s.Owes thread
  blocked : s.worker = .blocked

/-- The worker has seen the flag up and will wait, or waits. -/
def Worker.committed : Worker → Bool
  | .acquiring | .holding | .blocked => true
  | _ => false

/-- The wait of `Run`, with the way to it. -/
def waitPoint (Thread : Type) : WaitPoint (State Thread) where
  asleep := fun s => s.worker.committed = true
  ready := fun s => s.running = false
  owed := fun s => (∃ thread, s.Owes thread) ∨
    (s.worker = .acquiring ∧ ∃ thread, s.runEventGate = some (.client thread))

/-- The step is the last notification to be issued, and it is lost. -/
def LosesWakeup (s : State Thread) : Label Thread → Prop
  | .notify thread => s.running = false ∧ (∀ other, other ≠ thread → ¬ s.Owes other) ∧
      (s.worker = .holding ∨ (s.worker = .acquiring ∧ s.runEventGate = none))
  | _ => False

instance [Fintype Thread] [DecidableEq Thread] (s : State Thread) (label : Label Thread) :
    Decidable (LosesWakeup s label) := by
  unfold LosesWakeup
  split <;> infer_instance

/-- The runs without a lost wake-up. -/
abbrev KeepsWakeup (s : State Thread) (label : Label Thread) : Prop :=
  ¬ LosesWakeup s label

/-- The places in which the worker holds the gate. -/
def Worker.holdsGate : Worker → Bool
  | .holding | .checking | .handling => true
  | _ => false

/-- There is no thread in `Run`. -/
def Worker.gone : Worker → Bool
  | .absent | .exited => true
  | _ => false

/-- The gate is the worker's only where it holds it, and its thread is joined only after it has
left. -/
structure Placed (s : State Thread) : Prop where
  gate : s.runEventGate = some .worker → s.worker.holdsGate = true
  joined : s.joinable = false → s.worker.gone = true

/-! ### What `notify_one` leaves alone -/

@[simp] theorem notifyOne_runEventGate : s.notifyOne.runEventGate = s.runEventGate := by
  unfold State.notifyOne
  split <;> rfl

@[simp] theorem notifyOne_joinable : s.notifyOne.joinable = s.joinable := by
  unfold State.notifyOne
  split <;> rfl

@[simp] theorem notifyOne_holdsGate : s.notifyOne.worker.holdsGate = s.worker.holdsGate := by
  unfold State.notifyOne
  split
  · rename_i blocked
    simp [blocked, Worker.holdsGate]
  · rfl

@[simp] theorem notifyOne_gone : s.notifyOne.worker.gone = s.worker.gone := by
  unfold State.notifyOne
  split
  · rename_i blocked
    simp [blocked, Worker.gone]
  · rfl

/-- A worker that is on its way to the wait does not notice. -/
theorem notifyOne_of_ne (awake : s.worker ≠ .blocked) : s.notifyOne = s :=
  if_neg awake

theorem holdsGate_of_gone {worker : Worker} (gone : worker.gone = true) :
    worker.holdsGate = false := by
  cases worker <;> first | rfl | cases gone

/-! ### The invariant of the worker's place -/

theorem placed_init : Placed (init Thread) where
  gate := fun held => by cases held
  joined := fun _ => rfl

/-- A worker that takes a step is a thread in `Run`. -/
theorem Placed.alive {worker : Worker} (placed : Placed s) (place : s.worker = worker)
    (inside : worker.gone = false) : s.joinable ≠ false := by
  intro unjoinable
  have gone := placed.joined unjoinable
  rw [place, inside] at gone
  cases gone

/-- A worker in a place without the gate does not have it. -/
theorem Placed.away {worker : Worker} (placed : Placed s) (place : s.worker = worker)
    (outside : worker.holdsGate = false) : s.runEventGate ≠ some .worker := by
  intro held
  have inside := placed.gate held
  rw [place, outside] at inside
  cases inside

variable [DecidableEq Thread]

theorem placed_step {label : Label Thread} (taken : Step s label t) (placed : Placed s) :
    Placed t := by
  obtain ⟨-, moved⟩ := step_iff.mp taken
  have ⟨gate, joined⟩ := placed
  cases label with
  | call thread operation =>
    obtain ⟨-, -, rfl⟩ := move_call.mp moved
    exact ⟨gate, joined⟩
  | lock thread =>
    obtain ⟨-, -, rfl⟩ := move_lock.mp moved
    exact ⟨fun held => (by cases held), joined⟩
  | exchange thread =>
    obtain ⟨-, -, rfl⟩ | ⟨-, -, rfl⟩ | ⟨site, -, ⟨-, rfl⟩ | ⟨-, rfl⟩⟩ := move_exchange.mp moved
    · exact ⟨fun held => (by cases held), joined⟩
    · exact ⟨fun held => (by cases held), joined⟩
    · exact ⟨gate, joined⟩
    · exact ⟨gate, joined⟩
  | launch thread =>
    obtain ⟨-, ⟨-, rfl⟩ | ⟨unjoinable, rfl⟩⟩ := move_launch.mp moved
    · exact ⟨gate, joined⟩
    · refine ⟨fun held => absurd held ?_, fun same => (by cases same)⟩
      exact placed.away rfl (holdsGate_of_gone (joined unjoinable))
  | notify thread =>
    obtain ⟨site, -, rfl⟩ := move_notify.mp moved
    refine ⟨fun held => ?_, fun unjoinable => ?_⟩
    · exact notifyOne_holdsGate.trans (gate (notifyOne_runEventGate ▸ held))
    · exact notifyOne_gone.trans (joined (notifyOne_joinable ▸ unjoinable))
  | join thread =>
    obtain ⟨-, left, rfl⟩ := move_join.mp moved
    refine ⟨gate, fun _ => left.elim joined fun exited => ?_⟩
    exact congrArg Worker.gone exited
  | test =>
    obtain ⟨testing, rfl⟩ := move_test.mp moved
    exact ⟨fun held => absurd held (placed.away testing rfl),
      fun unjoinable => absurd unjoinable (placed.alive testing rfl)⟩
  | acquire =>
    obtain ⟨acquiring, -, rfl⟩ := move_acquire.mp moved
    exact ⟨fun _ => rfl, fun unjoinable => absurd unjoinable (placed.alive acquiring rfl)⟩
  | wait =>
    obtain ⟨holding, rfl⟩ := move_wait.mp moved
    exact ⟨fun held => (by cases held),
      fun unjoinable => absurd unjoinable (placed.alive holding rfl)⟩
  | wakeSpuriously =>
    obtain ⟨blocked, rfl⟩ := move_wakeSpuriously.mp moved
    exact ⟨fun held => absurd held (placed.away blocked rfl),
      fun unjoinable => absurd unjoinable (placed.alive blocked rfl)⟩
  | reacquire =>
    obtain ⟨notified, -, rfl⟩ := move_reacquire.mp moved
    exact ⟨fun _ => rfl, fun unjoinable => absurd unjoinable (placed.alive notified rfl)⟩
  | check =>
    obtain ⟨checking, ⟨-, rfl⟩ | ⟨-, rfl⟩⟩ := move_check.mp moved
    · exact ⟨fun _ => rfl, fun unjoinable => absurd unjoinable (placed.alive checking rfl)⟩
    · exact ⟨fun held => (by cases held), fun _ => rfl⟩
  | handle =>
    obtain ⟨handling, rfl⟩ := move_handle.mp moved
    exact ⟨fun held => (by cases held),
      fun unjoinable => absurd unjoinable (placed.alive handling rfl)⟩

/-! ### Runs without a lost wake-up -/

omit [DecidableEq Thread] in
/-- A caller in a place where it does not notify owes nothing. -/
theorem not_owes {thread : Thread} {call : Call} (place : s.call thread = call)
    (quiet : call.notifies = false) : ¬ s.Owes thread := by
  rw [State.Owes, place, quiet]
  exact Bool.false_ne_true

/-- A caller's steps leave what the others owe. -/
theorem owes_frame {thread other : Thread} {call : Call} {u : State Thread}
    (different : other ≠ thread) (same : u.call = s.call) (owes : s.Owes other) :
    (u.setCall thread call).Owes other := by
  rw [State.Owes, setCall_of_ne different, same]
  exact owes

/-- A caller that owes nothing leaves what is owed, if it leaves the worker and the gate. -/
theorem owed_frame {thread : Thread} {call : Call} {u : State Thread} (free : ¬ s.Owes thread)
    (same : u.call = s.call) (worker : u.worker = s.worker)
    (gate : u.runEventGate = s.runEventGate) (owed : (waitPoint Thread).owed s) :
    (waitPoint Thread).owed (u.setCall thread call) := by
  rcases owed with ⟨other, owes⟩ | ⟨acquiring, holder, held⟩
  · have different : other ≠ thread := fun here => free (here ▸ owes)
    exact .inl ⟨other, owes_frame different same owes⟩
  · exact .inr ⟨worker.trans acquiring, holder, gate.trans held⟩

/-- A notification that is not lost leaves one to come, or finds the gate with a `Start`. -/
theorem owed_of_keeps {thread : Thread} {call : Call} (placed : Placed s)
    (keeps : KeepsWakeup s (.notify thread)) (down : s.running = false)
    (place : s.worker = .acquiring ∨ s.worker = .holding) :
    (waitPoint Thread).owed (s.setCall thread call) := by
  by_cases others : ∃ other, other ≠ thread ∧ s.Owes other
  · obtain ⟨other, different, owes⟩ := others
    exact .inl ⟨other, owes_frame different rfl owes⟩
  · have silent : ∀ other, other ≠ thread → ¬ s.Owes other :=
      fun other different owes => others ⟨other, different, owes⟩
    rcases place with acquiring | holding
    · cases gate : s.runEventGate with
      | none => exact absurd ⟨down, silent, .inr ⟨acquiring, gate⟩⟩ keeps
      | some holder =>
        cases holder with
        | client holder => exact .inr ⟨acquiring, holder, gate⟩
        | worker => exact absurd gate (placed.away acquiring rfl)
    · exact absurd ⟨down, silent, .inl holding⟩ keeps

/-- A committed worker that is not blocked is on its way. -/
theorem committed_cases {worker : Worker} (committed : worker.committed = true)
    (awake : worker ≠ .blocked) : worker = .acquiring ∨ worker = .holding := by
  cases worker with
  | acquiring => exact .inl rfl
  | holding => exact .inr rfl
  | blocked => exact absurd rfl awake
  | _ => cases committed

theorem covered_step {label : Label Thread} (placed : Placed s) (keeps : KeepsWakeup s label)
    (taken : Step s label t) (covered : (waitPoint Thread).Covered s) :
    (waitPoint Thread).Covered t := by
  obtain ⟨-, moved⟩ := step_iff.mp taken
  intro asleep down
  cases label with
  | call thread operation =>
    obtain ⟨-, idle, rfl⟩ := move_call.mp moved
    exact owed_frame (not_owes idle rfl) rfl rfl rfl (covered asleep down)
  | lock thread =>
    obtain ⟨starting, free, rfl⟩ := move_lock.mp moved
    rcases covered asleep down with ⟨other, owes⟩ | ⟨-, holder, held⟩
    · have different : other ≠ thread := by
        rintro rfl
        exact not_owes starting rfl owes
      exact .inl ⟨other, owes_frame different rfl owes⟩
    · rw [free] at held
      cases held
  | exchange thread =>
    obtain ⟨-, up, rfl⟩ | ⟨-, -, rfl⟩ | ⟨site, stopping, ⟨-, rfl⟩ | ⟨-, rfl⟩⟩ :=
      move_exchange.mp moved
    · exact absurd (up.symm.trans down) (by decide)
    · cases down
    · exact .inl ⟨thread, congrArg Call.notifies (setCall_self _)⟩
    · exact owed_frame (not_owes stopping rfl) rfl rfl rfl (covered asleep down)
  | launch thread =>
    obtain ⟨-, ⟨-, rfl⟩ | ⟨-, rfl⟩⟩ := move_launch.mp moved
    · exact covered asleep down
    · cases asleep
  | notify thread =>
    obtain ⟨site, -, rfl⟩ := move_notify.mp moved
    by_cases blocked : s.worker = .blocked
    · rw [State.notifyOne, if_pos blocked] at asleep
      cases asleep
    · rw [notifyOne_of_ne blocked] at asleep down ⊢
      exact owed_of_keeps placed keeps down (committed_cases asleep blocked)
  | join thread =>
    obtain ⟨joining, -, rfl⟩ := move_join.mp moved
    exact owed_frame (not_owes joining rfl) rfl rfl rfl (covered asleep down)
  | test =>
    obtain ⟨-, rfl⟩ := move_test.mp moved
    simp only [waitPoint] at asleep down
    rw [down] at asleep
    cases asleep
  | acquire =>
    obtain ⟨acquiring, free, rfl⟩ := move_acquire.mp moved
    rcases covered (congrArg Worker.committed acquiring) down with owes | ⟨-, holder, held⟩
    · exact .inl owes
    · rw [free] at held
      cases held
  | wait =>
    obtain ⟨holding, rfl⟩ := move_wait.mp moved
    rcases covered (congrArg Worker.committed holding) down with owes | ⟨acquiring, -⟩
    · exact .inl owes
    · rw [holding] at acquiring
      cases acquiring
  | wakeSpuriously =>
    obtain ⟨-, rfl⟩ := move_wakeSpuriously.mp moved
    cases asleep
  | reacquire =>
    obtain ⟨-, -, rfl⟩ := move_reacquire.mp moved
    cases asleep
  | check =>
    obtain ⟨-, ⟨-, rfl⟩ | ⟨-, rfl⟩⟩ := move_check.mp moved
    · cases asleep
    · cases asleep
  | handle =>
    obtain ⟨-, rfl⟩ := move_handle.mp moved
    cases asleep

/-- The steps of the runs without a lost wake-up. -/
abbrev KeepingStep : State Thread → Label Thread → State Thread → Prop :=
  Restrict Step KeepsWakeup

theorem waitPoint_disciplined : (waitPoint Thread).Disciplined Placed KeepingStep where
  falling := fun _ _ _ placed ⟨keeps, taken⟩ awake =>
    covered_step placed keeps taken fun asleep => absurd asleep awake
  sleeping := fun _ _ _ placed ⟨keeps, taken⟩ _ covered =>
    covered_step placed keeps taken fun _ => covered

theorem covered_of_run {trace : List (Label Thread)}
    (run : Run KeepingStep (init Thread) trace s) : (waitPoint Thread).Covered s :=
  waitPoint_disciplined.covered (fun _ _ _ placed taken => placed_step taken.2 placed) placed_init
    (fun asleep => by cases asleep) run

/-! ### A lost wake-up -/

/-- After a lost wake-up the worker goes on to the wait. -/
theorem missed_of_loses {label : Label Thread} (loses : LosesWakeup s label)
    (taken : Step s label t) : ∃ late u, Run Step t late u ∧ u.Missed := by
  obtain ⟨running, moved⟩ := step_iff.mp taken
  cases label with
  | notify thread =>
    obtain ⟨down, silent, place⟩ := loses
    obtain ⟨site, -, rfl⟩ := move_notify.mp moved
    have awake : s.worker ≠ .blocked := by
      rcases place with holding | ⟨acquiring, -⟩ <;> simp_all
    have quiet : ∀ other, ¬ (s.setCall thread site.next).Owes other := by
      intro other
      by_cases here : other = thread
      · rw [State.Owes, here, setCall_self]
        cases site <;> simp [StopSite.next, Call.notifies]
      · rw [State.Owes, setCall_of_ne here]
        exact silent other here
    rw [notifyOne_of_ne awake]
    rcases place with holding | ⟨acquiring, free⟩
    · exact ⟨[.wait], _, .single (step_iff.mpr ⟨running, move_wait.mpr ⟨holding, rfl⟩⟩),
        down, quiet, rfl⟩
    · have takes : Step (s.setCall thread site.next) .acquire { s.setCall thread site.next with
          worker := .holding, runEventGate := some .worker } :=
        step_iff.mpr ⟨running, move_acquire.mpr ⟨acquiring, free, rfl⟩⟩
      exact ⟨[.acquire, .wait], _,
        .cons takes (.single (step_iff.mpr ⟨running, move_wait.mpr ⟨rfl, rfl⟩⟩)), down, quiet, rfl⟩
  | _ => exact absurd loses id

/-! ### Shutting down -/

/-- **When `Stop` reaches the worker.** A run in which no wake-up is lost reaches no missed
shutdown; and from every step that loses one, the worker reaches a missed shutdown by itself. -/
theorem shutdown_reaches_worker :
    (∀ trace (s : State Thread), Run KeepingStep (init Thread) trace s → ¬ s.Missed) ∧
    (∀ trace (s : State Thread) label t, Run Step (init Thread) trace s → Step s label t →
      LosesWakeup s label → ∃ late u, Run Step t late u ∧ u.Missed) := by
  refine ⟨fun trace s run missed => ?_, fun trace s label t _ taken loses => ?_⟩
  · obtain ⟨down, silent, blocked⟩ := missed
    rcases covered_of_run run (congrArg Worker.committed blocked) down with
      ⟨thread, owes⟩ | ⟨acquiring, -⟩
    · exact silent thread owes
    · rw [blocked] at acquiring
      cases acquiring
  · exact missed_of_loses loses taken

end

/-- The owner starts the runtime and destroys it when the worker waits. -/
def reachedTrace : List (Label Unit) :=
  [.call () .start, .lock (), .exchange (), .launch (), .test, .acquire, .wait,
    .call () .destructor, .exchange (), .notify (), .reacquire, .check, .join ()]

theorem shutdown_reaches_worker_waiting :
    ∃ s, Run KeepingStep (init Unit) reachedTrace s ∧ s.destroyed = true ∧ ¬ s.Missed := by
  have run : Run KeepingStep (init Unit) reachedTrace _ := run_of_execute_guarded rfl
  exact ⟨_, run, rfl, shutdown_reaches_worker.1 _ _ run⟩

/-- The owner starts the runtime and stops it at once, between the worker's test and its wait. -/
def missedTrace : List (Label Unit) :=
  [.call () .start, .lock (), .exchange (), .launch (), .test, .call () .destructor, .exchange (),
    .notify (), .acquire, .wait]

theorem shutdown_missed : ∃ s, Run Step (init Unit) missedTrace s ∧ s.Missed ∧
    s.call () = .joining := by
  refine ⟨_, run_of_execute rfl, ⟨rfl, fun thread => ?_, rfl⟩, rfl⟩
  exact Bool.false_ne_true

end NearObject.ServiceRuntime
