/-
**`scope_exit` — each lambda is called at most once.**

The right to call a lambda is a token of the guard that owns it: `scope_exit` issues it, a move
passes it on, `release` cancels it, `reset` and the destructor use it. The flags of the guards say
which tokens are still to be used (`Tracks`), whatever the lambdas do while they run.

* `tracks_run`, `toBool_iff` — a guard that exists has its flag set exactly where it owns a lambda
  that is still to be called.
* `noEffect_of_passedOn` — an operation on a guard that has been moved from does nothing.
* `called_once` — a lambda is called once where its owner is reset or destroyed and has not been
  released, and never otherwise.
-/

import NearObject.Scope.Model
import Mathlib.Data.List.Nodup

namespace NearObject.Scope

open Transition

/-! ### What a step does -/

section Commands

variable {Guard : Type} {s u : State Guard}

/-- The next command of a program, and the state in which the program is behind it. -/
inductive Behind (s : State Guard) : Command Guard → State Guard → Prop
  | intro {command : Command Guard} {rest : List (Command Guard)} {destroying : Option Guard}
      {frames : List (Frame Guard)} (shape : s.stack = ⟨command :: rest, destroying⟩ :: frames) :
      Behind s command { s with stack := ⟨rest, destroying⟩ :: frames }

theorem Behind.guards {command : Command Guard} (behind : Behind s command u) :
    u.guards = s.guards := by
  cases behind
  rfl

end Commands

section Operations

variable {Guard : Type} [DecidableEq Guard] {s t u : State Guard} {label : Label Guard}
  {guard : Guard}

/-- A step performs a command, or ends a lambda or the program. -/
theorem step_cases (taken : Step s label t) :
    (∃ command u, Behind s command u ∧ u.perform command = some (label, t)) ∨
      ∃ destroyed, label = .return destroyed ∧ s.stack = ⟨[], destroyed⟩ :: t.stack ∧
        t.created = s.created ∧
        ∀ other value, t.guards other = some value → s.guards other = some value := by
  have taken := step_iff.mp taken
  unfold State.step at taken
  split at taken
  · cases taken
  · rename_i destroying frames shape
    obtain ⟨rfl, rfl⟩ := Prod.mk.inj (Option.some.inj taken)
    refine .inr ⟨destroying, rfl, ?_⟩
    cases destroying with
    | none => exact ⟨shape, rfl, fun _ _ here => here⟩
    | some gone =>
      refine ⟨shape, rfl, fun other value here => ?_⟩
      by_cases same : other = gone
      · subst same
        rw [set_self] at here
        cases here
      · rwa [set_of_ne same] at here
  · rename_i command rest destroying frames shape
    exact .inl ⟨command, _, .intro shape, taken⟩

/-- **What an operation does**, case by case. -/
inductive Performed (u : State Guard) : Command Guard → Label Guard → State Guard → Prop
  | scopeExit (guard : Guard) (lambda : List (Command Guard)) (free : u.guards guard = none) :
      Performed u (.scopeExit guard lambda) (.scopeExit guard u.created)
        { u.set guard (some (.create ⟨u.created, lambda⟩)) with created := u.created + 1 }
  | move (other guard : Guard) (moved : LambdaCall (Lambda Guard))
      (given : u.guards other = some moved) (free : u.guards guard = none) :
      Performed u (.move other guard) (.move other guard)
        ((u.set other (some moved.move.2)).set guard (some moved.move.1))
  | release (guard : Guard) (held : LambdaCall (Lambda Guard)) (here : u.guards guard = some held) :
      Performed u (.release guard) (.release guard) (u.set guard (some held.release))
  | reset (guard : Guard) (held : LambdaCall (Lambda Guard)) (here : u.guards guard = some held) :
      Performed u (.reset guard) (.reset guard (held.reset.2.map Lambda.serial))
        ((u.set guard (some held.reset.1)).enter held.reset.2 none)
  /-- The lifetime of the guard ends when the lambda has returned. -/
  | destroyCalling (guard : Guard) (held : LambdaCall (Lambda Guard)) (lambda : Lambda Guard)
      (alive : ¬ u.Destroying guard) (here : u.guards guard = some held)
      (calls : held.reset.2 = some lambda) :
      Performed u (.destroy guard) (.destroy guard (some lambda.serial))
        ((u.set guard (some held.reset.1)).enter (some lambda) (some guard))
  | destroy (guard : Guard) (held : LambdaCall (Lambda Guard)) (alive : ¬ u.Destroying guard)
      (here : u.guards guard = some held) (silent : held.reset.2 = none) :
      Performed u (.destroy guard) (.destroy guard none) (u.set guard none)

theorem performed_of_perform {command : Command Guard}
    (performs : u.perform command = some (label, t)) : Performed u command label t := by
  cases command with
  | scopeExit guard lambda =>
    simp only [State.perform] at performs
    split at performs
    · cases performs
    · rename_i free
      obtain ⟨rfl, rfl⟩ := Prod.mk.inj (Option.some.inj performs)
      exact .scopeExit guard lambda free
  | move other guard =>
    simp only [State.perform] at performs
    split at performs
    · rename_i moved given free
      obtain ⟨rfl, rfl⟩ := Prod.mk.inj (Option.some.inj performs)
      exact .move other guard moved given free
    · cases performs
  | release guard =>
    obtain ⟨held, here, same⟩ := Option.map_eq_some_iff.mp performs
    obtain ⟨rfl, rfl⟩ := Prod.mk.inj same
    exact .release guard held here
  | reset guard =>
    obtain ⟨held, here, same⟩ := Option.map_eq_some_iff.mp performs
    obtain ⟨rfl, rfl⟩ := Prod.mk.inj same
    exact .reset guard held here
  | destroy guard =>
    obtain ⟨alive, performs⟩ := Option.ite_none_left_eq_some.mp performs
    obtain ⟨held, here, same⟩ := Option.map_eq_some_iff.mp performs
    split at same
    · rename_i lambda calls
      obtain ⟨rfl, rfl⟩ := Prod.mk.inj same
      exact .destroyCalling guard held lambda alive here calls
    · rename_i silent
      obtain ⟨rfl, rfl⟩ := Prod.mk.inj same
      exact .destroy guard held alive here silent

/-- **What a step does** to the guards and to the number of lambdas. -/
inductive Moved (s t : State Guard) : Label Guard → Prop
  | scopeExit (guard : Guard) (lambda : List (Command Guard))
      (guards : t.guards =
        Function.update s.guards guard (some (.create ⟨s.created, lambda⟩)))
      (created : t.created = s.created + 1) : Moved s t (.scopeExit guard s.created)
  | move (other guard : Guard) (moved : LambdaCall (Lambda Guard))
      (given : s.guards other = some moved) (free : s.guards guard = none)
      (guards : t.guards =
        Function.update (Function.update s.guards other (some moved.move.2)) guard
          (some moved.move.1))
      (created : t.created = s.created) : Moved s t (.move other guard)
  | release (guard : Guard) (held : LambdaCall (Lambda Guard)) (here : s.guards guard = some held)
      (guards : t.guards = Function.update s.guards guard (some held.release))
      (created : t.created = s.created) : Moved s t (.release guard)
  /-- `reset` or the destructor, which calls the lambda if the flag is set, and clears it. -/
  | uses (guard : Guard) (held : LambdaCall (Lambda Guard)) (here : s.guards guard = some held)
      {label : Label Guard} (events : label.events = [.use guard])
      (calls : label.called? = held.reset.2.map Lambda.serial)
      (others : ∀ other, other ≠ guard → t.guards other = s.guards other)
      (left : ∀ value, t.guards guard = some value → value.call = false)
      (created : t.created = s.created) : Moved s t label
  | returns (destroyed : Option Guard)
      (guards : ∀ other value, t.guards other = some value → s.guards other = some value)
      (created : t.created = s.created) : Moved s t (.return destroyed)

/-- A guard that is reset or destroyed has a new value, or none. -/
theorem Moved.of_set {held : LambdaCall (Lambda Guard)}
    {value : Option (LambdaCall (Lambda Guard))} (here : s.guards guard = some held)
    (events : label.events = [.use guard])
    (calls : label.called? = held.reset.2.map Lambda.serial)
    (guards : t.guards = (s.set guard value).guards)
    (cleared : ∀ left, value = some left → left.call = false) (created : t.created = s.created) :
    Moved s t label := by
  refine .uses guard held here events calls ?_ ?_ created
  · intro other different
    rw [guards, set_of_ne different]
  · intro left same
    rw [guards, set_self] at same
    exact cleared left same

theorem Performed.moved {command : Command Guard} (performed : Performed u command label t) :
    Moved u t label := by
  cases performed with
  | scopeExit guard lambda free => exact .scopeExit guard lambda rfl rfl
  | move other guard moved given free => exact .move other guard moved given free rfl rfl
  | release guard held here => exact .release guard held here rfl rfl
  | reset guard held here =>
    exact .of_set here rfl rfl (enter_guards ..) (reset_clear held) (enter_created ..)
  | destroyCalling guard held lambda alive here calls =>
    exact .of_set here rfl (by rw [calls]; rfl) (enter_guards ..) (reset_clear held) rfl
  | destroy guard held alive here silent =>
    refine .of_set here rfl (by rw [silent]; rfl) rfl ?_ rfl
    intro left same
    cases same

theorem Moved.of_behind {command : Command Guard} (moved : Moved u t label)
    (behind : Behind s command u) : Moved s t label := by
  cases behind with
  | intro shape =>
    cases moved with
    | scopeExit guard lambda guards created => exact .scopeExit guard lambda guards created
    | move other guard moved given free guards created =>
      exact .move other guard moved given free guards created
    | release guard held here guards created => exact .release guard held here guards created
    | uses guard held here events calls others left created =>
      exact @Moved.uses _ _ s t guard held here label events calls others left created
    | returns destroyed guards created => exact .returns destroyed guards created

theorem moved_of_step (taken : Step s label t) : Moved s t label := by
  rcases step_cases taken with ⟨command, u, behind, performs⟩ | ⟨destroyed, rfl, -, created, guards⟩
  · exact (performed_of_perform performs).moved.of_behind behind
  · exact .returns destroyed guards created

end Operations

/-! ### The flags and the history -/

section Flags

variable {Guard : Type}

/-- The flag of a guard, if it exists, is set exactly where it owns a lambda that is still to be
called, and it is that lambda. -/
def Matches (value : Option (LambdaCall (Lambda Guard))) (owned : Option Nat)
    (pending : Nat → Prop) : Prop :=
  ∀ held, value = some held → ∀ lambda,
    (held.call = true ∧ held.lambda.serial = lambda) ↔ (owned = some lambda ∧ pending lambda)

/-- The flags of all guards. -/
def Agrees (guards : Guard → Option (LambdaCall (Lambda Guard))) (owned : Guard → Option Nat)
    (pending : Nat → Prop) : Prop :=
  ∀ guard, Matches (guards guard) (owned guard) pending

/-- A guard whose flag is clear owns nothing that is to be called. -/
theorem matches_of_clear {value : Option (LambdaCall (Lambda Guard))} {owned : Option Nat}
    {pending : Nat → Prop} (clear : ∀ held, value = some held → held.call = false)
    (ended : ∀ lambda, owned = some lambda → ¬ pending lambda) : Matches value owned pending := by
  intro held here lambda
  refine iff_of_false ?_ ?_
  · rintro ⟨set, -⟩
    rw [clear held here] at set
    cases set
  · rintro ⟨owns, still⟩
    exact ended lambda owns still

end Flags

section

variable {Guard : Type} [DecidableEq Guard] {s t u : State Guard} {label : Label Guard}
  {guard : Guard} {lambda : Nat} {trace : List (Label Guard)} {program : List (Command Guard)}

theorem Agrees.update {guards : Guard → Option (LambdaCall (Lambda Guard))}
    {owned : Guard → Option Nat} {pending : Nat → Prop} (agrees : Agrees guards owned pending)
    (guard : Guard) {value : Option (LambdaCall (Lambda Guard))} {token : Option Nat}
    (fits : Matches value token pending) :
    Agrees (Function.update guards guard value) (Function.update owned guard token) pending := by
  intro other
  by_cases same : other = guard
  · subst same
    rw [Function.update_self, Function.update_self]
    exact fits
  · rw [Function.update_of_ne same, Function.update_of_ne same]
    exact agrees other

/-- **The flags of the guards say what the history says**: which guard owns which lambda, and
whether it is still to be called. -/
structure Tracks (trace : List (Label Guard)) (s : State Guard) : Prop where
  numbered : issued (history trace) = List.range s.created
  flags : Agrees s.guards (holding (history trace)) (Pending (history trace))
  shown : ∀ lambda, lambda ∈ called trace ↔ Used (history trace) lambda
  once : (called trace).Nodup

theorem tracks_init (program : List (Command Guard)) : Tracks [] (init program) where
  numbered := rfl
  flags := by
    intro guard held here
    cases here
  shown := by
    intro lambda
    refine iff_of_false List.not_mem_nil ?_
    rintro ⟨early, holder, late, shape, -⟩
    simp [history] at shape
  once := List.nodup_nil

theorem Tracks.issuedOnce (tracks : Tracks trace s) : (issued (history trace)).Nodup := by
  rw [tracks.numbered]
  exact List.nodup_range

/-- A step that neither cancels nor uses leaves what is to be called. -/
theorem Tracks.quiet {event : TokenEvent Guard Nat} (tracks : Tracks trace s)
    (events : label.events = [event]) (quiet : ∀ guard, ¬ event.Ends guard)
    (none : label.called? = none)
    (numbered : issued (history trace ++ [event]) = List.range t.created)
    (flags : Agrees t.guards (event.after (holding (history trace))) (Pending (history trace))) :
    Tracks (trace ++ [label]) t where
  numbered := by rw [history_snoc, events, numbered]
  flags := by
    intro guard held here lambda
    rw [history_snoc, events, holding_snoc, pending_snoc, flags guard held here lambda]
    refine and_congr_right fun _ => (and_iff_left ?_).symm
    intro holder _
    exact quiet holder
  shown := by
    intro lambda
    rw [called_snoc, none, history_snoc, events, used_snoc, Option.toList_none, List.append_nil,
      tracks.shown]
    refine (or_iff_left ?_).symm
    rintro ⟨holder, rfl, -⟩
    exact quiet holder rfl
  once := by
    rw [called_snoc, none, Option.toList_none, List.append_nil]
    exact tracks.once

/-- **A guard cancels or uses what it owns**, and clears its flag. It calls its lambda if it uses it
and it is still to be called. -/
theorem Tracks.ending {event : TokenEvent Guard Nat} (tracks : Tracks trace s)
    (events : label.events = [event]) (ends : event.Ends guard)
    (others : ∀ other, other ≠ guard → t.guards other = s.guards other)
    (left : ∀ value, t.guards guard = some value → value.call = false)
    (created : t.created = s.created)
    (calling : ∀ lambda, lambda ∈ label.called?.toList ↔ event = .use guard ∧
      holding (history trace) guard = some lambda ∧ Pending (history trace) lambda) :
    Tracks (trace ++ [label]) t where
  numbered := by
    have none : issued [event] = [] := by
      cases event with
      | issue _ _ => cases ends
      | pass _ _ => cases ends
      | cancel _ => rfl
      | use _ => rfl
    rw [history_snoc, events, issued_append, none, List.append_nil, tracks.numbered, created]
  flags := by
    have same : event.after (holding (history trace)) = holding (history trace) := by
      cases event with
      | issue _ _ => cases ends
      | pass _ _ => cases ends
      | cancel _ => rfl
      | use _ => rfl
    rw [history_snoc, events, holding_snoc, same]
    intro other
    by_cases own : other = guard
    · subst own
      refine matches_of_clear left ?_
      intro lambda owns pending
      exact (pending_snoc.mp pending).2 other owns ends
    · rw [others other own]
      intro held here lambda
      rw [tracks.flags other held here lambda]
      refine and_congr_right fun has => ?_
      exact (pending_of_other tracks.issuedOnce ends has own).symm
  shown := by
    intro lambda
    rw [called_snoc, history_snoc, events, used_snoc, List.mem_append, tracks.shown, calling]
    constructor
    · rintro (used | ⟨rfl, has, uncancelled, -⟩)
      · exact .inl used
      · exact .inr ⟨guard, rfl, has, uncancelled⟩
    · rintro (used | ⟨holder, rfl, has, uncancelled⟩)
      · exact .inl used
      · obtain rfl : holder = guard := ends
        by_cases used : Used (history trace) lambda
        · exact .inl used
        · exact .inr ⟨rfl, has, uncancelled, used⟩
  once := by
    rw [called_snoc]
    refine List.nodup_append.mpr ⟨tracks.once, label.called?.toList_nodup, ?_⟩
    rintro lambda before _ now rfl
    exact ((calling lambda).mp now).2.2.2 ((tracks.shown lambda).mp before)

/-- The end of a lambda or of the program shows nothing. -/
theorem Tracks.returning (tracks : Tracks trace s) (destroyed : Option Guard)
    (guards : ∀ other value, t.guards other = some value → s.guards other = some value)
    (created : t.created = s.created) : Tracks (trace ++ [.return destroyed]) t := by
  have same : history (trace ++ [.return destroyed]) = history trace := by
    rw [history_snoc]
    exact List.append_nil _
  have none : called (trace ++ [.return destroyed]) = called trace := by
    rw [called_snoc]
    exact List.append_nil _
  refine ⟨?_, ?_, ?_, ?_⟩
  · rw [same, tracks.numbered, created]
  · intro guard held here
    rw [same]
    exact tracks.flags guard held (guards guard held here)
  · rw [same, none]
    exact tracks.shown
  · rw [none]
    exact tracks.once

theorem tracks_step (tracks : Tracks trace s) (moved : Moved s t label) :
    Tracks (trace ++ [label]) t := by
  cases moved with
  | scopeExit guard lambda guards created =>
    refine tracks.quiet rfl (fun _ => id) rfl ?_ ?_
    · rw [issued_append, tracks.numbered, created, List.range_succ]
      rfl
    · have fresh : Pending (history trace) s.created := by
        apply pending_of_not_issued
        rw [tracks.numbered]
        exact fun inside => Nat.lt_irrefl _ (List.mem_range.mp inside)
      rw [guards]
      refine tracks.flags.update guard ?_
      intro held here number
      obtain rfl := Option.some.inj here
      constructor
      · rintro ⟨-, rfl⟩
        exact ⟨rfl, fresh⟩
      · rintro ⟨shown, -⟩
        exact ⟨rfl, Option.some.inj shown⟩
  | move other guard moved given free guards created =>
    refine tracks.quiet rfl (fun _ => id) rfl ?_ ?_
    · rw [issued_append, tracks.numbered, created]
      exact List.append_nil _
    · rw [guards]
      refine (tracks.flags.update other ?_).update guard ?_
      · refine matches_of_clear ?_ ?_
        · intro held here
          obtain rfl := Option.some.inj here
          rfl
        · intro lambda none
          cases none
      · -- the new guard has the flag and the lambda of the other one
        intro held here
        obtain rfl := Option.some.inj here
        exact tracks.flags other moved given
  | release guard held here guards created =>
    refine tracks.ending (show _ = [.cancel guard] from rfl) rfl ?_ ?_ created ?_
    · intro other different
      rw [guards, Function.update_of_ne different]
    · intro value same
      rw [guards, Function.update_self] at same
      obtain rfl := Option.some.inj same
      rfl
    · intro lambda
      refine iff_of_false List.not_mem_nil ?_
      rintro ⟨uses, -⟩
      cases uses
  | uses guard held here events calls others left created =>
    refine tracks.ending events rfl others left created ?_
    intro lambda
    rw [calls, Option.mem_toList, ← tracks.flags guard held here, reset_calls]
    exact (and_iff_right rfl).symm
  | returns destroyed guards created => exact tracks.returning destroyed guards created

theorem tracks_run (run : Run Step (init program) trace s) : Tracks trace s := by
  refine run.history Tracks (tracks_init program) ?_
  intro trace s label t _ tracks taken
  exact tracks_step tracks (moved_of_step taken)

/-! ### Guards that have been moved from -/

/-- A guard that exists has its flag set exactly where it owns a lambda that is still to be called:
the documented meaning of `operator bool`. -/
theorem toBool_iff (tracks : Tracks trace s) {held : LambdaCall (Lambda Guard)}
    (here : s.guards guard = some held) :
    held.toBool = true ↔ ∃ lambda, holding (history trace) guard = some lambda ∧
      Pending (history trace) lambda := by
  constructor
  · intro set
    exact ⟨_, (tracks.flags guard held here _).mp ⟨set, rfl⟩⟩
  · rintro ⟨lambda, owns⟩
    exact ((tracks.flags guard held here lambda).mpr owns).1

/-- The step releases, resets or destroys the guard. -/
def Label.On (guard : Guard) : Label Guard → Prop
  | .release other | .reset other _ | .destroy other _ => other = guard
  | .scopeExit _ _ | .move _ _ | .return _ => False

/-- **The step has no effect**: no lambda is called, and the guards stay as they are, but for the
one whose lifetime ends. -/
inductive NoEffect (s : State Guard) (guard : Guard) : Label Guard → State Guard → Prop
  | release {t : State Guard} (behind : Behind s (.release guard) t) :
      NoEffect s guard (.release guard) t
  | reset {t : State Guard} (behind : Behind s (.reset guard) t) :
      NoEffect s guard (.reset guard none) t
  | destroy {u : State Guard} (behind : Behind s (.destroy guard) u) :
      NoEffect s guard (.destroy guard none) (u.set guard none)

/-- Setting a guard to its own value changes nothing. -/
theorem set_same {value : Option (LambdaCall (Lambda Guard))} (here : s.guards guard = value) :
    s.set guard value = s := by
  unfold State.set
  rw [← here, Function.update_eq_self]

theorem noEffect_of_clear {held : LambdaCall (Lambda Guard)} (here : s.guards guard = some held)
    (clear : held.call = false) (on : label.On guard) (taken : Step s label t) :
    NoEffect s guard label t := by
  have released : held.release = held := by
    unfold LambdaCall.release
    rw [← clear]
  have resets : held.reset = (held, none) := if_neg (Bool.eq_false_iff.mp clear)
  rcases step_cases taken with ⟨command, u, behind, performs⟩ | ⟨destroyed, rfl, -⟩
  · have here : u.guards guard = some held := by rw [behind.guards, here]
    cases performed_of_perform performs with
    | scopeExit => cases on
    | move => cases on
    | release other found there =>
      obtain rfl : other = guard := on
      obtain rfl := Option.some.inj (here.symm.trans there)
      rw [released, set_same here]
      exact .release behind
    | reset other found there =>
      obtain rfl : other = guard := on
      obtain rfl := Option.some.inj (here.symm.trans there)
      rw [resets, set_same here]
      exact .reset behind
    | destroyCalling other found lambda alive there calls =>
      obtain rfl : other = guard := on
      obtain rfl := Option.some.inj (here.symm.trans there)
      rw [resets] at calls
      cases calls
    | destroy other =>
      obtain rfl : other = guard := on
      exact .destroy behind
  · cases on

/-- An operation is on a guard that exists. -/
theorem exists_of_on (on : label.On guard) (taken : Step s label t) :
    ∃ held, s.guards guard = some held := by
  cases moved_of_step taken with
  | scopeExit => cases on
  | move => cases on
  | release other held here =>
    obtain rfl : other = guard := on
    exact ⟨held, here⟩
  | uses other held here events =>
    refine ⟨held, ?_⟩
    cases label with
    | reset another called =>
      obtain rfl : another = guard := on
      obtain rfl := TokenEvent.use.inj (List.singleton_inj.mp events)
      exact here
    | destroy another called =>
      obtain rfl : another = guard := on
      obtain rfl := TokenEvent.use.inj (List.singleton_inj.mp events)
      exact here
    | release another => cases List.singleton_inj.mp events
    | _ => cases on
  | returns => cases on

/-- **An operation on a guard that has been moved from has no effect.** -/
theorem noEffect_of_passedOn (tracks : Tracks trace s) (passed : PassedOn (history trace) guard)
    (on : label.On guard) (taken : Step s label t) : NoEffect s guard label t := by
  obtain ⟨held, here⟩ := exists_of_on on taken
  refine noEffect_of_clear here ?_ on taken
  rw [Bool.eq_false_iff]
  intro set
  obtain ⟨owns, -⟩ := (tracks.flags guard held here _).mp ⟨set, rfl⟩
  rw [holding_of_passedOn passed] at owns
  cases owns

/-! ### Whole programs -/

/-- **Each lambda is called at most once**: once where the guard that owns it is reset or destroyed
and its owners have not been released before, and never otherwise. Operations on a guard that has
been moved from have no effect. -/
theorem called_once (run : Run Step (init program) trace s) :
    (∀ lambda, (called trace).count lambda ≤ 1) ∧
    (∀ lambda, (called trace).count lambda = 1 ↔ Used (history trace) lambda) ∧
    (∀ lambda early late, trace = early ++ late → Cancelled (history early) lambda →
      lambda ∉ called early → lambda ∉ called trace) ∧
    ∀ guard label t, PassedOn (history trace) guard → label.On guard → Step s label t →
      NoEffect s guard label t := by
  have tracks := tracks_run run
  refine ⟨?_, ?_, ?_, ?_⟩
  · exact List.nodup_iff_count_le_one.mp tracks.once
  · intro lambda
    rw [← tracks.shown, ← List.count_pos_iff]
    have := List.nodup_iff_count_le_one.mp tracks.once lambda
    omega
  · rintro lambda early late rfl cancelled before member
    obtain ⟨middle, first, -⟩ := Run.split early late run
    apply before
    rw [(tracks_run first).shown]
    rw [tracks.shown, history_append] at member
    exact used_of_cancelled cancelled member
  · intro guard label t passed on taken
    exact noEffect_of_passedOn tracks passed on taken

/-- A guard is moved, and the lambda of the new one resets both; another guard is released. -/
def nestedProgram : List (Command Nat) :=
  [.scopeExit 0 [.reset 0, .reset 1], .move 0 1, .scopeExit 2 [], .release 2, .reset 1, .destroy 2,
    .destroy 1, .destroy 0]

def nestedTrace : List (Label Nat) :=
  [.scopeExit 0 0, .move 0 1, .scopeExit 2 1, .release 2, .reset 1 (some 0), .reset 0 none,
    .reset 1 none, .return none, .destroy 2 none, .destroy 1 none]

/-- The first lambda is called once and the second never; to destroy the guard that has been moved
from, which is next, has no effect. -/
theorem called_once_nested : ∃ s t, Run Step (init nestedProgram) nestedTrace s ∧
    Used (history nestedTrace) 0 ∧ ¬ Used (history nestedTrace) 1 ∧
    Step s (.destroy 0 none) t ∧ NoEffect s 0 (.destroy 0 none) t := by
  obtain ⟨t, whole⟩ : ∃ t, Run Step (init nestedProgram) (nestedTrace ++ [.destroy 0 none]) t :=
    ⟨_, run_of_execute rfl⟩
  obtain ⟨s, run, last⟩ := whole.snoc_inv nestedTrace
  obtain ⟨-, once, -, moved⟩ := called_once run
  have passed : PassedOn (history nestedTrace) 0 :=
    ⟨[.issue 0 0], 1, _, rfl, by decide, by simp [Label.events, TokenEvent.Gives]⟩
  refine ⟨s, t, run, (once 0).mp rfl, ?_, last, moved 0 _ t passed rfl last⟩
  intro used
  cases (once 1).mpr used

end

end NearObject.Scope
