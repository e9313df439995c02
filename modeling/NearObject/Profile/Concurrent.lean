/-
**`AddProfile` from several threads.**

A persistent `AddProfile` is in three steps: the push onto `m_profiles`, under `m_profilesGate`;
and, after that gate is released, the read of the file and the write of the file by
`PersistProfile`. The persister leaves it to its caller to synchronise the access to the file, and
no gate is held over the last two steps. A write that comes after the write of another call takes
back what that call wrote, if it read the file before.

The state counts the writes, and remembers of each read how many there had been. The code keeps
neither; it is what "no other write since" is about.

* `persisted_iff` — when all calls have returned, the file has what it had before and a permutation
  of the profiles added exactly where every write came after the read of its own call, and no other
  write in between.
-/

import NearObject.Profile.Persister
import NearObject.Json.Text
import NearObject.Transition.Run
import Mathlib.Logic.Function.Basic

namespace NearObject.Profile.Concurrent

open Json
open Transition

/-! ### States and steps -/

/-- Where a thread is in `AddProfile(profile, Persistent)`. -/
inductive Activity
  | idle
  /-- The profile is in `m_profiles`, and `PersistProfile` is next. -/
  | pushed (profile : NearObjectProfile)
  /-- `PersistProfile` has read these profiles, after so many writes. -/
  | read (profile : NearObjectProfile) (profiles : List NearObjectProfile) (writes : Nat)
  deriving DecidableEq, Repr

structure State (Thread Content : Type) where
  file : Option Content
  profiles : List NearObjectProfile
  activity : Thread → Activity
  writes : Nat

def init (Thread : Type) {Content : Type} (file : Option Content) : State Thread Content where
  file := file
  profiles := []
  activity := fun _ => .idle
  writes := 0

inductive Label (Thread : Type)
  /-- The call begins, and pushes the profile. -/
  | push (thread : Thread) (profile : NearObjectProfile)
  | read (thread : Thread)
  /-- The file is written, and the call returns. -/
  | write (thread : Thread)
  deriving DecidableEq, Repr

section Steps

variable {Thread Content Double : Type} [DecidableEq Thread] (format : Format Content Double)

def State.setActivity (s : State Thread Content) (thread : Thread) (activity : Activity) :
    State Thread Content :=
  { s with activity := Function.update s.activity thread activity }

/-- One step of a thread, without I/O failure. -/
def next (s : State Thread Content) : Label Thread → Option (State Thread Content)
  | .push thread profile => match s.activity thread with
    | .idle =>
      some ({ s with profiles := s.profiles ++ [profile] }.setActivity thread (.pushed profile))
    | _ => none
  | .read thread => match s.activity thread with
    | .pushed profile =>
      match readPersistedProfiles format (.success Content) s.file with
      | .ok (.succeeded, profiles) =>
        some (s.setActivity thread (.read profile profiles s.writes))
      -- `PersistProfile` returns the result of the read, or throws
      | _ => some (s.setActivity thread .idle)
    | _ => none
  | .write thread => match s.activity thread with
    | .read profile profiles _ =>
      let (_, file) := writeProfiles format (.success Content) (profiles ++ [profile])
      some ({ s with file, writes := s.writes + 1 }.setActivity thread .idle)
    | _ => none

/-- The threads, as a system. -/
abbrev Step : State Thread Content → Label Thread → State Thread Content → Prop :=
  Next (next format)

/-- The file has not been written since it was read here, if it was. -/
def Activity.UpToDate (writes : Nat) : Activity → Prop
  | .read _ _ before => before = writes
  | _ => True

/-- No other call has written the file since the call that writes it now has read it. -/
def KeepsUpdates (s : State Thread Content) : Label Thread → Prop
  | .write thread => (s.activity thread).UpToDate s.writes
  | _ => True

instance (writes : Nat) : (activity : Activity) → Decidable (activity.UpToDate writes)
  | .read _ _ before => inferInstanceAs (Decidable (before = writes))
  | .idle | .pushed _ => isTrue trivial

instance (s : State Thread Content) : (label : Label Thread) → Decidable (KeepsUpdates s label)
  | .write thread => inferInstanceAs (Decidable ((s.activity thread).UpToDate s.writes))
  | .push .. | .read _ => isTrue trivial

/-- The profiles of the calls that have begun, in the order of their pushes. -/
def added (trace : List (Label Thread)) : List NearObjectProfile :=
  trace.filterMap fun
    | .push _ profile => some profile
    | _ => none

end Steps

section Runs

variable {Thread Content Double : Type} {format : Format Content Double}
  {s t : State Thread Content} {before : List NearObjectProfile}

/-! ### The calls in progress -/

/-- The profile that a thread in this place is adding. -/
def Activity.profile? : Activity → Option NearObjectProfile
  | .idle => none
  | .pushed profile | .read profile _ _ => some profile

/-- The calls in progress, one for each thread that is in one. -/
structure Pending (s : State Thread Content) (pending : List (Thread × NearObjectProfile)) :
    Prop where
  busy : ∀ thread profile,
    (thread, profile) ∈ pending ↔ (s.activity thread).profile? = some profile
  nodup : pending.Nodup

theorem pending_init (file : Option Content) : Pending (init Thread file) [] where
  busy := fun _ _ => by simp [init, Activity.profile?]
  nodup := List.nodup_nil

theorem Pending.nil_of_idle {pending : List (Thread × NearObjectProfile)}
    (tracks : Pending s pending) (idle : ∀ thread, s.activity thread = .idle) : pending = [] := by
  refine List.eq_nil_iff_forall_not_mem.mpr fun ⟨thread, profile⟩ member => ?_
  have busy := (tracks.busy thread profile).mp member
  rw [idle thread] at busy
  cases busy

section Moves

variable [DecidableEq Thread] {pending : List (Thread × NearObjectProfile)} {thread : Thread}
  {activity : Activity}

theorem Pending.push {profile : NearObjectProfile} (tracks : Pending s pending)
    (idle : s.activity thread = .idle)
    (moves : t.activity = Function.update s.activity thread (.pushed profile)) :
    Pending t ((thread, profile) :: pending) where
  busy := by
    intro other another
    rw [List.mem_cons, moves, tracks.busy]
    by_cases here : other = thread
    · simp [here, idle, Activity.profile?, eq_comm]
    · simp [here]
  nodup := by
    refine List.nodup_cons.mpr ⟨fun member => ?_, tracks.nodup⟩
    have busy := (tracks.busy thread profile).mp member
    rw [idle] at busy
    cases busy

theorem Pending.move (tracks : Pending s pending)
    (moves : t.activity = Function.update s.activity thread activity)
    (same : activity.profile? = (s.activity thread).profile?) : Pending t pending where
  busy := by
    intro other profile
    rw [moves, tracks.busy]
    by_cases here : other = thread
    · rw [here, Function.update_self, same]
    · rw [Function.update_of_ne here]
  nodup := tracks.nodup

theorem Pending.pop {profile : NearObjectProfile} (tracks : Pending s pending)
    (here : (s.activity thread).profile? = some profile)
    (moves : t.activity = Function.update s.activity thread .idle) :
    Pending t (pending.erase (thread, profile)) where
  busy := by
    intro other another
    rw [tracks.nodup.mem_erase_iff, moves, tracks.busy]
    by_cases this : other = thread
    · obtain rfl := this
      rw [here, Function.update_self]
      simp [Activity.profile?, eq_comm]
    · rw [Function.update_of_ne this]
      simp [this]
  nodup := tracks.nodup.erase _

theorem Pending.perm_erase {profile : NearObjectProfile} (tracks : Pending s pending)
    (here : (s.activity thread).profile? = some profile) :
    pending.Perm ((thread, profile) :: pending.erase (thread, profile)) :=
  List.perm_cons_erase ((tracks.busy thread profile).mpr here)

end Moves

/-! ### One lemma for each label -/

variable [DecidableEq Thread] {thread : Thread} {profile : NearObjectProfile}

theorem setActivity_self {activity : Activity} :
    (s.setActivity thread activity).activity thread = activity :=
  Function.update_self ..

theorem step_push : Step format s (.push thread profile) t ↔ s.activity thread = .idle ∧
    t = { s with profiles := s.profiles ++ [profile] }.setActivity thread (.pushed profile) := by
  simp only [Step, Next, next]
  cases s.activity thread <;> simp [eq_comm (b := t)]

/-- A file that holds profiles is read. -/
theorem step_read {profiles : List NearObjectProfile} (holds : Holds format s.file profiles) :
    Step format s (.read thread) t ↔ ∃ profile, s.activity thread = .pushed profile ∧
      t = s.setActivity thread (.read profile profiles s.writes) := by
  simp only [Step, Next, next]
  unfold Holds at holds
  cases s.activity thread <;> simp [holds, eq_comm (b := t)]

theorem step_write : Step format s (.write thread) t ↔ ∃ profile profiles writes,
    s.activity thread = .read profile profiles writes ∧
      t = { s with
        file := (writeProfiles format (.success Content) (profiles ++ [profile])).2
        writes := s.writes + 1 }.setActivity thread .idle := by
  simp only [Step, Next, next]
  cases s.activity thread <;> simp [eq_comm (b := t)]

/-- The two halves of `PersistProfile`, when no other call is between them. -/
theorem persistProfile_alone {profiles : List NearObjectProfile}
    (idle : s.activity thread = .idle) (holds : Holds format s.file profiles) :
    ∃ t, Run (Step format) s [.push thread profile, .read thread, .write thread] t ∧
      t.file = (persistProfile format (.success Content) s.file profile).2 := by
  rw [persistProfile_of_holds holds]
  have push : Step format s (.push thread profile) _ := step_push.mpr ⟨idle, rfl⟩
  have read := (step_read (s := { s with profiles := s.profiles ++ [profile] }.setActivity thread
    (.pushed profile)) holds).mpr ⟨profile, setActivity_self, rfl⟩
  exact ⟨_, .cons push (.cons read (.single (step_write.mpr
    ⟨profile, profiles, s.writes, setActivity_self, rfl⟩))), rfl⟩

omit [DecidableEq Thread] in
theorem added_append (first second : List (Label Thread)) :
    added (first ++ second) = added first ++ added second :=
  List.filterMap_append

/-! ### While every write is of what the file holds -/

/-- The file holds what it held before and the profiles `written`, one for each write; those and the
ones in progress are the profiles added; and what a call has read is what the file held then. -/
structure Fresh (format : Format Content Double) (before : List NearObjectProfile)
    (trace : List (Label Thread)) (s : State Thread Content) (written : List NearObjectProfile)
    (pending : List (Thread × NearObjectProfile)) : Prop where
  holds : Holds format s.file (before ++ written)
  writes : written.length = s.writes
  tracks : Pending s pending
  added : (added trace).Perm (written ++ pending.map Prod.snd)
  reads : ∀ thread profile profiles writes, s.activity thread = .read profile profiles writes →
    writes ≤ s.writes ∧ profiles.length = before.length + writes ∧
      (writes = s.writes → profiles = before ++ written)

variable {trace : List (Label Thread)} {written : List NearObjectProfile}
  {pending : List (Thread × NearObjectProfile)} {label : Label Thread}

omit [DecidableEq Thread] in
theorem fresh_init {file : Option Content} (holds : Holds format file before) :
    Fresh format before [] (init Thread file) [] [] where
  holds := by rwa [List.append_nil]
  writes := rfl
  tracks := pending_init file
  added := .refl _
  reads := fun _ _ _ _ reading => by cases reading

/-- What a call has read stays read, when another one moves. -/
theorem reads_of_update {activity : Activity} {moved : Thread → Activity} {other : Thread}
    {profiles : List NearObjectProfile} {writes : Nat}
    (moves : moved = Function.update s.activity thread activity)
    (reading : moved other = .read profile profiles writes) :
    activity = .read profile profiles writes ∨
      s.activity other = .read profile profiles writes := by
  rw [moves] at reading
  by_cases here : other = thread
  · rw [here, Function.update_self] at reading
    exact .inl reading
  · rw [Function.update_of_ne here] at reading
    exact .inr reading

theorem fresh_step (lawful : format.Lawful Written)
    (fresh : Fresh format before trace s written pending)
    (keeps : KeepsUpdates s label) (taken : Step format s label t) :
    ∃ written pending, Fresh format before (trace ++ [label]) t written pending := by
  obtain ⟨holds, count, tracks, permuted, reads⟩ := fresh
  cases label with
  | push thread profile =>
    obtain ⟨idle, rfl⟩ := step_push.mp taken
    refine ⟨written, (thread, profile) :: pending, holds, count, tracks.push idle rfl, ?_, ?_⟩
    · rw [added_append]
      have appended : (added trace ++ [profile]).Perm (profile :: added trace) :=
        List.perm_append_singleton _ _
      exact appended.trans ((permuted.cons profile).trans List.perm_middle.symm)
    · intro other another profiles writes reading
      rcases reads_of_update rfl reading with here | there
      · cases here
      · exact reads other another profiles writes there
  | read thread =>
    obtain ⟨profile, pushed, rfl⟩ := (step_read holds).mp taken
    refine ⟨written, pending, holds, count, tracks.move rfl (by rw [pushed]; rfl), ?_, ?_⟩
    · rwa [added_append, show added [Label.read thread] = [] from rfl, List.append_nil]
    · intro other another profiles writes reading
      rcases reads_of_update rfl reading with here | there
      · obtain ⟨-, rfl, rfl⟩ := Activity.read.inj here
        exact ⟨Nat.le_refl _, by rw [List.length_append, count], fun _ => rfl⟩
      · exact reads other another profiles writes there
  | write thread =>
    obtain ⟨profile, profiles, writes, reading, rfl⟩ := step_write.mp taken
    have upToDate : writes = s.writes := by
      have kept := keeps
      rwa [KeepsUpdates, reading] at kept
    obtain rfl := (reads thread profile profiles writes reading).2.2 upToDate
    have here : (s.activity thread).profile? = some profile := by rw [reading]; rfl
    refine ⟨written ++ [profile], pending.erase (thread, profile), ?_, ?_, tracks.pop here rfl,
      ?_, ?_⟩
    · rw [← List.append_assoc]
      exact holds_written lawful _
    · rw [List.length_append, count]
      rfl
    · rw [added_append, show added [Label.write thread] = [] from rfl, List.append_nil,
        List.append_assoc]
      exact permuted.trans (((tracks.perm_erase here).map Prod.snd).append_left written)
    · intro other another others read rereading
      rcases reads_of_update rfl rereading with here | there
      · cases here
      · obtain ⟨earlier, length, -⟩ := reads other another others read there
        exact ⟨Nat.le_succ_of_le earlier, length, fun same => absurd same (by
          show read ≠ s.writes + 1
          omega)⟩

/-! ### After a write of something older -/

/-- The file holds fewer profiles than it held before and were written, and so does what the calls
have read. -/
structure Short (format : Format Content Double) (before : List NearObjectProfile)
    (trace : List (Label Thread)) (s : State Thread Content) (contents : List NearObjectProfile)
    (pending : List (Thread × NearObjectProfile)) : Prop where
  holds : Holds format s.file contents
  short : contents.length < before.length + s.writes
  tracks : Pending s pending
  added : (added trace).length = s.writes + pending.length
  reads : ∀ thread profile profiles writes, s.activity thread = .read profile profiles writes →
    profiles.length < before.length + s.writes

/-- A write of what the file held before another write. -/
theorem short_of_stale (lawful : format.Lawful Written)
    (fresh : Fresh format before trace s written pending) (stale : ¬ KeepsUpdates s label)
    (taken : Step format s label t) :
    ∃ contents pending, Short format before (trace ++ [label]) t contents pending := by
  obtain ⟨holds, count, tracks, permuted, reads⟩ := fresh
  cases label with
  | write thread =>
    obtain ⟨profile, profiles, writes, reading, rfl⟩ := step_write.mp taken
    have older : writes ≠ s.writes := by
      intro same
      apply stale
      rw [KeepsUpdates, reading]
      exact same
    obtain ⟨earlier, length, -⟩ := reads thread profile profiles writes reading
    have here : (s.activity thread).profile? = some profile := by rw [reading]; rfl
    refine ⟨profiles ++ [profile], pending.erase (thread, profile), holds_written lawful _, ?_,
      tracks.pop here rfl, ?_, ?_⟩
    · rw [List.length_append, List.length_singleton]
      show profiles.length + 1 < before.length + (s.writes + 1)
      omega
    · have fewer := (tracks.perm_erase here).length_eq
      have all := permuted.length_eq
      rw [List.length_cons] at fewer
      rw [List.length_append, List.length_map] at all
      rw [added_append, show added [Label.write thread] = [] from rfl, List.append_nil]
      show _ = s.writes + 1 + _
      omega
    · intro other another others read rereading
      rcases reads_of_update rfl rereading with here | there
      · cases here
      · obtain ⟨earlier, length, -⟩ := reads other another others read there
        show others.length < before.length + (s.writes + 1)
        omega
  | push thread profile => exact absurd trivial stale
  | read thread => exact absurd trivial stale

theorem short_step (lawful : format.Lawful Written) {contents : List NearObjectProfile}
    (short : Short format before trace s contents pending) (taken : Step format s label t) :
    ∃ contents pending, Short format before (trace ++ [label]) t contents pending := by
  obtain ⟨holds, short, tracks, count, reads⟩ := short
  cases label with
  | push thread profile =>
    obtain ⟨idle, rfl⟩ := step_push.mp taken
    refine ⟨contents, (thread, profile) :: pending, holds, short, tracks.push idle rfl, ?_, ?_⟩
    · rw [added_append, List.length_append, count]
      rfl
    · intro other another profiles writes reading
      rcases reads_of_update rfl reading with here | there
      · cases here
      · exact reads other another profiles writes there
  | read thread =>
    obtain ⟨profile, pushed, rfl⟩ := (step_read holds).mp taken
    refine ⟨contents, pending, holds, short, tracks.move rfl (by rw [pushed]; rfl), ?_, ?_⟩
    · rwa [added_append, show added [Label.read thread] = [] from rfl, List.append_nil]
    · intro other another profiles writes reading
      rcases reads_of_update rfl reading with here | there
      · obtain ⟨-, rfl, -⟩ := Activity.read.inj here
        exact short
      · exact reads other another profiles writes there
  | write thread =>
    obtain ⟨profile, profiles, writes, reading, rfl⟩ := step_write.mp taken
    have here : (s.activity thread).profile? = some profile := by rw [reading]; rfl
    have shorter := reads thread profile profiles writes reading
    refine ⟨profiles ++ [profile], pending.erase (thread, profile), holds_written lawful _, ?_,
      tracks.pop here rfl, ?_, ?_⟩
    · rw [List.length_append, List.length_singleton]
      show profiles.length + 1 < before.length + (s.writes + 1)
      omega
    · have fewer := (tracks.perm_erase here).length_eq
      rw [List.length_cons] at fewer
      rw [added_append, show added [Label.write thread] = [] from rfl, List.append_nil]
      show _ = s.writes + 1 + _
      omega
    · intro other another others read rereading
      rcases reads_of_update rfl rereading with here | there
      · cases here
      · have shorter := reads other another others read there
        show others.length < before.length + (s.writes + 1)
        omega

/-! ### Whole runs -/

theorem fresh_run (lawful : format.Lawful Written) {file : Option Content}
    (holds : Holds format file before)
    (run : Run (Restrict (Step format) KeepsUpdates) (init Thread file) trace s) :
    ∃ written pending, Fresh format before trace s written pending := by
  refine run.history (fun trace s => ∃ written pending, Fresh format before trace s written pending)
    ⟨[], [], fresh_init holds⟩ ?_
  rintro trace s label t - ⟨written, pending, fresh⟩ ⟨keeps, taken⟩
  exact fresh_step lawful fresh keeps taken

/-- A run keeps the updates, or has lost one. -/
theorem fresh_or_short (lawful : format.Lawful Written) {file : Option Content}
    (holds : Holds format file before) (run : Run (Step format) (init Thread file) trace s) :
    Run (Restrict (Step format) KeepsUpdates) (init Thread file) trace s ∨
      ∃ contents pending, Short format before trace s contents pending := by
  induction run with
  | nil => exact .inl .nil
  | @snoc trace s t label _ taken ih =>
    rcases ih with kept | ⟨contents, pending, short⟩
    · by_cases keeps : KeepsUpdates s label
      · exact .inl (kept.snoc ⟨keeps, taken⟩)
      · obtain ⟨written, pending, fresh⟩ := fresh_run lawful holds kept
        exact .inr (short_of_stale lawful fresh keeps taken)
    · exact .inr (short_step lawful short taken)

/-- **No persisted profile is lost exactly where no update is overwritten.** When all calls have
returned, the file reads back as the profiles that it held before and a permutation of the ones
added, if and only if no call has written it after another call's write that came after its own
read. -/
theorem persisted_iff (lawful : format.Lawful Written) {file : Option Content}
    (holds : Holds format file before) (run : Run (Step format) (init Thread file) trace s)
    (returned : ∀ thread, s.activity thread = .idle) :
    (∃ others, others.Perm (added trace) ∧
      readPersistedProfiles format (.success Content) s.file =
        .ok (.succeeded, before ++ others)) ↔
      Run (Restrict (Step format) KeepsUpdates) (init Thread file) trace s := by
  constructor
  · rintro ⟨others, permuted, read⟩
    refine (fresh_or_short lawful holds run).resolve_right ?_
    rintro ⟨contents, pending, short⟩
    have same : contents = before ++ others := short.holds.unique read
    have shorter := short.short
    have count := short.added
    rw [short.tracks.nil_of_idle returned, List.length_nil] at count
    rw [same, List.length_append, permuted.length_eq, count] at shorter
    omega
  · intro kept
    obtain ⟨written, pending, fresh⟩ := fresh_run lawful holds kept
    have all := fresh.added
    rw [fresh.tracks.nil_of_idle returned, List.map_nil, List.append_nil] at all
    exact ⟨written, all.symm, fresh.holds⟩

end Runs

/-- Two threads that push at once, and persist one after the other. -/
def serialTrace : List (Label Nat) :=
  [.push 0 {}, .push 1 ⟨.multicast, some {}⟩, .read 1, .write 1, .read 0, .write 0]

theorem persisted_serial : ∃ s : State Nat (List Char),
    Run (Step text) (init Nat none) serialTrace s ∧
      ∃ others, others.Perm [⟨.unicast, none⟩, ⟨.multicast, some {}⟩] ∧
        readPersistedProfiles text (.success (List Char)) s.file =
          .ok (.succeeded, [] ++ others) := by
  have kept : Run (Restrict (Step text) KeepsUpdates) (init Nat none) serialTrace _ :=
    run_of_execute_guarded rfl
  refine ⟨_, kept.unrestrict, (persisted_iff (text_lawful _) (holds_none text) kept.unrestrict
    ?_).mpr kept⟩
  rintro (_ | _ | _) <;> rfl

/-- Two threads read the file, and the second write takes back the first. -/
theorem update_lost : ∃ s : State Nat (List Char),
    Run (Step text) (init Nat none)
      [.push 0 {}, .push 1 ⟨.multicast, some {}⟩, .read 0, .read 1, .write 0, .write 1] s ∧
    (∀ thread, s.activity thread = .idle) ∧
    readPersistedProfiles text (.success (List Char)) s.file =
      .ok (.succeeded, [⟨.multicast, some {}⟩]) ∧
    ¬ ∃ others, others.Perm [⟨.unicast, none⟩, ⟨.multicast, some {}⟩] ∧
      readPersistedProfiles text (.success (List Char)) s.file =
        .ok (.succeeded, [] ++ others) := by
  have read : ∀ s : State Nat (List Char),
      readPersistedProfiles text (.success (List Char)) s.file =
        .ok (.succeeded, [⟨.multicast, some {}⟩]) → ¬ ∃ others,
        others.Perm [⟨.unicast, none⟩, ⟨.multicast, some {}⟩] ∧
          readPersistedProfiles text (.success (List Char)) s.file =
            .ok (.succeeded, [] ++ others) := by
    rintro s one ⟨others, permuted, both⟩
    have same : [⟨.multicast, some {}⟩] = [] ++ others := Holds.unique one both
    have length := permuted.length_eq
    rw [List.nil_append] at same
    rw [← same] at length
    cases length
  refine ⟨_, run_of_execute rfl, ?_, rfl, read _ rfl⟩
  rintro (_ | _ | _) <;> rfl

end NearObject.Profile.Concurrent
