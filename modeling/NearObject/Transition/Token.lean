/-
**Tokens that are passed on, and used at most once.**

A token is issued to a holder and passed on from holder to holder; the one that has it may cancel it
or use it. All of this is read off the events so far, and none of it depends on how a system keeps
track of it.

* `used_snoc`, `cancelled_snoc`, `pending_snoc` — what one more event does to a token.
* `holding_of_passedOn` — a holder that has passed its token on has none, until it is given another.
* `holding_unique` — a token that is issued once has one holder.
-/

import NearObject.Transition.Run
import Mathlib.Logic.Function.Basic

namespace Transition

/-- What happens to tokens. -/
inductive TokenEvent (Holder Token : Type*)
  | issue (holder : Holder) (token : Token)
  | pass (holder other : Holder)
  | cancel (holder : Holder)
  | use (holder : Holder)

section Holders

variable {Holder Token : Type*} [DecidableEq Holder]

/-- Who has which token after an event. -/
def TokenEvent.after (held : Holder → Option Token) :
    TokenEvent Holder Token → Holder → Option Token
  | .issue holder token => Function.update held holder (some token)
  | .pass holder other => Function.update (Function.update held holder none) other (held holder)
  | .cancel _ | .use _ => held

/-- Who has which token after the events. -/
def holding (events : List (TokenEvent Holder Token)) : Holder → Option Token :=
  events.foldl TokenEvent.after fun _ => none

/-- A holder of the token has cancelled it. -/
def Cancelled (events : List (TokenEvent Holder Token)) (token : Token) : Prop :=
  ∃ early holder late, events = early ++ .cancel holder :: late ∧
    holding early holder = some token

/-- A holder of the token has used it, and nobody had cancelled it. -/
def Used (events : List (TokenEvent Holder Token)) (token : Token) : Prop :=
  ∃ early holder late, events = early ++ .use holder :: late ∧
    holding early holder = some token ∧ ¬ Cancelled early token

/-- The token is still to be used. -/
def Pending (events : List (TokenEvent Holder Token)) (token : Token) : Prop :=
  ¬ Cancelled events token ∧ ¬ Used events token

/-- The holder is given a token by the event. -/
def TokenEvent.Gives (holder : Holder) : TokenEvent Holder Token → Prop
  | .issue other _ => other = holder
  | .pass _ other => other = holder
  | .cancel _ | .use _ => False

/-- The holder cancels its token, or uses it. -/
def TokenEvent.Ends (holder : Holder) : TokenEvent Holder Token → Prop
  | .cancel other | .use other => other = holder
  | .issue _ _ | .pass _ _ => False

/-- The holder has passed its token on to another, and has not been given one since. -/
def PassedOn (events : List (TokenEvent Holder Token)) (holder : Holder) : Prop :=
  ∃ early other late, events = early ++ .pass holder other :: late ∧ other ≠ holder ∧
    ∀ event ∈ late, ¬ event.Gives holder

omit [DecidableEq Holder] in
/-- The tokens issued, in order. -/
def issued (events : List (TokenEvent Holder Token)) : List Token :=
  events.filterMap fun
    | .issue _ token => some token
    | _ => none

variable {events : List (TokenEvent Holder Token)} {event : TokenEvent Holder Token}
  {holder other : Holder} {token : Token}

/-! ### One more event -/

theorem holding_snoc (events : List (TokenEvent Holder Token)) (event : TokenEvent Holder Token) :
    holding (events ++ [event]) = event.after (holding events) := by
  rw [holding, List.foldl_append]
  rfl

omit [DecidableEq Holder] in
theorem issued_append (first second : List (TokenEvent Holder Token)) :
    issued (first ++ second) = issued first ++ issued second :=
  List.filterMap_append

theorem cancelled_snoc : Cancelled (events ++ [event]) token ↔
    Cancelled events token ∨
      ∃ holder, event = .cancel holder ∧ holding events holder = some token := by
  constructor
  · rintro ⟨early, holder, late, shape, has⟩
    rcases snoc_eq_split.mp shape with ⟨rfl, rfl, -⟩ | ⟨rest, -, rfl⟩
    · exact .inr ⟨holder, rfl, has⟩
    · exact .inl ⟨early, holder, rest, rfl, has⟩
  · rintro (⟨early, holder, late, rfl, has⟩ | ⟨holder, rfl, has⟩)
    · exact ⟨early, holder, late ++ [event], by simp, has⟩
    · exact ⟨events, holder, [], rfl, has⟩

theorem used_snoc : Used (events ++ [event]) token ↔
    Used events token ∨
      ∃ holder, event = .use holder ∧ holding events holder = some token ∧
        ¬ Cancelled events token := by
  constructor
  · rintro ⟨early, holder, late, shape, has⟩
    rcases snoc_eq_split.mp shape with ⟨rfl, rfl, -⟩ | ⟨rest, -, rfl⟩
    · exact .inr ⟨holder, rfl, has⟩
    · exact .inl ⟨early, holder, rest, rfl, has⟩
  · rintro (⟨early, holder, late, rfl, has⟩ | ⟨holder, rfl, has⟩)
    · exact ⟨early, holder, late ++ [event], by simp, has⟩
    · exact ⟨events, holder, [], rfl, has⟩

/-- **A token stays pending until its holder cancels or uses it.** -/
theorem pending_snoc : Pending (events ++ [event]) token ↔
    Pending events token ∧ ∀ holder, holding events holder = some token → ¬ event.Ends holder := by
  unfold Pending
  rw [cancelled_snoc, used_snoc]
  constructor
  · rintro ⟨uncancelled, unused⟩
    obtain ⟨before, noCancel⟩ := not_or.mp uncancelled
    obtain ⟨fresh, noUse⟩ := not_or.mp unused
    refine ⟨⟨before, fresh⟩, fun holder has ends => ?_⟩
    cases event with
    | issue _ _ => exact ends
    | pass _ _ => exact ends
    | cancel other => exact noCancel ⟨holder, by rw [show other = holder from ends], has⟩
    | use other => exact noUse ⟨holder, by rw [show other = holder from ends], has, before⟩
  · rintro ⟨⟨before, fresh⟩, others⟩
    constructor
    · rintro (cancelled | ⟨holder, rfl, has⟩)
      · exact before cancelled
      · exact others holder has rfl
    · rintro (used | ⟨holder, rfl, has, -⟩)
      · exact fresh used
      · exact others holder has rfl

/-- A token that is cancelled before it is used is never used. -/
theorem used_of_cancelled {later : List (TokenEvent Holder Token)}
    (cancelled : Cancelled events token) (used : Used (events ++ later) token) :
    Used events token := by
  induction later using List.reverseRecOn with
  | nil => rwa [List.append_nil] at used
  | append_singleton later event ih =>
    rw [← List.append_assoc, used_snoc] at used
    rcases used with used | ⟨holder, -, -, uncancelled⟩
    · exact ih used
    · obtain ⟨early, holder, rest, rfl, has⟩ := cancelled
      exact absurd ⟨early, holder, rest ++ later, by simp, has⟩ uncancelled

/-- How a holder comes to have a token after an event. -/
inductive Got (held : Holder → Option Token) (holder : Holder) (token : Token) :
    TokenEvent Holder Token → Prop
  | issued : Got held holder token (.issue holder token)
  | passed (giver : Holder) (has : held giver = some token) :
      Got held holder token (.pass giver holder)
  | kept {event : TokenEvent Holder Token} (ungiven : ¬ event.Gives holder)
      (keeps : ∀ other, event ≠ .pass holder other) (has : held holder = some token) :
      Got held holder token event

theorem got_of_after {held : Holder → Option Token} (has : event.after held holder = some token) :
    Got held holder token event := by
  cases event with
  | issue other fresh =>
    by_cases same : holder = other
    · subst same
      rw [TokenEvent.after, Function.update_self] at has
      obtain rfl := Option.some.inj has
      exact .issued
    · rw [TokenEvent.after, Function.update_of_ne same] at has
      exact .kept (Ne.symm same) (fun _ => by simp) has
  | pass giver other =>
    by_cases same : holder = other
    · subst same
      rw [TokenEvent.after, Function.update_self] at has
      exact .passed giver has
    · rw [TokenEvent.after, Function.update_of_ne same] at has
      by_cases gave : holder = giver
      · subst gave
        rw [Function.update_self] at has
        cases has
      · rw [Function.update_of_ne gave] at has
        refine .kept (Ne.symm same) (fun another passes => gave ?_) has
        exact (TokenEvent.pass.inj passes).1.symm
  | cancel _ => exact .kept id (fun _ => by simp) has
  | use _ => exact .kept id (fun _ => by simp) has

/-- **A holder that has passed its token on has none.** -/
theorem holding_of_passedOn (passed : PassedOn events holder) : holding events holder = none := by
  obtain ⟨early, other, late, rfl, different, ungiven⟩ := passed
  induction late using List.reverseRecOn with
  | nil =>
    rw [holding_snoc]
    exact (Function.update_of_ne different.symm ..).trans (Function.update_self ..)
  | append_singleton late event ih =>
    have before := ih fun event member => ungiven event (List.mem_append_left _ member)
    have last : ¬ event.Gives holder := ungiven event (by simp)
    rw [← List.cons_append, ← List.append_assoc, holding_snoc, Option.eq_none_iff_forall_ne_some]
    intro token has
    cases got_of_after has with
    | issued => exact last rfl
    | passed => exact last rfl
    | kept _ _ has =>
      rw [before] at has
      cases has

/-! ### Tokens that are issued once -/

/-- Only tokens that were issued are held. -/
theorem issued_of_holding (has : holding events holder = some token) : token ∈ issued events := by
  induction events using List.reverseRecOn generalizing holder with
  | nil => cases has
  | append_singleton events event ih =>
    rw [holding_snoc] at has
    rw [issued_append, List.mem_append]
    cases got_of_after has with
    | issued => exact .inr (List.mem_singleton_self _)
    | passed giver had => exact .inl (ih had)
    | kept _ _ had => exact .inl (ih had)

/-- A token that has not been issued is pending. -/
theorem pending_of_not_issued (fresh : token ∉ issued events) : Pending events token := by
  constructor
  · rintro ⟨early, holder, late, rfl, has⟩
    apply fresh
    rw [issued_append]
    exact List.mem_append_left _ (issued_of_holding has)
  · rintro ⟨early, holder, late, rfl, has, -⟩
    apply fresh
    rw [issued_append]
    exact List.mem_append_left _ (issued_of_holding has)

/-- **A token that is issued once has one holder.** -/
theorem holding_unique (once : (issued events).Nodup) (first : holding events holder = some token)
    (second : holding events other = some token) : holder = other := by
  induction events using List.reverseRecOn generalizing holder other with
  | nil => cases first
  | append_singleton events event ih =>
    rw [issued_append] at once
    have before := (List.nodup_append.mp once).1
    rw [holding_snoc] at first second
    -- a token that somebody has is not issued again
    have fresh {another : Holder} (has : holding events another = some token) (given : Holder) :
        event ≠ .issue given token := by
      rintro rfl
      exact (List.nodup_append.mp once).2.2 _ (issued_of_holding has) _ (List.mem_singleton_self _)
        rfl
    cases got_of_after first with
    | issued =>
      cases got_of_after second with
      | issued => rfl
      | kept _ _ has => exact absurd rfl (fresh has holder)
    | passed giver has =>
      cases got_of_after second with
      | passed => rfl
      | kept _ keeps still =>
        obtain rfl := ih before has still
        exact absurd rfl (keeps holder)
    | kept _ keeps has =>
      cases got_of_after second with
      | issued => exact absurd rfl (fresh has other)
      | passed giver still =>
        obtain rfl := ih before has still
        exact absurd rfl (keeps other)
      | kept _ _ still => exact ih before has still

/-- Another holder's token stays pending. -/
theorem pending_of_other (once : (issued events).Nodup) (ends : event.Ends holder)
    (has : holding events other = some token) (different : other ≠ holder) :
    Pending (events ++ [event]) token ↔ Pending events token := by
  rw [pending_snoc]
  refine and_iff_left fun another same ending => different ?_
  rw [holding_unique once has same]
  cases event with
  | issue _ _ => cases ends
  | pass _ _ => cases ends
  | cancel _ => exact ending.symm.trans ends
  | use _ => exact ending.symm.trans ends

end Holders

end Transition
