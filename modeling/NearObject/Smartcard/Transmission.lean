/-
**`windows::devices::Smartcard` — requests, responses, and a wrapper that calls itself.**

`TransmitAsyncImpl` accepts a request where none is pending, and `CompletePendingTransmission` gives
the response to the one that is. Clients call the public `TransmitAsync`, which should hand the
request to `TransmitAsyncImpl` as `Transmit` does to `TransmitImpl`, and calls `TransmitAsync`
instead; no derived class overrides it.

A system is made of the completions and of one way to transmit (`Transmit`): that of the clients
(`transmitAsync`, by the depth of its calls), or the implementation itself (`viaImpl`).

* `viaImpl_protocol` — through the implementation, requests and responses pair up.
* `transmitAsync_eq_none` — the wrapper returns at no depth.
* `protocol_iff` — so a run keeps the protocol exactly where nobody transmits.
-/

import NearObject.Smartcard.Apdu
import NearObject.Transition.Run

namespace NearObject.Smartcard

open Transition

/-! ### The card -/

section Card

variable (Response : Type)

/-- The card. `promises` has, for every promise ever created, the values set on it, and
`pendingTxResponsePromise` is the position there of the pending one. -/
structure State where
  pendingTxResponsePromise : Option Nat
  promises : List (List Response)
  deriving DecidableEq, Repr

def init : State Response where
  pendingTxResponsePromise := none
  promises := []

/-- `TransmitAsyncRequest`; the future is that of the promise at this position. -/
structure TransmitAsyncRequest where
  submitted : Bool
  response : Option Nat
  deriving DecidableEq, Repr

/-- A way to transmit a command with a timeout, `none` where it does not return. -/
abbrev Transmit :=
  State Response → ApduCommand → Int → Option (State Response × TransmitAsyncRequest)

variable {Response}

/-- `TransmitAsyncImpl`. -/
def State.transmitAsyncImpl (s : State Response) (_command : ApduCommand) (_timeout : Int) :
    State Response × TransmitAsyncRequest :=
  match s.pendingTxResponsePromise with
  | some _ => (s, ⟨false, none⟩)
  | none =>
    ({ pendingTxResponsePromise := some s.promises.length
       promises := s.promises ++ [[]] }, ⟨true, some s.promises.length⟩)

/-- `CompletePendingTransmission`. -/
def State.completePendingTransmission (s : State Response) (response : Response) :
    State Response :=
  match s.pendingTxResponsePromise with
  | none => s
  | some promise =>
    { pendingTxResponsePromise := none
      promises := s.promises.modify promise (· ++ [response]) }

/-- `TransmitAsync`, on a stack with room for so many calls. -/
def transmitAsync : Nat → Transmit Response
  | 0, _, _, _ => none
  | depth + 1, s, command, timeout => transmitAsync depth s command timeout

/-- The call that `TransmitAsync` should make. -/
def viaImpl : Transmit Response :=
  fun s command timeout => some (s.transmitAsyncImpl command timeout)

/-- **The wrapper never returns**, however deep its calls go. -/
theorem transmitAsync_eq_none (depth : Nat) (s : State Response) (command : ApduCommand)
    (timeout : Int) : transmitAsync depth s command timeout = none := by
  induction depth with
  | zero => rfl
  | succ depth ih => exact ih

end Card

/-! ### Calls -/

/-- The calls on a card, in the order in which they take `m_pendingTxGate`. A call that does not
return has no request. -/
inductive Label (Response : Type)
  | transmitAsync (command : ApduCommand) (timeout : Int) (request : Option TransmitAsyncRequest)
  | completePendingTransmission (response : Response)
  deriving DecidableEq

section Calls

variable {Response : Type}

/-- One call. One that does not return leaves the card as it is. -/
def next (transmit : Transmit Response) (s : State Response) :
    Label Response → Option (State Response)
  | .transmitAsync command timeout request =>
    match transmit s command timeout with
    | none => if request = none then some s else none
    | some (t, returned) => if request = some returned then some t else none
  | .completePendingTransmission response => some (s.completePendingTransmission response)

/-- The card and its callers, as a system. -/
abbrev Step (transmit : Transmit Response) :
    State Response → Label Response → State Response → Prop :=
  Next (next transmit)

/-- The request with this promise is accepted. -/
def Label.Accepts (promise : Nat) : Label Response → Prop
  | .transmitAsync _ _ request => request = some ⟨true, some promise⟩
  | .completePendingTransmission _ => False

/-- The responses, in order. -/
def responses (trace : List (Label Response)) : List Response :=
  trace.filterMap fun
    | .completePendingTransmission response => some response
    | .transmitAsync .. => none

/-- How many requests have been accepted. -/
def acceptedCount (trace : List (Label Response)) : Nat :=
  trace.countP fun
    | .transmitAsync _ _ (some request) => request.submitted
    | _ => false

/-- The request with this promise has been accepted, and there is no completion since. -/
def Awaits (trace : List (Label Response)) (promise : Nat) : Prop :=
  ∃ early label late, trace = early ++ label :: late ∧ label.Accepts promise ∧ responses late = []

/-- **The protocol of requests and responses**, of a trace that led to this card. Every call
returns. A request is refused exactly where an earlier accepted one has no completion yet. The k-th
accepted request has the k-th promise, on which the first response after it is set and nothing
else, and there are no other promises. A completion with nothing pending changes nothing. -/
structure Protocol (transmit : Transmit Response) (trace : List (Label Response))
    (s : State Response) : Prop where
  returns : ∀ command timeout, .transmitAsync command timeout none ∉ trace
  refuses : ∀ early command timeout request late,
    trace = early ++ .transmitAsync command timeout (some request) :: late →
      (request.submitted = false ↔ ∃ promise, Awaits early promise)
  answered : ∀ early command timeout request late,
    trace = early ++ .transmitAsync command timeout (some request) :: late →
      request.submitted = true → request.response = some (acceptedCount early) ∧
        s.promises[acceptedCount early]? = some ((responses late).take 1)
  promised : s.promises.length = acceptedCount trace
  strays : ∀ early response late before after,
    trace = early ++ .completePendingTransmission response :: late →
      (¬ ∃ promise, Awaits early promise) → Run (Step transmit) (init Response) early before →
        Step transmit before (.completePendingTransmission response) after → after = before

/-! ### What each call does -/

variable {transmit : Transmit Response} {s t : State Response} {trace : List (Label Response)}

theorem step_complete {response : Response} :
    Step transmit s (.completePendingTransmission response) t ↔
      t = s.completePendingTransmission response := by
  simp only [Step, Next, next, Option.some.injEq, eq_comm (b := t)]

theorem complete_of_none {response : Response} (none : s.pendingTxResponsePromise = none) :
    s.completePendingTransmission response = s := by
  simp only [State.completePendingTransmission, none]

theorem step_viaImpl {command : ApduCommand} {timeout : Int}
    {request : Option TransmitAsyncRequest} :
    Step viaImpl s (.transmitAsync command timeout request) t ↔
      ((∃ promise, s.pendingTxResponsePromise = some promise) ∧ request = some ⟨false, none⟩ ∧
        t = s) ∨
      (s.pendingTxResponsePromise = none ∧ request = some ⟨true, some s.promises.length⟩ ∧
        t = { pendingTxResponsePromise := some s.promises.length
              promises := s.promises ++ [[]] }) := by
  simp only [Step, Next, next, viaImpl, State.transmitAsyncImpl]
  cases s.pendingTxResponsePromise <;> simp [eq_comm (b := t)]

/-- A call of the wrapper has no request. -/
theorem step_transmitAsync {depth : Nat} {command : ApduCommand} {timeout : Int}
    {request : Option TransmitAsyncRequest} :
    Step (transmitAsync depth) s (.transmitAsync command timeout request) t ↔
      request = none ∧ t = s := by
  simp only [Step, Next, next, transmitAsync_eq_none, Option.ite_none_right_eq_some,
    Option.some.injEq, eq_comm (b := t)]

/-! ### Through the implementation -/

theorem responses_append (first second : List (Label Response)) :
    responses (first ++ second) = responses first ++ responses second :=
  List.filterMap_append

theorem acceptedCount_append (first second : List (Label Response)) :
    acceptedCount (first ++ second) = acceptedCount first + acceptedCount second :=
  List.countP_append

theorem awaits_snoc {label : Label Response} {promise : Nat} :
    Awaits (trace ++ [label]) promise ↔
      label.Accepts promise ∨ (Awaits trace promise ∧ responses [label] = []) := by
  constructor
  · rintro ⟨early, other, late, same, accepts, none⟩
    rcases snoc_eq_split.mp same with ⟨-, rfl, -⟩ | ⟨rest, rfl, earlier⟩
    · exact .inl accepts
    · rw [responses_append, List.append_eq_nil_iff] at none
      exact .inr ⟨⟨early, other, rest, earlier, accepts, none.1⟩, none.2⟩
  · rintro (accepts | ⟨⟨early, other, late, rfl, accepts, none⟩, last⟩)
    · exact ⟨trace, label, [], rfl, accepts, rfl⟩
    · refine ⟨early, other, late ++ [label], by simp, accepts, ?_⟩
      rw [responses_append, none, last, List.nil_append]

/-- The pending promise is that of the request that awaits its response, and every promise has the
first response after its request. -/
structure Pairs (trace : List (Label Response)) (s : State Response) : Prop where
  pending : ∀ promise, s.pendingTxResponsePromise = some promise ↔ Awaits trace promise
  promised : s.promises.length = acceptedCount trace
  answered : ∀ early label late promise, trace = early ++ label :: late → label.Accepts promise →
    promise = acceptedCount early ∧ s.promises[promise]? = some ((responses late).take 1)

theorem pairs_init : Pairs [] (init Response) where
  pending := fun promise =>
    ⟨fun pending => (by cases pending), fun ⟨_, _, _, same, _⟩ => by simp at same⟩
  promised := rfl
  answered := fun _ _ _ _ same => by simp at same

theorem Pairs.accept {command : ApduCommand} {timeout : Int} (pairs : Pairs trace s)
    (none : s.pendingTxResponsePromise = none) :
    Pairs (trace ++ [.transmitAsync command timeout (some ⟨true, some s.promises.length⟩)])
      { pendingTxResponsePromise := some s.promises.length
        promises := s.promises ++ [[]] } where
  pending := by
    intro promise
    have free : ¬ Awaits trace promise := by
      intro awaits
      rw [(pairs.pending promise).mpr awaits] at none
      cases none
    rw [awaits_snoc]
    simp [free, Label.Accepts]
  promised := by
    rw [List.length_append, acceptedCount_append, pairs.promised]
    rfl
  answered := by
    intro early label late promise same accepts
    rcases snoc_eq_split.mp same with ⟨rfl, rfl, rfl⟩ | ⟨rest, rfl, earlier⟩
    · obtain rfl : s.promises.length = promise := by simpa [Label.Accepts] using accepts
      refine ⟨pairs.promised, ?_⟩
      rw [List.getElem?_concat_length]
      rfl
    · obtain ⟨number, here⟩ := pairs.answered early label rest promise earlier accepts
      refine ⟨number, ?_⟩
      rw [responses_append, show responses [Label.transmitAsync command timeout _] = [] from rfl,
        List.append_nil, List.getElem?_append_left (List.getElem?_eq_some_iff.mp here).1]
      exact here

theorem Pairs.refuse {command : ApduCommand} {timeout : Int} (pairs : Pairs trace s) :
    Pairs (trace ++ [.transmitAsync command timeout (some ⟨false, none⟩)]) s where
  pending := by
    intro promise
    rw [awaits_snoc, pairs.pending promise]
    simp [Label.Accepts, responses]
  promised := by
    rw [acceptedCount_append, pairs.promised]
    rfl
  answered := by
    intro early label late promise same accepts
    rcases snoc_eq_split.mp same with ⟨rfl, rfl, rfl⟩ | ⟨rest, rfl, earlier⟩
    · simp [Label.Accepts] at accepts
    · rw [responses_append, show responses [Label.transmitAsync command timeout _] = [] from rfl,
        List.append_nil]
      exact pairs.answered early label rest promise earlier accepts

/-- A request that has its response keeps it. -/
theorem Pairs.answered_before {early rest : List (Label Response)} {label : Label Response}
    {promise : Nat} {response : Response} (pairs : Pairs trace s)
    (earlier : trace = early ++ label :: rest) (accepts : label.Accepts promise)
    (other : s.pendingTxResponsePromise ≠ some promise) :
    (responses (rest ++ [.completePendingTransmission response])).take 1 =
      (responses rest).take 1 := by
  have answered : responses rest ≠ [] := fun none =>
    other ((pairs.pending promise).mpr ⟨early, label, rest, earlier, accepts, none⟩)
  rw [responses_append]
  exact List.take_append_of_le_length (List.length_pos_iff.mpr answered)

/-- A completion sets the first response after the request that awaits it, and is the second one
for no request. -/
theorem Pairs.answered_complete {response : Response} {early rest : List (Label Response)}
    {label : Label Response} {promise : Nat} (pairs : Pairs trace s)
    (earlier : trace = early ++ label :: rest) (accepts : label.Accepts promise) :
    (s.completePendingTransmission response).promises[promise]? =
      some ((responses (rest ++ [.completePendingTransmission response])).take 1) := by
  obtain ⟨-, here⟩ := pairs.answered early label rest promise earlier accepts
  cases pending : s.pendingTxResponsePromise with
  | none =>
    rw [complete_of_none pending, pairs.answered_before earlier accepts (by simp [pending])]
    exact here
  | some current =>
    have promises : (s.completePendingTransmission response).promises =
        s.promises.modify current (· ++ [response]) := by
      simp only [State.completePendingTransmission, pending]
    rw [promises, List.getElem?_modify]
    by_cases own : current = promise
    · -- its value was that of a request without responses
      obtain ⟨early', label', rest', earlier', accepts', none⟩ := (pairs.pending current).mp pending
      have unset := (pairs.answered early' label' rest' current earlier' accepts').2
      rw [none, own, here] at unset
      have unanswered : responses rest = [] := by simpa using unset
      rw [here, responses_append, unanswered]
      simp [own, responses]
    · rw [pairs.answered_before earlier accepts (by simpa [pending] using own), here]
      simp [own]

/-- After a completion no request awaits its response. -/
theorem Pairs.complete {response : Response} (pairs : Pairs trace s) :
    Pairs (trace ++ [.completePendingTransmission response])
      (s.completePendingTransmission response) where
  pending := by
    intro promise
    have free : (s.completePendingTransmission response).pendingTxResponsePromise = none := by
      cases pending : s.pendingTxResponsePromise <;>
        simp [State.completePendingTransmission, pending]
    rw [awaits_snoc, free]
    simp [Label.Accepts, responses]
  promised := by
    have same : (s.completePendingTransmission response).promises.length = s.promises.length := by
      cases pending : s.pendingTxResponsePromise <;>
        simp [State.completePendingTransmission, pending]
    rw [same, acceptedCount_append, pairs.promised]
    rfl
  answered := by
    intro early label late promise same accepts
    rcases snoc_eq_split.mp same with ⟨rfl, rfl, rfl⟩ | ⟨rest, rfl, earlier⟩
    · cases accepts
    · exact ⟨(pairs.answered early label rest promise earlier accepts).1,
        pairs.answered_complete earlier accepts⟩

theorem pairs_step {label : Label Response} (taken : Step viaImpl s label t)
    (pairs : Pairs trace s) : Pairs (trace ++ [label]) t := by
  cases label with
  | transmitAsync command timeout request =>
    rcases step_viaImpl.mp taken with ⟨-, rfl, rfl⟩ | ⟨free, rfl, rfl⟩
    · exact pairs.refuse
    · exact pairs.accept free
  | completePendingTransmission response =>
    obtain rfl := step_complete.mp taken
    exact pairs.complete

theorem pairs_run (run : Run (Step viaImpl) (init Response) trace s) : Pairs trace s :=
  run.history Pairs pairs_init fun _ _ _ _ _ pairs taken => pairs_step taken pairs

/-- **Through the implementation, requests and responses pair up**, in every run. -/
theorem viaImpl_protocol (run : Run (Step viaImpl) (init Response) trace s) :
    Protocol viaImpl trace s where
  returns := by
    intro command timeout member
    obtain ⟨early, late, rfl⟩ := List.append_of_mem member
    obtain ⟨before, after, -, taken, -⟩ := Run.cut early late run
    rcases step_viaImpl.mp taken with ⟨-, same, -⟩ | ⟨-, same, -⟩ <;> cases same
  refuses := by
    intro early command timeout request late same
    subst same
    obtain ⟨before, after, first, taken, -⟩ := Run.cut early late run
    have pairs := pairs_run first
    simp only [← pairs.pending]
    rcases step_viaImpl.mp taken with ⟨pending, same, -⟩ | ⟨free, same, -⟩
    · obtain rfl := Option.some.inj same
      exact iff_of_true rfl pending
    · obtain rfl := Option.some.inj same
      simp [free]
  answered := by
    intro early command timeout request late same submitted
    have split := same
    subst same
    obtain ⟨before, after, first, taken, -⟩ := Run.cut early late run
    rcases step_viaImpl.mp taken with ⟨-, same, -⟩ | ⟨-, same, -⟩
    · obtain rfl := Option.some.inj same
      cases submitted
    · obtain rfl := Option.some.inj same
      rw [← (pairs_run first).promised]
      exact ⟨rfl, ((pairs_run run).answered early _ late _ split rfl).2⟩
  promised := (pairs_run run).promised
  strays := by
    intro early response late before after same quiet first taken
    have free : before.pendingTxResponsePromise = none :=
      Option.eq_none_iff_forall_ne_some.mpr fun promise pending =>
        quiet ⟨promise, ((pairs_run first).pending promise).mp pending⟩
    rw [step_complete.mp taken, complete_of_none free]

/-! ### Through the wrapper -/

/-- A card on which nothing has been accepted stays as it is. -/
theorem idle_run {depth : Nat} (run : Run (Step (transmitAsync depth)) (init Response) trace s) :
    s = init Response := by
  refine run.invariant (· = init Response) rfl fun s label t same taken => ?_
  obtain rfl := same
  cases label with
  | transmitAsync command timeout request => exact (step_transmitAsync.mp taken).2
  | completePendingTransmission response =>
    rw [step_complete.mp taken]
    rfl

/-- **A run keeps the protocol exactly where nobody transmits**, on a stack of any depth. -/
theorem protocol_iff (depth : Nat)
    (run : Run (Step (transmitAsync depth)) (init Response) trace s) :
    Protocol (transmitAsync depth) trace s ↔
      ∀ command timeout request, .transmitAsync command timeout request ∉ trace := by
  constructor
  · intro protocol command timeout request member
    have transmitted := member
    obtain ⟨early, late, rfl⟩ := List.append_of_mem member
    obtain ⟨before, after, -, taken, -⟩ := Run.cut early late run
    obtain ⟨rfl, -⟩ := step_transmitAsync.mp taken
    exact protocol.returns command timeout transmitted
  · intro silent
    have none (early late : List (Label Response)) (command : ApduCommand) (timeout : Int)
        (request : Option TransmitAsyncRequest) :
        trace ≠ early ++ .transmitAsync command timeout request :: late := fun same =>
      silent command timeout request (same ▸ List.mem_append_right _ (List.mem_cons_self ..))
    refine ⟨fun command timeout => silent command timeout .none, ?_, ?_, ?_, ?_⟩
    · exact fun early command timeout request late same => (none _ _ _ _ _ same).elim
    · exact fun early command timeout request late same => (none _ _ _ _ _ same).elim
    · rw [idle_run run]
      refine (List.countP_eq_zero.mpr fun label member => ?_).symm
      cases label with
      | transmitAsync command timeout request => exact (silent _ _ _ member).elim
      | completePendingTransmission response => simp
    · intro early response late before after same quiet first taken
      rw [step_complete.mp taken, idle_run first]
      rfl

/-- Two completions with nothing pending. -/
theorem protocol_strays :
    Protocol (transmitAsync 1000)
      [.completePendingTransmission 1, .completePendingTransmission 2] (init Nat) :=
  (protocol_iff 1000 (run_of_execute rfl)).mpr fun _ _ _ member => by simp at member

/-- A command is transmitted, and the card responds: the call does not return, and nobody has the
response. -/
theorem transmit_never_returns :
    ∃ s, Run (Step (transmitAsync 1000)) (init Nat)
        [.transmitAsync (.ofHeader 0x00 0xC0 0x00 0x00) 5000 none, .completePendingTransmission 7]
        s ∧
      s.promises = [] ∧
      ¬ Protocol (transmitAsync 1000)
        [.transmitAsync (.ofHeader 0x00 0xC0 0x00 0x00) 5000 none, .completePendingTransmission 7]
        s := by
  refine ⟨_, .cons (step_transmitAsync.mpr ⟨rfl, rfl⟩) (.single (step_complete.mpr rfl)), rfl, ?_⟩
  exact fun protocol => protocol.returns _ _ (List.mem_cons_self ..)

end Calls

end NearObject.Smartcard
