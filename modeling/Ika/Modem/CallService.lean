import Ika.Foundation.Machine
import Ika.Sms.SmsService

/-!
The calls of the modem simulator, with the callbacks it posts to its looper.

What a call is told apart by is its place among all calls ever made, which the code does not have.
-/

set_option autoImplicit false

namespace Ika.Modem

open Transition Ika.Sms List Option Nat Int

inductive CallState where
  | ACTIVE
  | HELD
  | DIALING
  | ALERTING
  | INCOMING
  | WAITING
  deriving DecidableEq, Repr

structure CallStatus where
  number : List Char
  call_state : CallState
  remote_client : Option Nat := none
  timeout_serial : Option Nat := none
  made : Nat
  deriving DecidableEq, Repr

namespace CallStatus

variable (call : CallStatus)

def SetCallBackground : CallStatus :=
  if call.call_state = .ACTIVE then {call with call_state := .HELD} else call

def SetCallActive : CallStatus :=
  if call.call_state ∈ [.INCOMING, .WAITING, .DIALING, .HELD] then
    {call with call_state := .ACTIVE}
  else call

/-- `ATA`, for one call. -/
def accept : Option CallStatus :=
  if call.call_state = .INCOMING then some call.SetCallActive
  else if call.call_state = .ACTIVE then some call.SetCallBackground
  else some call

/-- `ATH`, for one call. -/
def reject : Option CallStatus :=
  if call.call_state = .INCOMING then none else some call

/-- `AT+CHLD=<n>`, for one call; the cases 3 and 4 are the same. -/
def hangup (n : Int) : Option CallStatus :=
  if n = 0 then if call.call_state ∈ [.INCOMING, .HELD, .WAITING] then none else some call
  else if n = 1 then
    if call.call_state = .ACTIVE then none
    else if call.call_state ∈ [.HELD, .WAITING] then some call.SetCallActive
    else some call
  else if n = 2 then
    if call.call_state ∈ [.ACTIVE, .WAITING] then some call.SetCallBackground
    else if call.call_state = .HELD then some call.SetCallActive
    else some call
  else if call.call_state = .HELD then some call.SetCallActive
  else some call

end CallStatus

inductive Callback where
  | SimulatePendingCallsAnswered
  /-- The token of the call, and the call. -/
  | TimerWaitingRemoteCallResponse (index : Nat) (number : List Char) (made : Nat)
  | CallStateUpdate
  deriving DecidableEq, Repr

structure CallService where
  /-- In the order of their indices. -/
  active_calls_ : List (Nat × CallStatus) := []
  queue_ : List (Nat × Callback) := []
  next_serial_ : Nat := 1
  made : Nat := 0
  threw : Bool := false

inductive NetworkRegistration where
  | HOME
  | ROAMING
  | EMERGENCY
  | other
  deriving DecidableEq, Repr

/-- What a dialled number finds. -/
structure Surrounding where
  registration_state : NetworkRegistration
  fixedDialNumber : List Char → Bool
  IsOpen : Bool
  host_id : Int
  client_id : Nat

/-- What the text after `ATD` dials, and whether it is an emergency number. -/
def dialled (text : List Char) : List Char × Bool :=
  let upTo (flag : Char) : Option (List Char) :=
    if flag ∈ text then some ((text.reverse.dropWhile (· ≠ flag)).tail.reverse) else none
  match upTo '@' with
  | some number => (number, true)
  | none => (((upTo 'i').or ((upTo 'I').or (upTo ';'))).getD text, false)

namespace CallService

def freeFrom (indices : List Nat) (index : Nat) : Nat → Nat
  | 0 => index
  | fuel + 1 => if index ∈ indices then freeFrom indices (index + 1) fuel else index

variable (service : CallService)

def FindFreeCallIndex : Nat :=
  freeFrom (service.active_calls_.map Prod.fst) 1 service.active_calls_.length

def insert (call : CallStatus) : CallService :=
  {service with
    active_calls_ := service.active_calls_.orderedInsert (·.1 ≤ ·.1)
      (service.FindFreeCallIndex, call)
    made := service.made + 1}

def updated (change : Nat × CallStatus → Option CallStatus) : CallService :=
  {service with
    active_calls_ := service.active_calls_.filterMap fun entry =>
      (change entry).map (entry.1, ·)}

def updatedAt (index : Int) (change : CallStatus → Option CallStatus) : CallService :=
  service.updated fun entry => if (entry.1 : Int) = index then change entry.2 else some entry.2

def Post (callback : Callback) : CallService :=
  {service with
    queue_ := service.queue_ ++ [(service.next_serial_, callback)]
    next_serial_ := service.next_serial_ + 1}

def CancelSerial (serial : Option Nat) : CallService :=
  {service with queue_ := service.queue_.filter fun entry => serial ≠ some entry.1}

/-- A number that passed the checks; ports are at the end of numbers of eleven or four digits. -/
def dial (around : Surrounding) (number : List Char) : Option CallService :=
  let port :=
    if number.length = 11 then stoi (number.drop 7)
    else if number.length = 4 then stoi number
    else some 0
  port.map fun port =>
    if kRemotePortRange.1 ≤ port ∧ port ≤ kRemotePortRange.2 then
      if ¬around.IsOpen ∨ around.host_id = port then service
      else
        let number := to_string port
        (service.Post (.TimerWaitingRemoteCallResponse service.FindFreeCallIndex number
          service.made)).insert
            { number, call_state := .DIALING, remote_client := some around.client_id
              timeout_serial := some service.next_serial_, made := service.made}
    else
      (service.insert {number, call_state := .DIALING, made := service.made}).Post
        .SimulatePendingCallsAnswered

/-- `ATD`, with what follows it. -/
def HandleDial (around : Surrounding) (text : List Char) : Option CallService :=
  if around.registration_state = .other then some service
  else
    let (number, emergency_number) := dialled text
    if ¬number.all Char.isDigit then some service
    else if around.registration_state = .EMERGENCY ∧ ¬emergency_number then some service
    else if ¬emergency_number ∧ ¬around.fixedDialNumber number then some service
    else service.dial around number

def HandleAcceptCall : CallService := service.updated fun entry => entry.2.accept

def HandleRejectCall : CallService := service.updated fun entry => entry.2.reject

/-- The number in front of the argument of `AT+CHLD`. -/
def operation (action : List Char) : Int :=
  (action.head?.map fun char => (char.toNat : Int) - 48).getD (-1)

/-- `AT+CHLD=<n>`, with its argument; an index may follow in the cases 1 and 2. -/
def HandleHangup (action : List Char) : Option CallService :=
  let n := operation action
  let index := if 1 < action.length then stoi action.tail else some (-1)
  index.map fun index =>
    if (n = 1 ∨ n = 2) ∧ index ≠ -1 then service.updatedAt index fun _ => none
    else if n ∈ [0, 1, 2, 3, 4] then service.updated fun entry => entry.2.hangup n
    else service

def matched (number : List Char) : Option (Nat × CallStatus) :=
  service.active_calls_.find? fun entry => entry.2.number = number

def changeMatched (number : List Char) (change : CallStatus → Option CallStatus) : CallService :=
  match service.matched number with
  | none => service
  | some (index, call) =>
    (service.updatedAt index change).CancelSerial call.timeout_serial

/-- `AT+REMOTECALL`; the parser never throws, and takes what it cannot read for -1 or empty. -/
def HandleRemoteCall (client : Nat) (radioOff : Bool) (state : Int) (number : List Char) :
    CallService :=
  if state = 0 then
    (service.changeMatched number fun call => some call.SetCallActive).Post .CallStateUpdate
  else if state = 1 then
    (service.changeMatched number fun call => some call.SetCallBackground).Post .CallStateUpdate
  else if state = 6 then (service.changeMatched number fun _ => none).Post .CallStateUpdate
  -- An incoming call, which is rejected while the radio is off.
  else if state = 4 then
    if radioOff then service
    else
      (service.insert { number, call_state := .INCOMING, remote_client := some client
                        made := service.made}).Post .CallStateUpdate
  else service

def SimulatePendingCallsAnswered : CallService :=
  service.updated fun entry =>
    some (if entry.2.call_state = .DIALING then entry.2.SetCallActive else entry.2)

def TimerWaitingRemoteCallResponse (index : Nat) (number : List Char) : CallService :=
  service.updatedAt index fun call => if call.number = number then none else some call

def runCallback : Callback → CallService
  | .SimulatePendingCallsAnswered => service.SimulatePendingCallsAnswered
  | .TimerWaitingRemoteCallResponse index number _ =>
    service.TimerWaitingRemoteCallResponse index number
  | .CallStateUpdate => service

end CallService

inductive CallEvent where
  | HandleDial (around : Surrounding) (text : List Char)
  | HandleAcceptCall
  | HandleRejectCall
  | HandleHangup (action : List Char)
  | HandleRemoteCall (client : Nat) (radioOff : Bool) (state : Int) (number : List Char)
  | callback (serial : Nat)

namespace CallService

def step (service : CallService) (event : CallEvent) : Option CallService :=
  let handled (outcome : Option CallService) : Option CallService :=
    some (outcome.getD {service with threw := true})
  if service.threw then none
  else
    match event with
    | .HandleDial around text => handled (service.HandleDial around text)
    | .HandleAcceptCall => some service.HandleAcceptCall
    | .HandleRejectCall => some service.HandleRejectCall
    | .HandleHangup action => handled (service.HandleHangup action)
    | .HandleRemoteCall client radioOff state number =>
      some (service.HandleRemoteCall client radioOff state number)
    | .callback serial =>
      (service.queue_.lookup serial).map fun callback =>
        (service.CancelSerial (some serial)).runCallback callback

def machine : Machine CallService CallEvent where
  init service := service = {}
  step := step

end CallService

/-! ## What is asked of the service -/

def CallEvent.Answers {Modem : Type} (modemOf : Nat → Modem) (client : Nat) : CallEvent → Prop
  | .HandleRemoteCall sender _ _ _ => modemOf sender = modemOf client
  | .HandleDial _ _ | .callback _ => False
  | _ => True

namespace CallService

section Modems

variable {Modem : Type} (modemOf : Nat → Modem)

/-- Timers take their own calls, and answers and messages reach the calls they are for. -/
structure Own (before : CallService) (event : CallEvent) (after : CallService) : Prop where
  returned : after.threw = false
  timed : ∀ serial index number made, event = .callback serial →
    before.queue_.lookup serial = some (.TimerWaitingRemoteCallResponse index number made) →
    ∀ entry ∈ before.active_calls_,
      (entry ∈ after.active_calls_ ↔ entry.2.made ≠ made) ∧
        (entry.2.made = made → entry.2.call_state = .DIALING)
  answered : ∀ entry ∈ before.active_calls_, ∀ later ∈ after.active_calls_,
    later.2.made = entry.2.made → entry.2.call_state ≠ .ACTIVE → later.2.call_state = .ACTIVE →
    ∀ client, entry.2.remote_client = some client → event.Answers modemOf client
  remote : ∀ client radioOff state number, event = .HandleRemoteCall client radioOff state number →
    ∀ entry ∈ before.active_calls_, entry ∉ after.active_calls_ →
      ∃ own, entry.2.remote_client = some own ∧ modemOf own = modemOf client

def Leaves (state : Int) (call : CallStatus) : Prop :=
  state = 0 ∧ call.call_state = .ACTIVE ∨
    state = 1 ∧ call.call_state ≠ .ACTIVE ∧ call.call_state ≠ .DIALING

/-- A number follows; no timed call is taken for it, none to another modem is answered with it, and
messages are of the call's own modem. -/
def Allowed (service : CallService) : CallEvent → Prop
  | .HandleHangup action =>
    (1 < action.length → (stoi action.tail).isSome) ∧
      ∀ index, operation action = 1 ∨ operation action = 2 → 1 < action.length →
        stoi action.tail = some index → index ≠ -1 →
        ∀ entry ∈ service.active_calls_, (entry.1 : Int) = index →
          ∀ queued ∈ service.queue_, entry.2.timeout_serial ≠ some queued.1
  | .HandleRemoteCall client _ state number => state ∈ [0, 1, 6] →
    ∀ entry, service.matched number = some entry → Leaves state entry.2 ∨
      ∃ own, entry.2.remote_client = some own ∧ modemOf own = modemOf client
  | .callback serial =>
    service.queue_.lookup serial = some .SimulatePendingCallsAnswered →
      ∀ entry ∈ service.active_calls_, entry.2.call_state = .DIALING →
        entry.2.remote_client = none
  | _ => True

end Modems

/-! ## Timers and their calls -/

/-- The invariant: every timer that is queued is that of a call that is dialling. -/
structure Kept (service : CallService) : Prop where
  returned : service.threw = false
  indexed : (service.active_calls_.map Prod.fst).Nodup
  identified : ∀ entry ∈ service.active_calls_, ∀ other ∈ service.active_calls_,
    entry.2.made = other.2.made → entry = other
  numbered : ∀ entry ∈ service.active_calls_, entry.2.made < service.made
  timed : ∀ entry ∈ service.active_calls_, ∀ other ∈ service.active_calls_, ∀ serial,
    entry.2.timeout_serial = some serial → other.2.timeout_serial = some serial → entry = other
  posted : ∀ entry ∈ service.active_calls_, ∀ serial, entry.2.timeout_serial = some serial →
    serial < service.next_serial_
  queued : (service.queue_.map Prod.fst).Nodup
  serials : ∀ queued ∈ service.queue_, queued.1 < service.next_serial_
  timers : ∀ serial index number made,
    (serial, .TimerWaitingRemoteCallResponse index number made) ∈ service.queue_ →
    ∃ call, (index, call) ∈ service.active_calls_ ∧ call.number = number ∧ call.made = made ∧
      call.call_state = .DIALING ∧ call.timeout_serial = some serial ∧ call.remote_client.isSome

variable {service : CallService}

variable {entry : Nat × CallStatus} {queue : List (Nat × Callback)}

variable {change : Nat × CallStatus → Option CallStatus}

theorem mem_updated :
    entry ∈ (service.updated change).active_calls_ ↔
      ∃ call, (entry.1, call) ∈ service.active_calls_ ∧ change (entry.1, call) = some entry.2 := by
  obtain ⟨index, after⟩ := entry
  simp only [updated, mem_filterMap, map_eq_some_iff, Prod.mk.injEq, Prod.exists]
  constructor
  · rintro ⟨own, call, member, changed, some', rfl, rfl⟩
    exact ⟨call, member, some'⟩
  · rintro ⟨call, member, some'⟩
    exact ⟨index, call, member, after, some', rfl, rfl⟩

theorem map_fst_updated (calls : List (Nat × CallStatus))
    (change : Nat × CallStatus → Option CallStatus) :
    ((calls.filterMap fun entry => (change entry).map (entry.1, ·)).map Prod.fst).Sublist
      (calls.map Prod.fst) := by
  induction calls with
  | nil => exact .slnil
  | cons entry rest ih =>
    rw [filterMap_cons]
    cases changed : change entry with
    | none => exact ih.cons _
    | some call => exact ih.cons_cons _

theorem Kept.updated (kept : service.Kept) (sub : queue.Sublist service.queue_)
    (states : ∀ entry ∈ service.active_calls_, ∀ call, change entry = some call →
      call = {entry.2 with call_state := call.call_state}) (spared : ∀ serial index number made,
      (serial, .TimerWaitingRemoteCallResponse index number made) ∈ queue →
      ∀ call, (index, call) ∈ service.active_calls_ → call.timeout_serial = some serial →
        change (index, call) = some call) :
    {service.updated change with queue_ := queue}.Kept := by
  have from_ : ∀ entry ∈ (service.updated change).active_calls_,
      ∃ call, (entry.1, call) ∈ service.active_calls_ ∧ change (entry.1, call) = some entry.2 ∧
        entry.2 = {call with call_state := entry.2.call_state} := by
    intro entry member
    obtain ⟨call, there, changed⟩ := mem_updated.mp member
    exact ⟨call, there, changed, states _ there _ changed⟩
  -- One call before comes to one call after.
  have once : ∀ {entry other : Nat × CallStatus} {call call' : CallStatus},
      (entry.1, call) = (other.1, call') → change (entry.1, call) = some entry.2 →
        change (other.1, call') = some other.2 → entry = other := by
    intro entry other call call' same changed changed'
    rw [same] at changed
    exact Prod.ext (Prod.mk.inj same).1 (Option.some.inj (changed.symm.trans changed'))
  refine ⟨kept.returned, (map_fst_updated _ change).nodup kept.indexed, ?_, ?_, ?_, ?_,
    (sub.map _).nodup kept.queued, fun queued member => kept.serials _ (sub.subset member), ?_⟩
  · intro entry member other member' same
    obtain ⟨call, here, changed, state⟩ := from_ entry member
    obtain ⟨call', there, changed', state'⟩ := from_ other member'
    have := kept.identified _ here _ there (by rw [state, state'] at same; exact same)
    exact once this changed changed'
  · intro entry member
    obtain ⟨call, here, -, state⟩ := from_ entry member
    rw [state]
    exact kept.numbered _ here
  · intro entry member other member' serial own own'
    obtain ⟨call, here, changed, state⟩ := from_ entry member
    obtain ⟨call', there, changed', state'⟩ := from_ other member'
    rw [state] at own
    rw [state'] at own'
    exact once (kept.timed _ here _ there serial own own') changed changed'
  · intro entry member
    obtain ⟨call, here, -, state⟩ := from_ entry member
    rw [state]
    exact kept.posted _ here
  · intro serial index number made member
    obtain ⟨call, there, same, same', dialing, own, client⟩ :=
      kept.timers serial index number made (sub.subset member)
    exact ⟨call, mem_updated.mpr ⟨call, there, spared serial index number made member call there own⟩,
      same, same', dialing, own, client⟩

/-! ## New calls -/

theorem freeFrom_taken {indices : List Nat} (index fuel : Nat)
    (taken : freeFrom indices index fuel ∈ indices) :
    ∀ other, index ≤ other → other ≤ index + fuel → other ∈ indices := by
  induction fuel generalizing index with
  | zero =>
    intro other low high
    exact Nat.le_antisymm low high ▸ taken
  | succ fuel ih =>
    rw [freeFrom] at taken
    split at taken
    · rename_i here
      intro other low high
      rcases Nat.lt_or_eq_of_le low with later | rfl
      · exact ih (index + 1) taken other later (by omega)
      · exact here
    · rename_i free
      exact absurd taken free

theorem FindFreeCallIndex_free (service : CallService) :
    service.FindFreeCallIndex ∉ service.active_calls_.map Prod.fst := by
  intro taken
  have all : List.range' 1 (service.active_calls_.length + 1) ⊆ service.active_calls_.map Prod.fst := by
    intro index member
    rw [mem_range'_1] at member
    exact freeFrom_taken 1 _ taken index member.1 (by omega)
  have := (subperm_of_subset nodup_range' all).length_le
  simp at this

theorem mem_insert {call : CallStatus} :
    entry ∈ (service.insert call).active_calls_ ↔
      entry = (service.FindFreeCallIndex, call) ∨ entry ∈ service.active_calls_ :=
  mem_orderedInsert _

section

variable (kept : service.Kept)
include kept

theorem Kept.insert (call : CallStatus) {next : Nat}
    (made : call.made = service.made) (later : service.next_serial_ ≤ next)
    (own : ∀ serial, call.timeout_serial = some serial →
      service.next_serial_ ≤ serial ∧ serial < next) (queued : (queue.map Prod.fst).Nodup)
    (serials : ∀ queued ∈ queue, queued.1 < next) (timers : ∀ serial index number made,
      (serial, .TimerWaitingRemoteCallResponse index number made) ∈ queue →
      (serial, .TimerWaitingRemoteCallResponse index number made) ∈ service.queue_ ∨
        index = service.FindFreeCallIndex ∧ call.number = number ∧ call.made = made ∧
          call.call_state = .DIALING ∧ call.timeout_serial = some serial ∧
          call.remote_client.isSome) :
    {service.insert call with queue_ := queue, next_serial_ := next}.Kept := by
  -- Two calls that are to be one are both old, or both the new one.
  have new : ∀ entry ∈ (service.insert call).active_calls_,
      ∀ other ∈ (service.insert call).active_calls_,
      (entry ∈ service.active_calls_ → other ∈ service.active_calls_ → entry = other) →
      (entry ∈ service.active_calls_ → other.2 = call → False) →
      (other ∈ service.active_calls_ → entry.2 = call → False) → entry = other := by
    intro entry member other member' both left right
    rcases mem_insert.mp member with rfl | old <;> rcases mem_insert.mp member' with rfl | old'
    · rfl
    · exact (right old' rfl).elim
    · exact (left old rfl).elim
    · exact both old old'
  refine ⟨kept.returned, ?_, fun entry member other member' same => ?_, fun entry member => ?_,
    fun entry member other member' serial here there => ?_, fun entry member serial here => ?_,
    queued, serials, fun serial index number made member => ?_⟩
  · have perm := (perm_orderedInsert (fun a b : Nat × CallStatus => a.1 ≤ b.1)
      (service.FindFreeCallIndex, call) service.active_calls_).map Prod.fst
    exact perm.nodup_iff.mpr (nodup_cons.mpr ⟨service.FindFreeCallIndex_free, kept.indexed⟩)
  · refine new entry member other member' (fun old old' => kept.identified _ old _ old' same) ?_ ?_
    · rintro old rfl
      exact absurd (same.trans made) (kept.numbered _ old).ne
    · rintro old rfl
      exact absurd (same.symm.trans made) (kept.numbered _ old).ne
  · rcases mem_insert.mp member with rfl | old
    · exact made ▸ Nat.lt_succ_self _
    · exact lt_succ_of_lt (kept.numbered _ old)
  · refine new entry member other member'
      (fun old old' => kept.timed _ old _ old' serial here there) ?_ ?_
    · rintro old rfl
      exact absurd (kept.posted _ old serial here) (Nat.not_lt.mpr (own serial there).1)
    · rintro old rfl
      exact absurd (kept.posted _ old serial there) (Nat.not_lt.mpr (own serial here).1)
  · rcases mem_insert.mp member with rfl | old
    · exact (own serial here).2
    · exact Nat.lt_of_lt_of_le (kept.posted _ old serial here) later
  · rcases timers serial index number made member with old | ⟨rfl, same⟩
    · obtain ⟨call, there, same⟩ := kept.timers serial index number made old
      exact ⟨call, mem_insert.mpr (.inr there), same⟩
    · exact ⟨call, mem_insert.mpr (.inl rfl), same⟩

theorem queue_append_nodup (callback : Callback) :
    ((service.queue_ ++ [(service.next_serial_, callback)]).map Prod.fst).Nodup ∧
      ∀ queued ∈ service.queue_ ++ [(service.next_serial_, callback)],
        queued.1 < service.next_serial_ + 1 := by
  refine ⟨?_, forall_mem_append.mpr ⟨fun queued member =>
    lt_succ_of_lt (kept.serials queued member), forall_mem_singleton.mpr (Nat.lt_succ_self _)⟩⟩
  rw [map_append]
  refine nodup_append.mpr ⟨kept.queued, nodup_singleton _, fun serial member other last => ?_⟩
  obtain ⟨queued, there, rfl⟩ := List.mem_map.mp member
  rw [mem_singleton.mp last]
  exact (kept.serials queued there).ne

theorem Kept.Post {callback : Callback}
    (plain : ∀ index number made, callback ≠ .TimerWaitingRemoteCallResponse index number made) :
    (service.Post callback).Kept := by
  obtain ⟨queued, serials⟩ := queue_append_nodup kept callback
  refine ⟨kept.returned, kept.indexed, kept.identified, kept.numbered, kept.timed,
    fun entry member serial own => lt_succ_of_lt (kept.posted entry member serial own), queued,
    serials, fun serial index number made member => ?_⟩
  rcases mem_append.mp member with old | new
  · exact kept.timers serial index number made old
  · exact absurd (congrArg Prod.snd (mem_singleton.mp new)).symm (plain index number made)

/-! ## Handlers -/

theorem Kept.timer_call {serial index made : Nat} {number : List Char}
    (queued : (serial, .TimerWaitingRemoteCallResponse index number made) ∈ service.queue_)
    {call : CallStatus} (there : (index, call) ∈ service.active_calls_) :
    call.number = number ∧ call.made = made ∧ call.call_state = .DIALING ∧
      call.timeout_serial = some serial ∧ call.remote_client.isSome := by
  obtain ⟨own, here, same⟩ := kept.timers serial index number made queued
  have : ((index, own) : Nat × CallStatus) = (index, call) :=
    inj_on_of_nodup_map kept.indexed here there rfl
  cases this
  exact same

theorem Kept.settled {change : CallStatus → Option CallStatus}
    (states : ∀ call call', change call = some call' →
      call' = {call with call_state := call'.call_state})
    (dialing : ∀ call, call.call_state = .DIALING → change call = some call) :
    (service.updated fun entry => change entry.2).Kept :=
  kept.updated (Sublist.refl _) (fun entry _ call changed => states entry.2 call changed)
    fun _ _ _ _ queued call there _ => dialing call (kept.timer_call queued there).2.2.1

end

end CallService

namespace CallStatus

variable {call call' : CallStatus}

theorem SetCallActive_eq : call.SetCallActive =
    {call with call_state := call.SetCallActive.call_state} := by
  unfold SetCallActive
  split <;> rfl

theorem SetCallBackground_eq : call.SetCallBackground =
    {call with call_state := call.SetCallBackground.call_state} := by
  unfold SetCallBackground
  split <;> rfl

theorem accept_eq (changed : call.accept = some call') :
    call' = {call with call_state := call'.call_state} := by
  unfold accept at changed
  split_ifs at changed <;> cases changed
  exacts [SetCallActive_eq, SetCallBackground_eq, rfl]

theorem reject_eq (changed : call.reject = some call') :
    call' = {call with call_state := call'.call_state} := by
  unfold reject at changed
  split_ifs at changed
  cases changed
  rfl

variable {n : Int}

theorem hangup_eq (changed : call.hangup n = some call') :
    call' = {call with call_state := call'.call_state} := by
  unfold hangup at changed
  split_ifs at changed <;> cases changed <;>
    first | rfl | exact SetCallActive_eq | exact SetCallBackground_eq

theorem hangup_dialing (dialing : call.call_state = .DIALING) : call.hangup n = some call := by
  simp [hangup, dialing]

end CallStatus

namespace CallService

variable {service : CallService}

variable {number : List Char}

theorem stoi_digits_isSome (digits : number.all Char.isDigit = true) (length : number.length = 4) :
    (stoi number).isSome := by
  rw [stoi_isSome (by omega)]
  cases number with
  | nil => cases length
  | cons digit rest =>
    have first : digit.isDigit = true := List.all_eq_true.mp digits digit mem_cons_self
    refine ⟨[], [], _, _, rfl, nofun, .inl rfl, ?_⟩
    simp only [Char.isDigit, Bool.and_eq_true, decide_eq_true_eq, ge_iff_le,
      UInt32.le_iff_toNat_le] at first
    have low : 48 ≤ digit.toNat := first.1
    have high : digit.toNat ≤ 57 := first.2
    simp only [Decimal.isDigit, Bool.and_eq_true, decide_eq_true_eq, UInt8.le_iff_toNat_le,
      UInt8.toNat_ofNat']
    have : (48 : UInt8).toNat = 48 ∧ (57 : UInt8).toNat = 57 := by decide
    omega

theorem Kept.dial (kept : service.Kept) (around : Surrounding)
    (digits : number.all Char.isDigit = true) :
    ∃ after, service.dial around number = some after ∧ after.Kept ∧
      ∀ entry ∈ after.active_calls_, entry ∈ service.active_calls_ ∨
        entry.2.made = service.made := by
  have read : ∃ port, (if number.length = 11 then stoi (number.drop 7)
      else if number.length = 4 then stoi number else some 0) = some port := by
    refine isSome_iff_exists.mp ?_
    split_ifs with eleven four
    · refine stoi_digits_isSome (List.all_eq_true.mpr fun char member => ?_) (by simp [eleven])
      exact List.all_eq_true.mp digits char (mem_of_mem_drop member)
    · exact stoi_digits_isSome digits four
    · rfl
  obtain ⟨port, read⟩ := read
  unfold CallService.dial
  rw [read]
  refine ⟨_, rfl, ?_⟩
  dsimp only
  split_ifs
  · exact ⟨kept, fun entry member => .inl member⟩
  · -- A call to another modem, with its timer.
    constructor
    · obtain ⟨queued, serials⟩ := queue_append_nodup kept
        (.TimerWaitingRemoteCallResponse service.FindFreeCallIndex (to_string port) service.made)
      refine kept.insert ⟨_, .DIALING, some around.client_id, some service.next_serial_, _⟩ rfl
        (le_succ _) (fun serial own => ?_) queued serials
        fun serial index number made member => ?_
      · cases own
        exact ⟨Nat.le_refl _, Nat.lt_succ_self _⟩
      · rcases mem_append.mp member with old | new
        · exact .inl old
        · cases mem_singleton.mp new
          exact .inr ⟨rfl, rfl, rfl, rfl, rfl, rfl⟩
    · intro entry member
      rcases mem_insert.mp member with rfl | old
      · exact .inr rfl
      · exact .inl old
  · -- A call that is taken to be answered after a second.
    constructor
    · refine Kept.Post ?_ nofun
      exact kept.insert ⟨_, .DIALING, none, none, _⟩ rfl (Nat.le_refl _) nofun kept.queued
        kept.serials fun _ _ _ _ old => .inl old
    · intro entry member
      rcases mem_insert.mp member with rfl | old
      · exact .inr rfl
      · exact .inl old

theorem Kept.HandleDial (kept : service.Kept) (around : Surrounding) (text : List Char) :
    ∃ after, service.HandleDial around text = some after ∧ after.Kept ∧
      ∀ entry ∈ after.active_calls_, entry ∈ service.active_calls_ ∨
        entry.2.made = service.made := by
  unfold CallService.HandleDial
  dsimp only
  have same : ∀ entry ∈ service.active_calls_, entry ∈ service.active_calls_ ∨
      entry.2.made = service.made := fun _ member => .inl member
  by_cases digits : (dialled text).1.all Char.isDigit = true
  · rw [if_neg (not_not.mpr digits)]
    split_ifs
    case' pos | pos | pos => exact ⟨_, rfl, kept, same⟩
    exact kept.dial around digits
  · rw [if_pos digits]
    split_ifs <;> exact ⟨_, rfl, kept, same⟩

theorem Kept.changeMatched (kept : service.Kept) (number : List Char)
    {change : CallStatus → Option CallStatus}
    (states : ∀ call call', change call = some call' →
      call' = {call with call_state := call'.call_state}) :
    (service.changeMatched number change).Kept := by
  unfold CallService.changeMatched
  split
  · exact kept
  · rename_i index call found
    have member := mem_of_find?_eq_some found
    refine kept.updated (filter_sublist) (fun entry _ after changed => ?_)
      fun serial other number made queued call' there own => ?_
    · split_ifs at changed
      · exact states _ _ changed
      · cases changed
        rfl
    · -- A timer that stays is not the one that was cancelled, so its call is another.
      have kept_ := (mem_filter.mp queued).2
      refine if_neg fun same => ?_
      have same : other = index := ofNat_inj.mp same
      subst same
      have : ((other, call') : Nat × CallStatus) = (other, call) :=
        inj_on_of_nodup_map kept.indexed there member rfl
      cases this
      simp [own] at kept_

/-! ## Whose events change a call -/

section Own

variable {Modem : Type} {modemOf : Nat → Modem}

variable {entry : Nat × CallStatus} {number : List Char} {client : Nat} {radioOff : Bool}
  {serial : Nat}

theorem Kept.unanswered (kept : service.Kept) {later : Nat × CallStatus}
    (member : entry ∈ service.active_calls_)
    (old : later ∈ service.active_calls_ ∨ later.2.made = service.made)
    (same : later.2.made = entry.2.made) (idle : entry.2.call_state ≠ .ACTIVE) :
    later.2.call_state ≠ .ACTIVE := by
  rcases old with old | new
  · exact kept.identified _ old _ member same ▸ idle
  · exact absurd (same.symm.trans new) (kept.numbered _ member).ne

variable {change : CallStatus → Option CallStatus}

theorem Kept.mem_changeMatched (kept : service.Kept) :
    entry ∈ (service.changeMatched number change).active_calls_ ↔
      entry ∈ service.active_calls_ ∧ service.matched number ≠ some entry ∧
          (∀ own, service.matched number = some own → entry.1 ≠ own.1) ∨
        ∃ own, service.matched number = some own ∧ entry.1 = own.1 ∧ change own.2 = some entry.2 := by
  unfold CallService.changeMatched
  split
  · rename_i none
    simp [none]
  · rename_i index call found
    have there := mem_of_find?_eq_some found
    refine mem_updated.trans ?_
    constructor
    · rintro ⟨before, member, changed⟩
      by_cases same : (entry.1 : Int) = index
      · rw [if_pos same] at changed
        have same := ofNat_inj.mp same
        have : ((entry.1, before) : Nat × CallStatus) = (index, call) :=
          inj_on_of_nodup_map kept.indexed member there same
        cases this
        exact .inr ⟨_, found, rfl, changed⟩
      · rw [if_neg same] at changed
        cases changed
        refine .inl ⟨member, fun own => ?_, fun own own' at_ => ?_⟩
        · cases found.symm.trans own
          exact same rfl
        · cases found.symm.trans own'
          exact same (congrArg Int.ofNat at_)
    · rintro (⟨member, -, other⟩ | ⟨own, same, at_, changed⟩)
      · exact ⟨entry.2, member, if_neg fun same => other _ found (ofNat_inj.mp same)⟩
      · cases found.symm.trans same
        exact ⟨call, at_ ▸ there, (if_pos (congrArg Int.ofNat at_)).trans changed⟩

theorem Kept.own_changeMatched (kept : service.Kept) {state : Int}
    (states : ∀ call call', change call = some call' →
      call' = {call with call_state := call'.call_state})
    (leaves : ∀ call, Leaves state call → change call = some call)
    (allowed : ∀ entry, service.matched number = some entry → Leaves state entry.2 ∨
      ∃ own, entry.2.remote_client = some own ∧ modemOf own = modemOf client) :
    Own modemOf service (.HandleRemoteCall client radioOff state number)
      ((service.changeMatched number change).Post .CallStateUpdate) := by
  refine ⟨(kept.changeMatched number states).returned, nofun, ?_, ?_⟩
  · intro entry member later member' same idle active own owned
    rcases kept.mem_changeMatched.mp member' with ⟨old, -⟩ | ⟨matched, found, -, changed⟩
    · exact absurd active (kept.unanswered member (.inl old) same idle)
    · have there := mem_of_find?_eq_some found
      rw [states _ _ changed] at same
      have := kept.identified _ there _ member same
      subst this
      rcases allowed _ found with left | ⟨other, owned', modem⟩
      · rw [Option.some.inj (changed.symm.trans (leaves _ left))] at active
        exact absurd active idle
      · cases owned.symm.trans owned'
        exact modem.symm
  · intro sender _ _ _ same entry member gone
    cases same
    have found : service.matched number = some entry := by
      by_contra other
      refine gone (kept.mem_changeMatched.mpr (.inl ⟨member, other, fun own found at_ => other ?_⟩))
      have there := mem_of_find?_eq_some found
      rw [found, inj_on_of_nodup_map kept.indexed there member at_.symm]
    refine (allowed entry found).resolve_left fun left => gone ?_
    exact kept.mem_changeMatched.mpr (.inr ⟨entry, found, rfl, leaves _ left⟩)

theorem Leaves.SetCallActive {call : CallStatus} (leaves : Leaves 0 call) :
    some call.SetCallActive = some call := by
  rcases leaves with ⟨-, active⟩ | ⟨other, -⟩
  · simp [CallStatus.SetCallActive, active]
  · cases other

theorem Leaves.SetCallBackground {call : CallStatus} (leaves : Leaves 1 call) :
    some call.SetCallBackground = some call := by
  rcases leaves with ⟨other, -⟩ | ⟨-, idle, -⟩
  · cases other
  · simp [CallStatus.SetCallBackground, idle]

theorem Kept.HandleRemoteCall (kept : service.Kept) {state : Int}
    (allowed : Allowed modemOf service (.HandleRemoteCall client radioOff state number)) :
    (service.HandleRemoteCall client radioOff state number).Kept ∧
      Own modemOf service (.HandleRemoteCall client radioOff state number)
        (service.HandleRemoteCall client radioOff state number) := by
  have unchanged : Own modemOf service (.HandleRemoteCall client radioOff state number) service :=
    ⟨kept.returned, nofun, fun entry member later old same idle active =>
      absurd active (kept.unanswered member (.inl old) same idle),
      fun _ _ _ _ _ entry member gone => absurd member gone⟩
  unfold CallService.HandleRemoteCall
  split_ifs with active held ended incoming off
  · subst active
    have states : ∀ call call' : CallStatus, some call.SetCallActive = some call' →
        call' = {call with call_state := call'.call_state} := by
      rintro call _ ⟨⟩
      exact CallStatus.SetCallActive_eq
    exact ⟨(kept.changeMatched number states).Post nofun,
      kept.own_changeMatched states (fun _ leaves => leaves.SetCallActive) (allowed (by decide))⟩
  · subst held
    have states : ∀ call call' : CallStatus, some call.SetCallBackground = some call' →
        call' = {call with call_state := call'.call_state} := by
      rintro call _ ⟨⟩
      exact CallStatus.SetCallBackground_eq
    exact ⟨(kept.changeMatched number states).Post nofun,
      kept.own_changeMatched states (fun _ leaves => leaves.SetCallBackground) (allowed (by decide))⟩
  · subst ended
    have states : ∀ call call' : CallStatus, none = some call' →
        call' = {call with call_state := call'.call_state} := nofun
    refine ⟨(kept.changeMatched number states).Post nofun, kept.own_changeMatched states
      (fun _ leaves => ?_) (allowed (by decide))⟩
    rcases leaves with ⟨other, -⟩ | ⟨other, -⟩ <;> cases other
  · exact ⟨kept, unchanged⟩
  · have inserted := kept.insert ⟨number, .INCOMING, some client, none, _⟩ rfl (Nat.le_refl _) nofun
      kept.queued kept.serials fun _ _ _ _ old => .inl old
    refine ⟨inserted.Post nofun, kept.returned, nofun, ?_, ?_⟩
    · intro entry member later member' same idle active
      refine absurd active (kept.unanswered member ?_ same idle)
      rcases mem_insert.mp member' with rfl | old
      · exact .inr rfl
      · exact .inl old
    · exact fun _ _ _ _ _ entry member gone => absurd (mem_insert.mpr (.inr member)) gone
  · exact ⟨kept, unchanged⟩

/-! ## Callbacks and runs -/

theorem mem_of_lookup {queue : List (Nat × Callback)} {callback : Callback}
    (found : queue.lookup serial = some callback) : (serial, callback) ∈ queue := by
  induction queue with
  | nil => cases found
  | cons first rest ih =>
    rw [lookup_cons] at found
    split at found
    · rename_i same
      cases found
      rw [beq_iff_eq.mp same]
      exact mem_cons_self
    · exact mem_cons_of_mem _ (ih found)

theorem Kept.callback (kept : service.Kept) {callback : Callback}
    (allowed : Allowed modemOf service (.callback serial))
    (found : service.queue_.lookup serial = some callback) :
    ((service.CancelSerial (some serial)).runCallback callback).Kept ∧
      Own modemOf service (.callback serial)
        ((service.CancelSerial (some serial)).runCallback callback) := by
  have sub : (service.CancelSerial (some serial)).queue_.Sublist service.queue_ :=
    filter_sublist
  cases callback with
  | CallStateUpdate =>
    refine ⟨⟨kept.returned, kept.indexed, kept.identified, kept.numbered, kept.timed, kept.posted,
      (sub.map _).nodup kept.queued, fun queued member => kept.serials _ (sub.subset member),
      fun _ _ _ _ member => kept.timers _ _ _ _ (sub.subset member)⟩, kept.returned, ?_, ?_, nofun⟩
    · intro other index number made same timer
      cases same
      cases found.symm.trans timer
    · exact fun entry member later old same idle active =>
        absurd active (kept.unanswered member (.inl old) same idle)
  | SimulatePendingCallsAnswered =>
    have states : ∀ entry ∈ service.active_calls_, ∀ call : CallStatus,
        some (if entry.2.call_state = .DIALING then entry.2.SetCallActive else entry.2) = some call →
          call = {entry.2 with call_state := call.call_state} := by
      rintro entry - call changed
      cases changed
      split
      · exact CallStatus.SetCallActive_eq
      · rfl
    constructor
    · refine kept.updated sub states fun timer index number made queued call there own => ?_
      -- A call with a timer is dialling another modem, which is not allowed here.
      obtain ⟨-, -, dialing, -, client⟩ := kept.timer_call (sub.subset queued) there
      rw [allowed found _ there dialing] at client
      cases client
    · refine ⟨kept.returned, ?_, ?_, nofun⟩
      · intro other index number made same timer
        cases same
        cases found.symm.trans timer
      · intro entry member later member' same idle active client own
        obtain ⟨call, there, changed⟩ := mem_updated.mp member'
        have state := states _ there _ changed
        rw [state] at same
        have := kept.identified _ there _ member same
        subst this
        rw [← Option.some.inj changed] at active
        split at active
        · rename_i dialing
          have local_ := allowed found _ there dialing
          exact absurd (local_.symm.trans own) nofun
        · exact absurd active idle
  | TimerWaitingRemoteCallResponse index number made =>
    have timer := mem_of_lookup found
    have states : ∀ entry ∈ service.active_calls_, ∀ call : CallStatus,
        (if (entry.1 : Int) = index then if entry.2.number = number then none else some entry.2
          else some entry.2) = some call → call = entry.2 := by
      intro entry _ call changed
      split_ifs at changed <;> cases changed <;> rfl
    constructor
    · refine kept.updated sub (fun entry member call changed => ?_)
        fun other place number' made' queued call there own => if_neg fun same => ?_
      · rw [states entry member call changed]
      · cases ofNat_inj.mp same
        have kept_ := (mem_filter.mp queued).2
        have own' := (kept.timer_call timer there).2.2.2.1
        rw [own] at own'
        simp [own'] at kept_
    · refine ⟨kept.returned, ?_, ?_, nofun⟩
      · intro other place number' made' same timer' entry member
        cases same
        cases found.symm.trans timer'
        -- The call that the timer was posted for is still at its index, under its number.
        have mine : entry.2.made = made → (entry.1 : Int) = index ∧ entry.2.number = number ∧
            entry.2.call_state = .DIALING := by
          intro same
          obtain ⟨own, there, number_, made_, dialing, -⟩ := kept.timers _ _ _ _ timer
          have := kept.identified _ there _ member (made_.trans same.symm)
          subst this
          exact ⟨rfl, number_, dialing⟩
        refine ⟨⟨fun stays same => ?_, fun other => ?_⟩, fun same => (mine same).2.2⟩
        · obtain ⟨call, there, changed⟩ := mem_updated.mp stays
          obtain ⟨at_, number_, -⟩ := mine same
          cases states _ there _ changed
          rw [if_pos at_] at changed
          exact nomatch (if_pos number_).symm.trans changed
        · refine mem_updated.mpr ⟨entry.2, member, if_neg fun same => other ?_⟩
          have there : (index, entry.2) ∈ service.active_calls_ := by
            rw [← ofNat_inj.mp same]
            exact member
          exact (kept.timer_call timer there).2.1
      · intro entry member later member' same idle active
        obtain ⟨call, there, changed⟩ := mem_updated.mp member'
        have state := states _ there _ changed
        have old : later ∈ service.active_calls_ := by
          obtain ⟨at_, call'⟩ := later
          dsimp only at state there
          rw [state]
          exact there
        exact absurd active (kept.unanswered member (.inl old) same idle)

theorem Own.of_local {after : CallService} {event : CallEvent} (returned : after.threw = false)
    (answers : ∀ client, event.Answers modemOf client) (timer : ∀ serial, event ≠ .callback serial)
    (message : ∀ client radioOff state number,
      event ≠ .HandleRemoteCall client radioOff state number) :
    Own modemOf service event after :=
  ⟨returned, fun serial _ _ _ same => absurd same (timer serial),
    fun _ _ _ _ _ _ _ client _ => answers client,
    fun client radioOff state number same => absurd same (message client radioOff state number)⟩

theorem Kept.HandleHangup (kept : service.Kept) {action : List Char}
    (allowed : Allowed modemOf service (.HandleHangup action)) :
    ∃ after, service.HandleHangup action = some after ∧ after.Kept := by
  obtain ⟨reads, spares⟩ := allowed
  have read : ∃ index, (if 1 < action.length then stoi action.tail else some (-1)) = some index := by
    refine isSome_iff_exists.mp ?_
    split
    · exact reads ‹_›
    · rfl
  obtain ⟨index, read⟩ := read
  unfold CallService.HandleHangup
  rw [read]
  refine ⟨_, rfl, ?_⟩
  dsimp only
  split_ifs with one
  · obtain ⟨named, given⟩ := one
    have long : 1 < action.length := by
      by_contra short
      rw [if_neg short] at read
      exact given (Option.some.inj read).symm
    rw [if_pos long] at read
    refine kept.updated (Sublist.refl _) (fun entry _ call changed => ?_)
      fun serial place number made queued call there own => if_neg fun same => ?_
    · split_ifs at changed
      cases changed
      rfl
    · exact spares index named long read given _ there same _ queued own
  · exact kept.settled (fun _ _ => CallStatus.hangup_eq) fun _ => CallStatus.hangup_dialing
  · exact kept

theorem Kept.step (kept : service.Kept) {event : CallEvent} {after : CallService}
    (allowed : Allowed modemOf service event) (moved : service.step event = some after) :
    after.Kept ∧ Own modemOf service event after := by
  unfold CallService.step at moved
  rw [kept.returned, if_neg Bool.false_ne_true] at moved
  cases event with
  | HandleDial around text =>
    obtain ⟨dialled, same, dialled_, calls⟩ := kept.HandleDial around text
    dsimp only at moved
    rw [same] at moved
    cases moved
    refine ⟨dialled_, dialled_.returned, nofun, fun entry member later member' same idle active => ?_,
      nofun⟩
    exact absurd active (kept.unanswered member (calls later member') same idle)
  | HandleAcceptCall =>
    cases moved
    have accepted : service.HandleAcceptCall.Kept := kept.settled (fun _ _ => CallStatus.accept_eq)
      fun call dialing => by simp [CallStatus.accept, dialing]
    exact ⟨accepted, .of_local accepted.returned (fun _ => trivial) nofun nofun⟩
  | HandleRejectCall =>
    cases moved
    have rejected : service.HandleRejectCall.Kept := kept.settled (fun _ _ => CallStatus.reject_eq)
      fun call dialing => by simp [CallStatus.reject, dialing]
    exact ⟨rejected, .of_local rejected.returned (fun _ => trivial) nofun nofun⟩
  | HandleHangup action =>
    obtain ⟨hung, same, hung_⟩ := kept.HandleHangup allowed
    dsimp only at moved
    rw [same] at moved
    cases moved
    exact ⟨hung_, .of_local hung_.returned (fun _ => trivial) nofun nofun⟩
  | HandleRemoteCall client radioOff state number =>
    cases moved
    exact kept.HandleRemoteCall allowed
  | callback serial =>
    obtain ⟨callback, found, rfl⟩ := map_eq_some_iff.mp moved
    exact kept.callback allowed found

theorem Kept.of_reaches (reached : machine.Reaches (Allowed modemOf) service) : service.Kept := by
  refine reached.invariant ?_ fun _ _ _ kept allowed moved => (kept.step allowed moved).1
  rintro _ rfl
  exact ⟨rfl, nodup_nil, nofun, nofun, nofun, nofun, nodup_nil, nofun, nofun⟩

end Own

end CallService

/-- While every event is one that is allowed, calls end and are answered by their own events. -/
theorem calls_end_by_own_events {Modem : Type} {modemOf : Nat → Modem} {service : CallService}
    (reached : CallService.machine.Reaches (CallService.Allowed modemOf) service) :
    service.threw = false ∧ ∀ event after, service.Allowed modemOf event →
      service.step event = some after → service.Own modemOf event after := by
  have kept := CallService.Kept.of_reaches reached
  exact ⟨kept.returned, fun event after allowed moved => (kept.step allowed moved).2⟩

def atHome : Surrounding := ⟨.HOME, fun _ => true, true, 6520, 5⟩

def calling : CallService := (CallService.step {} (.HandleDial atHome "6521;".toList)).getD {}

theorem calls_end_by_own_events_calling :
    calling.threw = false ∧ ∀ event after, calling.Allowed (fun client => client) event →
      calling.step event = some after → calling.Own (fun client => client) event after :=
  calls_end_by_own_events (.take (.HandleDial atHome "6521;".toList) (.start rfl) trivial rfl)

/-- A call to another modem is answered with a number called after it, and erased all the same; an
operation that no number follows throws. -/
theorem calls_answered_together :
    (∃ service, CallService.machine.Reachable service ∧
      service.active_calls_.map (fun entry => (entry.1, entry.2.number, entry.2.call_state)) =
        [(1, "6521".toList, .ACTIVE), (2, "5".toList, .ACTIVE)] ∧
      ((service.step (.callback 1)).map fun after => after.active_calls_.map Prod.fst) = some [2]) ∧
    ((CallService.step {} (.HandleHangup "1x".toList)).map CallService.threw) = some true := by
  refine ⟨⟨(CallService.machine.run calling [.HandleDial atHome "5;".toList, .callback 2]).getD {},
    ?_, by decide, by decide⟩, by decide⟩
  refine .getD_run _ ?_ rfl
  exact .take (.HandleDial atHome "6521;".toList) (.start rfl) trivial rfl

/-- A timer that is due stands for one call, which still dials, and for no other. -/
theorem timers_stand_for_calls {Modem : Type} {modemOf : Nat → Modem} {service : CallService}
    (reached : CallService.machine.Reaches (CallService.Allowed modemOf) service) (serial : Nat)
    {index made : Nat} {number : List Char}
    (due : (serial, .TimerWaitingRemoteCallResponse index number made) ∈ service.queue_) :
    ∃ call : CallStatus, call.number = number ∧ call.call_state = .DIALING ∧
      call.remote_client.isSome ∧ call.timeout_serial = some serial ∧
      ∀ entry, entry ∈ service.active_calls_ ∧
        (entry.1 = index ∨ entry.2.timeout_serial = some serial) ↔ entry = (index, call) := by
  have kept := CallService.Kept.of_reaches reached
  obtain ⟨call, active, named, -, dials, timed, remote⟩ := kept.timers _ _ _ _ due
  refine ⟨call, named, dials, remote, timed, fun entry => ⟨fun ⟨listed, same⟩ => ?_, ?_⟩⟩
  · rcases same with same | same
    · exact inj_on_of_nodup_map kept.indexed listed active same
    · exact kept.timed _ listed _ active _ same timed
  · rintro rfl
    exact ⟨active, .inl rfl⟩

theorem timers_stand_for_calls_calling :
    ∃ call : CallStatus, call.number = "6521".toList ∧ ∀ entry, entry ∈ calling.active_calls_ ∧
      (entry.1 = 1 ∨ entry.2.timeout_serial = some 1) ↔ entry = (1, call) := by
  have reached : CallService.machine.Reaches (CallService.Allowed fun client => client) calling :=
    .take (.HandleDial atHome "6521;".toList) (.start rfl) trivial rfl
  have due : (1, .TimerWaitingRemoteCallResponse 1 "6521".toList 0) ∈ calling.queue_ := by decide
  obtain ⟨call, named, -, -, -, only⟩ := timers_stand_for_calls reached 1 due
  exact ⟨call, named, only⟩

end Ika.Modem
