import Ika.Foundation.Machine

/-! Pre-registration of devices by controllers, and their registration by the devices.

A channel for the outcome of a pre-registration is named by the handler that made it and the
position of the device in the list of the message.
-/

set_option autoImplicit false

namespace Ika.Operator

open Function

structure DeviceDescriptor where
  deviceId : String
  groupName : String
  owner : String
  name : String
  adbPort : Int

/-- A device in the list of a pre-register message. -/
structure ListedDevice where
  id : String
  name : String
  adbPort : Int

structure PreRegisterMsg where
  groupName : String
  owner : String
  devices : List ListedDevice

structure RegistrationStatusReport where
  id : String
  status : String
  msg : String

structure RegCh where
  handler : Nat
  index : Nat

structure PreDevice where
  desc : DeviceDescriptor
  regCh : RegCh

structure DevicePool where
  /-- The handler that holds the mutex between two steps. -/
  preDevicesMtx : Option Nat
  preDevices : String → Option PreDevice
  /-- The descriptor of each registered device. -/
  devices : String → Option DeviceDescriptor

namespace DevicePool

/-- What `PreRegister` finds against an id. -/
def refusal (pool : DevicePool) (id : String) : Option String :=
  if (pool.preDevices id).isSome then some "Device Id already pre-registered"
  else if (pool.devices id).isSome then some "Device Id already registered"
  else none

/-- The rest of `PreRegister`. -/
def PreRegister (pool : DevicePool) (d : PreDevice) : DevicePool :=
  {pool with
    preDevicesMtx := none
    preDevices := update pool.preDevices d.desc.deviceId (some d)}

def CancelPreRegistration (pool : DevicePool) (id : String) : DevicePool :=
  {pool with preDevices := update pool.preDevices id none}

def describe (pool : DevicePool) (id : String) : DeviceDescriptor :=
  match pool.preDevices id with
  | some preDevice => preDevice.desc
  | none => { deviceId := id, groupName := "", owner := "", name := "", adbPort := 0}

def Register (pool : DevicePool) (id : String) : DevicePool :=
  {pool with
    preDevices := update pool.preDevices id none
    devices := update pool.devices id (some (pool.describe id))}

def Unregister (pool : DevicePool) (id : String) : DevicePool :=
  {pool with devices := update pool.devices id none}

end DevicePool

inductive Stage where
  /-- Before the device at a position, or behind the last one. -/
  | registering (next : Nat)
  /-- Within `pool.PreRegister`, the id being free. -/
  | checked (next : Nat)
  | accepted (next : Nat)
  | looping
  | cancelling
  | returned
  deriving DecidableEq

inductive Outcome where
  | pending
  | registered
  | closed
  deriving DecidableEq

/-- The goroutine that waits for the outcome of one pre-registration. -/
inductive Forwarder where
  | absent
  | waiting
  | holding
  | done
  deriving DecidableEq

structure Handler where
  msg : PreRegisterMsg
  ret : List RegistrationStatusReport
  idSet : List String
  devCh : List String
  regChs : Nat → Outcome
  forwarders : Nat → Forwarder
  /-- The goroutine that receives from the socket has met an error. -/
  closeCh : Bool
  stage : Stage

def PreRegisterMsg.describe (msg : PreRegisterMsg) (d : ListedDevice) : DeviceDescriptor :=
  { deviceId := d.id, groupName := msg.groupName, owner := msg.owner, name := d.name
    adbPort := d.adbPort}

def Handler.start (msg : PreRegisterMsg) : Handler where
  msg
  ret := []
  idSet := []
  devCh := []
  regChs _ := .pending
  forwarders _ := .absent
  closeCh := false
  stage := .registering 0

structure Registration where
  id : String
  pending : Option PreDevice
  descriptor : DeviceDescriptor

structure Cancellation where
  handler : Nat
  pending : PreDevice

structure State where
  pool : DevicePool
  handlers : Nat → Option Handler
  /-- The id that the device of an endpoint is registered with. -/
  endpoints : Nat → Option String
  registrations : List Registration
  cancellations : List Cancellation

namespace State

def setHandler (state : State) (h : Nat) (handler : Handler) : State :=
  {state with handlers := update state.handlers h (some handler)}

def modifyHandler (state : State) (h : Nat) (change : Handler → Handler) : State :=
  {state with handlers := update state.handlers h ((state.handlers h).map change)}

def settle (state : State) (regCh : RegCh) (outcome : Outcome) : State :=
  state.modifyHandler regCh.handler fun handler =>
    {handler with regChs := update handler.regChs regCh.index outcome}

/-- The next device is looked up, and the mutex kept where it can be stored. -/
def check (state : State) (h : Nat) (handler : Handler) : Option State :=
  match handler.stage, state.pool.preDevicesMtx with
  | .registering next, none =>
    match handler.msg.devices[next]? with
    | none => none
    | some d =>
      match state.pool.refusal d.id with
      | some msg =>
        some (state.setHandler h
          {handler with
            ret := handler.ret ++ [{ id := d.id, status := "failed", msg}]
            stage := .registering (next + 1)})
      | none =>
        some { state.setHandler h {handler with stage := .checked next} with
          pool := {state.pool with preDevicesMtx := some h}}
  | _, _ => none

def store (state : State) (h : Nat) (handler : Handler) : Option State :=
  match handler.stage with
  | .checked next =>
    match handler.msg.devices[next]? with
    | none => none
    | some d =>
      some { state.setHandler h {handler with stage := .accepted next} with
        pool := state.pool.PreRegister
          {desc := handler.msg.describe d, regCh := {handler := h, index := next}}}
  | _ => none

def note (state : State) (h : Nat) (handler : Handler) : Option State :=
  match handler.stage with
  | .accepted next =>
    match handler.msg.devices[next]? with
    | none => none
    | some d =>
      some (state.setHandler h
        {handler with
          ret := handler.ret ++ [{ id := d.id, status := "accepted", msg := "" }]
          idSet := handler.idSet.insert d.id
          forwarders := update handler.forwarders next .waiting
          stage := .registering (next + 1)})
  | _ => none

def send (state : State) (h : Nat) (handler : Handler) (ok : Bool) : Option State :=
  if handler.stage = .registering handler.msg.devices.length then
    some (state.setHandler h {handler with stage := if ok then .looping else .returned})
  else none

def recvFails (state : State) (h : Nat) (handler : Handler) : Option State :=
  if handler.stage = .looping then some (state.setHandler h {handler with closeCh := true})
  else none

/-- The loop takes an event. Whether it can be sent to the controller makes no difference. -/
def takeEvent (state : State) (h : Nat) (handler : Handler) : Option State :=
  match handler.stage, handler.devCh with
  | .looping, id :: devCh =>
    some (state.setHandler h
      {handler with devCh, idSet := handler.idSet.filter fun other => other ≠ id})
  | _, _ => none

def takeClose (state : State) (h : Nat) (handler : Handler) : Option State :=
  if handler.stage = .looping ∧ handler.closeCh = true then
    some (state.setHandler h {handler with stage := .cancelling})
  else none

/-- One of the ids that are left is cancelled; their order is any. -/
def cancel (state : State) (h : Nat) (handler : Handler) (id : String) : Option State :=
  if handler.stage = .cancelling ∧ id ∈ handler.idSet ∧ state.pool.preDevicesMtx = none then
    let noted := state.setHandler h
      {handler with idSet := handler.idSet.filter fun other => other ≠ id}
    match state.pool.preDevices id with
    | none => some noted
    | some pending =>
      some { noted.settle pending.regCh .closed with
        pool := state.pool.CancelPreRegistration id
        cancellations := state.cancellations ++ [{handler := h, pending}]}
  else none

def finish (state : State) (h : Nat) (handler : Handler) : Option State :=
  if handler.stage = .cancelling ∧ handler.idSet = [] then
    some (state.setHandler h {handler with stage := .returned})
  else none

def receive (state : State) (h : Nat) (handler : Handler) (index : Nat) : Option State :=
  match handler.forwarders index, handler.regChs index with
  | .waiting, .registered =>
    some (state.setHandler h
      {handler with forwarders := update handler.forwarders index .holding})
  | .waiting, .closed =>
    some (state.setHandler h
      {handler with forwarders := update handler.forwarders index .done})
  | _, _ => none

/-- It passes the id on, for which the channel has room. -/
def deliver (state : State) (h : Nat) (handler : Handler) (index : Nat) : Option State :=
  match handler.forwarders index, handler.msg.devices[index]? with
  | .holding, some d =>
    if handler.devCh.length < handler.msg.devices.length then
      some (state.setHandler h
        {handler with
          devCh := handler.devCh ++ [d.id]
          forwarders := update handler.forwarders index .done})
    else none
  | _, _ => none

/-- A device endpoint registers its device, if no other one has the id. -/
def register (state : State) (e : Nat) (id : String) : Option State :=
  if state.endpoints e = none ∧ state.pool.preDevicesMtx = none then
    if (state.pool.devices id).isSome then some state
    else
      let registered :=
        {state with
          pool := state.pool.Register id
          endpoints := update state.endpoints e (some id)
          registrations := state.registrations ++
            [{id, pending := state.pool.preDevices id, descriptor := state.pool.describe id}]}
      match state.pool.preDevices id with
      | none => some registered
      | some pending => some (registered.settle pending.regCh .registered)
  else none

def unregister (state : State) (e : Nat) : Option State :=
  match state.endpoints e with
  | none => none
  | some id =>
    some {state with
      pool := state.pool.Unregister id
      endpoints := update state.endpoints e none}

end State

inductive Event where
  | start (h : Nat) (msg : PreRegisterMsg)
  | check (h : Nat)
  | store (h : Nat)
  | note (h : Nat)
  | send (h : Nat) (ok : Bool)
  | recvFails (h : Nat)
  | takeEvent (h : Nat)
  | takeClose (h : Nat)
  | cancel (h : Nat) (id : String)
  | finish (h : Nat)
  | receive (h index : Nat)
  | deliver (h index : Nat)
  | register (e : Nat) (id : String)
  | unregister (e : Nat)

def State.step (state : State) : Event → Option State
  | .start h msg =>
    if (state.handlers h).isSome then none else some (state.setHandler h (.start msg))
  | .check h => (state.handlers h).bind (state.check h)
  | .store h => (state.handlers h).bind (state.store h)
  | .note h => (state.handlers h).bind (state.note h)
  | .send h ok => (state.handlers h).bind fun handler => state.send h handler ok
  | .recvFails h => (state.handlers h).bind (state.recvFails h)
  | .takeEvent h => (state.handlers h).bind (state.takeEvent h)
  | .takeClose h => (state.handlers h).bind (state.takeClose h)
  | .cancel h id => (state.handlers h).bind fun handler => state.cancel h handler id
  | .finish h => (state.handlers h).bind (state.finish h)
  | .receive h index => (state.handlers h).bind fun handler => state.receive h handler index
  | .deliver h index => (state.handlers h).bind fun handler => state.deliver h handler index
  | .register e id => state.register e id
  | .unregister e => state.unregister e

def State.empty : State where
  pool := {preDevicesMtx := none, preDevices := fun _ => none, devices := fun _ => none}
  handlers _ := none
  endpoints _ := none
  registrations := []
  cancellations := []

open Transition

def preRegistration : Machine State Event where
  init state := state = .empty
  step := State.step

/-- Pre-registrations and registrations stay apart, and a handler withdraws only its own. -/
structure State.Sound (state : State) : Prop where
  apart : ∀ id, (state.pool.preDevices id).isSome → state.pool.devices id = none
  described : ∀ registration ∈ state.registrations, ∀ pending,
    registration.pending = some pending →
      registration.descriptor = pending.desc ∧
        ∃ handler d, state.handlers pending.regCh.handler = some handler ∧
          handler.msg.devices[pending.regCh.index]? = some d ∧ d.id = registration.id ∧
            pending.desc = handler.msg.describe d
  withdrawn : ∀ h handler, state.handlers h = some handler → handler.stage = .returned →
    ∀ id pending, state.pool.preDevices id = some pending → pending.regCh.handler ≠ h
  own : ∀ cancellation ∈ state.cancellations,
    cancellation.pending.regCh.handler = cancellation.handler

def State.PendingFor (state : State) (id : String) (h : Nat) : Prop :=
  (state.pool.preDevices id).any fun pending => pending.regCh.handler = h
  deriving Decidable

def State.PendingElsewhere (state : State) (id : String) (h : Nat) : Prop :=
  (state.pool.preDevices id).any fun pending => pending.regCh.handler ≠ h
  deriving Decidable

/-- Responses can be sent, and no id is pending again when it is taken or cancelled. -/
def Allowed (state : State) : Event → Prop
  | .send h false => ∀ handler, state.handlers h = some handler →
    ∀ id ∈ handler.idSet, ¬state.PendingFor id h
  | .takeEvent h => ∀ handler, state.handlers h = some handler →
    ∀ id ∈ handler.devCh.head?, ¬state.PendingFor id h
  | .cancel h id => ¬state.PendingElsewhere id h
  | _ => True

end Ika.Operator
