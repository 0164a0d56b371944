import Ika.Foundation.Machine

/-!
Clients of devices: polled connections, and WebSocket connections with their pumps.

Each step is a critical section of one lock, or one step of a goroutine between such sections.
-/

set_option autoImplicit false

namespace Ika.Operator.Clients

open Function

/-- An entry of `device.clients`. -/
inductive Client where
  | polled (connId : String)
  | webSocket (ws : Nat)
  deriving DecidableEq

structure Device where
  clients : Nat → Option Client
  /-- It doesn't decrease when clients unregister. -/
  clientCount : Nat
  gone : Bool

namespace Device

def new : Device := {clients := fun _ => none, clientCount := 0, gone := false}

def Register (d : Device) (c : Client) : Device :=
  {d with
    clientCount := d.clientCount + 1
    clients := update d.clients (d.clientCount + 1) (some c)}

def Unregister (d : Device) (id : Nat) : Device :=
  {d with clients := update d.clients id none}

def clientsCopy (d : Device) : List Client :=
  (List.range (d.clientCount + 1)).filterMap d.clients

end Device

structure PolledClient where
  device : Nat
  clientId : Nat

/-- A `createPolledConnection` request, which has looked its device up or is done. -/
inductive PolledRequest where
  | looked (device : Nat)
  | done
  deriving DecidableEq

/-- What `connectWebSocket` has done for a client. -/
inductive Connecting where
  | looked
  | started
  | registered
  | finished
  deriving DecidableEq

inductive Pump where
  | absent
  | running
  | unregistering
  | closing
  | ended
  deriving DecidableEq

structure WsClient where
  device : Nat
  clientId : Nat
  returned : Option Nat
  connecting : Connecting
  readPump : Pump
  writePump : Pump
  isOpen : Bool
  done : Bool

/-- A call of `DevicePool.Unregister`, which holds `devicesMtx`. -/
structure Unregistering where
  id : String
  device : Nat
  remaining : List Client

structure Forwarded where
  ws : Nat
  clientId : Nat

structure State where
  devices : Nat → Device
  deviceCount : Nat
  pool : String → Option Nat
  unregistering : Option Unregistering
  connections : String → Option PolledClient
  requests : List PolledRequest
  webSockets : Nat → Option WsClient
  forwarded : List Forwarded

namespace State

def setDevice (state : State) (number : Nat) (device : Device) : State :=
  {state with devices := update state.devices number device}

def setWs (state : State) (ws : Nat) (client : WsClient) : State :=
  {state with webSockets := update state.webSockets ws (some client)}

/-- `GetDevice`, which waits for `devicesMtx`. -/
def GetDevice (state : State) (id : String) : Option Nat :=
  if state.unregistering.isNone then state.pool id else none

def register (state : State) (id : String) : Option State :=
  if state.unregistering.isNone ∧ state.pool id = none then
    some { state.setDevice state.deviceCount .new with
      deviceCount := state.deviceCount + 1
      pool := update state.pool id (some state.deviceCount)}
  else none

def unregister (state : State) (id : String) : Option State :=
  match state.GetDevice id with
  | none => none
  | some device =>
    some {state with
      unregistering := some {id, device, remaining := (state.devices device).clientsCopy}}

def OnDeviceDisconnected (state : State) : Client → State
  | .polled connId => {state with connections := update state.connections connId none}
  | .webSocket ws =>
    {state with
      webSockets := update state.webSockets ws
        ((state.webSockets ws).map fun client => {client with done := true})}

def disconnect (state : State) : Option State :=
  match state.unregistering with
  | some ⟨id, device, client :: remaining⟩ =>
    some { state.OnDeviceDisconnected client with
      unregistering := some {id, device, remaining}}
  | _ => none

def unregistered (state : State) : Option State :=
  match state.unregistering with
  | some ⟨id, device, []⟩ =>
    some { state.setDevice device {state.devices device with gone := true} with
      pool := update state.pool id none
      unregistering := none}
  | _ => none

def createPolledConnection (state : State) (id : String) : Option State :=
  match state.GetDevice id with
  | none => none
  | some device => some {state with requests := state.requests ++ [.looked device]}

/-- `NewConnection` under the lock of the set, with a name that is not taken. -/
def NewConnection (state : State) (request : Nat) (connId : String) : Option State :=
  match state.requests[request]?, state.connections connId with
  | some (.looked device), none =>
    some { state.setDevice device ((state.devices device).Register (.polled connId)) with
      requests := state.requests.set request .done
      connections := update state.connections connId
        (some {device, clientId := (state.devices device).clientCount + 1})}
  | _, _ => none

def connectWebSocket (state : State) (ws : Nat) (id : String) : Option State :=
  match state.webSockets ws, state.GetDevice id with
  | none, some device =>
    some (state.setWs ws
      { device, clientId := 0, returned := none, connecting := .looked, readPump := .absent
        writePump := .absent, isOpen := false, done := false})
  | _, _ => none

def NewWsClient (state : State) (ws : Nat) (client : WsClient) : Option State :=
  if client.connecting = .looked then
    some (state.setWs ws
      {client with
        connecting := .started, readPump := .running, writePump := .running, isOpen := true})
  else none

def upgradeFails (state : State) (ws : Nat) (client : WsClient) : Option State :=
  if client.connecting = .looked then
    some (state.setWs ws {client with connecting := .finished})
  else none

def registerClient (state : State) (ws : Nat) (client : WsClient) : Option State :=
  if client.connecting = .started then
    some ((state.setDevice client.device
        ((state.devices client.device).Register (.webSocket ws))).setWs ws
      {client with
        connecting := .registered
        returned := some ((state.devices client.device).clientCount + 1)})
  else none

def assign (state : State) (ws : Nat) (client : WsClient) : Option State :=
  match client.connecting, client.returned with
  | .registered, some clientId =>
    some (state.setWs ws {client with connecting := .finished, clientId})
  | _, _ => none

/-- The read pump passes a message on, with the id that the client has by then. -/
def forward (state : State) (ws : Nat) (client : WsClient) : Option State :=
  if client.readPump = .running ∧ client.isOpen = true then
    some {state with
      forwarded := state.forwarded ++ [{ws, clientId := client.clientId}]}
  else none

def readStops (state : State) (ws : Nat) (client : WsClient) : Option State :=
  if client.readPump = .running then
    some (state.setWs ws {client with readPump := .unregistering})
  else none

def unregisterClient (state : State) (ws : Nat) (client : WsClient) : Option State :=
  if client.readPump = .unregistering then
    some ((state.setDevice client.device
        ((state.devices client.device).Unregister client.clientId)).setWs ws
      {client with readPump := .closing})
  else none

def close (state : State) (ws : Nat) (client : WsClient) : Option State :=
  if client.readPump = .closing then
    some (state.setWs ws {client with readPump := .ended, done := true})
  else none

def writeStops (state : State) (ws : Nat) (client : WsClient) : Option State :=
  if client.writePump = .running then
    some (state.setWs ws {client with writePump := .ended, isOpen := false})
  else none

end State

inductive Event where
  | register (id : String)
  | unregister (id : String)
  | disconnect
  | unregistered
  | createPolledConnection (id : String)
  | NewConnection (request : Nat) (connId : String)
  | connectWebSocket (ws : Nat) (id : String)
  | NewWsClient (ws : Nat)
  | upgradeFails (ws : Nat)
  | registerClient (ws : Nat)
  | assign (ws : Nat)
  | forward (ws : Nat)
  | readStops (ws : Nat)
  | unregisterClient (ws : Nat)
  | close (ws : Nat)
  | writeStops (ws : Nat)

def State.step (state : State) : Event → Option State
  | .register id => state.register id
  | .unregister id => state.unregister id
  | .disconnect => state.disconnect
  | .unregistered => state.unregistered
  | .createPolledConnection id => state.createPolledConnection id
  | .NewConnection request connId => state.NewConnection request connId
  | .connectWebSocket ws id => state.connectWebSocket ws id
  | .NewWsClient ws => (state.webSockets ws).bind (state.NewWsClient ws)
  | .upgradeFails ws => (state.webSockets ws).bind (state.upgradeFails ws)
  | .registerClient ws => (state.webSockets ws).bind (state.registerClient ws)
  | .assign ws => (state.webSockets ws).bind (state.assign ws)
  | .forward ws => (state.webSockets ws).bind (state.forward ws)
  | .readStops ws => (state.webSockets ws).bind (state.readStops ws)
  | .unregisterClient ws => (state.webSockets ws).bind (state.unregisterClient ws)
  | .close ws => (state.webSockets ws).bind (state.close ws)
  | .writeStops ws => (state.webSockets ws).bind (state.writeStops ws)

def State.empty : State where
  devices _ := .new
  deviceCount := 0
  pool _ := none
  unregistering := none
  connections _ := none
  requests := []
  webSockets _ := none
  forwarded := []

open Transition

def operator : Machine State Event where
  init state := state = .empty
  step := State.step

/-- No request or pump for the device is in progress. -/
structure State.Quiet (state : State) (device : Nat) : Prop where
  polled : .looked device ∉ state.requests
  webSockets : ∀ ws client, state.webSockets ws = some client → client.device = device →
    client.connecting = .finished ∧
      (client.readPump = .absent ∨ client.readPump = .ended)

structure State.Sound (state : State) : Prop where
  gone : ∀ device, (state.devices device).gone = true → state.Quiet device →
    (∀ connId client, state.connections connId = some client → client.device ≠ device) ∧
      ∀ id, (state.devices device).clients id = none
  forwarded : ∀ message ∈ state.forwarded, ∃ client,
    state.webSockets message.ws = some client ∧ client.returned = some message.clientId
  ended : ∀ ws client, state.webSockets ws = some client → client.readPump = .ended →
    ∀ id, (state.devices client.device).clients id ≠ some (.webSocket ws)

def Client.isPolled : Client → Bool
  | .polled _ => true
  | .webSocket _ => false

/-- Devices go without polled clients, and a read pump waits for its client's id. -/
def Allowed (state : State) : Event → Prop
  | .unregister id => ∀ device ∈ state.pool id,
    (∀ client ∈ (state.devices device).clientsCopy, client.isPolled = false) ∧
      .looked device ∉ state.requests
  | .forward ws => ∀ client ∈ state.webSockets ws, client.connecting = .finished
  | .unregisterClient ws => ∀ client ∈ state.webSockets ws, client.connecting = .finished
  | _ => True

end Ika.Operator.Clients
