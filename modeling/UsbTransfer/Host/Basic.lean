import UsbTransfer.Arena
import UsbTransfer.Completion
import UsbTransfer.Controller

namespace UsbTransfer

structure Connection (δ : Type) where
  device : δ
  draining : Nat := 0
  deriving DecidableEq, Repr

/-- A reusable isochronous transfer. The slot is empty while its descriptor is in flight. -/
structure Stream where
  token : Token
  endpoint : Endpoint
  packets : Nat
  packetLength : Nat
  slot : Option Transfer
  deriving DecidableEq, Repr

/-- The smallest buffer that a submission takes. -/
def Stream.capacity (s : Stream) : Nat := s.packets * s.packetLength % wordSize

inductive Target where
  | recorder
  | channel (c : Channel Message)
  deriving Repr

inductive Order where
  | transfer (token : Token) (request : Request)
  | stream (stream : StreamId) (buffer : BufferId) (timeout : UInt32)
  deriving DecidableEq, Repr

inductive Answer where
  | done
  | refused (error : HostError)
  | noStream
  | noHost
  deriving DecidableEq, Repr

def Answer.ofExcept : Except HostError Unit → Answer
  | .ok () => done
  | .error e => refused e

structure Delivery where
  transfer : TransferId
  target : TargetId
  notifier : Notifier
  completion : Completion
  deriving DecidableEq, Repr

inductive Event where
  | notified (delivery : Delivery)
  | answered (target : TargetId) (answer : Answer)
  deriving DecidableEq, Repr

structure Host (κ δ : Type) where
  controller : κ
  connections : List (Connection δ) := []
  devices : Arena ConnectionId := {}
  contracts : Option Contracts := none
  nextTransfer : TransferId := 1
  streams : List Stream := []
  buffers : Buffers := []
  targets : List Target := []
  /-- Finished transfers that are still to be dispatched in the current pass. -/
  batch : List Transfer := []
  journal : List Event := []
  /-- The owner has not let go. -/
  owned : Bool := true

namespace Host

variable {κ δ : Type}

def initialized (h : Host κ δ) : Bool := h.contracts.isSome

/-- Fails closed: with a kind missing nothing changes. -/
def resolve (h : Host κ δ) (r : Registry) : Host κ δ × Except HostError Unit :=
  match r.resolve with
  | .ok c => ({ h with contracts := some c }, .ok ())
  | .error e => (h, .error e)

def lookup (h : Host κ δ) (t : Token) : Except HostError (ConnectionId × Connection δ) :=
  match h.devices.get? t with
  | none => .error .invalidHandle
  | some id =>
    match h.connections[id]? with
    | none => .error .invalidHandle
    | some c => .ok (id, c)

def adopt (h : Host κ δ) (device : δ) : Host κ δ × Token :=
  let (devices, t) := h.devices.insert h.connections.length
  ({ h with devices, connections := h.connections ++ [{ device }] }, t)

def beginDrain (h : Host κ δ) (t : Token) : Host κ δ × Except HostError ConnectionId :=
  match h.lookup t with
  | .error e => (h, .error e)
  | .ok (id, _) =>
    ({ h with
      connections := h.connections.modify id fun c => { c with draining := c.draining + 1 } },
      .ok id)

def endDrain (h : Host κ δ) (id : ConnectionId) : Host κ δ :=
  { h with connections := h.connections.modify id fun c => { c with draining := c.draining - 1 } }

def addBuffer (h : Host κ δ) (s : Storage) : Host κ δ × BufferId :=
  ({ h with buffers := h.buffers ++ [s] }, h.buffers.length)

def addTarget (h : Host κ δ) (t : Target) : Host κ δ × TargetId :=
  ({ h with targets := h.targets ++ [t] }, h.targets.length)

def log (h : Host κ δ) (e : Event) : Host κ δ := { h with journal := h.journal ++ [e] }

def deliveries (h : Host κ δ) : List Delivery :=
  h.journal.filterMap fun
    | .notified d => some d
    | .answered .. => none

def seen (h : Host κ δ) (t : TargetId) : List Completion :=
  (h.deliveries.filter fun d => d.target = t ∧ d.notifier = .forward).map (·.completion)

def answers (h : Host κ δ) (t : TargetId) : List Answer :=
  h.journal.filterMap fun
    | .notified _ => none
    | .answered target answer => if target = t then some answer else none

def channel? (h : Host κ δ) (t : TargetId) : Option (Channel Message) :=
  match h.targets[t]? with
  | some (.channel c) => some c
  | _ => none

def setChannel (h : Host κ δ) (t : TargetId) (c : Channel Message) : Host κ δ :=
  { h with targets := h.targets.set t (.channel c) }

def dropTarget (h : Host κ δ) (t : TargetId) : Host κ δ :=
  match h.channel? t with
  | some c => h.setChannel t c.dropSender
  | none => h

def dropReceiver (h : Host κ δ) (t : TargetId) : Host κ δ :=
  match h.channel? t with
  | some c => h.setChannel t c.dropReceiver
  | none => h

section Controlled

variable [Controller κ δ]

def inFlight (h : Host κ δ) : List Transfer := Controller.held h.controller ++ h.batch

def parked (h : Host κ δ) : List Transfer := h.streams.filterMap (·.slot)

def targetRefs (h : Host κ δ) (t : TargetId) : Nat :=
  (h.inFlight ++ h.parked).countP (·.notifies t)

/-- Unread messages. They last as long as an end of their channel, which transfers may hold. -/
def messages (h : Host κ δ) (t : TargetId) : List Message :=
  match h.channel? t with
  | some c =>
    if c.senders = 0 ∧ c.receivers = 0 ∧ h.targetRefs t = 0 then [] else c.queue ++ c.waiting
  | none => []

def bufferRefs (h : Host κ δ) (b : BufferId) : Nat :=
  total ((h.inFlight ++ h.parked).map (·.boundTo b)) +
    total ((List.range h.targets.length).map fun t => (h.messages t).countP (·.refersTo b))

def connectionRefs (h : Host κ δ) (id : ConnectionId) : Nat :=
  h.devices.values.count id + (h.inFlight ++ h.parked).countP (·.connection = some id)

/-- Lets go of the device once nothing refers to its connection. -/
def reap (h : Host κ δ) (id : ConnectionId) : Host κ δ :=
  match h.connections[id]? with
  | none => h
  | some c =>
    if h.connectionRefs id = 0 then
      { h with controller := Controller.abandon h.controller c.device }
    else h

def reap? (h : Host κ δ) : Option ConnectionId → Host κ δ
  | none => h
  | some id => h.reap id

/-- The token is dead afterwards; transfers in flight keep the connection. -/
def close (h : Host κ δ) (t : Token) : Host κ δ × Except HostError Unit :=
  match h.lookup t with
  | .error e => (h, .error e)
  | .ok (id, c) =>
    (reap { h with devices := (h.devices.remove t).1
                   controller := Controller.close h.controller c.device } id, .ok ())

def operate (h : Host κ δ) (t : Token) (op : DeviceOp) : Host κ δ × Except HostError Unit :=
  match h.lookup t with
  | .error e => (h, .error e)
  | .ok (_, c) =>
    let (controller, result) := Controller.operate h.controller c.device op
    ({ h with controller }, result.mapError .usb)

def maxPacket (h : Host κ δ) (t : Token) (e : Endpoint) : Host κ δ × Except HostError Nat :=
  match h.lookup t with
  | .error e => (h, .error e)
  | .ok (_, c) =>
    let (controller, result) := Controller.maxPacket h.controller c.device e
    ({ h with controller }, result.mapError .usb)

def shutDown (h : Host κ δ) : Host κ δ :=
  let h := h.devices.tokens.foldl (fun h t => (h.close t).1) h
  { h with controller := Controller.shutDown h.controller, owned := false }

end Controlled

end Host

end UsbTransfer
