import UsbTransfer.Session
import UsbTransfer.Simulated

namespace UsbTransfer

abbrev SimulatedHost := Host Simulated UInt32

inductive Upkeep where
  | resolve (registry : Registry)
  | adopt (device : UInt32)
  | close (token : Token)
  | beginDrain (token : Token)
  | endDrain (connection : ConnectionId)
  | operate (token : Token) (op : DeviceOp)
  | refuseNext (error : UsbError)
  | setPacketSize (device : UInt32) (endpoint : Endpoint) (size : Nat)
  | hold (device : UInt32) (endpoint : Endpoint)
  | release (device : UInt32) (endpoint : Endpoint)
  | disconnect
  | addBuffer (storage : Storage)
  | write (buffer : BufferId) (start : Nat) (data : Bytes)
  | setValid (buffer : BufferId) (n : Nat)
  | addTarget (target : Target)
  | receive (target : TargetId)
  | dropTarget (target : TargetId)
  | dropReceiver (target : TargetId)
  | answer (target : TargetId) (answer : Answer)
  | leave

namespace Host

variable (h : SimulatedHost)

def withController (f : Simulated → Simulated) : SimulatedHost :=
  { h with controller := f h.controller }

def perform : Upkeep → SimulatedHost
  | .resolve r => (h.resolve r).1
  | .adopt d => (h.adopt d).1
  | .close t => (h.close t).1
  | .beginDrain t => (h.beginDrain t).1
  | .endDrain id => h.endDrain id
  | .operate t op => (h.operate t op).1
  | .refuseNext e => h.withController (·.refuseNext e)
  | .setPacketSize d e n => h.withController (·.setPacketSize d e n)
  | .hold d e => h.withController (·.hold d e)
  | .release d e => h.withController (·.release d e)
  | .disconnect => h.withController (·.disconnect)
  | .addBuffer s => (h.addBuffer s).1
  | .write b start data => { h with buffers := h.buffers.rewrite b (·.patch start data) }
  | .setValid b n => { h with buffers := h.buffers.setValid b n }
  | .addTarget t => (h.addTarget t).1
  | .receive t =>
    match (h.channel? t).bind Channel.receive? with
    | none => h
    | some (c, _) => h.setChannel t c
  | .dropTarget t => h.dropTarget t
  | .dropReceiver t => h.dropReceiver t
  | .answer t a => h.log (.answered t a)
  | .leave => { h with owned := false }

def answerKey? : Order → Option (UInt32 × Endpoint)
  | .transfer t r =>
    match h.lookup t with
    | .error _ => none
    | .ok (_, c) => some (c.device, r.route.answerKey)
  | .stream id _ _ =>
    match h.streams[id]? with
    | none => none
    | some s =>
      match h.lookup s.token with
      | .error _ => none
      | .ok (_, c) => some (c.device, s.endpoint)

section Delivering

variable {κ δ : Type} [Controller κ δ] (h : Host κ δ)

/-- The descriptor is back in its slot and the target has heard of it, but has not reacted. -/
def deliver (x : Transfer) (p : Pending) (result : Outcome) (data : Option Bytes) : Host κ δ :=
  ((h.mark p.buffer result).retire x p.park).announce x.id p x.kind data result

def deliveryOf (x : Transfer) (p : Pending) (result : Outcome) (data : Option Bytes) :
    Delivery where
  transfer := x.id
  target := p.target
  notifier := p.contracts.notifier x.kind
  completion := (h.mark p.buffer result).completion x.kind data p.buffer result

end Delivering

end Host

inductive Note where
  | upkeep (step : Upkeep)
  | allocated (token : Token) (endpoint : Endpoint) (packets : Nat) (given : Option Nat)
  | scripted (key : UInt32 × Endpoint) (response : Response)
  | exchanged (call : Call) (key : UInt32 × Endpoint)
  | placed (id : TransferId) (target : TargetId) (order : Order) (key : Option (UInt32 × Endpoint))
    (answer : Answer)
  | polled
  | notified (delivery : Delivery)

/-- One step of a live host. Any number of steps may stand between two deliveries of a batch: they
are what the callbacks do, and what other threads do meanwhile. -/
inductive Move : SimulatedHost → Note → SimulatedHost → Prop
  | upkeep (h : SimulatedHost) (u : Upkeep) : Move h (.upkeep u) (h.perform u)
  | allocate (h : SimulatedHost) (t : Token) (e : Endpoint) (packets : Nat) (given : Option Nat) :
      Move h (.allocated t e packets given) (h.allocate t e packets given).1
  | script (h : SimulatedHost) (device : UInt32) (e : Endpoint) (r : Response) :
      Move h (.scripted (device, e) r) (h.withController (·.addResponse device e r))
  | exchange {h h' : SimulatedHost} {call : Call} {c : Connection UInt32} {buffer : Bytes}
      {result : Except HostError Nat} (hc : h.connections[call.connection]? = some c)
      (hd : h.controller.disconnected = false) (hr : h.run call = some (h', buffer, result)) :
      Move h (.exchanged call (c.device, call.request.route.answerKey)) h'
  | place (h : SimulatedHost) (target : TargetId) (o : Order) :
      Move h (.placed h.nextTransfer target o (h.answerKey? o) (h.place target o).2)
        (h.place target o).1
  -- a pass begins when the one before it has ended
  | poll {h : SimulatedHost} (hb : h.batch = []) :
      Move h .polled { h with controller := h.controller.poll.1, batch := h.controller.queue }
  | deliver {h : SimulatedHost} {x : Transfer} {rest : List Transfer} {p : Pending}
      {result : Outcome} {data : Option Bytes} (hb : h.batch = x :: rest) (hp : x.pending = some p)
      (hs : h.settle x = some (result, data)) :
      Move h (.notified (h.deliveryOf x p result data))
        (Host.deliver { h with batch := rest } x p result data)

inductive Run : SimulatedHost → List Note → SimulatedHost → Prop
  | refl (h : SimulatedHost) : Run h [] h
  | snoc {h₁ h₂ h₃ : SimulatedHost} {history : List Note} {n : Note} :
      Run h₁ history h₂ → Move h₂ n h₃ → Run h₁ (history ++ [n]) h₃

def Host.fresh : SimulatedHost := { controller := {} }

namespace Run

variable {h₁ h₂ h₃ : SimulatedHost} {history later : List Note} {n : Note}

theorem single (hm : Move h₁ n h₂) : Run h₁ [n] h₂ := (Run.refl h₁).snoc hm

theorem trans (h : Run h₁ history h₂) (h' : Run h₂ later h₃) : Run h₁ (history ++ later) h₃ := by
  induction h' with
  | refl => simpa using h
  | snoc _ hm ih =>
    rw [← List.append_assoc]
    exact ih.snoc hm

theorem cons (hm : Move h₁ n h₂) (h : Run h₂ history h₃) : Run h₁ (n :: history) h₃ :=
  (single hm).trans h

end Run

end UsbTransfer
