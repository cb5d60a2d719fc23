import UsbTransfer.Host.Basic

namespace UsbTransfer.Host

variable {κ δ : Type}

def admission (h : Host κ δ) (t : Token) :
    Except HostError (Contracts × ConnectionId × Connection δ) :=
  match h.contracts with
  | none => .error .notInitialized
  | some contracts =>
    match h.lookup t with
    | .error e => .error e
    | .ok (id, c) => if 0 < c.draining then .error (.usb .busy) else .ok (contracts, id, c)

def draw (h : Host κ δ) : Host κ δ := { h with nextTransfer := h.nextTransfer + 1 }

def setSlot (h : Host κ δ) (s : StreamId) (slot : Option Transfer) : Host κ δ :=
  { h with streams := h.streams.modify s fun x => { x with slot } }

def park (h : Host κ δ) (s : StreamId) (x : Transfer) : Host κ δ := h.setSlot s (some x.cleared)

variable [Controller κ δ]

def handOver (h : Host κ δ) (device : δ) (x : Transfer) (slot : Option StreamId) :
    Host κ δ × Except HostError Unit :=
  match Controller.submit h.controller device x h.buffers with
  | (controller, buffers, none) => ({ h with controller, buffers }, .ok ())
  | (controller, buffers, some (e, x)) =>
    let h := { h with controller, buffers }
    (match slot with
      | some s => h.park s x
      | none => h, .error (.usb e))

/-- Towards the device the region is copied; from it the buffer is not looked at. -/
def submit (h : Host κ δ) (target : TargetId) (t : Token) (r : Request) :
    Host κ δ × Except HostError Unit :=
  match h.admission t with
  | .error e => (h, .error e)
  | .ok (contracts, id, c) =>
    if r.route.direction = .hostToDevice ∧ ¬ r.region.Fits r.buffer.length then
      (h, .error (.usb .invalidParam))
    else
      let x := Transfer.ofRoute h.nextTransfer r.route r.length r.payload r.timeout
      h.draw.handOver c.device
        { x with pending := some { target, contracts }, connection := some id } none

/-- Packets have the size that the controller reports, and the given one when it reports none. -/
def packetSize (reported : Outcome) (given : Option Nat) : Except UsbError Nat :=
  match reported, given with
  | .ok (n + 1), _ => .ok (n + 1)
  | _, some (n + 1) => .ok (n + 1)
  | .error e, _ => .error e
  | .ok 0, _ => .error .invalidParam

def allocate (h : Host κ δ) (t : Token) (endpoint : Endpoint) (packets : Nat) (given : Option Nat) :
    Host κ δ × Except HostError StreamId :=
  match h.lookup t with
  | .error e => (h, .error e)
  | .ok (_, c) =>
    if packets = 0 then (h, .error (.usb .invalidParam))
    else
      let (controller, reported) := Controller.maxPacket h.controller c.device endpoint
      let h := { h with controller }
      match packetSize reported given with
      | .error e => (h, .error (.usb e))
      | .ok packetLength =>
        let slot := some (Transfer.ofPackets h.nextTransfer endpoint packets packetLength)
        let stream : Stream := { token := t, endpoint, packets, packetLength, slot }
        ({ h.draw with streams := h.streams ++ [stream] }, .ok h.streams.length)

/-- The allocation of a build that checks its arithmetic, or the message of its panic. -/
def allocateChecked (h : Host κ δ) (t : Token) (endpoint : Endpoint) (packets : Nat)
    (given : Option Nat) : Except String (Host κ δ × Except HostError StreamId) :=
  let (h, answer) := h.allocate t endpoint packets given
  match answer.toOption.bind (h.streams[·]?) with
  | some s => (checkedMul s.packets s.packetLength).map fun _ => (h, answer)
  | none => .ok (h, answer)

/-- The buffer is bound, not copied. A descriptor that is still in flight cannot be submitted. -/
def submitStream (h : Host κ δ) (target : TargetId) (id : StreamId) (s : Stream) (buffer : BufferId)
    (timeout : UInt32) : Host κ δ × Except HostError Unit :=
  match h.admission s.token with
  | .error e => (h, .error e)
  | .ok (contracts, connection, c) =>
    if h.buffers.capacity buffer < s.capacity then (h, .error (.usb .invalidParam))
    else
      match s.slot with
      | none => (h, .error (.usb .busy))
      | some x =>
        let x := { x with id := h.nextTransfer, memory := .lent buffer, timeout }
        (h.draw.setSlot id none).handOver c.device
          { x with pending := some { target, contracts, buffer := some buffer, park := some id }
                   connection := some connection }
          (some id)

def place (h : Host κ δ) (target : TargetId) : Order → Host κ δ × Answer
  | .transfer t r => let (h, a) := h.submit target t r; (h, .ofExcept a)
  | .stream id buffer timeout =>
    match h.streams[id]? with
    | none => (h, .noStream)
    | some s => let (h, a) := h.submitStream target id s buffer timeout; (h, .ofExcept a)

end UsbTransfer.Host
