import UsbTransfer.Host.Basic

namespace UsbTransfer

structure Call where
  connection : ConnectionId
  request : Request
  deriving DecidableEq, Repr

namespace Host

variable {κ δ : Type}

/-- The token comes first, then the region. -/
def call (h : Host κ δ) (t : Token) (r : Request) : Except HostError Call :=
  match h.lookup t with
  | .error e => .error e
  | .ok (id, _) =>
    if r.region.Fits r.buffer.length then .ok ⟨id, r⟩ else .error (.usb .invalidParam)

variable [Controller κ δ]

/-- The caller's buffer afterwards and the result, or `none` while the device lets the call wait. -/
def run (h : Host κ δ) (c : Call) : Option (Host κ δ × Bytes × Except HostError Nat) :=
  match h.connections[c.connection]? with
  | none => some (h, c.request.buffer, .error .invalidHandle)
  | some x =>
    (Controller.exchange h.controller x.device c.request.route c.request.payload
      c.request.timeout).map fun (controller, region, result) =>
        ({ h with controller }, c.request.buffer.patch c.request.offset region,
          result.mapError .usb)

def exchange (h : Host κ δ) (t : Token) (r : Request) :
    Option (Host κ δ × Bytes × Except HostError Nat) :=
  match h.call t r with
  | .error e => some (h, r.buffer, .error e)
  | .ok c => h.run c

end Host

end UsbTransfer
