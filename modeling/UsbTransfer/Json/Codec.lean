import UsbTransfer.Arena
import UsbTransfer.Json.Basic
import UsbTransfer.Transfer

namespace UsbTransfer.Json

/-- The values of exactly these fields: from an object in any order, with others beside them but
none of them twice, or from an array in this order. -/
def record? (names : List String) : Json → Option (List Json)
  | arr items => if items.length = names.length then some items else none
  | obj fields => names.mapM fun k =>
      match fields.filter (·.1 = k) with
      | [(_, v)] => some v
      | _ => none
  | _ => none

def below? (bound : Nat) : Json → Option Nat
  | int (.ofNat n) => if n < bound then some n else none
  | _ => none

def signed? : Json → Option Int32
  | int n => if (Int32.ofInt n).toInt = n then some (.ofInt n) else none
  | _ => none

/-- A name alone, or as the only key of an object over null. -/
def name? : Json → Option String
  | str s => some s
  | obj [(s, null)] => some s
  | _ => none

def oneOf? {α : Type} (all : List α) (name : α → String) (v : Json) : Option α := do
  let s ← v.name?
  all.find? fun a => name a = s

def ofDirection (d : Direction) : Json :=
  match d with
  | .deviceToHost => "In"
  | .hostToDevice => "Out"

def direction? (v : Json) : Option Direction :=
  match v.name? with
  | some "In" => some .deviceToHost
  | some "Out" => some .hostToDevice
  | _ => none

def kindName : TransferKind → String
  | .control => "Control"
  | .bulk => "Bulk"
  | .interrupt => "Interrupt"
  | .isochronous => "Isochronous"

def kind? (v : Json) : Option TransferKind := oneOf? TransferKind.all kindName v

def ofEndpoint (e : Endpoint) : Json := nat e.address.toNat

def endpoint? (v : Json) : Option Endpoint := (v.below? UInt8.size).map fun n => ⟨.ofNat n⟩

def usbError? (v : Json) : Option UsbError := oneOf? UsbError.all UsbError.name v

def plainStatuses : List TransferStatus :=
  [.completed, .error, .timedOut, .cancelled, .stall, .noDevice, .overflow]

def ofStatus : TransferStatus → Json
  | .unrecognized raw => obj [("Unrecognized", int raw.toInt)]
  | s => str s.name

def status? : Json → Option TransferStatus
  | obj [("Unrecognized", v)] => (v.signed?).map .unrecognized
  | v => oneOf? plainStatuses TransferStatus.name v

def ofSetup (s : SetupPacket) : Json :=
  obj [("request_type", nat s.requestType.toNat), ("request", nat s.request.toNat),
    ("value", nat s.value.toNat), ("index", nat s.index.toNat), ("length", nat s.length.toNat)]

def setup? (v : Json) : Option SetupPacket := do
  match ← v.record? ["request_type", "request", "value", "index", "length"] with
  | [t, r, v, i, l] =>
    return ⟨.ofNat (← t.below? UInt8.size), .ofNat (← r.below? UInt8.size),
      .ofNat (← v.below? UInt16.size), .ofNat (← i.below? UInt16.size),
      .ofNat (← l.below? UInt16.size)⟩
  | _ => none

def ofPacket (p : IsoPacket) : Json :=
  obj [("length", nat p.length.toNat), ("actual_length", nat p.actual.toNat),
    ("status", ofStatus p.status)]

def packet? (v : Json) : Option IsoPacket := do
  match ← v.record? ["length", "actual_length", "status"] with
  | [l, a, s] =>
    return ⟨.ofNat (← l.below? UInt32.size), .ofNat (← a.below? UInt32.size), ← s.status?⟩
  | _ => none

def ofToken (t : Token) : Json :=
  obj [("index", nat t.index.toNat), ("generation", nat t.generation.toNat)]

def token? (v : Json) : Option Token := do
  match ← v.record? ["index", "generation"] with
  | [i, g] => return ⟨.ofNat (← i.below? UInt32.size), .ofNat (← g.below? UInt32.size)⟩
  | _ => none

def transferId? (v : Json) : Option TransferId := v.below? wordSize

end UsbTransfer.Json
