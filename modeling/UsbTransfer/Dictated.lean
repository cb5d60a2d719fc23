import UsbTransfer.Controller

namespace UsbTransfer

inductive DictatedCall where
  | control
  | bulk
  | interrupt
  | submit
  | poll
  | maxPacket
  | reset
  | clearHalt
  | claim
  | release
  | setInterface
  | setConfiguration
  | close
  deriving DecidableEq, Repr

namespace DictatedCall

def all : List DictatedCall :=
  [control, bulk, interrupt, submit, poll, maxPacket, reset, clearHalt, claim, release,
    setInterface, setConfiguration, close]

def name : DictatedCall → String
  | control => "control"
  | bulk => "bulk"
  | interrupt => "interrupt"
  | submit => "submit"
  | poll => "handle_events"
  | maxPacket => "max_iso"
  | reset => "reset"
  | clearHalt => "clear_halt"
  | claim => "claim"
  | release => "release_interface"
  | setInterface => "set_interface"
  | setConfiguration => "set_configuration"
  | close => "close"

def ofName? (s : String) : Option DictatedCall := all.find? (·.name == s)

end DictatedCall

structure DictatedAnswer where
  error : Option UsbError := none
  data : Bytes := []
  count : Option Nat := none
  crash : Bool := false
  deriving DecidableEq, Repr

inductive DictatedEntry where
  | exchanged (device : UInt32) (route : Route) (timeout : UInt32) (region : Bytes)
  | submitted (device : UInt32) (transfer : Transfer) (bytes : Bytes)
  | refused (error : UsbError) (id : TransferId)
  | asked (device : UInt32) (endpoint : Endpoint)
  | operated (device : UInt32) (op : DeviceOp)
  | closed (device : UInt32)
  deriving DecidableEq, Repr

/-- A controller that decides nothing: every answer is given to it beforehand. -/
structure Dictated where
  log : List DictatedEntry := []
  pending : List Transfer := []
  done : List Transfer := []
  answers : List (DictatedCall × DictatedAnswer) := []
  deriving Repr

namespace Dictated

def addAnswer (d : Dictated) (c : DictatedCall) (a : DictatedAnswer) : Dictated :=
  { d with answers := d.answers ++ [(c, a)] }

/-- The oldest answer to a call; one that nobody gave is empty. -/
def take (d : Dictated) (c : DictatedCall) : Dictated × DictatedAnswer :=
  ({ d with answers := d.answers.eraseP (·.1 = c) },
    ((d.answers.find? (·.1 = c)).map (·.2)).getD {})

def write (d : Dictated) (e : DictatedEntry) : Dictated := { d with log := d.log ++ [e] }

def callOf : DeviceOp → DictatedCall
  | .reset => .reset
  | .clearHalt _ => .clearHalt
  | .claim .. => .claim
  | .release _ => .release
  | .setInterface .. => .setInterface
  | .setConfiguration _ => .setConfiguration

def exchange (d : Dictated) (device : UInt32) (route : Route) (region : Bytes) (timeout : UInt32) :
    Dictated × Bytes × Outcome :=
  let (d, a) := (d.write (.exchanged device route timeout region)).take <| match route with
    | .control _ => .control
    | .bulk _ => .bulk
    | .interrupt _ => .interrupt
  (d, region.patch 0 a.data, a.error.elim (.ok (a.count.getD region.length)) .error)

def submit (d : Dictated) (device : UInt32) (x : Transfer) (m : Buffers) :
    Dictated × Buffers × Option (UsbError × Transfer) :=
  let (d, a) := (d.write (.submitted device x (x.bytes m))).take .submit
  match a.error with
  | some e => (d.write (.refused e x.id), m, some (e, x))
  | none => ({ d with pending := d.pending ++ [x] }, m, none)

def poll (d : Dictated) : Dictated × Poll :=
  let (d, a) := d.take .poll
  match a.error, a.crash with
  | some e, _ => (d, .failed e)
  | none, true => (d, .crashed)
  | none, false => ({ d with done := [] }, .finished d.done)

def maxPacket (d : Dictated) (device : UInt32) (e : Endpoint) : Dictated × Outcome :=
  let (d, a) := (d.write (.asked device e)).take .maxPacket
  (d, a.error.elim (.ok (a.count.getD 0)) .error)

def operate (d : Dictated) (device : UInt32) (op : DeviceOp) : Dictated × Except UsbError Unit :=
  let (d, a) := (d.write (.operated device op)).take (callOf op)
  (d, a.error.elim (.ok ()) .error)

def finish (d : Dictated) (m : Buffers) (index : Nat) (status : Option TransferStatus)
    (actual : Nat) (start : Nat) (data : Bytes) (packets : List (UInt32 × TransferStatus)) :
    Option (Dictated × Buffers × Transfer) := do
  let x ← d.pending[index]?
  let (x, m) := x.rewrite m (·.patch start data)
  let x := x.mapPackets (IsoPacket.report packets)
  let x := status.elim x (x.record · actual)
  return ({ d with pending := d.pending.eraseIdx index, done := d.done ++ [x] }, m, x)

instance : Controller Dictated UInt32 where
  exchange d device route region timeout := some (d.exchange device route region timeout)
  submit d device x m := d.submit device x m
  poll d m _ := (d.poll.1, m, d.poll.2)
  ready d := !d.done.isEmpty || d.answers.any (·.1 = .poll)
  maxPacket d device e := d.maxPacket device e
  operate d device op := d.operate device op
  close d device := ((d.write (.closed device)).take .close).1
  abandon d _ := d
  shutDown d := { d with pending := [], done := [] }
  held d := d.pending ++ d.done

end Dictated

end UsbTransfer
