import UsbTransfer.Controller

namespace UsbTransfer

/-- A length or a count as the native library takes it, a signed integer of 32 bits. -/
def nativeInt (n : Nat) : Int := Int.bmod n UInt32.size

/-- The calls of the native library. `complete` ends a transfer by itself. -/
inductive NativeCall where
  | init
  | exit
  | open_
  | close
  | resetDevice
  | clearHalt
  | setConfiguration
  | claimInterface
  | releaseInterface
  | detachKernelDriver
  | attachKernelDriver
  | setInterfaceAltSetting
  | getMaxIsoPacketSize
  | controlTransfer
  | bulkTransfer
  | interruptTransfer
  | allocTransfer
  | submitTransfer
  | handleEvents
  | complete
  deriving DecidableEq, Repr

namespace NativeCall

def all : List NativeCall :=
  [init, exit, open_, close, resetDevice, clearHalt, setConfiguration, claimInterface,
    releaseInterface, detachKernelDriver, attachKernelDriver, setInterfaceAltSetting,
    getMaxIsoPacketSize, controlTransfer, bulkTransfer, interruptTransfer, allocTransfer,
    submitTransfer, handleEvents, complete]

def name : NativeCall → String
  | init => "init"
  | exit => "exit"
  | open_ => "open"
  | close => "close"
  | resetDevice => "reset_device"
  | clearHalt => "clear_halt"
  | setConfiguration => "set_configuration"
  | claimInterface => "claim_interface"
  | releaseInterface => "release_interface"
  | detachKernelDriver => "detach_kernel_driver"
  | attachKernelDriver => "attach_kernel_driver"
  | setInterfaceAltSetting => "set_interface_alt_setting"
  | getMaxIsoPacketSize => "get_max_iso_packet_size"
  | controlTransfer => "control_transfer"
  | bulkTransfer => "bulk_transfer"
  | interruptTransfer => "interrupt_transfer"
  | allocTransfer => "alloc_transfer"
  | submitTransfer => "submit_transfer"
  | handleEvents => "handle_events"
  | complete => "complete"

def ofName? (s : String) : Option NativeCall := all.find? (·.name == s)

end NativeCall

/-- The end of a native transfer; what is left out is what a full success gives. -/
structure NativeReport where
  status : Int32 := 0
  actual : Option Int := none
  start : Option Nat := none
  data : Bytes := []
  packets : Option (List (UInt32 × Int32)) := none
  orphan : Bool := false
  deriving DecidableEq, Repr

structure NativeAnswer where
  code : Option Int := none
  data : Bytes := []
  moved : Option Nat := none
  report : NativeReport := {}
  deriving DecidableEq, Repr

structure NativePacket where
  length : UInt32
  actual : UInt32 := 0
  status : Int32 := 0
  deriving DecidableEq, Repr

/-- A submitted native transfer. `raw` tells the allocations apart, and `owner` is the descriptor
behind its user data. -/
structure NativeTransfer where
  raw : Nat
  handle : Nat
  kind : TransferKind
  endpoint : Endpoint
  timeout : UInt32
  length : Int
  packets : List NativePacket
  status : Int32 := 0
  actual : Int := 0
  owner : Transfer
  orphan : Bool := false
  deriving DecidableEq, Repr

/-- A native call and its arguments. Data are shown where they go to the device. -/
inductive NativeEntry where
  | init
  | exit
  | opened (vendor product : UInt16) (handle : Nat)
  | closed (handle : Nat)
  | reset (handle : Nat)
  | clearHalt (handle : Nat) (endpoint : Endpoint)
  | setConfiguration (handle : Nat) (configuration : UInt8)
  | claim (handle : Nat) (interface : UInt8)
  | release (handle : Nat) (interface : UInt8)
  | detach (handle : Nat) (interface : UInt8)
  | attach (handle : Nat) (interface : UInt8)
  | setAlternate (handle : Nat) (interface alternate : UInt8)
  | maxPacket (handle : Nat) (endpoint : Endpoint)
  | exchanged (handle : Nat) (route : Route) (timeout : UInt32) (region : Bytes)
  | allocationFailed (packets : Int)
  | submitted (transfer : NativeTransfer) (bytes : Bytes)
  | events (micros : Option Nat)
  deriving DecidableEq, Repr

/-- Stands in for the native library: it writes down each call and answers as it was told. -/
structure Bus where
  plugged : List (UInt16 × UInt16) := []
  answers : List (NativeCall × NativeAnswer) := []
  /-- Looking for events first ends every pending transfer. -/
  auto : Bool := false
  log : List NativeEntry := []
  handles : Nat := 0
  pending : List NativeTransfer := []
  done : List NativeTransfer := []
  /-- Ended without user data; nobody frees them. -/
  lost : List NativeTransfer := []
  allocated : Nat := 0
  released : List Nat := []
  deriving Repr

namespace Bus

def addAnswer (b : Bus) (c : NativeCall) (a : NativeAnswer) : Bus :=
  { b with answers := b.answers ++ [(c, a)] }

def answer? (b : Bus) (c : NativeCall) : Option NativeAnswer :=
  (b.answers.find? (·.1 = c)).map (·.2)

def take (b : Bus) (c : NativeCall) : Bus × NativeAnswer :=
  ({ b with answers := b.answers.eraseP (·.1 = c) }, (b.answer? c).getD {})

def write (b : Bus) (e : NativeEntry) : Bus := { b with log := b.log ++ [e] }

def call (b : Bus) (c : NativeCall) (e : NativeEntry) : Bus × NativeAnswer := (b.write e).take c

def code (b : Bus) (c : NativeCall) (e : NativeEntry) : Bus × Int :=
  let (b, a) := b.call c e
  (b, a.code.getD 0)

def status (b : Bus) (c : NativeCall) (e : NativeEntry) : Bus × Except UsbError Unit :=
  let (b, code) := b.code c e
  (b, if code = 0 then .ok () else .error (.ofCode code))

def open? (b : Bus) (vendor product : UInt16) : Option (Bus × Nat) :=
  if (vendor, product) ∈ b.plugged then
    let handle := b.handles + 1
    some (({ b with handles := handle }.call .open_ (.opened vendor product handle)).1, handle)
  else none

def plug (b : Bus) (vendor product : UInt16) : Bus :=
  { b with plugged := b.plugged ++ [(vendor, product)] }

def unplug (b : Bus) (vendor product : UInt16) : Bus :=
  { b with plugged := b.plugged.filter (· ≠ (vendor, product)) }

/-- A blocking transfer. Control transfers answer with a count or a negative code; the others report
what moved, and an interruption or, for bulk transfers, a timeout still counts if anything moved. -/
def exchange (b : Bus) (handle : Nat) (route : Route) (region : Bytes) (timeout : UInt32) :
    Bus × Bytes × Outcome :=
  let (b, a) := b.call (match route with
    | .control _ => .controlTransfer
    | .bulk _ => .bulkTransfer
    | .interrupt _ => .interruptTransfer) (.exchanged handle route timeout region)
  let result := match route with
    | .control _ => Outcome.ofCode (a.code.getD region.length)
    | .bulk _ | .interrupt _ =>
      let code := a.code.getD 0
      let moved := a.moved.getD (if code = 0 then region.length else 0)
      let partly := UsbError.ofCode code = .interrupted ∨
        (route.kind = .bulk ∧ UsbError.ofCode code = .timeout)
      if code = 0 ∨ (partly ∧ 0 < moved) then .ok moved else .error (.ofCode code)
  (b, region.patch 0 a.data, result)

def outstanding (b : Bus) : List NativeTransfer := b.pending ++ b.done ++ b.lost

def freed (b : Bus) : Nat := b.released.length

/-- Fails only when an answer is waiting. -/
def allocate (b : Bus) (packets : Int) : Bus × Option Nat :=
  match b.answer? .allocTransfer with
  | some _ => ((b.call .allocTransfer (.allocationFailed packets)).1, none)
  | none => ({ b with allocated := b.allocated + 1 }, some b.allocated)

def free (b : Bus) (raw : Nat) : Bus := { b with released := b.released ++ [raw] }

def submit (b : Bus) (x : NativeTransfer) (m : Buffers) : Bus × Int :=
  let (b, code) := b.code .submitTransfer
    (.submitted x (x.owner.leading m x.length.toNat))
  (if 0 ≤ code then { b with pending := b.pending ++ [x] } else b, code)

end Bus

namespace NativeTransfer

/-- Packets that were not reported are empty; without a report every packet is full. -/
def reportPackets (packets : List NativePacket) : Option (List (UInt32 × Int32)) → List NativePacket
  | none => packets.map fun p => { p with actual := p.length, status := 0 }
  | some reports => packets.zipIdx.map fun (p, i) =>
      match reports[i]? with
      | some (actual, status) => { p with actual, status }
      | none => p

def dataStart (x : NativeTransfer) : Nat := if x.kind = .control then SetupPacket.size else 0

/-- Data are written within the length of the transfer, and the count is an integer of 32 bits. -/
def finish (x : NativeTransfer) (m : Buffers) (r : NativeReport) : NativeTransfer × Buffers :=
  let start := r.start.getD x.dataStart
  let (owner, m) := x.owner.rewrite m (·.patch start (r.data.take (x.length.toNat - start)))
  ({ x with
      owner, status := r.status
      actual := Int.bmod (r.actual.getD (x.length - x.dataStart)) UInt32.size
      packets := reportPackets x.packets r.packets, orphan := r.orphan }, m)

/-- The descriptor, with the native report on it. A negative count is none. -/
def completed (x : NativeTransfer) : Transfer :=
  (x.owner.mapPackets
    (IsoPacket.report (x.packets.map fun p => (p.actual, .ofRaw p.status)))).record
    (.ofRaw x.status) x.actual.toNat

end NativeTransfer

namespace Bus

def finish (b : Bus) (m : Buffers) (index : Nat) (r : NativeReport) : Option (Bus × Buffers) := do
  let x ← b.pending[index]?
  let (x, m) := x.finish m r
  return ({ b with pending := b.pending.eraseIdx index, done := b.done ++ [x] }, m)

def finishAll (b : Bus) (m : Buffers) : List NativeTransfer → Bus × Buffers
  | [] => (b, m)
  | x :: rest =>
    let (b, a) := b.take .complete
    let (x, m) := x.finish m a.report
    finishAll { b with pending := rest, done := b.done ++ [x] } m rest

/-- The callback of a submitted transfer: its descriptor, if there is one, and the transfer is
freed. -/
def complete (b : Bus) : Option NativeTransfer → Bus × Option Transfer
  | none => (b, none)
  | some x => if x.orphan then (b, none) else (b.free x.raw, some x.completed)

def drain (b : Bus) : List NativeTransfer → Bus × List Transfer
  | [] => (b, [])
  | x :: rest =>
    match Bus.complete { b with done := rest } (some x) with
    | (b, none) => drain { b with lost := b.lost ++ [x] } rest
    | (b, some y) =>
      let (b, ys) := drain b rest
      (b, y :: ys)

def collect (b : Bus) : Bus × List Transfer := b.drain b.done

end Bus

end UsbTransfer
