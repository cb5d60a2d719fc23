import UsbTransfer.Wire.Setup
import UsbTransfer.Wire.Status
import UsbTransfer.Storage
import UsbTransfer.Contract

namespace UsbTransfer

/-- Transfers are numbered in the order in which they are drawn. -/
abbrev TransferId := Nat
abbrev TargetId := Nat
abbrev BufferId := Nat
abbrev StreamId := Nat
abbrev ConnectionId := Nat

/-- What is shown of a number. Words come again after `wordSize` transfers. -/
def TransferId.word (id : TransferId) : UInt64 := .ofNat id

theorem TransferId.toNat_word {id : TransferId} (hi : id < wordSize) : id.word.toNat = id :=
  UInt64.toNat_ofNat_of_lt' hi

def transferLabel (id : TransferId) : String := "xfer#" ++ toString id.word.toNat

abbrev Buffers := List Storage

namespace Buffers

def bytes (m : Buffers) (b : BufferId) : Bytes := (m[b]?.map (·.bytes)).getD []

def capacity (m : Buffers) (b : BufferId) : Nat := (m.bytes b).length

def rewrite (m : Buffers) (b : BufferId) (f : Bytes → Bytes) : Buffers :=
  m.modify b fun s => { s with bytes := f s.bytes }

def setValid (m : Buffers) (b : BufferId) (n : Nat) : Buffers := m.modify b (·.setValid n)

end Buffers

inductive Route where
  | control (setup : SetupPacket)
  | bulk (endpoint : Endpoint)
  | interrupt (endpoint : Endpoint)
  deriving DecidableEq, Repr

namespace Route

def kind : Route → TransferKind
  | control _ => .control
  | bulk _ => .bulk
  | interrupt _ => .interrupt

def endpoint : Route → Endpoint
  | control _ => .control
  | bulk e | interrupt e => e

/-- The request type decides for control transfers and the endpoint for all others. -/
def direction : Route → Direction
  | control s => s.direction
  | bulk e | interrupt e => e.direction

def answerKey : Route → Endpoint
  | control s => if s.direction = .deviceToHost then .controlIn else .control
  | bulk e | interrupt e => e

end Route

structure Request where
  route : Route
  buffer : Bytes
  offset : Nat
  length : Nat
  timeout : UInt32
  deriving DecidableEq, Repr

namespace Request

def dataLength (r : Request) : Nat :=
  match r.route with
  | .control s => s.length.toNat
  | .bulk _ | .interrupt _ => r.length

def region (r : Request) : Region := ⟨r.offset, r.dataLength⟩

def payload (r : Request) : Bytes := r.region.of r.buffer

end Request

inductive Shape where
  | control (setup : SetupPacket)
  | bulk
  | interrupt
  | isochronous (packets : List IsoPacket)
  deriving DecidableEq, Repr

namespace Shape

def kind : Shape → TransferKind
  | control _ => .control
  | bulk => .bulk
  | interrupt => .interrupt
  | isochronous _ => .isochronous

def packets : Shape → List IsoPacket
  | isochronous ps => ps
  | _ => []

def mapPackets (f : List IsoPacket → List IsoPacket) : Shape → Shape
  | isochronous ps => isochronous (f ps)
  | s => s

end Shape

inductive Memory where
  | owned (bytes : Bytes)
  /-- So many zeros, which nobody has written over. -/
  | blank (size : Nat)
  | lent (buffer : BufferId)
  | unbound
  deriving DecidableEq, Repr

/-- Whom to notify of a transfer, under which contracts, and where its descriptor goes then. -/
structure Pending where
  target : TargetId
  contracts : Contracts
  buffer : Option BufferId := none
  park : Option StreamId := none
  deriving DecidableEq, Repr

structure Transfer where
  id : TransferId
  shape : Shape
  endpoint : Endpoint
  memory : Memory
  length : Nat
  timeout : UInt32
  status : Option TransferStatus := none
  actual : Nat := 0
  reusable : Bool := false
  pending : Option Pending := none
  connection : Option ConnectionId := none
  deriving DecidableEq, Repr

namespace Transfer

/-- The setup stage and room for the data stage, filled from `out` towards the device. -/
def ofControl (id : TransferId) (setup : SetupPacket) (out : Bytes) (timeout : UInt32) : Transfer :=
  let room := Bytes.zeros setup.length.toNat
  let data := if setup.direction = .hostToDevice then room.patch 0 out else room
  { id, shape := .control setup, endpoint := .control, memory := .owned (setup.toBytes ++ data),
    length := SetupPacket.size + setup.length.toNat, timeout }

def ofStream (id : TransferId) (shape : Shape) (endpoint : Endpoint) (length : Nat) (out : Bytes)
    (timeout : UInt32) : Transfer :=
  let memory :=
    if endpoint.direction = .hostToDevice then .owned ((Bytes.zeros length).patch 0 out)
    else .blank length
  { id, shape, endpoint, memory, length, timeout }

def ofRoute (id : TransferId) (route : Route) (length : Nat) (out : Bytes) (timeout : UInt32) :
    Transfer :=
  match route with
  | .control s => ofControl id s out timeout
  | .bulk e => ofStream id .bulk e length out timeout
  | .interrupt e => ofStream id .interrupt e length out timeout

/-- `packets` equal packets. Their lengths are words of 32 bits and the total one of 64. -/
def ofPackets (id : TransferId) (endpoint : Endpoint) (packets packetLength : Nat) : Transfer :=
  { id, endpoint, shape := .isochronous (List.replicate packets { length := .ofNat packetLength }),
    memory := .unbound, length := packets * packetLength % wordSize, timeout := 0,
    reusable := true }

def kind (t : Transfer) : TransferKind := t.shape.kind

def direction (t : Transfer) : Direction :=
  match t.shape with
  | .control s => s.direction
  | _ => t.endpoint.direction

def packets (t : Transfer) : List IsoPacket := t.shape.packets

def packetLength (t : Transfer) : Nat := (t.packets.head?.map (·.length.toNat)).getD 0

def header (t : Transfer) : Nat :=
  match t.shape with
  | .control _ => SetupPacket.size
  | _ => 0

def bytes (t : Transfer) (m : Buffers) : Bytes :=
  match t.memory with
  | .owned b => b
  | .blank n => .zeros n
  | .lent b => m.bytes b
  | .unbound => []

def leading (t : Transfer) (m : Buffers) (n : Nat) : Bytes :=
  match t.memory with
  | .blank size => .zeros (min n size)
  | _ => (t.bytes m).take n

def rewrite (t : Transfer) (m : Buffers) (f : Bytes → Bytes) : Transfer × Buffers :=
  match t.memory with
  | .owned b => ({ t with memory := .owned (f b) }, m)
  | .blank n => ({ t with memory := .owned (f (.zeros n)) }, m)
  | .lent b => (t, m.rewrite b f)
  | .unbound => (t, m)

def mapPackets (t : Transfer) (f : List IsoPacket → List IsoPacket) : Transfer :=
  { t with shape := t.shape.mapPackets f }

def record (t : Transfer) (status : TransferStatus) (actual : Nat) : Transfer :=
  { t with status := some status, actual }

/-- The data after the header, as much as was reported and is there. The end is a word of 64 bits;
one that wraps to before the start has no data. -/
def received? (t : Transfer) (m : Buffers) (actual : Nat) : Option Bytes :=
  let bytes := t.bytes m
  let start := min t.header bytes.length
  let stop := min ((start + actual) % wordSize) bytes.length
  if start ≤ stop then some (bytes.slice start stop) else none

/-- Forgets one submission; the number, the timeout and the packet lengths stay. -/
def cleared (t : Transfer) : Transfer :=
  { t with
    memory := .unbound, status := none, actual := 0, pending := none, connection := none,
    shape := t.shape.mapPackets (·.map IsoPacket.cleared) }

def boundTo (t : Transfer) (b : BufferId) : Nat :=
  (if t.memory = .lent b then 1 else 0) + (if t.pending.bind (·.buffer) = some b then 1 else 0)

def notifies (t : Transfer) (target : TargetId) : Bool := t.pending.any (·.target = target)

@[simp] theorem cleared_cleared (t : Transfer) : t.cleared.cleared = t.cleared := by
  obtain ⟨_, shape, _⟩ := t
  cases shape <;> simp [cleared, Shape.mapPackets]

theorem id_ofRoute (id : TransferId) (route : Route) (length : Nat) (out : Bytes)
    (timeout : UInt32) : (ofRoute id route length out timeout).id = id := by
  cases route <;> rfl

theorem header_ofRoute (id : TransferId) (route : Route) (length : Nat) (out : Bytes)
    (timeout : UInt32) :
    (ofRoute id route length out timeout).header = 0 ∨
      (ofRoute id route length out timeout).length < wordSize := by
  cases route with
  | control s =>
    right
    have hs : s.length.toNat < 2 ^ 16 := s.length.toNat_lt
    have hw : wordSize = 2 ^ 64 := rfl
    simp only [ofRoute, ofControl, SetupPacket.size]
    omega
  | bulk e => exact .inl rfl
  | interrupt e => exact .inl rfl

theorem header_le_length_ofRoute (id : TransferId) (route : Route) (length : Nat) (out : Bytes)
    (timeout : UInt32) :
    (ofRoute id route length out timeout).header ≤
      (ofRoute id route length out timeout).length := by
  cases route with
  | control s => exact Nat.le_add_right _ _
  | bulk e => exact Nat.zero_le _
  | interrupt e => exact Nat.zero_le _

theorem length_bytes_ofControl (id : TransferId) (setup : SetupPacket) (out : Bytes)
    (timeout : UInt32) (m : Buffers) :
    ((ofControl id setup out timeout).bytes m).length = SetupPacket.size + setup.length.toNat := by
  simp only [ofControl, bytes]
  split <;> simp

theorem leading_eq (t : Transfer) (m : Buffers) (n : Nat) : t.leading m n = (t.bytes m).take n := by
  unfold leading bytes
  cases t.memory with
  | blank size => simp [Bytes.zeros, List.take_replicate]
  | owned | lent | unbound => rfl

end Transfer

end UsbTransfer
