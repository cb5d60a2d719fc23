import UsbTransfer.Controller

namespace UsbTransfer

inductive Response where
  | data (payload : Bytes)
  | status (status : TransferStatus)
  | packets (actual : List UInt32)
  deriving DecidableEq, Repr

structure Submission where
  id : TransferId
  device : UInt32
  kind : TransferKind
  endpoint : Endpoint
  setup : Option Bytes
  payload : Bytes
  timeout : UInt32
  deriving DecidableEq, Repr

inductive DeviceLog where
  | performed (device : UInt32) (op : DeviceOp)
  | closed (device : UInt32)
  deriving DecidableEq, Repr

def DeviceLog.device : DeviceLog → UInt32
  | performed d _ | closed d => d

structure Simulated where
  queue : List Transfer := []
  /-- Answers not yet given, oldest first; each is for one device and endpoint. -/
  script : List ((UInt32 × Endpoint) × Response) := []
  submissions : List Submission := []
  rejected : List (TransferId × UsbError) := []
  dispatched : List TransferId := []
  refusals : List UsbError := []
  packetSizes : List ((UInt32 × Endpoint) × Nat) := []
  ops : List DeviceLog := []
  sent : List (UInt32 × Endpoint × Bytes) := []
  claims : List (UInt32 × UInt8) := []
  holding : List (UInt32 × Endpoint) := []
  disconnected : Bool := false
  polls : Nat := 0
  deriving Repr

namespace Simulated

def addResponse (s : Simulated) (device : UInt32) (key : Endpoint) (r : Response) : Simulated :=
  { s with script := s.script ++ [((device, key), r)] }

def refuseNext (s : Simulated) (e : UsbError) : Simulated :=
  { s with refusals := s.refusals ++ [e] }

def setPacketSize (s : Simulated) (device : UInt32) (e : Endpoint) (n : Nat) : Simulated :=
  { s with packetSizes := ((device, e), n) :: s.packetSizes }

def hold (s : Simulated) (device : UInt32) (e : Endpoint) : Simulated :=
  { s with holding := s.holding.insert (device, e) }

def release (s : Simulated) (device : UInt32) (e : Endpoint) : Simulated :=
  { s with holding := s.holding.filter (· ≠ (device, e)) }

def disconnect (s : Simulated) : Simulated := { s with disconnected := true }

def claimed (s : Simulated) (device : UInt32) : List UInt8 :=
  (s.claims.filter (·.1 = device)).map (·.2)

/-- The oldest answer for a device and endpoint, which nobody else gets then. -/
def take (s : Simulated) (key : UInt32 × Endpoint) : Simulated × Option Response :=
  ({ s with script := s.script.eraseP (·.1 = key) }, (s.script.find? (·.1 = key)).map (·.2))

/-- A blocking transfer on a held endpoint waits. -/
def exchange (s : Simulated) (device : UInt32) (route : Route) (region : Bytes) :
    Option (Simulated × Bytes × Outcome) :=
  let key := (device, route.answerKey)
  if key ∈ s.holding then none
  else if s.disconnected then some (s, region, .error .noDevice)
  else
    let (s, response) := s.take key
    some <| match response, route.direction with
      | some (.status st), _ => (s, region, st.outcome 0)
      | some (.data p), .deviceToHost =>
        (s, region.patch 0 p, if region.length < p.length then .error .overflow else .ok p.length)
      | _, .deviceToHost => (s, region, .error .timeout)
      | _, .hostToDevice =>
        ({ s with sent := s.sent ++ [(device, route.answerKey, region)] }, region,
          .ok region.length)

/-- Reports the scripted lengths, none longer than was asked for; packets without one are empty. -/
def report : List UInt32 → List IsoPacket → List IsoPacket
  | _, [] => []
  | [], p :: ps => p.cleared :: report [] ps
  | a :: as, p :: ps => { p with actual := min a p.length, status := .completed } :: report as ps

/-- Where the `i`-th packet of a length writes so many bytes: inside its own part and the memory.
Positions are words. -/
def packetRegion (packetLength size i actual : Nat) : Nat × Nat :=
  let start := i * packetLength % wordSize
  (start, min (min ((start + actual) % wordSize) size) ((start + packetLength) % wordSize))

/-- Writes the scripted packets, from the `i`-th on, as bytes `i`. -/
def fillPackets (packetLength : Nat) : Nat → List UInt32 → Bytes → Bytes
  | _, [], b => b
  | i, a :: as, b =>
    let (start, stop) := packetRegion packetLength b.length i a.toNat
    fillPackets packetLength (i + 1) as (if start < stop then b.fill start stop (.ofNat i) else b)

def settle (response : Option Response) (x : Transfer) (m : Buffers) : Transfer × Buffers :=
  let room := x.length - x.header
  match response, x.kind, x.direction with
  | some (.status st), _, _ => (x.record st 0, m)
  | some (.packets actual), .isochronous, _ =>
    let (x, m) := (x.mapPackets (report actual)).rewrite m (fillPackets x.packetLength 0 actual)
    (x.record .completed 0, m)
  | some (.data _), .isochronous, .deviceToHost => (x.record .timedOut 0, m)
  | some (.data p), _, .deviceToHost =>
    let (x, m) := x.rewrite m (·.patch x.header (p.take room))
    (x.record (if room < p.length then .overflow else .completed) (min p.length room), m)
  | _, _, .hostToDevice => (x.record .completed room, m)
  | _, _, .deviceToHost => (x.record .timedOut 0, m)

def submission (device : UInt32) (x : Transfer) (m : Buffers) : Submission where
  id := x.id
  device
  kind := x.kind
  endpoint := x.endpoint
  setup := if x.kind = .control then some ((x.bytes m).take SetupPacket.size) else none
  payload := if x.direction = .hostToDevice then (x.bytes m).drop x.header else []
  timeout := x.timeout

def answerKey (device : UInt32) (x : Transfer) : UInt32 × Endpoint :=
  (device, if x.kind = .control ∧ x.direction = .deviceToHost then .controlIn else x.endpoint)

/-- An injected refusal comes before the check of the connection. -/
def refusal (s : Simulated) : Simulated × Option UsbError :=
  match s.refusals with
  | e :: rest => ({ s with refusals := rest }, some e)
  | [] => (s, if s.disconnected then some .noDevice else none)

def submit (s : Simulated) (device : UInt32) (x : Transfer) (m : Buffers) :
    Simulated × Buffers × Option (UsbError × Transfer) :=
  match s.refusal with
  | (s, some e) => ({ s with rejected := s.rejected ++ [(x.id, e)] }, m, some (e, x))
  | (s, none) =>
    let s := { s with submissions := s.submissions ++ [submission device x m] }
    let (s, response) := s.take (answerKey device x)
    let (x, m) := settle response x m
    ({ s with queue := s.queue ++ [x] }, m, none)

def poll (s : Simulated) : Simulated × Poll :=
  ({ s with queue := [], dispatched := s.dispatched ++ s.queue.map (·.id), polls := s.polls + 1 },
    .finished s.queue)

def maxPacket (s : Simulated) (device : UInt32) (e : Endpoint) : Outcome :=
  if s.disconnected then .error .noDevice
  else
    match s.packetSizes.lookup (device, e) with
    | some n => .ok n
    | none => .error .notFound

def claimsAfter (claims : List (UInt32 × UInt8)) (device : UInt32) :
    DeviceOp → Except UsbError (List (UInt32 × UInt8))
  | .reset => .ok (claims.filter (·.1 ≠ device))
  | .clearHalt _ | .setConfiguration _ => .ok claims
  | .claim i _ => if (device, i) ∈ claims then .error .busy else .ok (claims ++ [(device, i)])
  | .release i => if (device, i) ∈ claims then .ok (claims.erase (device, i)) else .error .notFound
  | .setInterface i _ => if (device, i) ∈ claims then .ok claims else .error .notFound

def operate (s : Simulated) (device : UInt32) (op : DeviceOp) : Simulated × Except UsbError Unit :=
  if s.disconnected then (s, .error .noDevice)
  else
    match claimsAfter s.claims device op with
    | .error e => (s, .error e)
    | .ok claims => ({ s with claims, ops := s.ops ++ [.performed device op] }, .ok ())

def close (s : Simulated) (device : UInt32) : Simulated :=
  { s with claims := s.claims.filter (·.1 ≠ device), ops := s.ops ++ [.closed device] }

instance : Controller Simulated UInt32 where
  exchange s device route region _ := s.exchange device route region
  submit s device x m := s.submit device x m
  poll s m _ := (s.poll.1, m, s.poll.2)
  ready s := !s.queue.isEmpty
  maxPacket s device e := (s, s.maxPacket device e)
  operate s device op := s.operate device op
  close s device := s.close device
  abandon s _ := s
  shutDown s := { s with queue := [] }
  held s := s.queue

end Simulated

end UsbTransfer
