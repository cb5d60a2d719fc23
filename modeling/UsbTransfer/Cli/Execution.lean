import UsbTransfer.Cli.Command
import UsbTransfer.Cli.Report
import UsbTransfer.Config.Basic
import UsbTransfer.Duration
import UsbTransfer.Session
import UsbTransfer.Text.Numeral

namespace UsbTransfer.Cli

inductive CommandError where
  | dataTooLong
  | controlBufferTooLong
  | dataRequired (endpoint : Endpoint)
  | notAllocated (error : HostError)
  | overdue (wait : Duration)
  deriving DecidableEq, Repr

namespace CommandError

def messages : CommandError → List String
  | dataTooLong => ["Control data stage too long", Text.NumeralError.message .tooLarge]
  | controlBufferTooLong => ["Control buffer too large", Text.NumeralError.message .tooLarge]
  | dataRequired e => ["--data is required for OUT endpoint " ++ e.label]
  | notAllocated e => "Failed to allocate isochronous transfer" :: e.messages
  | overdue wait => ["No completion delivered within " ++ wait.label]

end CommandError

def stageLength (n : Nat) (tooLong : CommandError) : Except CommandError UInt16 :=
  if n < UInt16.size then .ok (.ofNat n) else .error tooLong

/-- Without a length, the data decide, or else the configured buffer for what comes from the
device. -/
def ControlCommand.setup (c : ControlCommand) (config : Config) : Except CommandError SetupPacket :=
  let length : Except CommandError UInt16 := match c.length, c.data with
    | some n, _ => .ok n
    | none, some data => stageLength data.length .dataTooLong
    | none, none =>
      match Direction.ofByte c.requestType with
      | .deviceToHost => stageLength config.transfers.controlBuffer.toNat .controlBufferTooLong
      | .hostToDevice => .ok 0
  length.map fun length => ⟨c.requestType, c.request, c.value, c.index, length⟩

def stage (data : Option Bytes) (length : Nat) : Bytes :=
  let data := data.getD []
  data.take length ++ .zeros (length - data.length)

/-- The time that a completion gets on top of its transfer. -/
def graceSeconds : Nat := 1

/-- The most passes of a pump that are waited for. -/
def patience : Nat := 100000

variable {κ δ : Type} [Controller κ δ]

def completed (s : Session κ δ) (target : TargetId) (r : Report) (timeout : UInt32) :
    Session κ δ × Except CommandError Report :=
  let s := s.settle (fun _ _ => {}) patience
  match (s.host.channel? target).bind (·.receive?) with
  | none => (s, .error (.overdue ((Duration.ofMillis timeout.toNat).addSeconds graceSeconds)))
  | some (c, m) =>
    let x := m.read s.host.buffers
    ({ s with host := s.host.setChannel target c },
      .ok ((r.withOutcome x.result).withData x.data))

def transferBlocking (s : Session κ δ) (t : Token) (r : Report) (q : Request) :
    Session κ δ × Except CommandError Report :=
  match s.host.exchange t q with
  | none => (s, .error (.overdue (.ofMillis q.timeout.toNat)))
  | some (host, _, .error e) => ({ s with host }, .ok (r.withError e))
  | some (host, buffer, .ok n) =>
    ({ s with host }, .ok ((r.withOutcome (.ok n)).withData
      (if q.route.direction = .deviceToHost then some (buffer.take n) else none)))

def transferAsynchronous (s : Session κ δ) (t : Token) (r : Report) (q : Request) :
    Session κ δ × Except CommandError Report :=
  let (host, target) := s.host.addTarget (.channel {})
  match host.submit target t q with
  | (host, .error e) => ({ s with host }, .ok (r.withError e))
  | (host, .ok ()) => completed { s with host } target r q.timeout

def transfer (s : Session κ δ) (t : Token) (operation : String) (asynchronous : Bool)
    (q : Request) : Session κ δ × Except CommandError Report :=
  let r : Report := { operation, device := t, asynchronous }
  if asynchronous then transferAsynchronous s t r q else transferBlocking s t r q

def ControlCommand.run (c : ControlCommand) (s : Session κ δ) (t : Token) (timeout : UInt32)
    (config : Config) : Session κ δ × Except CommandError Report :=
  match c.setup config with
  | .error e => (s, .error e)
  | .ok setup =>
    let length := setup.length.toNat
    transfer s t "control" c.asynchronous
      { route := .control setup, buffer := stage c.data length, offset := 0, length, timeout }

/-- What is sent has to be given; what is given does not matter where bytes are read. -/
def PipeCommand.buffer (c : PipeCommand) : Except CommandError Bytes :=
  if c.endpoint.IsIn then .ok (.zeros c.length)
  else
    match c.data with
    | some data => .ok data
    | none => .error (.dataRequired c.endpoint)

def PipeCommand.run (c : PipeCommand) (s : Session κ δ) (t : Token) (timeout : UInt32) :
    Session κ δ × Except CommandError Report :=
  match c.buffer with
  | .error e => (s, .error e)
  | .ok buffer =>
    transfer s t (c.pipe.kind.label ++ " " ++ c.endpoint.label) c.asynchronous
      { route := c.pipe.route c.endpoint, buffer, offset := 0, length := buffer.length, timeout }

def PacketCommand.count (c : PacketCommand) (config : Config) : Nat :=
  c.packets.getD config.isochronous.packets.toNat

def PacketCommand.size? (c : PacketCommand) (config : Config) : Option Nat :=
  c.packetSize <|> config.isochronous.packetSize.map (·.toNat)

def PacketCommand.run (c : PacketCommand) (s : Session κ δ) (t : Token) (timeout : UInt32)
    (config : Config) : Session κ δ × Except CommandError Report :=
  match s.host.allocate t c.endpoint (c.count config) (c.size? config) with
  | (host, .error e) => ({ s with host }, .error (.notAllocated e))
  | (host, .ok id) =>
    match host.streams[id]? with
    | none => ({ s with host }, .error (.notAllocated .invalidHandle))
    | some stream =>
      let (host, buffer) := host.addBuffer (.zeroed stream.capacity)
      let (host, target) := host.addTarget (.channel {})
      let r : Report := { operation := "isochronous", device := t, asynchronous := true }
      match host.submitStream target id stream buffer timeout with
      | (host, .error e) => ({ s with host }, .ok (r.withError e))
      | (host, .ok ()) => completed { s with host } target r timeout

def operate (s : Session κ δ) (t : Token) (operation : String) (op : DeviceOp) :
    Session κ δ × Except CommandError Report :=
  let r : Report := { operation, device := t, asynchronous := false }
  let (host, result) := s.host.operate t op
  ({ s with host }, .ok (match result with
    | .ok () => r
    | .error e => r.withError e))

def Command.execute (c : Command) (s : Session κ δ) (t : Token) (timeout : UInt32)
    (config : Config) : Session κ δ × Except CommandError Report :=
  match c with
  | .control c => c.run s t timeout config
  | .pipe c => c.run s t timeout
  | .packets c => c.run s t timeout config
  | .reset => operate s t "reset" .reset
  | .clearStall e => operate s t ("clear-stall " ++ e.label) (.clearHalt e)

/-- Makes the host ready, executes, and puts everything away. After a failure nothing is put away
here. -/
def Command.run (c : Command) (s : Session κ δ) (t : Token) (timeout : Option UInt32)
    (config : Config) : Session κ δ × Except CommandError Report :=
  let s := { s with host := (s.host.resolve .standard).1 }
  let s := if config.events.autoStart ∨ c.IsAsynchronous then s.startPump else s
  match c.execute s t (timeout.getD config.transfers.timeout) config with
  | (s, .error e) => (s, .error e)
  | (s, .ok r) =>
    let s := s.stopPump
    ({ s with host := (s.host.close t).1 }, .ok r)

end UsbTransfer.Cli
