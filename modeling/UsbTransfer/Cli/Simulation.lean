import UsbTransfer.Cli.Execution
import UsbTransfer.Simulated

namespace UsbTransfer.Cli

/-- The descriptor of a simulated device: USB 2.0, vendor 1234, product 5678. -/
def deviceDescriptor : Bytes :=
  [0x12, 0x01, 0x00, 0x02, 0x00, 0x00, 0x00, 0x40, 0x34, 0x12, 0x78, 0x56, 0x00, 0x01, 0x01, 0x02,
    0x03, 0x01]

def simulatedDevice : UInt32 := 1

def simulatedPacketSize : Nat := 64

/-- A control request that reads gets the descriptor where it fits. Other reads get counted bytes,
and isochronous ones full packets. -/
def Command.script (c : Command) (config : Config) (s : Simulated) : Simulated :=
  match c with
  | .control c =>
    match Direction.ofByte c.requestType with
    | .hostToDevice => s
    | .deviceToHost =>
      let length := (c.length.map (·.toNat)).getD config.transfers.controlBuffer.toNat
      s.addResponse simulatedDevice .controlIn
        (.data (if deviceDescriptor.length ≤ length then deviceDescriptor else .counting length))
  | .pipe c =>
    if c.endpoint.IsIn then s.addResponse simulatedDevice c.endpoint (.data (.counting c.length))
    else s
  | .packets c =>
    let size := (c.size? config).getD simulatedPacketSize
    (s.setPacketSize simulatedDevice c.endpoint size).addResponse simulatedDevice c.endpoint
      (.packets (.replicate (c.count config) (.ofNat size)))
  | .reset | .clearStall _ => s

def Command.simulate (c : Command) (timeout : Option UInt32) (config : Config) :
    Session Simulated UInt32 × Except CommandError Report :=
  let host : Host Simulated UInt32 := { controller := c.script config {} }
  let (host, token) := host.adopt simulatedDevice
  c.run { host, interval := config.events.pollInterval.toNat } token timeout config

end UsbTransfer.Cli
