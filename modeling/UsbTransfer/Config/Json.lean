import UsbTransfer.Config.Basic
import UsbTransfer.Json.Basic

namespace UsbTransfer.Config

def toJson (c : Config) : Json :=
  .obj [
    ("logging", .obj [("level", .str c.logging.level)]),
    ("transfers", .obj [
      ("default_timeout_ms", .nat c.transfers.timeout.toNat),
      ("control_buffer_size", .nat c.transfers.controlBuffer.toNat)]),
    ("events", .obj [
      ("poll_interval_ms", .nat c.events.pollInterval.toNat),
      ("auto_start_pump", .bool c.events.autoStart)]),
    ("isochronous", .obj [
      ("default_packets", .nat c.isochronous.packets.toNat),
      ("packet_size", .ofOption (c.isochronous.packetSize.map fun n => .nat n.toNat))])]

def ofJson (v : Json) : Config :=
  let d : Config := {}
  let at? {α : Type} (table key : String) (read : Json → Option α) : Option α :=
    ((v.get? table).bind (·.given? key)).bind read
  let u64 (table key : String) : Option UInt64 := (at? table key Json.nat?).map .ofNat
  { logging := { level := (at? "logging" "level" Json.str?).getD d.logging.level }
    transfers :=
      { timeout :=
          ((at? "transfers" "default_timeout_ms" Json.nat?).map .ofNat).getD d.transfers.timeout
        controlBuffer := (u64 "transfers" "control_buffer_size").getD d.transfers.controlBuffer }
    events :=
      { pollInterval := (u64 "events" "poll_interval_ms").getD d.events.pollInterval
        autoStart := (at? "events" "auto_start_pump" Json.bool?).getD d.events.autoStart }
    isochronous :=
      { packets := (u64 "isochronous" "default_packets").getD d.isochronous.packets
        packetSize := u64 "isochronous" "packet_size" } }

end UsbTransfer.Config
