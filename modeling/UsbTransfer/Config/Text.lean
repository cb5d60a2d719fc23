import UsbTransfer.Config.Basic
import UsbTransfer.Toml.Parser
import UsbTransfer.Toml.Printer

namespace UsbTransfer.Config

def u64? (v : Toml) : Option UInt64 := (v.below? wordSize).map .ofNat

def field {α : Type} (read : Toml → Option α) (missing : α) : Option Toml → Option α
  | none => some missing
  | some v => read v

def Logging.ofToml? (v : Toml) : Option Logging := do
  match ← v.record? ["level"] with
  | [level] => return ⟨← field Toml.str? ({} : Logging).level level⟩
  | _ => none

def Transfers.ofToml? (v : Toml) : Option Transfers := do
  match ← v.record? ["default_timeout_ms", "control_buffer_size"] with
  | [timeout, size] =>
    return ⟨← field (fun v => (v.below? UInt32.size).map .ofNat) ({} : Transfers).timeout timeout,
      ← field u64? ({} : Transfers).controlBuffer size⟩
  | _ => none

def Events.ofToml? (v : Toml) : Option Events := do
  match ← v.record? ["poll_interval_ms", "auto_start_pump"] with
  | [interval, autoStart] =>
    return ⟨← field u64? ({} : Events).pollInterval interval,
      ← field Toml.bool? ({} : Events).autoStart autoStart⟩
  | _ => none

def Isochronous.ofToml? (v : Toml) : Option Isochronous := do
  match ← v.record? ["default_packets", "packet_size"] with
  | [packets, size] =>
    return ⟨← field u64? ({} : Isochronous).packets packets,
      ← field (fun v => (u64? v).map some) none size⟩
  | _ => none

/-- Unknown fields do not matter. -/
def ofToml? (v : Toml) : Option Config := do
  match ← v.record? ["logging", "transfers", "events", "isochronous"] with
  | [logging, transfers, events, isochronous] =>
    return ⟨← field Logging.ofToml? {} logging, ← field Transfers.ofToml? {} transfers,
      ← field Events.ofToml? {} events, ← field Isochronous.ofToml? {} isochronous⟩
  | _ => none

def parse? (text : String) : Option Config := (Toml.parse? text).bind ofToml?

def integer? (n : Nat) : Option Toml := if Toml.InRange n then some (.int n) else none

def toSections? (c : Config) : Option (List (String × List (String × Toml))) := do
  let timeout ← integer? c.transfers.timeout.toNat
  let size ← integer? c.transfers.controlBuffer.toNat
  let interval ← integer? c.events.pollInterval.toNat
  let packets ← integer? c.isochronous.packets.toNat
  let packetSize ← match c.isochronous.packetSize with
    | none => some []
    | some n => (integer? n.toNat).map fun n => [("packet_size", n)]
  return [("logging", [("level", .str c.logging.level)]),
    ("transfers", [("default_timeout_ms", timeout), ("control_buffer_size", size)]),
    ("events", [("poll_interval_ms", interval), ("auto_start_pump", .bool c.events.autoStart)]),
    ("isochronous", ("default_packets", packets) :: packetSize)]

/-- The text of a configuration, `none` if a number is too large for the format. -/
def print? (c : Config) : Option String :=
  c.toSections?.map fun sections => String.ofList (Toml.printSections sections)

end UsbTransfer.Config
