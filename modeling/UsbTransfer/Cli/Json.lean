import UsbTransfer.Cli.Simulation
import UsbTransfer.Cli.Usage
import UsbTransfer.Json.Codec

namespace UsbTransfer.Cli

def UsageError.name : UsageError → String
  | help => "DisplayHelp"
  | version => "DisplayVersion"
  | unknownArgument => "UnknownArgument"
  | unknownCommand => "InvalidSubcommand"
  | missingArgument => "MissingRequiredArgument"
  | missingValue => "InvalidValue"
  | badValue _ => "ValueValidation"
  | repeated => "ArgumentConflict"
  | needlessValue => "TooManyValues"

def Command.toJson : Command → Json
  | .control c =>
    .obj [("name", "control"),
      ("setup", .arr [.nat c.requestType.toNat, .nat c.request.toNat, .nat c.value.toNat,
        .nat c.index.toNat]),
      ("length", .ofOption (c.length.map fun n => .nat n.toNat)),
      ("data", .ofOption (c.data.map .hex)), ("async", .bool c.asynchronous)]
  | .pipe c =>
    .obj [("name", .str c.pipe.kind.label), ("endpoint", .ofEndpoint c.endpoint),
      ("length", .nat c.length), ("data", .ofOption (c.data.map .hex)),
      ("async", .bool c.asynchronous)]
  | .packets c =>
    .obj [("name", "iso"), ("endpoint", .ofEndpoint c.endpoint),
      ("packets", .ofOption (c.packets.map .nat)),
      ("packet_size", .ofOption (c.packetSize.map .nat))]
  | .reset => .obj [("name", "reset")]
  | .clearStall e => .obj [("name", "clear-stall"), ("endpoint", .ofEndpoint e)]

def Command.ofJson? (v : Json) : Option Command := do
  let number? (k : String) : Option Nat := (v.given? k).bind (·.nat?)
  let endpoint : Endpoint := ⟨.ofNat ((number? "endpoint").getD 0)⟩
  let data := (v.given? "data").bind fun d => d.str?.bind Bytes.ofHex?
  let asynchronous := ((v.get? "async").bind (·.bool?)).getD false
  let pipe (p : Pipe) : Command :=
    .pipe { pipe := p, endpoint, length := (number? "length").getD 0, data, asynchronous }
  match ← (v.get? "name").bind (·.str?) with
  | "control" =>
    match (v.list "setup").mapM (·.nat?) with
    | some [t, r, x, i] =>
      return .control
        { requestType := .ofNat t, request := .ofNat r, value := .ofNat x, index := .ofNat i
          length := (number? "length").map .ofNat, data, asynchronous }
    | _ => none
  | "bulk" => return pipe .bulk
  | "interrupt" => return pipe .interrupt
  | "iso" =>
    return .packets { endpoint, packets := number? "packets", packetSize := number? "packet_size" }
  | "reset" => return .reset
  | "clear-stall" => return .clearStall endpoint
  | _ => none

def Options.toJson (o : Options) : Json :=
  .obj [("config", .ofOption (o.config.map .str)), ("save_config", .bool o.saveConfig),
    ("log_level", .ofOption (o.logLevel.map .str)),
    ("device", .ofOption (o.device.map fun (v, p) => .arr [.nat v.toNat, .nat p.toNat])),
    ("simulate", .bool o.simulate),
    ("timeout", .ofOption (o.timeout.map fun t => .nat t.toNat))]

/-- A simulated run: its report, what the device was sent by blocking transfers, its last submission
and the number of devices left open. -/
def Command.summary (c : Command) (timeout : Option UInt32) (config : Config) :
    List (String × Json) :=
  match c.simulate timeout config with
  | (_, .error e) => [("error", "run"), ("message", .str (": ".intercalate e.messages))]
  | (s, .ok r) =>
    let x := s.host.controller
    [("report", r.toJson), ("sync_out", .arr (x.sent.map fun (_, _, b) => .hex b)),
      ("submitted", .ofOption (x.submissions.getLast?.map fun s =>
        .arr [.str s.kind.label, .hex s.payload, .nat s.timeout.toNat])),
      ("open_devices", .nat s.host.devices.size)]

end UsbTransfer.Cli
