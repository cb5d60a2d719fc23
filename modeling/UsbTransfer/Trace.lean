import UsbTransfer.Describe
import UsbTransfer.Dictated
import UsbTransfer.Host.Basic
import UsbTransfer.Json.Codec
import UsbTransfer.Native.Bus
import UsbTransfer.Simulated

namespace UsbTransfer.Trace

open Json (nat hex ofOption)

def word (n : UInt8) : Json := nat n.toNat

def endpoint (e : Endpoint) : String × Json := ("endpoint", Json.ofEndpoint e)

def call (name : String) (fields : List (String × Json)) : Json :=
  .obj (("call", .str name) :: fields)

def outcome : Outcome → Json
  | .ok n => .obj [("ok", nat n)]
  | .error e => .obj [("err", e.name), ("code", .int e.code)]

def completion (c : Completion) : List (String × Json) :=
  [("kind", c.kind.label), ("data", ofOption (c.data.map hex)), ("result", outcome c.result)]

def record (c : Completion) : Json :=
  .obj (completion c ++ [("iso_valid_len", ofOption (c.valid.map nat))])

def hostError (e : HostError) : Json :=
  .obj [("error", .str e.name), ("message", .str e.message), ("code", .int e.code)]

def storage (s : Storage) (refs : Nat) : Json :=
  .obj [("capacity", nat s.capacity), ("valid", nat s.valid), ("data", hex s.contents),
    ("refs", nat refs), ("debug", .str s.describe), ("raw_len", nat s.capacity),
    ("null", .bool false)]

def transfer (x : Transfer) : Json :=
  .obj [("id", .str (transferLabel x.id)), ("kind", .str x.kind.label),
    ("endpoint", .str x.endpoint.label), ("direction", Json.ofDirection x.direction),
    ("length", nat x.length), ("timeout", nat x.timeout.toNat),
    ("status", ofOption (x.status.map fun s => .str s.describe)), ("actual", nat x.actual),
    ("reusable", .bool x.reusable),
    ("packets", .arr (x.packets.map fun p =>
      .arr [nat p.length.toNat, nat p.actual.toNat, .int p.status.raw.toInt])),
    ("packet_len", nat x.packetLength), ("buffer", hex (x.bytes [])), ("debug", .str x.describe)]

def stream (s : Stream) : Json :=
  .obj [("token", .str s.token.label), ("endpoint", Json.ofEndpoint s.endpoint),
    ("packets", nat s.packets), ("packet_len", nat s.packetLength), ("capacity", nat s.capacity),
    ("idle", .bool s.slot.isSome), ("debug", .str s.describe)]

def setup (s : SetupPacket) : Json :=
  .obj [("request_type", word s.requestType), ("request", word s.request),
    ("value", nat s.value.toNat), ("index", nat s.index.toNat),
    ("length", nat s.length.toNat), ("direction", s.direction.describe), ("bytes", hex s.toBytes)]

def operation : DeviceOp → List (String × Json)
  | .reset => []
  | .clearHalt e => [endpoint e]
  | .claim i force => [("interface", word i), ("force", .bool force)]
  | .release i => [("interface", word i)]
  | .setInterface i a => [("interface", word i), ("alt", word a)]
  | .setConfiguration c => [("config", word c)]

def deviceLog : DeviceLog → Json
  | .closed d => .obj [("op", "Close"), ("device", nat d.toNat)]
  | .performed d op =>
    let name := match op with
      | .reset => "Reset"
      | .clearHalt _ => "ClearHalt"
      | .claim .. => "ClaimInterface"
      | .release _ => "ReleaseInterface"
      | .setInterface .. => "SetInterface"
      | .setConfiguration _ => "SetConfiguration"
    .obj ([("op", .str name), ("device", nat d.toNat)] ++ operation op)

def submission (s : Submission) : Json :=
  .obj [("id", nat s.id.word.toNat), ("device", nat s.device.toNat), ("kind", s.kind.label),
    endpoint s.endpoint, ("setup", ofOption (s.setup.map hex)), ("payload", hex s.payload),
    ("timeout", nat s.timeout.toNat)]

def region (route : Route) (timeout : UInt32) (bytes : Bytes) : List (String × Json) :=
  [("timeout", nat timeout.toNat), ("len", nat bytes.length)] ++
    if route.direction = .hostToDevice then [("data", hex bytes)] else []

def dictatedCall (c : DictatedCall) (fields : List (String × Json)) : Json := call c.name fields

def nativeCall (c : NativeCall) (fields : List (String × Json)) : Json := call c.name fields

def dictated : DictatedEntry → Json
  | .exchanged d route timeout bytes =>
    let target := match route with
      | .control s => ("setup", hex s.toBytes)
      | .bulk e | .interrupt e => endpoint e
    call route.kind.label (("device", nat d.toNat) :: target :: region route timeout bytes)
  | .submitted d x bytes =>
    dictatedCall .submit [("device", nat d.toNat), ("transfer", x.describe), ("buffer", hex bytes)]
  | .refused e id => .obj [("refused", describeRefusal e id)]
  | .asked d e => dictatedCall .maxPacket [("device", nat d.toNat), endpoint e]
  | .closed d => dictatedCall .close [("device", nat d.toNat)]
  | .operated d op =>
    let asked : DictatedCall := match op with
      | .reset => .reset
      | .clearHalt _ => .clearHalt
      | .claim .. => .claim
      | .release _ => .release
      | .setInterface .. => .setInterface
      | .setConfiguration _ => .setConfiguration
    dictatedCall asked (("device", nat d.toNat) :: operation op)

def native : NativeEntry → Json
  | .init => nativeCall .init []
  | .exit => nativeCall .exit []
  | .opened v p h =>
    nativeCall .open_ [("vid", nat v.toNat), ("pid", nat p.toNat), ("handle", nat h)]
  | .closed h => nativeCall .close [("handle", nat h)]
  | .reset h => nativeCall .resetDevice [("handle", nat h)]
  | .clearHalt h e => nativeCall .clearHalt [("handle", nat h), endpoint e]
  | .setConfiguration h c => nativeCall .setConfiguration [("handle", nat h), ("config", word c)]
  | .claim h i => nativeCall .claimInterface [("handle", nat h), ("interface", word i)]
  | .release h i => nativeCall .releaseInterface [("handle", nat h), ("interface", word i)]
  | .detach h i => nativeCall .detachKernelDriver [("handle", nat h), ("interface", word i)]
  | .attach h i => nativeCall .attachKernelDriver [("handle", nat h), ("interface", word i)]
  | .setAlternate h i a =>
    nativeCall .setInterfaceAltSetting [("handle", nat h), ("interface", word i), ("alt", word a)]
  | .maxPacket h e => nativeCall .getMaxIsoPacketSize [("handle", nat h), endpoint e]
  | .exchanged h route timeout bytes =>
    let target := match route with
      | .control s =>
        [("request_type", word s.requestType), ("request", word s.request),
          ("value", nat s.value.toNat), ("index", nat s.index.toNat)]
      | .bulk e | .interrupt e => [endpoint e]
    call (route.kind.label ++ "_transfer")
      (("handle", nat h) :: target ++ region route timeout bytes)
  | .allocationFailed n => nativeCall .allocTransfer [("packets", .int n), ("null", .bool true)]
  | .submitted x bytes =>
    nativeCall .submitTransfer [("handle", nat x.handle), ("kind", x.kind.label),
      endpoint x.endpoint, ("timeout", nat x.timeout.toNat), ("length", .int x.length),
      ("buffer", hex bytes), ("packets", .arr (x.packets.map fun p => nat p.length.toNat))]
  | .events micros => nativeCall .handleEvents [("timeout_us", ofOption (micros.map nat))]

end UsbTransfer.Trace
