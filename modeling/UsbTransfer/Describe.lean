import UsbTransfer.Host.Basic

namespace UsbTransfer

def recordText (name : String) (fields : List (String × String)) : String :=
  name ++ " \x7b " ++ ", ".intercalate (fields.map fun (k, v) => k ++ ": " ++ v) ++ " \x7d"

def optionText : Option String → String
  | none => "None"
  | some s => "Some(" ++ s ++ ")"

def wrapperText (name value : String) : String := name ++ "(" ++ value ++ ")"

def Direction.describe : Direction → String
  | deviceToHost => "In"
  | hostToDevice => "Out"

def Endpoint.describe (e : Endpoint) : String :=
  wrapperText "EndpointAddress" (toString e.address.toNat)

def TransferKind.describe : TransferKind → String
  | control => "Control"
  | bulk => "Bulk"
  | interrupt => "Interrupt"
  | isochronous => "Isochronous"

def TransferStatus.describe : TransferStatus → String
  | unrecognized raw => wrapperText "Unrecognized" (toString raw.toInt)
  | s => s.name

def describeTransferId (id : TransferId) : String :=
  wrapperText "TransferId" (toString id.word.toNat)

def Token.describe (t : Token) : String :=
  recordText "DeviceToken"
    [("index", toString t.index.toNat), ("generation", toString t.generation.toNat)]

def SetupPacket.describe (s : SetupPacket) : String :=
  recordText "SetupPacket"
    [("request_type", toString s.requestType.toNat), ("request", toString s.request.toNat),
      ("value", toString s.value.toNat), ("index", toString s.index.toNat),
      ("length", toString s.length.toNat)]

def IsoPacket.describe (p : IsoPacket) : String :=
  recordText "IsoPacket"
    [("length", toString p.length.toNat), ("actual_length", toString p.actual.toNat),
      ("status", p.status.describe)]

def Storage.describe (s : Storage) : String :=
  recordText "IsoBuffer" [("capacity", toString s.capacity), ("valid", toString s.valid)]

def Transfer.describe (t : Transfer) : String :=
  recordText "TransferDescriptor"
    [("id", describeTransferId t.id), ("kind", t.kind.describe), ("endpoint", t.endpoint.describe),
      ("length", toString t.length), ("timeout_ms", toString t.timeout.toNat),
      ("status", optionText (t.status.map (·.describe))), ("actual_length", toString t.actual),
      ("reusable", toString t.reusable)]

def describeRefusal (e : UsbError) (id : TransferId) : String :=
  recordText "SubmitError" [("error", e.name), ("transfer", describeTransferId id)]

def Stream.describe (s : Stream) : String :=
  recordText "IsochronousTransfer"
    [("token", s.token.describe), ("endpoint", s.endpoint.describe),
      ("num_packets", toString s.packets), ("packet_len", toString s.packetLength)]

end UsbTransfer
