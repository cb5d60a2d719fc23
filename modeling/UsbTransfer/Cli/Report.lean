import UsbTransfer.Arena
import UsbTransfer.HostError
import UsbTransfer.Json.Printer

namespace UsbTransfer.Cli

structure Report where
  operation : String
  device : Token
  asynchronous : Bool
  /-- A count, or a negative code. -/
  status : Int := 0
  error : Option String := none
  data : Option Bytes := none
  deriving DecidableEq, Repr

namespace Report

def withOutcome (r : Report) (o : Outcome) : Report :=
  match o with
  | .ok _ => { r with status := o.code }
  | .error e => { r with status := o.code, error := some e.message }

def withError (r : Report) (e : HostError) : Report :=
  { r with status := e.code, error := some e.message }

def withData (r : Report) (data : Option Bytes) : Report := { r with data }

theorem status_withOutcome (r : Report) (o : Outcome) : (r.withOutcome o).status = o.code := by
  cases o <;> simp only [withOutcome]

def toJson (r : Report) : Json :=
  .obj ([("operation", .str r.operation), ("device", .str r.device.label),
    ("asynchronous", .bool r.asynchronous), ("status", .int r.status)] ++
    (r.error.map fun e => ("error", Json.str e)).toList ++
    (r.data.map fun d => ("data", Json.hex d)).toList)

end Report

end UsbTransfer.Cli
