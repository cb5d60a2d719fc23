import UsbTransfer.Transfer

namespace UsbTransfer

inductive DeviceOp where
  | reset
  | clearHalt (endpoint : Endpoint)
  | claim (interface : UInt8) (force : Bool)
  | release (interface : UInt8)
  | setInterface (interface alternate : UInt8)
  | setConfiguration (configuration : UInt8)
  deriving DecidableEq, Repr

inductive Poll where
  | finished (transfers : List Transfer)
  | failed (error : UsbError)
  | crashed
  deriving Repr

/-- The hardware below a host: `κ` is its state and `δ` names an open device. -/
class Controller (κ : Type) (δ : outParam Type) where
  /-- Moves the bytes of a region while the caller waits; `none` if it has to wait longer. -/
  exchange : κ → δ → Route → Bytes → UInt32 → Option (κ × Bytes × Outcome)
  submit : κ → δ → Transfer → Buffers → κ × Buffers × Option (UsbError × Transfer)
  /-- Waits for events, for at most so many milliseconds. -/
  poll : κ → Buffers → Option Nat → κ × Buffers × Poll
  /-- A look at the events would change something. -/
  ready : κ → Bool
  maxPacket : κ → δ → Endpoint → κ × Outcome
  operate : κ → δ → DeviceOp → κ × Except UsbError Unit
  close : κ → δ → κ
  /-- Nothing refers to the device any more. -/
  abandon : κ → δ → κ
  shutDown : κ → κ
  held : κ → List Transfer

end UsbTransfer
