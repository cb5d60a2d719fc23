import UsbTransfer.Text.Hex

namespace UsbTransfer

inductive Direction where
  | deviceToHost
  | hostToDevice
  deriving DecidableEq, Repr

/-- Bit 7 of an endpoint address or of a request type is set towards the host. -/
def directionMask : UInt8 := 0x80

namespace Direction

def ofByte (b : UInt8) : Direction :=
  if b &&& directionMask = 0 then hostToDevice else deviceToHost

theorem ofByte_eq_deviceToHost_iff (b : UInt8) : ofByte b = deviceToHost ↔ 128 ≤ b.toNat := by
  have : ∀ n : Fin 256, ofByte (UInt8.ofNat n) = deviceToHost ↔ 128 ≤ n.val := by
    decide +kernel
  simpa using this ⟨b.toNat, b.toNat_lt⟩

end Direction

structure Endpoint where
  address : UInt8
  deriving DecidableEq, Repr

namespace Endpoint

def control : Endpoint := ⟨0⟩

/-- Key of the answers to control requests that read. -/
def controlIn : Endpoint := ⟨directionMask⟩

def direction (e : Endpoint) : Direction := .ofByte e.address

def IsIn (e : Endpoint) : Prop := e.direction = .deviceToHost

instance (e : Endpoint) : Decidable e.IsIn := inferInstanceAs (Decidable (_ = _))

def number (e : Endpoint) : UInt8 := e.address &&& 0x0f

def label (e : Endpoint) : String := "0x" ++ String.ofList (Text.hexPadded 2 e.address.toNat)

end Endpoint

inductive TransferKind where
  | control
  | bulk
  | interrupt
  | isochronous
  deriving DecidableEq, Repr

namespace TransferKind

def all : List TransferKind := [control, bulk, interrupt, isochronous]

def label : TransferKind → String
  | control => "control"
  | bulk => "bulk"
  | interrupt => "interrupt"
  | isochronous => "isochronous"

def ofLabel? (s : String) : Option TransferKind := all.find? (·.label == s)

theorem mem_all (k : TransferKind) : k ∈ all := by cases k <;> decide

end TransferKind

end UsbTransfer
