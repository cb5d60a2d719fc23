import UsbTransfer.Wire.Endpoint

namespace UsbTransfer

structure SetupPacket where
  requestType : UInt8
  request : UInt8
  value : UInt16
  index : UInt16
  length : UInt16
  deriving DecidableEq, Repr

namespace SetupPacket

def size : Nat := 8

def direction (s : SetupPacket) : Direction := .ofByte s.requestType

def ofInts (requestType request value index length : Int) : SetupPacket where
  requestType := .ofNat (requestType % 256).toNat
  request := .ofNat (request % 256).toNat
  value := .ofNat (value % 65536).toNat
  index := .ofNat (index % 65536).toNat
  length := .ofNat (length % 65536).toNat

def wordBytes (w : UInt16) : Bytes := [.ofNat (w.toNat % 256), .ofNat (w.toNat / 256)]

def ofWordBytes (low high : UInt8) : UInt16 := .ofNat (low.toNat + 256 * high.toNat)

def toBytes (s : SetupPacket) : Bytes :=
  [s.requestType, s.request] ++ wordBytes s.value ++ wordBytes s.index ++ wordBytes s.length

def ofBytes? : Bytes → Option SetupPacket
  | [t, r, v₀, v₁, i₀, i₁, l₀, l₁] =>
    some ⟨t, r, ofWordBytes v₀ v₁, ofWordBytes i₀ i₁, ofWordBytes l₀ l₁⟩
  | _ => none

/-- The length of the data stage that the setup stage in front of it gives. -/
def announced (bytes : Bytes) : Nat :=
  ((ofBytes? (bytes.take size)).map (·.length.toNat)).getD 0

def getDescriptor (descriptor : UInt8) (length : UInt16) : SetupPacket :=
  ⟨0x80, 0x06, descriptor.toUInt16 <<< 8, 0, length⟩

@[simp] theorem length_toBytes (s : SetupPacket) : s.toBytes.length = size := rfl

theorem ofWordBytes_wordBytes (w : UInt16) :
    ofWordBytes (.ofNat (w.toNat % 256)) (.ofNat (w.toNat / 256)) = w := by
  have hw : w.toNat < 2 ^ 16 := w.toNat_lt
  apply UInt16.toNat.inj
  simp only [ofWordBytes, UInt16.toNat_ofNat', UInt8.toNat_ofNat']
  omega

theorem wordBytes_ofWordBytes (low high : UInt8) :
    wordBytes (ofWordBytes low high) = [low, high] := by
  have hl : low.toNat < 2 ^ 8 := low.toNat_lt
  have hh : high.toNat < 2 ^ 8 := high.toNat_lt
  simp only [wordBytes, ofWordBytes, UInt16.toNat_ofNat', List.cons.injEq, and_true]
  constructor <;> apply UInt8.toNat.inj <;> simp only [UInt8.toNat_ofNat'] <;> omega

theorem ofBytes?_toBytes (s : SetupPacket) : ofBytes? s.toBytes = some s := by
  simp [toBytes, wordBytes, ofBytes?, ofWordBytes_wordBytes]

end SetupPacket

end UsbTransfer
