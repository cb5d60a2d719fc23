import UsbTransfer.Bytes

namespace UsbTransfer.Text

def hexDigit (n : Nat) : Char := Nat.digitChar (n % 16)

def hexValue? (c : Char) : Option Nat :=
  if '0' ≤ c ∧ c ≤ '9' then some (c.toNat - '0'.toNat)
  else if 'a' ≤ c ∧ c ≤ 'f' then some (c.toNat - 'a'.toNat + 10)
  else if 'A' ≤ c ∧ c ≤ 'F' then some (c.toNat - 'A'.toNat + 10)
  else none

theorem hexValue?_hexDigit {n : Nat} (h : n < 16) : hexValue? (hexDigit n) = some n := by
  have : ∀ m : Fin 16, hexValue? (hexDigit m.val) = some m.val := by decide
  exact this ⟨n, h⟩

/-- The lowest `width` hexadecimal digits, highest first. -/
def hexPadded : Nat → Nat → List Char
  | 0, _ => []
  | width + 1, n => hexPadded width (n / 16) ++ [hexDigit n]

def hexBytes (bytes : Bytes) : List Char := bytes.flatMap fun b => hexPadded 2 b.toNat

def ofHexPairs : List Char → Option Bytes
  | [] => some []
  | [_] => none
  | a :: b :: rest => do
    let hi ← hexValue? a
    let lo ← hexValue? b
    let bytes ← ofHexPairs rest
    return UInt8.ofNat (16 * hi + lo) :: bytes

theorem ofHexPairs_hexBytes (bytes : Bytes) : ofHexPairs (hexBytes bytes) = some bytes := by
  induction bytes with
  | nil => rfl
  | cons b bytes ih =>
    have hb : b.toNat < 256 := b.toNat_lt
    have : hexBytes (b :: bytes) = hexDigit (b.toNat / 16) :: hexDigit b.toNat :: hexBytes bytes :=
      rfl
    have hlo : hexDigit b.toNat = hexDigit (b.toNat % 16) := by simp [hexDigit]
    rw [this, ofHexPairs, hexValue?_hexDigit (by omega), hlo, hexValue?_hexDigit (by omega), ih]
    have hb' : 16 * (b.toNat / 16) + b.toNat % 16 = b.toNat := by omega
    simp only [bind, Option.bind, pure, hb', UInt8.ofNat_toNat]

end UsbTransfer.Text

namespace UsbTransfer

def Bytes.toHex (bytes : Bytes) : String := String.ofList (Text.hexBytes bytes)

def Bytes.ofHex? (text : String) : Option Bytes := Text.ofHexPairs text.toList

end UsbTransfer
