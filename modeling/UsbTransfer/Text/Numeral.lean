import UsbTransfer.Text.Hex

namespace UsbTransfer.Text

inductive NumeralError where
  | empty
  | invalidDigit
  | tooLarge
  | tooSmall
  deriving DecidableEq, Repr

def NumeralError.message : NumeralError → String
  | empty => "cannot parse integer from empty string"
  | invalidDigit => "invalid digit found in string"
  | tooLarge => "number too large to fit in target type"
  | tooSmall => "number too small to fit in target type"

def digitValue? (base : Nat) (c : Char) : Option Nat := (hexValue? c).filter (· < base)

/-- Reads on from `value`. The first character that is no digit, or whose digit takes the number to
`bound`, decides the error. -/
def readDigits (base bound : Nat) : Nat → List Char → Except NumeralError Nat
  | value, [] => .ok value
  | value, c :: cs =>
    match digitValue? base c with
    | none => .error .invalidDigit
    | some d =>
      if base * value + d < bound then readDigits base bound (base * value + d) cs
      else .error .tooLarge

/-- A sign is only read in front of something. -/
def readNatural (base bound : Nat) : List Char → Except NumeralError Nat
  | [] => .error .empty
  | '+' :: c :: cs => readDigits base bound 0 (c :: cs)
  | cs => readDigits base bound 0 cs

def readInteger (base bits : Nat) : List Char → Except NumeralError Int
  | '-' :: c :: cs =>
    match readDigits base (Nat.pow 2 (bits - 1) + 1) 0 (c :: cs) with
    | .ok n => .ok (-n)
    | .error .tooLarge => .error .tooSmall
    | .error e => .error e
  | cs => (readNatural base (Nat.pow 2 (bits - 1)) cs).map Int.ofNat

end UsbTransfer.Text
