import UsbTransfer.Text.Blank
import UsbTransfer.Text.Numeral
import UsbTransfer.Wire.Endpoint

namespace UsbTransfer.Cli

open Text (NumeralError readNatural isBlank trimBlank hexValue? ofHexPairs)

inductive ArgumentError where
  | number (text : String) (error : NumeralError)
  | tooWide (text : String) (bits : Nat)
  | device (text : String)
  | deviceId (part : String) (error : NumeralError)
  | hexDigit (digit : Char) (text : String)
  | oddDigits (text : String)
  deriving DecidableEq, Repr

def quoted (s : String) : String := "'" ++ s ++ "'"

def ArgumentError.message : ArgumentError → String
  | number t e => "invalid number " ++ quoted t ++ ": " ++ e.message
  | tooWide t bits => quoted t ++ " does not fit in " ++ toString bits ++ " bits"
  | device t => "invalid device " ++ quoted t ++ ", expected VID:PID"
  | deviceId p e => "invalid id " ++ quoted p ++ ": " ++ e.message
  | hexDigit d t => "invalid hex digit " ++ quoted (String.singleton d) ++ " in " ++ quoted t
  | oddDigits t => "odd number of hex digits in " ++ quoted t

def parseNumber (s : String) : Except ArgumentError Nat :=
  let text := trimBlank s.toList
  let value := match text with
    | '0' :: 'x' :: rest | '0' :: 'X' :: rest => readNatural 16 wordSize rest
    | _ => readNatural 10 wordSize text
  value.mapError (.number (String.ofList text))

def parseBits (bits : Nat) (s : String) : Except ArgumentError Nat :=
  match parseNumber s with
  | .error e => .error e
  | .ok n => if n < Nat.pow 2 bits then .ok n else .error (.tooWide s bits)

def parseByte (s : String) : Except ArgumentError UInt8 := (parseBits 8 s).map .ofNat

def parseWord (s : String) : Except ArgumentError UInt16 := (parseBits 16 s).map .ofNat

def parseEndpoint (s : String) : Except ArgumentError Endpoint := (parseByte s).map .mk

/-- Strips the pair `0x`, with this second character, as often as it stands in front. -/
def stripRadix (x : Char) : List Char → List Char
  | '0' :: c :: rest => if c = x then stripRadix x rest else '0' :: c :: rest
  | s => s

def parseId (s : List Char) : Except ArgumentError UInt16 :=
  let digits := stripRadix 'X' (stripRadix 'x' s)
  match readNatural 16 UInt16.size digits with
  | .ok n => .ok (.ofNat n)
  | .error e => .error (.deviceId (String.ofList digits) e)

def parseDeviceId (s : String) : Except ArgumentError (UInt16 × UInt16) :=
  match s.toList.span (· ≠ ':') with
  | (_, []) => .error (.device s)
  | (vendor, _ :: product) => do return (← parseId vendor, ← parseId product)

def parseHex (s : String) : Except ArgumentError Bytes :=
  let digits := s.toList.filter fun c => !isBlank c && c ≠ ':'
  match digits.find? fun c => (hexValue? c).isNone with
  | some c => .error (.hexDigit c s)
  | none =>
    match ofHexPairs digits with
    | some bytes => .ok bytes
    | none => .error (.oddDigits s)

end UsbTransfer.Cli
