import UsbTransfer.Bytes
import UsbTransfer.Text.Hex
import UsbTransfer.Text.Decimal

namespace UsbTransfer

/-- A JSON value. Numbers that are not written as integers keep their text. A string that no
characters make up, and an object with such a key, is `malformed`. -/
inductive Json where
  | null
  | bool (b : Bool)
  | int (n : Int)
  | real (text : String)
  | str (s : String)
  | arr (items : List Json)
  | obj (fields : List (String × Json))
  | malformed
  deriving Repr, Inhabited

namespace Json

instance : Coe String Json := ⟨str⟩

def nat (n : Nat) : Json := int n

def ofOption : Option Json → Json
  | none => null
  | some v => v

def hex (b : Bytes) : Json := str b.toHex

def isNull : Json → Bool
  | null => true
  | _ => false

def get? (v : Json) (k : String) : Option Json :=
  match v with
  | obj fields => fields.lookup k
  | _ => none

def given? (v : Json) (k : String) : Option Json := (v.get? k).filter (!·.isNull)

def int? : Json → Option Int
  | int n => some n
  | _ => none

def nat? (v : Json) : Option Nat := v.int?.map Int.toNat

def str? : Json → Option String
  | str s => some s
  | _ => none

def bool? : Json → Option Bool
  | bool b => some b
  | _ => none

def items : Json → List Json
  | arr items => items
  | _ => []

def list (v : Json) (k : String) : List Json := ((v.get? k).map items).getD []

end Json

end UsbTransfer
