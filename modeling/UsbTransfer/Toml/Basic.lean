namespace UsbTransfer

/-- A value of a configuration text. Floats and dates keep their text. -/
inductive Toml where
  | str (s : String)
  | int (n : Int)
  | float (text : String)
  | bool (b : Bool)
  | date (text : String)
  | arr (items : List Toml)
  | table (fields : List (String × Toml))
  deriving Repr, Inhabited

namespace Toml

def InRange (n : Int) : Prop := -9223372036854775808 ≤ n ∧ n < 9223372036854775808

instance (n : Int) : Decidable (InRange n) := inferInstanceAs (Decidable (_ ∧ _))

/-- The values of some fields, each if it is there: from a table by name, from an array in this
order. A date has none of them. -/
def record? (names : List String) : Toml → Option (List (Option Toml))
  | table fields => some (names.map fun k => fields.lookup k)
  | arr items => some (names.mapIdx fun i _ => items[i]?)
  | date _ => some (names.map fun _ => none)
  | _ => none

def str? : Toml → Option String
  | str s => some s
  | _ => none

def bool? : Toml → Option Bool
  | bool b => some b
  | _ => none

def below? (bound : Nat) : Toml → Option Nat
  | int (.ofNat n) => if n < bound then some n else none
  | _ => none

end Toml

end UsbTransfer
