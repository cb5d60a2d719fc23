import UsbTransfer.Text.Numeral
import UsbTransfer.Toml.Basic

/-! Integers and floats of a configuration text. A single underscore may stand between two
digits. -/

namespace UsbTransfer.Toml

def readDigits? (base : Nat) : List Char → Option (List Nat)
  | [] => none
  | [c] => (Text.digitValue? base c).map ([·])
  | c :: '_' :: rest => do return (← Text.digitValue? base c) :: (← readDigits? base rest)
  | c :: rest => do return (← Text.digitValue? base c) :: (← readDigits? base rest)

def ofDigits (base : Nat) (digits : List Nat) : Nat := digits.foldl (fun n d => base * n + d) 0

def whole? (s : List Char) : Option (List Nat) :=
  (readDigits? 10 s).filter fun ds => ds.length = 1 ∨ ds.head? ≠ some 0

def unsign : List Char → Bool × List Char
  | '+' :: rest => (false, rest)
  | '-' :: rest => (true, rest)
  | s => (false, s)

def signed (negative : Bool) (n : Nat) : Int := if negative then -n else n

def integer? (s : List Char) : Option Int :=
  (match s with
    | '0' :: 'x' :: rest => (readDigits? 16 rest).map fun ds => (ofDigits 16 ds : Int)
    | '0' :: 'o' :: rest => (readDigits? 8 rest).map fun ds => (ofDigits 8 ds : Int)
    | '0' :: 'b' :: rest => (readDigits? 2 rest).map fun ds => (ofDigits 2 ds : Int)
    | s =>
      let (negative, digits) := unsign s
      (whole? digits).map fun ds => signed negative (ofDigits 10 ds)).filter fun n => InRange n

/-- The digits, as a whole number, times this power of ten round to no finite double: they lie at
least halfway from the largest one to the next power of two. -/
def Overflows (digits : List Nat) (exponent : Int) : Prop :=
  let n := ofDigits 10 digits
  let places := (digits.dropWhile (· = 0)).length + exponent
  let limit := (Nat.pow 2 54 - 1) * Nat.pow 2 970
  n ≠ 0 ∧ 300 ≤ places ∧ (320 < places ∨
    limit * Nat.pow 10 (-exponent).toNat ≤ n * Nat.pow 10 exponent.toNat)

instance (digits : List Nat) (exponent : Int) : Decidable (Overflows digits exponent) :=
  inferInstanceAs (Decidable (_ ∧ _ ∧ (_ ∨ _)))

def fraction? : List Char → Option (List Nat)
  | [] => some []
  | _ :: digits => readDigits? 10 digits

def exponent? : List Char → Option Int
  | [] => some 0
  | _ :: s =>
    let (negative, digits) := unsign s
    (readDigits? 10 digits).map fun ds => signed negative (ofDigits 10 ds)

/-- A float needs a fraction or an exponent, and is refused if it rounds to positive infinity. -/
def isFloat (s : List Char) : Bool :=
  let (negative, s) := unsign s
  if s = ['i', 'n', 'f'] ∨ s = ['n', 'a', 'n'] then true
  else
    let (mantissa, exponent) := s.span fun c => c ≠ 'e' && c ≠ 'E'
    let (whole, fraction) := mantissa.span (· ≠ '.')
    match whole? whole, fraction? fraction, exponent? exponent with
    | some w, some f, some e =>
      (fraction ≠ [] || exponent ≠ []) && (negative || !decide (Overflows (w ++ f) (e - f.length)))
    | _, _, _ => false

end UsbTransfer.Toml
