import UsbTransfer.Text.Decimal

namespace UsbTransfer.Toml

def number? (digits : List Char) : Option Nat :=
  if digits.all Text.isDigit then some (Text.ofDigits digits) else none

def IsLeap (year : Nat) : Prop := year % 4 = 0 ∧ (year % 100 ≠ 0 ∨ year % 400 = 0)

instance (year : Nat) : Decidable (IsLeap year) := inferInstanceAs (Decidable (_ ∧ (_ ∨ _)))

def daysIn (year month : Nat) : Nat :=
  if month = 2 then (if IsLeap year then 29 else 28)
  else if month ∈ [4, 6, 9, 11] then 30
  else 31

def isDate : List Char → Bool
  | [y, y', y'', y''', '-', m, m', '-', d, d'] =>
    match number? [y, y', y'', y'''], number? [m, m'], number? [d, d'] with
    | some year, some month, some day =>
      1 ≤ month && month ≤ 12 && 1 ≤ day && day ≤ daysIn year month
    | _, _, _ => false
  | _ => false

def IsUpTo (most : Nat) (a b : Char) : Prop := (number? [a, b]).any (· ≤ most)

instance (most : Nat) (a b : Char) : Decidable (IsUpTo most a b) :=
  inferInstanceAs (Decidable (_ = true))

/-- What follows a time of day. A second may be a leap second. -/
def clock? : List Char → Option (List Char)
  | h :: h' :: ':' :: m :: m' :: ':' :: s :: s' :: rest =>
    if IsUpTo 23 h h' ∧ IsUpTo 59 m m' ∧ IsUpTo 60 s s' then
      match rest with
      | '.' :: digits =>
        if (digits.takeWhile Text.isDigit).isEmpty then none
          else some (digits.dropWhile Text.isDigit)
      | rest => some rest
    else none
  | _ => none

def isOffset : List Char → Bool
  | [c] => c = 'Z' || c = 'z'
  | [sign, h, h', ':', m, m'] =>
    (sign = '+' || sign = '-') && decide (IsUpTo 23 h h') && decide (IsUpTo 59 m m')
  | _ => false

def isClock (s : List Char) : Bool :=
  match clock? s with
  | some rest => rest.isEmpty || isOffset rest
  | none => false

/-- A date, a date and a time of day behind the letter for it, or a time of day without an
offset. -/
def isMoment (s : List Char) : Bool :=
  match s.drop 10 with
  | [] => isDate s || clock? s = some []
  | c :: rest => (isDate (s.take 10) && (c = 'T' || c = 't') && isClock rest) || clock? s = some []

end UsbTransfer.Toml
