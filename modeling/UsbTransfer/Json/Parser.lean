import UsbTransfer.Json.Basic

namespace UsbTransfer.Json

def isSpace (c : Char) : Bool := c = ' ' || c = '\n' || c = '\t' || c = '\r'

def skip (s : List Char) : List Char := s.dropWhile isSpace

def unit? (a b c d : Char) : Option Nat := do
  return (((← Text.hexValue? a) * 16 + (← Text.hexValue? b)) * 16 + (← Text.hexValue? c)) * 16 +
    (← Text.hexValue? d)

def isHigh (u : Nat) : Bool := 0xD800 ≤ u && u < 0xDC00

def isLow (u : Nat) : Bool := 0xDC00 ≤ u && u < 0xE000

def unescape : Char → Option Char
  | '"' => some '"'
  | '\\' => some '\\'
  | '/' => some '/'
  | 'b' => some '\x08'
  | 'f' => some '\x0c'
  | 'n' => some '\n'
  | 'r' => some '\r'
  | 't' => some '\t'
  | _ => none

def push (c : Char) : Option (List Char) × List Char → Option (List Char) × List Char :=
  fun (text, rest) => (text.map (c :: ·), rest)

/-- The characters of a string behind its opening quote, `none` if half a surrogate pair stands
among them, and what follows the closing quote. -/
def readString : List Char → Option (Option (List Char) × List Char)
  | [] => none
  | '"' :: rest => some (some [], rest)
  | '\\' :: 'u' :: a :: b :: c :: d :: rest =>
    match unit? a b c d with
    | none => none
    | some u =>
      if isHigh u then
        match rest with
        | '\\' :: 'u' :: a' :: b' :: c' :: d' :: rest' =>
          match unit? a' b' c' d' with
          | none => none
          | some v =>
            if isLow v then
              (readString rest').map (push (.ofNat (0x10000 + (u - 0xD800) * 0x400 + (v - 0xDC00))))
            else (readString ('\\' :: 'u' :: a' :: b' :: c' :: d' :: rest')).map fun p =>
              (none, p.2)
        | rest => (readString rest).map fun p => (none, p.2)
      else if isLow u then (readString rest).map fun p => (none, p.2)
      else (readString rest).map (push (.ofNat u))
  | '\\' :: e :: rest =>
    match unescape e with
    | none => none
    | some c => (readString rest).map (push c)
  | c :: rest => if c < ' ' then none else (readString rest).map (push c)
termination_by s => s.length

def digits (s : List Char) : List Char × List Char := s.span Text.isDigit

def readFraction : List Char → Option (List Char × List Char)
  | '.' :: s =>
    match digits s with
    | ([], _) => none
    | (ds, rest) => some ('.' :: ds, rest)
  | s => some ([], s)

def readSign : List Char → List Char × List Char
  | '+' :: s => (['+'], s)
  | '-' :: s => (['-'], s)
  | s => ([], s)

def readExponent : List Char → Option (List Char × List Char)
  | e :: s =>
    if e = 'e' ∨ e = 'E' then
      let (sign, s) := readSign s
      match digits s with
      | ([], _) => none
      | (ds, rest) => some (e :: sign ++ ds, rest)
    else some ([], e :: s)
  | [] => some ([], [])

/-- A number without its sign. A zero in front stands alone; the negative zero is no integer. -/
def readNumber (negative : Bool) (s : List Char) : Option (Json × List Char) := do
  let (whole, s) := digits s
  if whole = [] ∨ (whole.head? = some '0' ∧ whole ≠ ['0']) then none
  else
    let (fraction, s) ← readFraction s
    let (exponent, s) ← readExponent s
    let sign := if negative then ['-'] else []
    if fraction = [] ∧ exponent = [] ∧ ¬ (negative ∧ whole = ['0']) then
      let n : Int := Text.ofDigits whole
      return (int (if negative then -n else n), s)
    else return (real (String.ofList (sign ++ whole ++ fraction ++ exponent)), s)

def word (w : List Char) (v : Json) (s : List Char) : Option (Json × List Char) :=
  if w.isPrefixOf s then some (v, s.drop w.length) else none

def field (k : Option (List Char)) (v : Json) : Json → Json
  | obj fields =>
    match k with
    | some k => obj ((String.ofList k, v) :: fields)
    | none => malformed
  | _ => malformed

def item (v : Json) : Json → Json
  | arr items => arr (v :: items)
  | w => w

mutual

/-- Reads one value, with blanks before it. The first argument bounds the depth of the calls. -/
def read : Nat → List Char → Option (Json × List Char)
  | 0, _ => none
  | n + 1, s =>
    match skip s with
    | '"' :: rest =>
      (readString rest).map fun p => ((p.1.map fun t => str (String.ofList t)).getD malformed, p.2)
    | '[' :: rest =>
      match skip rest with
      | ']' :: rest => some (arr [], rest)
      | rest => readItems n rest
    | '{' :: rest =>
      match skip rest with
      | '}' :: rest => some (obj [], rest)
      | rest => readFields n rest
    | 'n' :: rest => word ['u', 'l', 'l'] null rest
    | 't' :: rest => word ['r', 'u', 'e'] (bool true) rest
    | 'f' :: rest => word ['a', 'l', 's', 'e'] (bool false) rest
    | '-' :: rest => readNumber true rest
    | s => readNumber false s

def readItems : Nat → List Char → Option (Json × List Char)
  | 0, _ => none
  | n + 1, s =>
    match read n s with
    | none => none
    | some (v, s) =>
      match skip s with
      | ']' :: rest => some (arr [v], rest)
      | ',' :: rest => (readItems n rest).map fun p => (item v p.1, p.2)
      | _ => none

def readFields : Nat → List Char → Option (Json × List Char)
  | 0, _ => none
  | n + 1, s =>
    match skip s with
    | '"' :: rest =>
      match readString rest with
      | none => none
      | some (k, s) =>
        match skip s with
        | ':' :: s =>
          match read n s with
          | none => none
          | some (v, s) =>
            match skip s with
            | '}' :: rest => some (field k v (obj []), rest)
            | ',' :: rest => (readFields n rest).map fun p => (field k v p.1, p.2)
            | _ => none
        | _ => none
    | _ => none

end

def parse? (text : String) : Option Json :=
  let s := text.toList
  match read (s.length + 1) s with
  | some (v, rest) => if skip rest = [] then some v else none
  | none => none

end UsbTransfer.Json
