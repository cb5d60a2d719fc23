import UsbTransfer.Toml.Basic
import UsbTransfer.Text.Hex
import UsbTransfer.Text.Decimal

namespace UsbTransfer.Toml

structure Quotes where
  literal : Bool
  triple : Bool
  deriving DecidableEq, Repr

def Quotes.mark (q : Quotes) : List Char :=
  List.replicate (if q.triple then 3 else 1) (if q.literal then '\'' else '"')

def isControl (c : Char) : Bool := (c < ' ' && c ≠ '\t' && c ≠ '\n') || c = '\x7f'

def hasRow (quote : Char) (count : Nat) : List Char → Bool
  | [] => false
  | c :: s => (List.replicate count quote).isPrefixOf (c :: s) || hasRow quote count s

/-- Double quotes where nothing has to be escaped between them, else single ones, of each the
single mark before the triple one; where nothing spares the escapes, double ones. -/
def quotesOf (s : List Char) : Quotes :=
  let hasControl := s.any isControl
  let hasLines := s.contains '\n'
  let plain := !hasControl && !s.contains '\\'
  if plain && !hasLines && !s.contains '"' then ⟨false, false⟩
  else if !hasControl && !hasLines && !s.contains '\'' then ⟨true, false⟩
  else if plain && !hasRow '"' 3 s then ⟨false, true⟩
  else if !hasControl && !hasRow '\'' 3 s then ⟨true, true⟩
  else ⟨false, hasLines⟩

def escape (triple : Bool) (c : Char) : List Char :=
  if c = '\\' then ['\\', '\\']
  else if c = '\t' then ['\\', 't']
  else if c = '\n' then (if triple then ['\n'] else ['\\', 'n'])
  else if c = '\r' then ['\\', 'r']
  else if c = '\x08' then ['\\', 'b']
  else if c = '\x0c' then ['\\', 'f']
  else if isControl c then '\\' :: 'u' :: (Text.hexPadded 4 c.toNat).map Char.toUpper
  else [c]

/-- Between double quotes. As many of them in a row as `room` need no escape. -/
def escapeAll (triple : Bool) (room : Nat) : List Char → List Char
  | [] => []
  | '"' :: s =>
    match room with
    | 0 => '\\' :: '"' :: escapeAll triple (if triple then 2 else 0) s
    | room + 1 => '"' :: escapeAll triple room s
  | c :: s => escape triple c ++ escapeAll triple (if triple then 2 else 0) s

def quote (text : String) : List Char :=
  let s := text.toList
  let q := quotesOf s
  let start := if q.triple && s.contains '\n' then ['\n'] else []
  let body := if q.literal then s else escapeAll q.triple (if q.triple then 2 else 0) s
  q.mark ++ start ++ body ++ q.mark

def printPlain : Toml → List Char
  | str s => quote s
  | int n => Text.decimalInt n
  | bool true => ['t', 'r', 'u', 'e']
  | bool false => ['f', 'a', 'l', 's', 'e']
  | float text | date text => text.toList
  | arr _ => ['[', ']']
  | table _ => ['{', '}']

def printField (field : String × Toml) : List Char :=
  field.1.toList ++ ' ' :: '=' :: ' ' :: printPlain field.2 ++ ['\n']

def printSection (t : String × List (String × Toml)) : List Char :=
  '[' :: t.1.toList ++ ']' :: '\n' :: t.2.flatMap printField

def printSections : List (String × List (String × Toml)) → List Char
  | [] => []
  | [t] => printSection t
  | t :: ts => printSection t ++ '\n' :: printSections ts

end UsbTransfer.Toml
