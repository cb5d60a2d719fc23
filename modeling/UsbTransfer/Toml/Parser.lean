import UsbTransfer.Toml.Moment
import UsbTransfer.Toml.Numeral
import UsbTransfer.Toml.Quoted
import UsbTransfer.Toml.Tree

namespace UsbTransfer.Toml

/-- The most parts of a key, and the most values around a value. -/
def limit : Nat := 79

def isBareKey (c : Char) : Bool := c.isAlphanum || c = '_' || c = '-'

def key? : List Char → Option (String × List Char)
  | '"' :: rest => (readBasic false rest).map fun (k, rest) => (String.ofList k, rest)
  | '\'' :: rest => (readLiteral false rest).map fun (k, rest) => (String.ofList k, rest)
  | s =>
    match s.span isBareKey with
    | ([], _) => none
    | (k, rest) => some (String.ofList k, rest)

def path? : Nat → List Char → Option (List String × List Char)
  | 0, _ => none
  | n + 1, s =>
    match key? (skipBlanks s) with
    | none => none
    | some (k, rest) =>
      match skipBlanks rest with
      | '.' :: rest => (path? n rest).map fun (path, rest) => (k :: path, rest)
      | rest => some ([k], rest)

def assignment? (s : List Char) : Option (List String × List Char) :=
  match path? limit s with
  | some (path, '=' :: rest) => some (path, skipBlanks rest)
  | _ => none

def isWordChar (c : Char) : Bool := c.isAlphanum || c ∈ ['+', '-', '_', '.', ':']

def ofWord? (w : List Char) : Option Toml :=
  if w = ['t', 'r', 'u', 'e'] then some (bool true)
  else if w = ['f', 'a', 'l', 's', 'e'] then some (bool false)
  else if isMoment w then some (date (String.ofList w))
  else if isFloat w then some (float (String.ofList w))
  else (integer? w).map int

def word? (s : List Char) : Option (Toml × List Char) :=
  let (w, rest) := s.span isWordChar
  match isDate w, rest with
  | true, ' ' :: c :: rest =>
    if Text.isDigit c then
      let (t, rest) := (c :: rest).span isWordChar
      if isClock t then some (date (String.ofList (w ++ ' ' :: t)), rest) else none
    else some (date (String.ofList w), ' ' :: c :: rest)
  | _, _ => (ofWord? w).map (·, rest)

mutual

/-- Reads one value. The first argument bounds the depth of the calls, the second that of arrays and
inline tables. -/
def value? : Nat → Nat → List Char → Option (Toml × List Char)
  | 0, _, _ => none
  | n + 1, depth, s =>
    match readString? s with
    | some r => r.map fun (text, rest) => (str (String.ofList text), rest)
    | none =>
      match s, depth with
      | '[' :: rest, depth + 1 => (items? n depth rest).map fun (items, rest) => (arr items, rest)
      | '{' :: rest, depth + 1 =>
        match skipBlanks rest with
        | '}' :: rest => some (table [], rest)
        | rest =>
          match fields? n depth rest with
          | some (entries, rest) => (inline? entries).map (·, rest)
          | none => none
      | s, _ => word? s

def items? : Nat → Nat → List Char → Option (List Toml × List Char)
  | 0, _, _ => none
  | n + 1, depth, s =>
    match skipSpace s with
    | ']' :: rest => some ([], rest)
    | s =>
      match value? n depth s with
      | none => none
      | some (v, rest) =>
        match skipSpace rest with
        | ']' :: rest => some ([v], rest)
        | ',' :: rest => (items? n depth rest).map fun (items, rest) => (v :: items, rest)
        | _ => none

def fields? : Nat → Nat → List Char → Option (List (List String × Toml) × List Char)
  | 0, _, _ => none
  | n + 1, depth, s =>
    match assignment? s with
    | none => none
    | some (path, rest) =>
      match value? n depth rest with
      | none => none
      | some (v, rest) =>
        match skipBlanks rest with
        | '}' :: rest => some ([(path, v)], rest)
        | ',' :: rest =>
          (fields? n depth rest).map fun (fields, rest) => ((path, v) :: fields, rest)
        | _ => none

end

def header? (brackets : List Char) (s : List Char) : Option (List String × List Char) :=
  match path? limit s with
  | none => none
  | some (path, rest) =>
    if brackets.isPrefixOf rest then (lineEnd? (rest.drop brackets.length)).map (path, ·) else none

def statement? (s : List Char) : Option (Statement × List Char) :=
  match s with
  | '[' :: '[' :: rest => (header? [']', ']'] rest).map fun (path, rest) => (.row path, rest)
  | '[' :: rest => (header? [']'] rest).map fun (path, rest) => (.table path, rest)
  | s =>
    match assignment? s with
    | none => none
    | some (path, rest) =>
      match value? (rest.length + 1) limit rest with
      | none => none
      | some (v, rest) => (lineEnd? rest).map (.entry path v, ·)

/-- The statements of a text. The first argument bounds the number of lines. -/
def statements? : Nat → List Char → Option (List Statement)
  | 0, _ => none
  | n + 1, s =>
    match skipBlanks s with
    | [] => some []
    | s =>
      match lineEnd? s with
      | some rest => statements? n rest
      | none =>
        match statement? s with
        | none => none
        | some (x, rest) => (statements? n rest).map (x :: ·)

def skipMark : List Char → List Char
  | '\ufeff' :: rest => rest
  | s => s

def parse? (text : String) : Option Toml :=
  let s := skipMark text.toList
  (statements? (s.length + 1) s).bind ofStatements?

end UsbTransfer.Toml
