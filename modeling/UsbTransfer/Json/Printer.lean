import UsbTransfer.Json.Basic

namespace UsbTransfer.Json

def escape (c : Char) : List Char :=
  if c = '"' then ['\\', '"']
  else if c = '\\' then ['\\', '\\']
  else if c = '\n' then ['\\', 'n']
  else if c = '\r' then ['\\', 'r']
  else if c = '\t' then ['\\', 't']
  else if c = '\x08' then ['\\', 'b']
  else if c = '\x0c' then ['\\', 'f']
  else if c < ' ' then '\\' :: 'u' :: Text.hexPadded 4 c.toNat
  else [c]

def quote (s : String) : List Char := '"' :: s.toList.flatMap escape ++ ['"']

mutual

def print : Json → List Char
  | null => ['n', 'u', 'l', 'l']
  | bool true => ['t', 'r', 'u', 'e']
  | bool false => ['f', 'a', 'l', 's', 'e']
  | int n => Text.decimalInt n
  | real t => t.toList
  | str s => quote s
  | arr [] => ['[', ']']
  | arr (v :: vs) => '[' :: print v ++ printItems vs
  | obj [] => ['{', '}']
  | obj ((k, v) :: fs) => '{' :: quote k ++ ':' :: print v ++ printFields fs
  | malformed => ['n', 'u', 'l', 'l']

def printItems : List Json → List Char
  | [] => [']']
  | v :: vs => ',' :: print v ++ printItems vs

def printFields : List (String × Json) → List Char
  | [] => ['}']
  | (k, v) :: fs => ',' :: quote k ++ ':' :: print v ++ printFields fs

end

def compact (v : Json) : String := String.ofList v.print

def lines : Json → String
  | obj fields =>
    "\x7b\n" ++ ",\n".intercalate (fields.map fun (k, v) =>
      "  " ++ String.ofList (quote k) ++ ": " ++ v.compact) ++ "\n\x7d"
  | v => v.compact

end UsbTransfer.Json
