import UsbTransfer.Toml.Character

/-! Strings in double quotes, with escapes, and in single quotes, without. Three quotes make a
string that runs over several lines. -/

namespace UsbTransfer.Toml

def unescape : Char → Option Char
  | 'b' => some '\x08'
  | 't' => some '\t'
  | 'n' => some '\n'
  | 'f' => some '\x0c'
  | 'r' => some '\r'
  | '"' => some '"'
  | '\\' => some '\\'
  | _ => none

def scalar? (digits : List Char) : Option Char := do
  let n ← digits.foldlM (fun n c => (Text.hexValue? c).map (16 * n + ·)) 0
  if n.isValidChar then some (.ofNat n) else none

abbrev Scan := Option (List Char × List Char)

def Scan.push (c : Char) (r : Scan) : Scan := r.map fun (text, rest) => (c :: text, rest)

/-- Behind three quotes up to two more belong to the text. -/
def closing (quote : Char) : List Char → List Char × List Char
  | a :: b :: rest =>
    if a ≠ quote then ([], a :: b :: rest)
    else if b ≠ quote then ([quote], b :: rest)
    else ([quote, quote], rest)
  | [a] => if a = quote then ([quote], []) else ([], [a])
  | [] => ([], [])

def readBasic (many : Bool) : List Char → Scan
  | [] => none
  | '"' :: rest =>
    if many then
      match rest with
      | '"' :: '"' :: rest => some (closing '"' rest)
      | rest => (readBasic many rest).push '"'
    else some ([], rest)
  | '\\' :: e :: rest =>
    match _h : newline? (skipBlanks (e :: rest)) with
    | some after => if many then readBasic many (skipLines after) else none
    | none =>
      if e = 'u' then
        match rest with
        | a :: b :: c :: d :: rest =>
          (scalar? [a, b, c, d]).bind fun x => (readBasic many rest).push x
        | _ => none
      else if e = 'U' then
        match rest with
        | a :: b :: c :: d :: a' :: b' :: c' :: d' :: rest =>
          (scalar? [a, b, c, d, a', b', c', d']).bind fun x => (readBasic many rest).push x
        | _ => none
      else (unescape e).bind fun x => (readBasic many rest).push x
  | '\r' :: '\n' :: rest => if many then (readBasic many rest).push '\n' else none
  | c :: rest =>
    if isPlain c && c ≠ '\\' || many && c = '\n' then (readBasic many rest).push c else none
termination_by s => s.length
decreasing_by
  · simp only [List.length_cons]
    omega
  · have := length_newline?_lt _h
    have := length_skipBlanks_le (e :: rest)
    have := length_skipLines_le after
    simp only [List.length_cons] at *
    omega
  all_goals
    simp only [List.length_cons]
    omega

def readLiteral (many : Bool) : List Char → Scan
  | [] => none
  | '\'' :: rest =>
    if many then
      match rest with
      | '\'' :: '\'' :: rest => some (closing '\'' rest)
      | rest => (readLiteral many rest).push '\''
    else some ([], rest)
  | '\r' :: '\n' :: rest => if many then (readLiteral many rest).push '\n' else none
  | c :: rest => if isPlain c || many && c = '\n' then (readLiteral many rest).push c else none
termination_by s => s.length
decreasing_by all_goals simp only [List.length_cons]; omega

def skipFirstLineEnd (s : List Char) : List Char := (newline? s).getD s

def readString? : List Char → Option Scan
  | '"' :: '"' :: '"' :: rest => some (readBasic true (skipFirstLineEnd rest))
  | '"' :: rest => some (readBasic false rest)
  | '\'' :: '\'' :: '\'' :: rest => some (readLiteral true (skipFirstLineEnd rest))
  | '\'' :: rest => some (readLiteral false rest)
  | _ => none

end UsbTransfer.Toml
