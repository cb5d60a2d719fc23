import UsbTransfer.Text.Hex

namespace UsbTransfer.Toml

theorem length_dropWhile_le (p : Char → Bool) (s : List Char) : (s.dropWhile p).length ≤ s.length :=
  (List.dropWhile_sublist p).length_le

def isBlank (c : Char) : Bool := c = ' ' || c = '\t'

/-- May stand in a comment or a string as it is. -/
def isPlain (c : Char) : Bool := c = '\t' || (' ' ≤ c && c ≠ '\x7f')

def skipBlanks (s : List Char) : List Char := s.dropWhile isBlank

theorem length_skipBlanks_le (s : List Char) : (skipBlanks s).length ≤ s.length :=
  length_dropWhile_le ..

def newline? : List Char → Option (List Char)
  | '\n' :: rest => some rest
  | '\r' :: '\n' :: rest => some rest
  | _ => none

theorem length_newline?_lt {s rest : List Char} (h : newline? s = some rest) :
    rest.length < s.length := by
  unfold newline? at h
  split at h <;> cases h <;> simp only [List.length_cons] <;> omega

def skipComment : List Char → List Char
  | '#' :: rest => rest.dropWhile isPlain
  | s => s

def lineEnd? (s : List Char) : Option (List Char) :=
  match skipComment (skipBlanks s) with
  | [] => some []
  | s => newline? s

def skipLines : List Char → List Char
  | '\r' :: '\n' :: rest => skipLines rest
  | c :: rest => if isBlank c ∨ c = '\n' then skipLines rest else c :: rest
  | [] => []

theorem length_skipLines_le (s : List Char) : (skipLines s).length ≤ s.length := by
  fun_induction skipLines s <;> simp_all <;> omega

def skipSpace : List Char → List Char
  | '\r' :: '\n' :: rest => skipSpace rest
  | '#' :: rest => skipSpace (rest.dropWhile isPlain)
  | c :: rest => if isBlank c ∨ c = '\n' then skipSpace rest else c :: rest
  | [] => []
termination_by s => s.length
decreasing_by
  · simp only [List.length_cons]
    omega
  · have := length_dropWhile_le isPlain rest
    simp only [List.length_cons]
    omega
  · simp only [List.length_cons]
    omega

end UsbTransfer.Toml
