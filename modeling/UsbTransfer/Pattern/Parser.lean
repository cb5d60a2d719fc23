import UsbTransfer.Pattern.Basic
import UsbTransfer.Text.Hex
import UsbTransfer.Text.Letter

/-! Reading of patterns that hold no closing brace. A brace that opens a count, a name or a number
is therefore never closed. -/

namespace UsbTransfer.Pattern

def skipRemarks (inComment : Bool) : List Char → List Char
  | [] => []
  | c :: s =>
    if inComment then skipRemarks (c ≠ '\n') s
    else if Text.isBlank c then skipRemarks false s
    else if c = '#' then skipRemarks true s
    else c :: s

/-- A verbose pattern may hold blanks and comments between its parts. -/
def skip (verbose : Bool) (s : List Char) : List Char :=
  if verbose then skipRemarks false s else s

def codePoint? (verbose : Bool) : Nat → Nat → List Char → Option (Char × List Char)
  | 0, n, s => if n.isValidChar then some (Char.ofNat n, s) else none
  | digits + 1, n, s =>
    match skip verbose s with
    | c :: rest => (Text.hexValue? c).bind fun d => codePoint? verbose digits (16 * n + d) rest
    | [] => none

def control? : Char → Option Char
  | 'a' => some '\x07'
  | 't' => some '\t'
  | 'n' => some '\n'
  | 'v' => some '\x0b'
  | 'f' => some '\x0c'
  | 'r' => some '\r'
  | _ => none

/-- What stands behind a backslash. Letters and digits have meanings of their own there, or none. -/
def escape? (verbose : Bool) : List Char → Option (Pattern × List Char)
  | [] => none
  | 'x' :: s => (codePoint? verbose 2 0 s).map fun (c, rest) => (literal ⟨c, true⟩, rest)
  | 'u' :: s => (codePoint? verbose 4 0 s).map fun (c, rest) => (literal ⟨c, false⟩, rest)
  | 'U' :: s => (codePoint? verbose 8 0 s).map fun (c, rest) => (literal ⟨c, false⟩, rest)
  | c :: s =>
    if c ∈ ['d', 's', 'w'] then some (kind false, s)
    else if c ∈ ['D', 'S', 'W'] then some (kind true, s)
    else if c ∈ ['A', 'z'] then some (anchor, s)
    else if c ∈ ['b', 'B', '<', '>'] then some (wordBoundary, s)
    else if c.isAlphanum || '\x7f' < c then (control? c).map fun c => (literal ⟨c, false⟩, s)
    else some (literal ⟨c, false⟩, s)

def setNames : List String :=
  ["alnum", "alpha", "ascii", "blank", "cntrl", "digit", "graph", "lower", "print", "punct",
    "space", "upper", "word", "xdigit"]

def named? : List Char → Option (Bool × List Char)
  | ':' :: '^' :: s => (name? s).map (true, ·)
  | ':' :: s => (name? s).map (false, ·)
  | _ => none
where
  name? (s : List Char) : Option (List Char) :=
    match s.span (· ≠ ':') with
    | (name, ':' :: ']' :: rest) => if String.ofList name ∈ setNames then some rest else none
    | _ => none

def setItem? (verbose : Bool) : List Char → Option (Set × List Char)
  | [] => none
  | '\\' :: s =>
    match escape? verbose s with
    | some (literal l, rest) => some (.literal l, rest)
    | some (kind negated, rest) => some (.kind negated, rest)
    | _ => none
  | c :: s => some (.literal ⟨c, false⟩, s)

/-- The character that decides whether a hyphen in front of it makes a range. A number sign in
front of that is passed over, but not the comment it begins. -/
def behindHyphen (verbose : Bool) (s : List Char) : Option Char :=
  if verbose then
    match s.dropWhile Text.isBlank with
    | '#' :: rest => ((rest.dropWhile Text.isBlank).head?).or s.head?
    | [] => s.head?
    | c :: _ => some c
  else s.head?

def setRange? (verbose : Bool) (s : List Char) : Option (Set × List Char) :=
  match setItem? verbose s with
  | none => none
  | some (first, rest) =>
    match skip verbose rest with
    | '-' :: rest =>
      if behindHyphen verbose rest = some ']' ∨ behindHyphen verbose rest = some '-' then
        some (first, '-' :: rest)
      else
        match first, setItem? verbose (skip verbose rest) with
        | .literal a, some (.literal b, rest) =>
          if a.char ≤ b.char then some (.range a b, rest) else none
        | _, _ => none
    | rest => some (first, rest)

/-- What stands to the left of an operator, with the items behind it, the last one first. -/
def Set.close (left : Option Set) (items : List Set) : Set :=
  match left with
  | none => ofItems items.reverse
  | some l => combined l (ofItems items.reverse)

def opening (verbose : Bool) (s : List Char) : Bool × List Char :=
  match skip verbose s with
  | '^' :: rest => (true, rest)
  | rest => (false, rest)

/-- Reads on in a set up to its end. `leading` while hyphens stand for themselves, and a closing
bracket too if nothing stands in front of it. -/
def set? (verbose : Bool) :
    Nat → Bool → Option Set → List Set → List Char → Option (Set × List Char)
  | 0, _, _, _, _ => none
  | n + 1, leading, left, items, s =>
    match leading, skip verbose s with
    | true, '-' :: rest => set? verbose n true left (.literal ⟨'-', false⟩ :: items) rest
    | leading, ']' :: rest =>
      if leading && items.isEmpty then set? verbose n false left [.literal ⟨']', false⟩] rest
      else some (Set.close left items, rest)
    | _, '[' :: rest =>
      match named? rest with
      | some (negated, rest) => set? verbose n false left (.named negated :: items) rest
      | none =>
        let (negated, rest) := opening verbose rest
        match set? verbose n true none [] rest with
        | some (s, rest) => set? verbose n false left (.bracketed negated s :: items) rest
        | none => none
    | _, '&' :: '&' :: rest | _, '-' :: '-' :: rest | _, '~' :: '~' :: rest =>
      set? verbose n false (some (Set.close left items)) [] rest
    | _, s =>
      match setRange? verbose s with
      | some (s, rest) => set? verbose n false left (s :: items) rest
      | none => none

def switches? (marks : List Char) : Option Switches :=
  let (on, off) := marks.span (· ≠ '-')
  if off = ['-'] ∨ ¬ (on ++ off.drop 1).Nodup then none
  else do
    let on ← on.mapM Switch.ofMark?
    let off ← (off.drop 1).mapM Switch.ofMark?
    return on.map (·, true) ++ off.map (·, false)

def isName : List Char → Bool
  | [] => false
  | c :: s =>
    (c = '_' || Text.isAlphabetic c) &&
      s.all fun c => c = '_' || c = '.' || c = '[' || c = ']' || Text.isAlphanumeric c

structure Cursor where
  rest : List Char
  names : List (List Char) := []
  verbose : Bool := false

inductive Opening where
  | group (s : Switches)
  | switches (s : Switches)

/-- What stands behind a parenthesis. Nothing can look ahead or behind. -/
def Cursor.opening? (c : Cursor) : Option (Opening × Cursor) :=
  match skip c.verbose c.rest with
  | '?' :: 'P' :: '<' :: s | '?' :: '<' :: s =>
    match s.span (· ≠ '>') with
    | (name, _ :: rest) =>
      if isName name && name ∉ c.names then
        some (.group [], { c with rest, names := name :: c.names })
      else none
    | _ => none
  | '?' :: s =>
    match s.span fun m => m ≠ ':' && m ≠ ')' with
    | (marks, ':' :: rest) => (switches? marks).map (.group ·, { c with rest })
    | ([], _) => none
    | (marks, _ :: rest) => (switches? marks).map (.switches ·, { c with rest })
    | _ => none
  | rest => some (.group [], { c with rest })

def close (branches items : List Pattern) : Pattern :=
  match branches with
  | [] => ofItems items.reverse
  | _ => alternatives (ofItems items.reverse :: branches).reverse

def read? : Nat → List Pattern → List Pattern → Cursor → Option (Pattern × Cursor)
  | 0, _, _, _ => none
  | n + 1, branches, items, c =>
    match skip c.verbose c.rest with
    | [] => some (close branches items, { c with rest := [] })
    | ')' :: rest => some (close branches items, { c with rest := ')' :: rest })
    | '|' :: rest => read? n (ofItems items.reverse :: branches) [] { c with rest }
    | '(' :: rest =>
      match Cursor.opening? { c with rest } with
      | none => none
      | some (.switches s, d) =>
        read? n branches (switches s :: items) { d with verbose := s.apply .verbose c.verbose }
      | some (.group s, d) =>
        match read? n [] [] { d with verbose := s.apply .verbose c.verbose } with
        | some (p, ⟨')' :: rest, names, _⟩) =>
          read? n branches (group s p :: items) { c with rest, names }
        | _ => none
    | '[' :: rest =>
      let (negated, rest) := opening c.verbose rest
      match set? c.verbose (rest.length + 1) true none [] rest with
      | some (s, rest) => read? n branches (bracketed negated s :: items) { c with rest }
      | none => none
    | '{' :: _ => none
    | '*' :: rest | '+' :: rest | '?' :: rest =>
      let rest := if rest.head? = some '?' then rest.drop 1 else rest
      match items with
      | [] | switches _ :: _ => none
      | p :: items => read? n branches (repeated p :: items) { c with rest }
    | '\\' :: rest =>
      match escape? c.verbose rest with
      | some (p, rest) => read? n branches (p :: items) { c with rest }
      | none => none
    | '.' :: rest => read? n branches (anything :: items) { c with rest }
    | '^' :: rest | '$' :: rest => read? n branches (anchor :: items) { c with rest }
    | l :: rest => read? n branches (literal ⟨l, false⟩ :: items) { c with rest }

def depthLimit : Nat := 250

def parse? (s : List Char) : Option Pattern :=
  match read? (s.length + 1) [] [] { rest := s } with
  | some (p, c) => if c.rest = [] ∧ p.depth ≤ depthLimit then some p else none
  | none => none

end UsbTransfer.Pattern
