import UsbTransfer.Pattern.Parser

/-! Which patterns a machine can be built for. Texts are valid and no properties of characters
are at hand beyond ASCII. -/

namespace UsbTransfer.Pattern

/-- How a pattern is read at a place, and whether a boundary of a word was met for which a
character beyond ASCII decides. -/
structure Mode where
  unicode : Bool := true
  ignoreCase : Bool := false
  wideBoundary : Bool := false
  deriving DecidableEq, Repr

def Mode.switch (m : Mode) (s : Switches) : Mode :=
  { m with
    unicode := s.apply .unicode m.unicode
    ignoreCase := s.apply .ignoreCase m.ignoreCase }

def Mode.leave (m outer : Mode) : Mode := { outer with wideBoundary := m.wideBoundary }

/-- Without cases of characters nothing can be read in disregard of them. -/
def Mode.hasCharacters (m : Mode) : Bool := m.unicode && !m.ignoreCase

mutual

/-- A set of bytes must not leave ASCII, since it could then match in the midst of a character. -/
def Set.isSound (m : Mode) : Set → Bool
  | empty => true
  | literal l => m.hasCharacters || (!m.unicode && l.IsAscii)
  | range first last => m.hasCharacters || (!m.unicode && first.IsAscii && last.IsAscii)
  | named negated => m.hasCharacters || (!m.unicode && !negated)
  | kind negated => !m.unicode && !negated
  | bracketed negated s => s.isSound m && (m.unicode || !negated)
  | union items => Set.areSound m items
  | combined left right => left.isSound m && right.isSound m

def Set.areSound (m : Mode) : List Set → Bool
  | [] => true
  | s :: items => s.isSound m && Set.areSound m items

end

mutual

/-- How a pattern is read behind this one, if a machine can be built so far. -/
def walk? (m : Mode) : Pattern → Option Mode
  | empty | anchor => some m
  | switches s => some (m.switch s)
  | literal l =>
    if m.hasCharacters || (!m.unicode && (!l.isByte || l.IsAscii)) then some m else none
  | anything => if m.unicode then some m else none
  | wordBoundary => some { m with wideBoundary := m.wideBoundary || m.unicode }
  | kind negated => if !m.unicode && !negated then some m else none
  | bracketed negated s => if (Set.bracketed negated s).isSound m then some m else none
  | repeated p => walk? m p
  | group s p => (walk? (m.switch s) p).map (·.leave m)
  | alternatives ps | sequence ps => walkAll? m ps

def walkAll? (m : Mode) : List Pattern → Option Mode
  | [] => some m
  | p :: ps => (walk? m p).bind fun m => walkAll? m ps

end

inductive Fault where
  | unreadable
  | wideBoundary
  deriving DecidableEq, Repr

def Fault.message : Fault → String
  | unreadable => "error building NFA"
  | wideBoundary => "unsupported regex feature for DFAs: cannot build DFAs for regexes with " ++
      "Unicode word boundaries; switch to ASCII word boundaries, or heuristically enable " ++
      "Unicode word boundaries or use a different regex engine"

def fault? (s : List Char) : Option Fault :=
  match (parse? s).bind (walk? {}) with
  | none => some .unreadable
  | some m => if m.wideBoundary then some .wideBoundary else none

end UsbTransfer.Pattern
