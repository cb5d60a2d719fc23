/-! The form of the patterns that texts are held against. What a pattern matches plays no part
here, only whether there can be a machine that matches it. -/

namespace UsbTransfer

namespace Pattern

structure Literal where
  char : Char
  isByte : Bool := false
  deriving DecidableEq, Repr

def Literal.IsAscii (l : Literal) : Prop := l.char.toNat < 128

instance (l : Literal) : Decidable l.IsAscii := inferInstanceAs (Decidable (_ < _))

inductive Switch where
  | ignoreCase
  | linewise
  | anyLine
  | swapGreed
  | unicode
  | carriageReturn
  | verbose
  deriving DecidableEq, Repr

def Switch.ofMark? : Char → Option Switch
  | 'i' => some ignoreCase
  | 'm' => some linewise
  | 's' => some anyLine
  | 'U' => some swapGreed
  | 'u' => some unicode
  | 'R' => some carriageReturn
  | 'x' => some verbose
  | _ => none

abbrev Switches := List (Switch × Bool)

def Switches.apply (s : Switches) (switch : Switch) (state : Bool) : Bool :=
  (s.lookup switch).getD state

inductive Set where
  | empty
  | literal (l : Literal)
  | range (first last : Literal)
  | named (negated : Bool)
  | kind (negated : Bool)
  | bracketed (negated : Bool) (s : Set)
  | union (items : List Set)
  | combined (left right : Set)

def Set.ofItems : List Set → Set
  | [] => empty
  | [s] => s
  | items => union items

end Pattern

open Pattern in
inductive Pattern where
  | empty
  | switches (s : Switches)
  | literal (l : Literal)
  | anything
  | anchor
  | wordBoundary
  | kind (negated : Bool)
  | bracketed (negated : Bool) (s : Set)
  | repeated (p : Pattern)
  | group (s : Switches) (p : Pattern)
  | alternatives (branches : List Pattern)
  | sequence (items : List Pattern)

namespace Pattern

def ofItems : List Pattern → Pattern
  | [] => empty
  | [p] => p
  | items => sequence items

mutual

def Set.depth : Set → Nat
  | bracketed _ s => s.depth + 1
  | union items => Set.depths items + 1
  | combined left right => max left.depth right.depth + 1
  | _ => 0

def Set.depths : List Set → Nat
  | [] => 0
  | s :: items => max s.depth (Set.depths items)

end

mutual

def depth : Pattern → Nat
  | bracketed _ s => s.depth + 1
  | repeated p | group _ p => p.depth + 1
  | alternatives ps | sequence ps => depths ps + 1
  | _ => 0

def depths : List Pattern → Nat
  | [] => 0
  | p :: ps => max p.depth (depths ps)

end

end Pattern

end UsbTransfer
