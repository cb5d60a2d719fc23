import UsbTransfer.Bytes

namespace UsbTransfer

/-- Memory that a caller shares with the transfers bound to it. -/
structure Storage where
  bytes : Bytes
  valid : Nat
  deriving DecidableEq, Repr

namespace Storage

def zeroed (capacity : Nat) : Storage := ⟨.zeros capacity, 0⟩

def ofBytes (bytes : Bytes) : Storage := ⟨bytes, bytes.length⟩

def capacity (s : Storage) : Nat := s.bytes.length

def setValid (s : Storage) (n : Nat) : Storage := { s with valid := min n s.capacity }

def write (s : Storage) (start : Nat) (data : Bytes) : Storage :=
  { s with bytes := s.bytes.patch start data }

def contents (s : Storage) : Bytes := s.bytes.take s.valid

theorem valid_setValid_le (s : Storage) (n : Nat) :
    (s.setValid n).valid ≤ (s.setValid n).capacity :=
  Nat.min_le_right ..

@[simp] theorem capacity_setValid (s : Storage) (n : Nat) : (s.setValid n).capacity = s.capacity :=
  rfl

end Storage

structure Cell where
  storage : Storage
  refs : Nat := 1
  deriving Repr

/-- Storages and the references that were given out; a dropped reference is `none`. -/
structure Shelf where
  cells : List Cell := []
  handles : List (Option Nat) := []
  deriving Repr

namespace Shelf

abbrev Handle := Nat

def cellOf? (s : Shelf) (h : Handle) : Option Nat := s.handles[h]?.join

def storage? (s : Shelf) (h : Handle) : Option Storage := do
  let c ← s.cellOf? h
  return (← s.cells[c]?).storage

def refs? (s : Shelf) (h : Handle) : Option Nat := do
  let c ← s.cellOf? h
  return (← s.cells[c]?).refs

def create (s : Shelf) (storage : Storage) : Shelf × Handle :=
  ({ cells := s.cells ++ [{ storage }], handles := s.handles ++ [some s.cells.length] },
    s.handles.length)

def share (s : Shelf) (h : Handle) : Option (Shelf × Handle) := do
  let c ← s.cellOf? h
  return ({ cells := s.cells.modify c fun x => { x with refs := x.refs + 1 },
            handles := s.handles ++ [some c] }, s.handles.length)

def drop (s : Shelf) (h : Handle) : Option Shelf := do
  let c ← s.cellOf? h
  return { cells := s.cells.modify c fun x => { x with refs := x.refs - 1 },
           handles := s.handles.set h none }

def update (s : Shelf) (h : Handle) (f : Storage → Storage) : Option Shelf := do
  let c ← s.cellOf? h
  return { s with cells := s.cells.modify c fun x => { x with storage := f x.storage } }

end Shelf

end UsbTransfer
