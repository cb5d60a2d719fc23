namespace UsbTransfer

abbrev Bytes := List UInt8

/-- Sizes and positions are words of 64 bits. -/
def wordSize : Nat := UInt64.size

/-- The product where arithmetic is checked, or the message of the panic if it is no word. -/
def checkedMul (a b : Nat) : Except String Nat :=
  if a * b < wordSize then .ok (a * b) else .error "attempt to multiply with overflow"

/-- The sum of some counts, with the instances of the core library. -/
abbrev total (counts : List Nat) : Nat := @List.sum Nat instAddNat Zero.ofOfNat0 counts

namespace Bytes

def zeros (n : Nat) : Bytes := List.replicate n 0

/-- Overwrites `bytes` from `start` with `data`, dropping what does not fit. -/
def patch (bytes : Bytes) (start : Nat) (data : Bytes) : Bytes :=
  bytes.take start ++ data.take (bytes.length - start) ++ bytes.drop (start + data.length)

def slice (bytes : Bytes) (start stop : Nat) : Bytes := (bytes.take stop).drop start

def fill (bytes : Bytes) (start stop : Nat) (b : UInt8) : Bytes :=
  bytes.patch start (List.replicate (stop - start) b)

def counting (n : Nat) : Bytes := (List.range n).map UInt8.ofNat

@[simp] theorem length_zeros (n : Nat) : (zeros n).length = n := by simp [zeros]

@[simp] theorem length_counting (n : Nat) : (counting n).length = n := by simp [counting]

theorem length_slice (bytes : Bytes) (start stop : Nat) :
    (bytes.slice start stop).length = min stop bytes.length - start := by
  simp [slice]

@[simp] theorem length_patch (bytes data : Bytes) (start : Nat) :
    (bytes.patch start data).length = bytes.length := by
  simp only [patch, List.length_append, List.length_take, List.length_drop]
  omega

@[simp] theorem patch_nil (bytes : Bytes) (start : Nat) : bytes.patch start [] = bytes := by
  simp [patch]

theorem patch_all {bytes data : Bytes} (h : data.length = bytes.length) :
    bytes.patch 0 data = data := by
  simp [patch, ← h]

theorem take_patch (bytes data : Bytes) (start : Nat) :
    (bytes.patch start data).take start = bytes.take start := by
  rw [patch, List.append_assoc, List.take_append, List.take_take, List.length_take, Nat.min_self]
  rcases Nat.le_total start bytes.length with h | h
  · simp [Nat.min_eq_left h]
  · simp [Nat.sub_eq_zero_of_le h, List.drop_eq_nil_of_le (Nat.le_add_right_of_le h)]

theorem drop_patch (bytes data : Bytes) (start : Nat) :
    (bytes.patch start data).drop (start + data.length) = bytes.drop (start + data.length) := by
  apply List.ext_getElem?
  intro i
  simp only [patch, List.getElem?_drop, List.getElem?_append, List.length_append, List.length_take]
  split <;> (try split) <;> grind

end Bytes

structure Region where
  offset : Nat
  length : Nat
  deriving DecidableEq, Repr

namespace Region

def stop (r : Region) : Nat := r.offset + r.length

def Fits (r : Region) (size : Nat) : Prop := r.stop < wordSize ∧ r.stop ≤ size

instance (r : Region) (size : Nat) : Decidable (r.Fits size) :=
  inferInstanceAs (Decidable (_ ∧ _))

def of (r : Region) (buffer : Bytes) : Bytes := buffer.slice r.offset r.stop

theorem length_of {r : Region} {buffer : Bytes} (h : r.Fits buffer.length) :
    (r.of buffer).length = r.length := by
  have := h.2
  simp only [of, Bytes.length_slice, stop] at *
  omega

end Region

end UsbTransfer
