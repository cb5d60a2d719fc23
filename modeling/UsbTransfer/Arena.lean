namespace UsbTransfer

/-- Names one occupancy of one slot. -/
structure Token where
  index : UInt32
  generation : UInt32
  deriving DecidableEq, Repr

def Token.label (t : Token) : String :=
  "dev" ++ toString t.index.toNat ++ "." ++ toString t.generation.toNat

structure Slot (α : Type) where
  generation : UInt32 := 0
  value : Option α
  deriving Repr

/-- Slots that are reused; a slot counts how often it was vacated. -/
structure Arena (α : Type) where
  slots : List (Slot α) := []
  free : List UInt32 := []
  deriving Repr

namespace Arena

variable {α : Type}

def slot? (a : Arena α) (t : Token) : Option (Slot α) :=
  a.slots[t.index.toNat]?.filter (·.generation = t.generation)

def get? (a : Arena α) (t : Token) : Option α := (a.slot? t).bind (·.value)

/-- Takes the slot vacated last, and a new one when none is vacant. -/
def insert (a : Arena α) (v : α) : Arena α × Token :=
  match a.free with
  | i :: rest =>
    ({ slots := a.slots.modify i.toNat ({ · with value := some v }), free := rest },
      ⟨i, (a.slots[i.toNat]?.map (·.generation)).getD 0⟩)
  | [] => ({ a with slots := a.slots ++ [{ value := some v }] }, ⟨.ofNat a.slots.length, 0⟩)

def vacate (a : Arena α) (i : UInt32) : Arena α where
  slots := a.slots.modify i.toNat fun s => { generation := s.generation + 1, value := none }
  free := i :: a.free

def remove (a : Arena α) (t : Token) : Arena α × Option α :=
  match a.get? t with
  | some v => (a.vacate t.index, some v)
  | none => (a, none)

def size (a : Arena α) : Nat := a.slots.length - a.free.length

def tokens (a : Arena α) : List Token :=
  a.slots.zipIdx.filterMap fun (s, i) => s.value.map fun _ => ⟨.ofNat i, s.generation⟩

def values (a : Arena α) : List α := a.slots.filterMap (·.value)

theorem remove_of_get?_eq_none {a : Arena α} {t : Token} (h : a.get? t = none) :
    a.remove t = (a, none) := by
  simp [remove, h]

theorem snd_remove (a : Arena α) (t : Token) : (a.remove t).2 = a.get? t := by
  unfold remove
  split <;> simp_all

end Arena

end UsbTransfer
