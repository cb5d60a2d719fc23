import UsbTransfer.Bytes

namespace UsbTransfer

inductive UsbError where
  | io
  | invalidParam
  | access
  | noDevice
  | notFound
  | busy
  | timeout
  | overflow
  | pipe
  | interrupted
  | noMemory
  | notSupported
  | other
  deriving DecidableEq, Repr

namespace UsbError

def all : List UsbError :=
  [io, invalidParam, access, noDevice, notFound, busy, timeout, overflow, pipe, interrupted,
    noMemory, notSupported, other]

def name : UsbError → String
  | io => "Io"
  | invalidParam => "InvalidParam"
  | access => "Access"
  | noDevice => "NoDevice"
  | notFound => "NotFound"
  | busy => "Busy"
  | timeout => "Timeout"
  | overflow => "Overflow"
  | pipe => "Pipe"
  | interrupted => "Interrupted"
  | noMemory => "NoMemory"
  | notSupported => "NotSupported"
  | other => "Other"

def ofName? (s : String) : Option UsbError := all.find? (·.name == s)

def message : UsbError → String
  | io => "Input/output error"
  | invalidParam => "Invalid parameter"
  | access => "Access denied (insufficient permissions)"
  | noDevice => "No such device (it may have been disconnected)"
  | notFound => "Entity not found"
  | busy => "Resource busy"
  | timeout => "Operation timed out"
  | overflow => "Overflow"
  | pipe => "Pipe error"
  | interrupted => "System call interrupted"
  | noMemory => "Insufficient memory"
  | notSupported => "Operation not supported or unimplemented on this platform"
  | other => "Other error"

def code : UsbError → Int
  | io => -1
  | invalidParam => -2
  | access => -3
  | noDevice => -4
  | notFound => -5
  | busy => -6
  | timeout => -7
  | overflow => -8
  | pipe => -9
  | interrupted => -10
  | noMemory => -11
  | notSupported => -12
  | other => -99

def ofCode (c : Int) : UsbError := (all.find? (·.code == c)).getD other

@[simp] theorem ofCode_code (e : UsbError) : ofCode e.code = e := by cases e <;> rfl

theorem code_neg (e : UsbError) : e.code < 0 := by cases e <;> decide

@[simp] theorem ofName?_name (e : UsbError) : ofName? e.name = some e := by cases e <;> decide

end UsbError

abbrev Outcome := Except UsbError Nat

namespace Outcome

instance : DecidableEq Outcome
  | .ok a, .ok b => decidable_of_iff (a = b) (by simp)
  | .error a, .error b => decidable_of_iff (a = b) (by simp)
  | .ok _, .error _ => .isFalse (by simp)
  | .error _, .ok _ => .isFalse (by simp)

/-- One signed word of 64 bits for both: a count from `2 ^ 63` on wraps to a negative number. -/
def code : Outcome → Int
  | .ok n => Int.bmod n wordSize
  | .error e => e.code

def ofCode (c : Int) : Outcome := if c < 0 then .error (UsbError.ofCode c) else .ok c.toNat

@[simp] theorem ofCode_code_error (e : UsbError) : ofCode (code (.error e)) = .error e := by
  simp [ofCode, code, e.code_neg]

theorem code_of_lt {n : Nat} (hn : n < wordSize / 2) : code (.ok n) = n := by
  have hw : wordSize = 2 ^ 64 := rfl
  rw [hw] at hn
  rw [code, hw]
  exact Int.bmod_eq_of_le (by omega) (by omega)

theorem code_of_le {n : Nat} (hn : wordSize / 2 ≤ n) (hword : n < wordSize) :
    code (.ok n) = n - wordSize := by
  have hw : wordSize = 2 ^ 64 := rfl
  rw [hw] at hn hword ⊢
  rw [code, hw, ← Int.sub_bmod_right]
  exact Int.bmod_eq_of_le (by omega) (by omega)

end Outcome

end UsbTransfer
