import UsbTransfer.UsbError

namespace UsbTransfer

inductive TransferStatus where
  | completed
  | error
  | timedOut
  | cancelled
  | stall
  | noDevice
  | overflow
  | unrecognized (raw : Int32)
  deriving DecidableEq, Repr

namespace TransferStatus

def ofRaw (raw : Int32) : TransferStatus :=
  match raw.toInt with
  | 0 => completed
  | 1 => error
  | 2 => timedOut
  | 3 => cancelled
  | 4 => stall
  | 5 => noDevice
  | 6 => overflow
  | _ => unrecognized raw

def raw : TransferStatus → Int32
  | completed => 0
  | error => 1
  | timedOut => 2
  | cancelled => 3
  | stall => 4
  | noDevice => 5
  | overflow => 6
  | unrecognized raw => raw

def outcome (actual : Nat) : TransferStatus → Outcome
  | completed => .ok actual
  | error => .error .io
  | timedOut => .error .timeout
  | cancelled => .error .interrupted
  | stall => .error .pipe
  | noDevice => .error .noDevice
  | overflow => .error .overflow
  | unrecognized _ => .error .other

def name : TransferStatus → String
  | completed => "Completed"
  | error => "Error"
  | timedOut => "TimedOut"
  | cancelled => "Cancelled"
  | stall => "Stall"
  | noDevice => "NoDevice"
  | overflow => "Overflow"
  | unrecognized _ => "Unrecognized"

theorem outcome_eq_ok_iff {s : TransferStatus} {actual n : Nat} :
    s.outcome actual = .ok n ↔ s = completed ∧ n = actual := by
  cases s <;> simp [outcome, eq_comm]

end TransferStatus

structure IsoPacket where
  length : UInt32
  actual : UInt32 := 0
  status : TransferStatus := .completed
  deriving DecidableEq, Repr

namespace IsoPacket

def cleared (p : IsoPacket) : IsoPacket := { length := p.length }

def report : List (UInt32 × TransferStatus) → List IsoPacket → List IsoPacket
  | (actual, status) :: rs, p :: ps => { p with actual, status } :: report rs ps
  | _, ps => ps

/-- Bytes moved by a packet table: an empty packet ends the stream, whatever follows it. -/
def delivered (packets : List IsoPacket) : Nat :=
  total ((packets.takeWhile (·.actual ≠ 0)).map (·.actual.toNat))

@[simp] theorem cleared_cleared (p : IsoPacket) : p.cleared.cleared = p.cleared := rfl

end IsoPacket

end UsbTransfer
