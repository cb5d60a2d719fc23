import UsbTransfer.Host.Dispatch

namespace UsbTransfer

/-- A loop of passes over the events of one host, which it does not keep alive. -/
structure Pump where
  /-- Milliseconds that a pass waits for events. -/
  interval : Nat := 100
  stopped : Bool := false
  ended : Bool := false
  deriving DecidableEq, Repr

namespace Pump

def threadName : String := "usb-event-pump"

def Running (p : Pump) : Prop := p.stopped = false ∧ p.ended = false

instance (p : Pump) : Decidable p.Running := inferInstanceAs (Decidable (_ ∧ _))

def stop (p : Pump) : Pump := { p with stopped := true }

/-- An error does not end the loop, a crash does. -/
def afterPass (p : Pump) : Pass → Pump
  | .done | .failed _ => p
  | .crashed => { p with ended := true }

def hostGone (p : Pump) : Pump := { p with ended := true }

def start (interval : Nat) : Option Pump → Pump
  | some p => if p.Running then p else { interval }
  | none => { interval }

theorem running_start (interval : Nat) (p : Option Pump) : (start interval p).Running := by
  unfold start
  split
  · split
    · assumption
    · exact ⟨rfl, rfl⟩
  · exact ⟨rfl, rfl⟩

end Pump

end UsbTransfer
