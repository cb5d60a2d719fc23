import UsbTransfer.Text.Decimal

namespace UsbTransfer

structure Duration where
  seconds : Nat
  nanos : Nat := 0
  deriving DecidableEq, Repr

namespace Duration

def ofMillis (ms : Nat) : Duration := ⟨ms / 1000, ms % 1000 * 1000000⟩

/-- Nanoseconds that make whole seconds count as such. -/
def ofParts (seconds nanos : Nat) : Duration :=
  ⟨seconds + nanos / 1000000000, nanos % 1000000000⟩

def addSeconds (d : Duration) (s : Nat) : Duration := { d with seconds := d.seconds + s }

def label (d : Duration) : String :=
  if 0 < d.seconds then Text.fixedPoint d.seconds 9 d.nanos ++ "s"
  else if 1000000 ≤ d.nanos then Text.fixedPoint (d.nanos / 1000000) 6 (d.nanos % 1000000) ++ "ms"
  else if 1000 ≤ d.nanos then Text.fixedPoint (d.nanos / 1000) 3 (d.nanos % 1000) ++ "µs"
  else toString d.nanos ++ "ns"

def testMillis : Nat := 5000

def timeoutMessage (d : Duration) : String := "Test timed out after " ++ d.label

end Duration

end UsbTransfer
