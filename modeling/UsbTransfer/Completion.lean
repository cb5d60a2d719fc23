import UsbTransfer.Transfer
import UsbTransfer.Channel

namespace UsbTransfer

/-- A completion as its target sees it. For an isochronous transfer the data are the valid bytes of
the buffer at that moment. -/
structure Completion where
  kind : TransferKind
  data : Option Bytes
  result : Outcome
  valid : Option Nat := none
  deriving DecidableEq, Repr

/-- A completion as a channel carries it: an isochronous one keeps the buffer, not its bytes. -/
inductive Message where
  | received (kind : TransferKind) (data : Option Bytes) (result : Outcome)
  | filled (buffer : Option BufferId) (result : Outcome)
  deriving DecidableEq, Repr

namespace Message

def read (m : Buffers) : Message → Completion
  | received kind data result => { kind, data, result }
  | filled b result =>
    { kind := .isochronous, result
      data := b.bind fun b => m[b]?.map (·.contents)
      valid := b.bind fun b => m[b]?.map (·.valid) }

def refersTo (b : BufferId) : Message → Bool
  | received .. => false
  | filled buffer _ => buffer = some b

end Message

/-- Adds a completion to what a recording target has seen, if its contract forwards it. -/
def Contracts.record (c : Contracts) (seen : List Completion) (x : Completion) : List Completion :=
  match c.notifier x.kind with
  | .forward => seen ++ [x]
  | .silent => seen

end UsbTransfer
