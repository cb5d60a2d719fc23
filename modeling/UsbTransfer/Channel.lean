import UsbTransfer.HostError

namespace UsbTransfer

/-- A bounded queue with counted ends. A message sent into a full queue waits for room. -/
structure Channel (α : Type) where
  queue : List α := []
  waiting : List α := []
  senders : Nat := 1
  receivers : Nat := 1
  deriving Repr

namespace Channel

variable {α : Type}

def bound : Nat := 256

def IsFull (c : Channel α) : Prop := bound ≤ c.queue.length

instance (c : Channel α) : Decidable c.IsFull := inferInstanceAs (Decidable (_ ≤ _))

def closedForSending : HostError := .channel "sending into a closed channel"

def closedForReceiving : HostError := .channel "receiving from an empty and closed channel"

def send (c : Channel α) (message : α) : Channel α × Except HostError Unit :=
  if c.receivers = 0 then (c, .error closedForSending)
  else if c.IsFull then ({ c with waiting := c.waiting ++ [message] }, .ok ())
  else ({ c with queue := c.queue ++ [message] }, .ok ())

def receive? (c : Channel α) : Option (Channel α × α) :=
  match c.queue with
  | [] => none
  | m :: queue =>
    some ({ c with queue := queue ++ c.waiting.take 1, waiting := c.waiting.drop 1 }, m)

/-- `none` while an empty channel still has a sender. -/
def receive (c : Channel α) : Option (Channel α × Except HostError α) :=
  match c.receive? with
  | some (c, m) => some (c, .ok m)
  | none => if c.senders = 0 then some (c, .error closedForReceiving) else none

def dropReceiver (c : Channel α) : Channel α :=
  let receivers := c.receivers - 1
  { c with receivers, waiting := if receivers = 0 then [] else c.waiting }

def dropSender (c : Channel α) : Channel α := { c with senders := c.senders - 1 }

end Channel

end UsbTransfer
