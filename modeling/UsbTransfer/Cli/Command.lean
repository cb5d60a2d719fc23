import UsbTransfer.Disk
import UsbTransfer.Transfer

namespace UsbTransfer.Cli

inductive Pipe where
  | bulk
  | interrupt
  deriving DecidableEq, Repr

namespace Pipe

def kind : Pipe → TransferKind
  | bulk => .bulk
  | interrupt => .interrupt

def route : Pipe → Endpoint → Route
  | bulk => .bulk
  | interrupt => .interrupt

def defaultLength : Pipe → Nat
  | bulk => 64
  | interrupt => 8

end Pipe

structure ControlCommand where
  requestType : UInt8
  request : UInt8
  value : UInt16
  index : UInt16
  length : Option UInt16 := none
  data : Option Bytes := none
  asynchronous : Bool := false
  deriving DecidableEq, Repr

structure PipeCommand where
  pipe : Pipe
  endpoint : Endpoint
  length : Nat
  data : Option Bytes := none
  asynchronous : Bool := false
  deriving DecidableEq, Repr

structure PacketCommand where
  endpoint : Endpoint
  packets : Option Nat := none
  packetSize : Option Nat := none
  deriving DecidableEq, Repr

inductive Command where
  | control (c : ControlCommand)
  | pipe (c : PipeCommand)
  | packets (c : PacketCommand)
  | reset
  | clearStall (endpoint : Endpoint)
  deriving DecidableEq, Repr

namespace Command

def IsAsynchronous : Command → Prop
  | control c => c.asynchronous = true
  | pipe c => c.asynchronous = true
  | packets _ => True
  | reset | clearStall _ => False

instance (c : Command) : Decidable c.IsAsynchronous := by
  cases c <;> simp only [IsAsynchronous] <;> infer_instance

end Command

structure Options where
  config : Option Path := none
  saveConfig : Bool := false
  logLevel : Option String := none
  device : Option (UInt16 × UInt16) := none
  simulate : Bool := false
  timeout : Option UInt32 := none
  deriving DecidableEq, Repr

structure Invocation where
  options : Options := {}
  command : Option Command := none
  deriving DecidableEq, Repr

end UsbTransfer.Cli
