import UsbTransfer.Bytes

namespace UsbTransfer

namespace Config

structure Logging where
  level : String := "info"
  deriving DecidableEq, Repr

structure Transfers where
  /-- Milliseconds for a transfer that names no other time; zero waits forever. -/
  timeout : UInt32 := 1000
  controlBuffer : UInt64 := 256
  deriving DecidableEq, Repr

structure Events where
  /-- Milliseconds that a pass of the pump waits. -/
  pollInterval : UInt64 := 100
  autoStart : Bool := false
  deriving DecidableEq, Repr

structure Isochronous where
  packets : UInt64 := 8
  /-- Taken where an endpoint reports no size of its own. -/
  packetSize : Option UInt64 := none
  deriving DecidableEq, Repr

end Config

structure Config where
  logging : Config.Logging := {}
  transfers : Config.Transfers := {}
  events : Config.Events := {}
  isochronous : Config.Isochronous := {}
  deriving DecidableEq, Repr

namespace Config

def levels : List String := ["trace", "debug", "info", "warn", "error"]

def longestControlStage : Nat := 65535

inductive Fault where
  | unknownLevel (level : String)
  | controlBufferTooLong (length : UInt64)
  | noPollInterval
  | noPackets
  | emptyPackets
  deriving DecidableEq, Repr

def Fault.message : Fault → String
  | unknownLevel level =>
    "Invalid log level '" ++ level ++ "', must be one of: " ++ ", ".intercalate levels
  | controlBufferTooLong n =>
    "control_buffer_size " ++ toString n.toNat ++ " exceeds the maximum control data stage of " ++
      toString longestControlStage ++ " bytes"
  | noPollInterval => "poll_interval_ms must be greater than 0"
  | noPackets => "isochronous default_packets must be greater than 0"
  | emptyPackets => "isochronous packet_size must be greater than 0"

/-- The first fault, in the order of the settings. -/
def fault? (c : Config) : Option Fault :=
  if c.logging.level ∉ levels then some (.unknownLevel c.logging.level)
  else if longestControlStage < c.transfers.controlBuffer.toNat then
    some (.controlBufferTooLong c.transfers.controlBuffer)
  else if c.events.pollInterval = 0 then some .noPollInterval
  else if c.isochronous.packets = 0 then some .noPackets
  else if c.isochronous.packetSize = some 0 then some .emptyPackets
  else none

structure Valid (c : Config) : Prop where
  level : c.logging.level ∈ levels
  controlBuffer : c.transfers.controlBuffer.toNat ≤ longestControlStage
  pollInterval : c.events.pollInterval ≠ 0
  packets : c.isochronous.packets ≠ 0
  packetSize : c.isochronous.packetSize ≠ some 0

theorem fault?_eq_none_iff {c : Config} : c.fault? = none ↔ c.Valid := by
  constructor
  · intro h
    simp only [fault?] at h
    split at h; · simp at h
    split at h; · simp at h
    split at h; · simp at h
    split at h; · simp at h
    split at h; · simp at h
    constructor <;> simp_all
  · rintro ⟨h₁, h₂, h₃, h₄, h₅⟩
    simp [fault?, h₁, Nat.not_lt.2 h₂, h₃, h₄, h₅]

end Config

end UsbTransfer
