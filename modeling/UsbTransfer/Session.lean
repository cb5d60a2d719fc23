import UsbTransfer.Host.Blocking
import UsbTransfer.Pump

namespace UsbTransfer

inductive Thread where
  | waiting (call : Call)
  | finished (buffer : Bytes) (result : Except HostError Nat)
  deriving Repr

def Thread.isWaiting : Thread → Bool
  | waiting _ => true
  | finished .. => false

structure Session (κ δ : Type) where
  host : Host κ δ
  interval : Nat := 100
  alive : Bool := true
  pump : Option Pump := none
  others : List (Option Pump) := []
  threads : List Thread := []
  guards : List (Option ConnectionId) := []

namespace Session

variable {κ δ : Type}

def isPumpRunning (s : Session κ δ) : Bool := s.pump.any (·.Running)

def startPump (s : Session κ δ) : Session κ δ := { s with pump := some (.start s.interval s.pump) }

/-- Waits for the loop to end. -/
def stopPump (s : Session κ δ) : Session κ δ := { s with pump := none }

def addPump (s : Session κ δ) (interval : Nat) : Session κ δ × Nat :=
  ({ s with others := s.others ++ [some { interval, ended := !s.alive }] }, s.others.length)

def updatePump (s : Session κ δ) (i : Nat) (f : Pump → Pump) : Session κ δ :=
  { s with others := s.others.modify i (·.map f) }

def dropPump (s : Session κ δ) (i : Nat) : Session κ δ := { s with others := s.others.set i none }

def otherPump? (s : Session κ δ) (i : Nat) : Option Pump := s.others[i]?.join

def blocked (s : Session κ δ) : Nat := s.threads.countP (·.isWaiting)

def beginDrain (s : Session κ δ) (t : Token) : Session κ δ × Except HostError Nat :=
  match s.host.beginDrain t with
  | (host, .error e) => ({ s with host }, .error e)
  | (host, .ok id) => ({ s with host, guards := s.guards ++ [some id] }, .ok s.guards.length)

def dropGuard (s : Session κ δ) (g : Nat) : Session κ δ :=
  match s.guards[g]?.join with
  | none => s
  | some id => { s with host := s.host.endDrain id, guards := s.guards.set g none }

variable [Controller κ δ]

/-- The host goes with the last reference: the owner's, or that of a call inside it. -/
def letGo (s : Session κ δ) : Session κ δ :=
  if s.alive ∧ s.host.owned = false ∧ s.blocked = 0 then
    { s with
      host := s.host.shutDown, alive := false, pump := none
      others := s.others.map (·.map .hostGone) }
  else s

def dropHost (s : Session κ δ) : Session κ δ :=
  letGo { s with host := { s.host with owned := false } }

def processEvents (reactions : Reactions) (s : Session κ δ) (timeout : Option Nat) :
    Session κ δ × Pass :=
  let (host, pass) := s.host.processEvents reactions timeout
  (letGo { s with host }, pass)

def passOf (reactions : Reactions) (s : Session κ δ) (p : Pump)
    (put : Pump → Session κ δ → Session κ δ) : Session κ δ :=
  let (host, pass) := s.host.processEvents reactions (some p.interval)
  letGo (put (p.afterPass pass) { s with host })

/-- The host's own pump goes first. -/
def pumpOnce (reactions : Reactions) (s : Session κ δ) : Option (Session κ δ) :=
  if s.alive = false ∨ Controller.ready s.host.controller = false then none
  else
    match s.pump.filter (·.Running) with
    | some p => some (s.passOf reactions p fun p s => { s with pump := some p })
    | none =>
      (s.others.findIdx? (·.any (·.Running))).bind fun i =>
        (s.otherPump? i).map fun p => s.passOf reactions p fun p s => s.updatePump i fun _ => p

/-- Lets the pumps run until there is nothing to do for them, for at most so many passes. -/
def settle (reactions : Reactions) : Nat → Session κ δ → Session κ δ
  | 0, s => s
  | n + 1, s =>
    match s.pumpOnce reactions with
    | none => s
    | some s => s.settle reactions n

def enter (s : Session κ δ) (c : Call) : Session κ δ × Thread :=
  match s.host.run c with
  | none => (s, .waiting c)
  | some (host, buffer, result) => ({ s with host }, .finished buffer result)

def spawn (s : Session κ δ) (t : Token) (r : Request) : Session κ δ × Nat :=
  let (s, thread) := match s.host.call t r with
    | .error e => (s, Thread.finished r.buffer (.error e))
    | .ok c => s.enter c
  ({ s with threads := s.threads ++ [thread] }, s.threads.length)

def resume (s : Session κ δ) : Session κ δ :=
  letGo <| (List.range s.threads.length).foldl (fun (s : Session κ δ) (i : Nat) =>
    match s.threads[i]? with
    | some (.waiting c) =>
      let (s, thread) := s.enter c
      { s with threads := s.threads.set i thread }
    | _ => s) s

end Session

end UsbTransfer
