import UsbTransfer.Host.Submit

namespace UsbTransfer

structure Reaction where
  orders : List Order := []
  leaves : Bool := false
  panics : Bool := false
  deriving DecidableEq, Repr

/-- The reaction of a target to its next completion, given how many it has seen. -/
abbrev Reactions := TargetId → Nat → Reaction

inductive Pass where
  | done
  | failed (error : UsbError)
  | crashed
  deriving DecidableEq, Repr

namespace Host

variable {κ δ : Type} [Controller κ δ]

/-- A target that has let go of the host cannot submit any more. -/
def react (h : Host κ δ) (target : TargetId) : List Order → Host κ δ
  | [] => h
  | o :: rest =>
    let (h, a) := if h.owned then h.place target o else (h, .noHost)
    (h.log (.answered target a)).react target rest

def completion (h : Host κ δ) (kind : TransferKind) (data : Option Bytes) (buffer : Option BufferId)
    (result : Outcome) : Completion :=
  match buffer with
  | none => { kind, data, result }
  | some _ => (Message.filled buffer result).read h.buffers

def announce (h : Host κ δ) (id : TransferId) (p : Pending) (kind : TransferKind)
    (data : Option Bytes) (result : Outcome) : Host κ δ :=
  let notifier := p.contracts.notifier kind
  let completion := h.completion kind data p.buffer result
  let h := h.log (.notified { transfer := id, target := p.target, notifier, completion })
  match notifier, h.channel? p.target with
  | .forward, some c =>
    let m := if kind = .isochronous then .filled p.buffer result else .received kind data result
    h.setChannel p.target (c.send m).1
  | _, _ => h

/-- A channel does nothing of its own, nor does a target that does not hear of its completion. -/
def reaction (reactions : Reactions) (h : Host κ δ) (p : Pending) (kind : TransferKind) :
    Reaction :=
  match p.contracts.notifier kind, h.channel? p.target with
  | .forward, none => reactions p.target (h.seen p.target).length
  | _, _ => {}

def respond (h : Host κ δ) (target : TargetId) (r : Reaction) : Host κ δ :=
  let h := h.react target r.orders
  { h with owned := h.owned && !r.leaves }

/-- Runs the contract of the kind. `true` if the target panicked. -/
def notify (reactions : Reactions) (h : Host κ δ) (id : TransferId) (p : Pending)
    (kind : TransferKind) (data : Option Bytes) (result : Outcome) : Host κ δ × Bool :=
  let r := h.reaction reactions p kind
  ((h.announce id p kind data result).respond p.target r, r.panics)

/-- Status, result and received bytes of a finished transfer. The packet table of an isochronous
transfer tells how many bytes moved. `none` if the bytes cannot be cut out. -/
def settle (h : Host κ δ) (x : Transfer) : Option (Outcome × Option Bytes) :=
  match (x.status.getD (.unrecognized (-1))).outcome x.actual with
  | .error e => some (.error e, none)
  | .ok actual =>
    match x.shape with
    | .isochronous packets => some (.ok (IsoPacket.delivered packets), none)
    | _ =>
      if x.direction = .deviceToHost then
        (x.received? h.buffers actual).map fun d => (.ok actual, some d)
      else some (.ok actual, none)

def mark (h : Host κ δ) (buffer : Option BufferId) (result : Outcome) : Host κ δ :=
  match buffer with
  | none => h
  | some b => { h with buffers := h.buffers.setValid b (result.toOption.getD 0) }

def retire (h : Host κ δ) (x : Transfer) (slot : Option StreamId) : Host κ δ :=
  (match x.reusable, slot with
    | true, some s => h.park s x
    | _, _ => h).reap? x.connection

/-- Delivers one finished transfer. The descriptor is back in its slot before the target hears of
it, and a panic of the target ends here. `false` if the dispatcher itself cannot go on. -/
def dispatch (reactions : Reactions) (h : Host κ δ) (x : Transfer) : Host κ δ × Bool :=
  match x.pending with
  | none => (h.reap? x.connection, true)
  | some p =>
    match h.settle x with
    | none => (h.reap? x.connection, false)
    | some (result, data) =>
      let h := (h.mark p.buffer result).retire x p.park
      ((h.notify reactions x.id p x.kind data result).1, true)

/-- Delivers a batch in order. What is left of it after a crash is lost. -/
def dispatchAll (reactions : Reactions) (h : Host κ δ) : List Transfer → Host κ δ × Bool
  | [] => ({ h with batch := [] }, true)
  | x :: rest =>
    match dispatch reactions { h with batch := rest } x with
    | (h, true) => dispatchAll reactions h rest
    | (h, false) =>
      (rest.foldl (fun h x => h.reap? x.connection) { h with batch := [] }, false)

def processEvents (reactions : Reactions) (h : Host κ δ) (timeout : Option Nat) : Host κ δ × Pass :=
  match Controller.poll h.controller h.buffers timeout with
  | (controller, buffers, .failed e) => ({ h with controller, buffers }, .failed e)
  | (controller, buffers, .crashed) => ({ h with controller, buffers }, .crashed)
  | (controller, buffers, .finished batch) =>
    match dispatchAll reactions { h with controller, buffers, batch } batch with
    | (h, true) => (h, .done)
    | (h, false) => (h, .crashed)

end Host

end UsbTransfer
