import UsbTransfer.Host.Basic
import UsbTransfer.Native.Bus

namespace UsbTransfer

structure NativeDevice where
  handle : Nat
  vendor : UInt16
  product : UInt16
  /-- Claimed interfaces, and whether a kernel driver was detached for them. -/
  table : List (UInt8 × Bool) := []
  /-- What the handle itself remembers as claimed. -/
  remembered : List UInt8 := []
  deriving DecidableEq, Repr

structure Link where
  bus : Bus
  devices : List NativeDevice := []
  live : List Nat := []
  attached : Bool := true
  deriving Repr

namespace Link

def start (b : Bus) : Bus × Except UsbError Unit := b.status .init .init

def setDevice (l : Link) (d : Nat) (f : NativeDevice → NativeDevice) : Link :=
  { l with devices := l.devices.modify d f }

def status (l : Link) (c : NativeCall) (e : NativeEntry) : Link × Except UsbError Unit :=
  let (bus, r) := l.bus.status c e
  ({ l with bus }, r)

def open? (l : Link) (vendor product : UInt16) : Link × Except UsbError Nat :=
  match l.bus.open? vendor product with
  | none => (l, .error .notFound)
  | some (bus, handle) =>
    ({ l with bus, devices := l.devices ++ [{ handle, vendor, product }]
              live := l.live ++ [l.devices.length] }, .ok l.devices.length)

/-- Leaves the library once neither the host nor a device uses it. -/
def leave (l : Link) : Link :=
  if l.attached ∨ l.live ≠ [] then l else { l with bus := (l.bus.code .exit .exit).1 }

def handleOf (l : Link) (d : Nat) : Nat := (l.devices[d]?.map (·.handle)).getD 0

def claimOnce (l : Link) (d : Nat) (i : UInt8) : Link × Except UsbError Unit :=
  match l.status .claimInterface (.claim (l.handleOf d) i) with
  | (l, .ok ()) => (l.setDevice d fun x => { x with remembered := x.remembered.insert i }, .ok ())
  | (l, .error e) => (l, .error e)

def releaseOnce (l : Link) (d : Nat) (i : UInt8) : Link × Except UsbError Unit :=
  match l.status .releaseInterface (.release (l.handleOf d) i) with
  | (l, .ok ()) => (l.setDevice d fun x => { x with remembered := x.remembered.erase i }, .ok ())
  | (l, .error e) => (l, .error e)

def enter (l : Link) (d : Nat) (i : UInt8) (detached : Bool) : Link :=
  l.setDevice d fun x => { x with table := x.table ++ [(i, detached)] }

/-- By force a busy interface is claimed again after its kernel driver was asked to leave. -/
def claim (l : Link) (d : Nat) (i : UInt8) (force : Bool) : Link × Except UsbError Unit :=
  match l.claimOnce d i with
  | (l, .ok ()) => (l.enter d i false, .ok ())
  | (l, .error e) =>
    if e = .busy ∧ force then
      let (l, detached) := l.status .detachKernelDriver (.detach (l.handleOf d) i)
      match l.claimOnce d i with
      | (l, .ok ()) => (l.enter d i detached.isOk, .ok ())
      | (l, .error e) => (l, .error e)
    else (l, .error e)

def release (l : Link) (d : Nat) (i : UInt8) : Link × Except UsbError Unit :=
  match l.releaseOnce d i with
  | (l, .ok ()) => (l.setDevice d fun x => { x with table := x.table.filter (·.1 ≠ i) }, .ok ())
  | (l, .error e) => (l, .error e)

def operate (l : Link) (d : Nat) : DeviceOp → Link × Except UsbError Unit
  | .reset => l.status .resetDevice (.reset (l.handleOf d))
  | .clearHalt e => l.status .clearHalt (.clearHalt (l.handleOf d) e)
  | .claim i force => l.claim d i force
  | .release i => l.release d i
  | .setInterface i a => l.status .setInterfaceAltSetting (.setAlternate (l.handleOf d) i a)
  | .setConfiguration c => l.status .setConfiguration (.setConfiguration (l.handleOf d) c)

def giveBack (l : Link) (d : Nat) : List (UInt8 × Bool) → Link
  | [] => l
  | (i, detached) :: rest =>
    let l := (l.releaseOnce d i).1
    giveBack (if detached then (l.status .attachKernelDriver (.attach (l.handleOf d) i)).1 else l) d
      rest

def close (l : Link) (d : Nat) : Link :=
  let table := (l.devices[d]?.map (·.table)).getD []
  (l.setDevice d fun x => { x with table := [] }).giveBack d table

/-- The handle releases what it remembers, lowest interface first, and closes. -/
def abandon (l : Link) (d : Nat) : Link :=
  let remembered := (l.devices[d]?.map (·.remembered)).getD []
  let l := ((List.range 256).filter fun i => UInt8.ofNat i ∈ remembered).foldl
    (fun l i => (l.releaseOnce d (.ofNat i)).1) l
  leave { l with
    bus := (l.bus.code .close (.closed (l.handleOf d))).1, live := l.live.filter (· ≠ d) }

/-- The native form of a descriptor. That of a control transfer finds its length in the setup
stage. -/
def native (l : Link) (raw d : Nat) (x : Transfer) (m : Buffers) : NativeTransfer where
  raw
  handle := l.handleOf d
  kind := match x.shape with
    | .control _ => .control
    | .bulk => .bulk
    | .interrupt => .interrupt
    | .isochronous packets => if packets.isEmpty then .interrupt else .isochronous
  endpoint := match x.shape with
    | .control _ => .control
    | _ => x.endpoint
  timeout := x.timeout
  length := match x.shape with
    | .control _ => SetupPacket.size + SetupPacket.announced (x.bytes m)
    | _ => nativeInt x.length
  packets := List.replicate (nativeInt x.packets.length).toNat { length := .ofNat x.packetLength }
  owner := x

def submit (l : Link) (d : Nat) (x : Transfer) (m : Buffers) :
    Link × Buffers × Option (UsbError × Transfer) :=
  if x.memory = .unbound then (l, m, some (.invalidParam, x))
  else
    match l.bus.allocate (nativeInt x.packets.length) with
    | (bus, none) => ({ l with bus }, m, some (.noMemory, x))
    | (bus, some raw) =>
      let (bus, code) := bus.submit (l.native raw d x m) m
      if code < 0 then ({ l with bus := bus.free raw }, m, some (.ofCode code, x))
      else ({ l with bus }, m, none)

def maxPacket (l : Link) (d : Nat) (e : Endpoint) : Link × Outcome :=
  let (bus, code) := l.bus.code .getMaxIsoPacketSize (.maxPacket (l.handleOf d) e)
  ({ l with bus }, Outcome.ofCode code)

/-- A negative code fails, a positive one ends the pass, and zero delivers what is finished. -/
def poll (l : Link) (m : Buffers) (timeout : Option Nat) : Link × Buffers × Poll :=
  let (bus, m) := if l.bus.auto then l.bus.finishAll m l.bus.pending else (l.bus, m)
  if bus.done.isEmpty ∧ bus.answer? .handleEvents = none then ({ l with bus }, m, .finished [])
  else
    let (bus, code) := bus.code .handleEvents (.events (timeout.map (· * 1000)))
    if code < 0 then ({ l with bus }, m, .failed (.ofCode code))
    else if code = 0 then
      let (bus, finished) := bus.collect
      ({ l with bus }, m, .finished finished)
    else ({ l with bus }, m, .finished [])

instance : Controller Link Nat where
  exchange l d route region timeout :=
    let (bus, result) := l.bus.exchange (l.handleOf d) route region timeout
    some ({ l with bus }, result)
  submit l d x m := l.submit d x m
  poll l m timeout := l.poll m timeout
  ready l := !l.bus.done.isEmpty || (l.bus.answer? .handleEvents).isSome ||
    (l.bus.auto && !l.bus.pending.isEmpty)
  maxPacket l d e := l.maxPacket d e
  operate l d op := l.operate d op
  close l d := l.close d
  abandon l d := l.abandon d
  shutDown l := leave { l with attached := false }
  held l := l.bus.outstanding.map (·.owner)

end Link

def Host.openNative (h : Host Link Nat) (vendor product : UInt16) :
    Host Link Nat × Except HostError Token :=
  match h.controller.open? vendor product with
  | (controller, .error e) => ({ h with controller }, .error (.usb e))
  | (controller, .ok d) =>
    let (h, t) := { h with controller }.adopt d
    (h, .ok t)

end UsbTransfer
