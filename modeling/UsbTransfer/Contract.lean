import UsbTransfer.HostError

namespace UsbTransfer

inductive Notifier where
  | forward
  | silent
  deriving DecidableEq, Repr

/-- At most one notifier for each kind of transfer. -/
structure Registry where
  control : Option Notifier := none
  bulk : Option Notifier := none
  interrupt : Option Notifier := none
  isochronous : Option Notifier := none
  deriving DecidableEq, Repr

structure Contracts where
  control : Notifier
  bulk : Notifier
  interrupt : Notifier
  isochronous : Notifier
  deriving DecidableEq, Repr

def Contracts.notifier (c : Contracts) : TransferKind → Notifier
  | .control => c.control
  | .bulk => c.bulk
  | .interrupt => c.interrupt
  | .isochronous => c.isochronous

namespace Registry

def standard : Registry := ⟨some .forward, some .forward, some .forward, some .forward⟩

def get? (r : Registry) : TransferKind → Option Notifier
  | .control => r.control
  | .bulk => r.bulk
  | .interrupt => r.interrupt
  | .isochronous => r.isochronous

def set (r : Registry) (k : TransferKind) (n : Notifier) : Registry :=
  match k with
  | .control => { r with control := some n }
  | .bulk => { r with bulk := some n }
  | .interrupt => { r with interrupt := some n }
  | .isochronous => { r with isochronous := some n }

def missing (r : Registry) : List TransferKind := TransferKind.all.filter fun k => (r.get? k).isNone

def resolve (r : Registry) : Except HostError Contracts :=
  match r with
  | ⟨some c, some b, some i, some s⟩ => .ok ⟨c, b, i, s⟩
  | _ => .error (.missingContract (r.missing.headD .control))

theorem mem_missing {r : Registry} {k : TransferKind} : k ∈ r.missing ↔ r.get? k = none := by
  simp [missing, TransferKind.mem_all]

theorem notifier_of_resolve {r : Registry} {c : Contracts} (h : r.resolve = .ok c)
    (k : TransferKind) : r.get? k = some (c.notifier k) := by
  obtain ⟨_ | _, _ | _, _ | _, _ | _⟩ := r <;> simp [resolve] at h
  subst h
  cases k <;> rfl

end Registry

end UsbTransfer
