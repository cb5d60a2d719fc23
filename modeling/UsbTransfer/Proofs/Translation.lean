import UsbTransfer.Proofs.InForce
import UsbTransfer.Proofs.Mirror
import UsbTransfer.Proofs.Tolerance

namespace UsbTransfer

/-- An empty packet in the table ends the stream, and so does the end of the report: what was not
reported is empty. -/
theorem IsoPacket.delivered_report {rs : List (UInt32 × TransferStatus)} {ps : List IsoPacket}
    (hp : ∀ p ∈ ps, p.actual = 0) (hl : rs.length ≤ ps.length) :
    delivered (report rs ps) = total (((rs.map (·.1)).takeWhile (· ≠ 0)).map (·.toNat)) := by
  induction rs generalizing ps with
  | nil =>
    cases ps with
    | nil => rfl
    | cons p ps => simp [report, delivered, hp p List.mem_cons_self]
  | cons r rs ih =>
    cases ps with
    | nil => simp at hl
    | cons p ps =>
      have hrest := ih (fun q hq => hp q (List.mem_cons_of_mem _ hq)) (Nat.le_of_succ_le_succ hl)
      simp only [delivered] at hrest ⊢
      simp only [report, List.map_cons, List.takeWhile_cons]
      by_cases hr : r.1 = 0
      · simp [hr]
      · simpa [hr] using hrest

namespace Transfer

variable {x : Transfer} {ps : List IsoPacket}

end Transfer

namespace NativeTransfer

variable {n : NativeTransfer}

def moved (n : NativeTransfer) : Nat :=
  total (((n.packets.map (·.actual)).takeWhile (· ≠ 0)).map (·.toNat))

end NativeTransfer

namespace Host

variable {h₀ h h' k : NativeHost} {target : TargetId} {o : Order} {x y : Transfer} {p : Pending}
  {ps : List IsoPacket} {b : BufferId} {cell : Storage}

end Host

end UsbTransfer
