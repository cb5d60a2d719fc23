import UsbTransfer.Proofs.Placement

namespace UsbTransfer

namespace Transfer

/-- What a controller leaves as it is. -/
def frame (x : Transfer) : Transfer :=
  { x with
    memory := .unbound, status := none, actual := 0
    shape := x.shape.mapPackets (·.map IsoPacket.cleared) }

variable {x y : Transfer}

theorem id_of_frame (h : y.frame = x.frame) : y.id = x.id := by
  have hid : y.frame.id = x.frame.id := by rw [h]
  exact hid

theorem pending_of_frame (h : y.frame = x.frame) : y.pending = x.pending := by
  have hp : y.frame.pending = x.frame.pending := by rw [h]
  exact hp

theorem timeout_of_frame (h : y.frame = x.frame) : y.timeout = x.timeout := by
  have ht : y.frame.timeout = x.frame.timeout := by rw [h]
  exact ht

theorem slot?_of_frame (h : y.frame = x.frame) : y.slot? = x.slot? := by
  simp only [slot?, pending_of_frame h]

theorem cleared_eq_frame (x : Transfer) :
    x.cleared = { x.frame with pending := none, connection := none } := rfl

theorem cleared_of_frame (h : y.frame = x.frame) : y.cleared = x.cleared := by
  rw [cleared_eq_frame, cleared_eq_frame, h]

theorem shape_of_frame (h : y.frame = x.frame) :
    y.shape.mapPackets (·.map IsoPacket.cleared) =
      x.shape.mapPackets (·.map IsoPacket.cleared) := by
  have hs : y.frame.shape = x.frame.shape := by rw [h]
  exact hs

theorem header_of_frame (h : y.frame = x.frame) : y.header = x.header := by
  have hs := shape_of_frame h
  unfold header
  cases hy : y.shape <;> cases hx : x.shape <;> simp_all [Shape.mapPackets]

theorem kind_of_frame (h : y.frame = x.frame) : y.kind = x.kind := by
  have hs := shape_of_frame h
  unfold kind
  cases hy : y.shape <;> cases hx : x.shape <;> simp_all [Shape.mapPackets, Shape.kind]

theorem direction_of_frame (h : y.frame = x.frame) : y.direction = x.direction := by
  have hs := shape_of_frame h
  have he : y.endpoint = x.endpoint := by
    have hf : y.frame.endpoint = x.frame.endpoint := by rw [h]
    exact hf
  unfold direction
  cases hy : y.shape <;> cases hx : x.shape <;> simp_all [Shape.mapPackets]

theorem frame_rewrite (x : Transfer) (m : Buffers) (f : Bytes → Bytes) :
    (x.rewrite m f).1.frame = x.frame := by
  unfold rewrite
  split <;> rfl

end Transfer

namespace Simulated

theorem map_cleared_report (actual : List UInt32) (ps : List IsoPacket) :
    (report actual ps).map IsoPacket.cleared = ps.map IsoPacket.cleared := by
  induction ps generalizing actual with
  | nil => cases actual <;> rfl
  | cons p ps ih =>
    cases actual with
    | nil =>
      simp only [report, List.map_cons, IsoPacket.cleared_cleared]
      rw [ih]
    | cons a actual =>
      simp only [report, List.map_cons, IsoPacket.cleared]
      exact congrArg _ (ih actual)

theorem frame_mapPackets_report (x : Transfer) (actual : List UInt32) :
    (x.mapPackets (report actual)).frame = x.frame := by
  obtain ⟨_, shape, _⟩ := x
  cases shape <;> simp [Transfer.mapPackets, Transfer.frame, Shape.mapPackets, map_cleared_report]

theorem frame_settle (response : Option Response) (x : Transfer) (m : Buffers) :
    (settle response x m).1.frame = x.frame := by
  unfold settle
  split
  · rfl
  · exact (Transfer.frame_rewrite _ _ _).trans (frame_mapPackets_report x _)
  · rfl
  · exact Transfer.frame_rewrite x m _
  · rfl
  · rfl

theorem actual_settle_le (response : Option Response) (x : Transfer) (m : Buffers) :
    (settle response x m).1.actual ≤ x.length - x.header := by
  unfold settle
  split <;> simp only [Transfer.record, Nat.zero_le, Nat.le_refl, Nat.min_le_right]

end Simulated

end UsbTransfer
