import UsbTransfer.Proofs.Stock

namespace UsbTransfer

theorem Bytes.drop_zeros (n k : Nat) : (zeros n).drop k = zeros (n - k) := List.drop_replicate

theorem Bytes.fill_append (pre rest : Bytes) (n : Nat) (v : UInt8) (hn : n ≤ rest.length) :
    (pre ++ rest).fill pre.length (pre.length + n) v =
      pre ++ List.replicate n v ++ rest.drop n := by
  unfold fill patch
  rw [Nat.add_sub_cancel_left, List.take_left, List.length_append, Nat.add_sub_cancel_left,
    List.length_replicate, List.take_of_length_le (by simpa using hn), List.drop_append,
    List.drop_of_length_le (Nat.le_add_right _ _), Nat.add_sub_cancel_left, List.nil_append]

namespace Simulated

variable {size : UInt32}

theorem received_replicate (size : UInt32) (k i : Nat) :
    received i (List.replicate k size) =
      (List.range' i k).flatMap fun j => List.replicate size.toNat (UInt8.ofNat j) := by
  induction k generalizing i with
  | zero => rfl
  | succ k ih =>
    rw [List.replicate_succ, received, ih (i + 1), List.range'_succ, List.flatMap_cons]

theorem fillPackets_cons_full {i k : Nat} {pre : Bytes} (as : List UInt32)
    (hpre : pre.length = i * size.toNat) (hw : (i + 1) * size.toNat < wordSize) :
    fillPackets size.toNat i (size :: as) (pre ++ .zeros ((k + 1) * size.toNat)) =
      fillPackets size.toNat (i + 1) as
        (pre ++ List.replicate size.toNat (.ofNat i) ++ Bytes.zeros (k * size.toNat)) := by
  have hroom : size.toNat ≤ (k + 1) * size.toNat := Nat.le_mul_of_pos_left _ (Nat.succ_pos k)
  have hrest : (Bytes.zeros ((k + 1) * size.toNat)).drop size.toNat =
      Bytes.zeros (k * size.toNat) := by
    rw [Bytes.drop_zeros, Nat.succ_mul, Nat.add_sub_cancel]
  rw [Nat.succ_mul] at hw
  have hregion : packetRegion size.toNat (pre ++ Bytes.zeros ((k + 1) * size.toNat)).length i
      size.toNat = (i * size.toNat, i * size.toNat + size.toNat) := by
    simp only [packetRegion, List.length_append, Bytes.length_zeros, hpre]
    rw [Nat.mod_eq_of_lt (a := i * size.toNat) (by omega), Nat.mod_eq_of_lt hw,
      Nat.min_eq_left (Nat.add_le_add_left hroom _), Nat.min_self]
  rw [fillPackets, hregion]
  dsimp only
  split
  · rw [← hpre, Bytes.fill_append _ _ _ _ (by simpa using hroom), hrest]
  · -- packets of no bytes leave everything as it is
    have hzero : size.toNat = 0 := by omega
    simp [hzero, Bytes.zeros]

theorem fillPackets_full (size : UInt32) (k i : Nat) (pre : Bytes)
    (hpre : pre.length = i * size.toNat) (hw : (i + k) * size.toNat < wordSize) :
    fillPackets size.toNat i (List.replicate k size) (pre ++ .zeros (k * size.toNat)) =
      pre ++ received i (List.replicate k size) := by
  induction k generalizing i pre with
  | zero => simp [fillPackets, received, Bytes.zeros]
  | succ k ih =>
    have hfirst : (i + 1) * size.toNat < wordSize :=
      Nat.lt_of_le_of_lt (Nat.mul_le_mul_right _ (by omega)) hw
    have hnext : (pre ++ List.replicate size.toNat (UInt8.ofNat i)).length =
        (i + 1) * size.toNat := by
      rw [List.length_append, List.length_replicate, hpre, Nat.succ_mul]
    have hothers : (i + 1 + k) * size.toNat < wordSize := by
      rw [Nat.add_assoc, Nat.add_comm 1]
      exact hw
    rw [List.replicate_succ, fillPackets_cons_full _ hpre hfirst, ih (i + 1) _ hnext hothers,
      received, List.append_assoc]

theorem streamed_full (k : Nat) (hs : 0 < size.toNat) :
    streamed size k (List.replicate k size) = List.replicate k size := by
  have hne : size ≠ 0 := by
    rintro rfl
    exact absurd hs (by decide)
  have hmin : min size size = size :=
    UInt32.toNat.inj (by rw [UInt32.toNat_min, Nat.min_self])
  unfold streamed
  rw [List.take_of_length_le (by simp), List.map_replicate, hmin, List.takeWhile_eq_self_iff]
  intro a ha
  rw [(List.mem_replicate.1 ha).2]
  simpa using hne

end Simulated

namespace Host

variable {h : SimulatedHost} {device : UInt32} {x : Transfer} {b : BufferId} {packets : Nat}
  {size : UInt32}

theorem finished_full (hx : x.shape = .isochronous (List.replicate packets { length := size }))
    (hm : x.memory = .lent b) (hp : 0 < packets) (hs : 0 < size.toNat)
    (hw : packets * size.toNat < wordSize)
    (ha : (h.controller.take (Simulated.answerKey device x)).2 =
      some (.packets (List.replicate packets size)))
    (hb : h.buffers[b]? = some (.zeroed (packets * size.toNat))) :
    (∀ k : SimulatedHost, k.settle (h.finished device x).1 =
        some (.ok (packets * size.toNat), none)) ∧
      (h.finished device x).2[b]? =
        some { bytes := Simulated.received 0 (List.replicate packets size), valid := 0 } := by
  have hkind : x.kind = .isochronous := by rw [Transfer.kind, hx]; rfl
  have hlength : x.packetLength = size.toNat := by
    obtain ⟨k, rfl⟩ := Nat.exists_eq_succ_of_ne_zero (Nat.ne_of_gt hp)
    simp [Transfer.packetLength, Transfer.packets, hx, Shape.packets, List.replicate_succ]
  have hfinished : h.finished device x =
      ((x.mapPackets (Simulated.report (List.replicate packets size))).record .completed 0,
        h.buffers.rewrite b
          (Simulated.fillPackets size.toNat 0 (List.replicate packets size))) := by
    simp only [finished, ha, Simulated.settle, hkind, hlength, Transfer.rewrite,
      Transfer.mapPackets, hm]
  rw [hfinished]
  refine ⟨fun k => ?_, ?_⟩
  · have hdelivered := Simulated.delivered_report size packets (List.replicate packets size)
    rw [Simulated.streamed_full packets hs, List.map_replicate, total,
      List.sum_replicate_nat] at hdelivered
    simp only [settle, Transfer.record, Transfer.mapPackets, hx, Shape.mapPackets,
      Option.getD_some, TransferStatus.outcome, hdelivered]
  · have hfill := Simulated.fillPackets_full size packets 0 [] (by simp) (by simpa using hw)
    rw [List.nil_append, List.nil_append] at hfill
    simp only [Buffers.rewrite, List.getElem?_modify, hb, Storage.zeroed, Option.map_eq_map,
      Option.map_some, if_true, hfill]

theorem read_mark {cell : Storage} {n : Nat} (hb : h.buffers[b]? = some cell)
    (hn : cell.bytes.length = n) :
    (Message.filled (some b) (.ok n)).read (h.mark (some b) (.ok n)).buffers =
      { kind := .isochronous, result := .ok n, data := some cell.bytes, valid := some n } := by
  subst hn
  have hmarked : (h.buffers.setValid b cell.bytes.length)[b]? =
      some { cell with valid := cell.bytes.length } := by
    rw [Buffers.getElem?_setValid hb, Storage.setValid, Storage.capacity, Nat.min_self]
  simp only [Message.read, mark, Except.toOption, Option.getD_some, Option.bind_some, hmarked,
    Option.map_some, Storage.contents, List.take_length]

end Host

end UsbTransfer
