import UsbTransfer.Proofs.Parking
import UsbTransfer.Proofs.Reference
import Mathlib.Data.List.TakeWhile
import Mathlib.Data.UInt

namespace UsbTransfer

namespace Bytes

theorem getElem?_fill {bytes : Bytes} {start stop : Nat} (h : stop ≤ bytes.length) (v : UInt8)
    (j : Nat) :
    (bytes.fill start stop v)[j]? = if start ≤ j ∧ j < stop then some v else bytes[j]? := by
  unfold fill patch
  rcases Nat.lt_or_ge start stop with hs | hs
  · have hroom : (List.replicate (stop - start) v).take (bytes.length - start) =
        List.replicate (stop - start) v := List.take_of_length_le (by simp; omega)
    have hend : start + (List.replicate (stop - start) v).length = stop := by simp; omega
    have hhead : (bytes.take start).length = start := by simp; omega
    rw [hroom, hend, List.append_assoc, List.getElem?_append, hhead, List.getElem?_append,
      List.length_replicate, List.getElem?_drop]
    by_cases hj : j < start
    · rw [if_pos hj, List.getElem?_take_of_lt hj, if_neg (by omega)]
    · rw [if_neg hj]
      by_cases hk : j - start < stop - start
      · rw [if_pos hk, List.getElem?_replicate_of_lt hk, if_pos (by omega)]
      · rw [if_neg hk, if_neg (by omega)]
        congr 1
        omega
  · have hnone : List.replicate (stop - start) v = [] := by simp; omega
    rw [hnone, if_neg (by omega)]
    simp

end Bytes

namespace Simulated

/-- The packets before the first empty one, by their lengths. -/
def streamed (packetLength : UInt32) (packets : Nat) (actual : List UInt32) : List UInt32 :=
  ((actual.take packets).map (min · packetLength)).takeWhile (· ≠ 0)

/-- What the device wrote for some packets, the first of which is the `i`-th. -/
def received (i : Nat) : List UInt32 → Bytes
  | [] => []
  | a :: as => List.replicate a.toNat (.ofNat i) ++ received (i + 1) as

def Packed (packetLength : Nat) (lengths : List UInt32) : Prop :=
  ∀ a ∈ lengths.dropLast, a.toNat = packetLength

theorem delivered_report_nil (ps : List IsoPacket) : IsoPacket.delivered (report [] ps) = 0 := by
  cases ps <;> simp [IsoPacket.delivered, report, IsoPacket.cleared]

theorem delivered_report (packetLength : UInt32) (packets : Nat) (actual : List UInt32) :
    IsoPacket.delivered (report actual (List.replicate packets { length := packetLength })) =
      total ((streamed packetLength packets actual).map (·.toNat)) := by
  induction packets generalizing actual with
  | zero => cases actual <;> rfl
  | succ packets ih =>
    cases actual with
    | nil => exact delivered_report_nil _
    | cons a as =>
      have hi := ih as
      unfold IsoPacket.delivered streamed at hi ⊢
      simp only [List.replicate_succ, report, List.take_succ_cons, List.map_cons]
      by_cases ha : min a packetLength = 0
      · simp [ha]
      · rw [List.takeWhile_cons_of_pos (by simpa using ha),
          List.takeWhile_cons_of_pos (by simpa using ha)]
        simp only [List.map_cons, List.sum_cons, hi]

theorem length_received (i : Nat) (lengths : List UInt32) :
    (received i lengths).length = total (lengths.map (·.toNat)) := by
  induction lengths generalizing i with
  | nil => rfl
  | cons a as ih => simp [received, ih]

theorem packetRegion_eq {packetLength i : Nat} (size : Nat) (actual : UInt32)
    (hi : (i + 1) * packetLength < wordSize / 2) :
    packetRegion packetLength size i actual.toNat =
      (i * packetLength,
        min (min (i * packetLength + actual.toNat) size) (i * packetLength + packetLength)) := by
  have ha : actual.toNat < 2 ^ 32 := actual.toNat_lt
  have hw : wordSize = 2 ^ 64 := rfl
  rw [Nat.succ_mul] at hi
  simp only [packetRegion]
  rw [Nat.mod_eq_of_lt (a := i * packetLength) (by omega), Nat.mod_eq_of_lt (by omega),
    Nat.mod_eq_of_lt (by omega)]

theorem length_fillPackets (packetLength i : Nat) (actual : List UInt32) (b : Bytes) :
    (fillPackets packetLength i actual b).length = b.length := by
  induction actual generalizing i b with
  | nil => rfl
  | cons a as ih =>
    simp only [fillPackets]
    rw [ih]
    split
    · exact Bytes.length_patch _ _ _
    · rfl

theorem fillPackets_cons {packetLength i : Nat} (hi : (i + 1) * packetLength < wordSize / 2)
    (a : UInt32) (as : List UInt32) (b : Bytes) :
    ∃ b', fillPackets packetLength i (a :: as) b = fillPackets packetLength (i + 1) as b' ∧
      b'.length = b.length ∧ ∀ j : Nat, b'[j]? =
        if i * packetLength ≤ j ∧ j < i * packetLength + packetLength ∧ j < b.length ∧
            j < i * packetLength + a.toNat then some (.ofNat i) else b[j]? := by
  simp only [fillPackets, packetRegion_eq b.length a hi]
  refine ⟨_, rfl, ?_, fun j => ?_⟩
  · split
    · exact Bytes.length_patch _ _ _
    · rfl
  · split
    · rw [Bytes.getElem?_fill (by omega)]
      exact if_congr (by omega) rfl rfl
    · rw [if_neg (by omega)]

theorem getElem?_fillPackets {packetLength : Nat} (hL : 0 < packetLength) (i : Nat)
    (actual : List UInt32) (b : Bytes) (hw : (i + actual.length) * packetLength < wordSize / 2)
    (j : Nat) :
    (fillPackets packetLength i actual b)[j]? =
      if i ≤ j / packetLength ∧ j < b.length ∧
          j % packetLength < (actual.map (·.toNat)).getD (j / packetLength - i) 0 then
        some (.ofNat (j / packetLength))
      else b[j]? := by
  induction actual generalizing i b with
  | nil => simp [fillPackets]
  | cons a as ih =>
    have hfirst : (i + 1) * packetLength < wordSize / 2 :=
      Nat.lt_of_le_of_lt (Nat.mul_le_mul_right _ (by simp)) hw
    have hrest : (i + 1 + as.length) * packetLength < wordSize / 2 := by
      rw [List.length_cons] at hw
      rwa [Nat.add_assoc, Nat.add_comm 1]
    have hj := Nat.div_add_mod j packetLength
    have hmod := Nat.mod_lt j hL
    rw [Nat.mul_comm] at hj
    obtain ⟨b', he, hlen, hwrite⟩ := fillPackets_cons hfirst a as b
    rw [he, ih (i + 1) b' hrest, hlen, hwrite j]
    -- the byte is before this packet's part of the memory, in it, or after it
    rcases Nat.lt_trichotomy (j / packetLength) i with hk | hk | hk
    · have hlt : j < i * packetLength := Nat.lt_mul_of_div_lt hk hL
      rw [if_neg (by omega), if_neg (by omega), if_neg (by omega)]
    · subst hk
      rw [if_neg (by omega), Nat.sub_self]
      exact if_congr (by simp; omega) rfl rfl
    · have hge : (i + 1) * packetLength ≤ j := (Nat.le_div_iff_mul_le hL).1 hk
      rw [Nat.succ_mul] at hge
      rw [if_neg (c := _ ≤ j ∧ _) (by omega)]
      have hsub : j / packetLength - i = j / packetLength - (i + 1) + 1 := by omega
      rw [hsub, List.map_cons, List.getD_cons_succ]
      exact if_congr (by omega) rfl rfl

theorem le_of_mem_streamed {packetLength a : UInt32} {packets : Nat} {actual : List UInt32}
    (ha : a ∈ streamed packetLength packets actual) :
    a.toNat ≤ packetLength.toNat ∧ 0 < a.toNat := by
  have hne : a ≠ 0 := by simpa using List.mem_takeWhile_imp ha
  obtain ⟨c, -, rfl⟩ := List.mem_map.1 ((List.takeWhile_sublist _).subset ha)
  refine ⟨?_, Nat.pos_of_ne_zero fun h0 => hne (UInt32.toNat.inj h0)⟩
  rw [UInt32.toNat_min]
  exact Nat.min_le_right _ _

theorem total_le_of_forall_le {lengths : List UInt32} {n : Nat} (h : ∀ a ∈ lengths, a.toNat ≤ n) :
    total (lengths.map (·.toNat)) ≤ lengths.length * n := by
  induction lengths with
  | nil => simp
  | cons a as ih =>
    have ha := h a List.mem_cons_self
    have has := ih fun b hb => h b (List.mem_cons_of_mem _ hb)
    have hsum : total ((a :: as).map (·.toNat)) = a.toNat + total (as.map (·.toNat)) :=
      List.sum_cons
    rw [hsum, List.length_cons, Nat.succ_mul]
    omega

/-- Inside its part of the memory a packet before the first empty one has its scripted length. -/
theorem lt_getD_streamed_iff {packetLength : UInt32} {packets k r : Nat} {actual : List UInt32}
    (hk : k < (streamed packetLength packets actual).length) (hr : r < packetLength.toNat) :
    r < ((streamed packetLength packets actual).map (·.toNat)).getD k 0 ↔
      r < (actual.map (·.toNat)).getD k 0 := by
  unfold streamed at *
  have hpre := List.takeWhile_prefix (p := fun a => decide (a ≠ 0))
    (l := (actual.take packets).map (min · packetLength))
  have hget := hpre.getElem hk
  have hlt : k < ((actual.take packets).map (min · packetLength)).length :=
    Nat.lt_of_lt_of_le hk hpre.length_le
  have hlt' : k < actual.length := by
    simp only [List.length_map, List.length_take] at hlt
    omega
  simp only [List.getD_eq_getElem?_getD, List.getElem?_map, List.getElem?_eq_getElem hk,
    List.getElem?_eq_getElem hlt', Option.map_some, Option.getD_some, hget, List.getElem_map,
    List.getElem_take, UInt32.toNat_min]
  omega

theorem getElem?_received_of_packed {packetLength : Nat} {lengths : List UInt32} {j : Nat}
    (hle : ∀ a ∈ lengths, a.toNat ≤ packetLength ∧ 0 < a.toNat) (hp : Packed packetLength lengths)
    (hj : j < total (lengths.map (·.toNat))) (i : Nat) :
    (received i lengths)[j]? = some (.ofNat (i + j / packetLength)) ∧
      j % packetLength < (lengths.map (·.toNat)).getD (j / packetLength) 0 := by
  induction lengths generalizing i j with
  | nil => simp at hj
  | cons a as ih =>
    obtain ⟨ha, hpos⟩ := hle a List.mem_cons_self
    have hsum : total ((a :: as).map (·.toNat)) = a.toNat + total (as.map (·.toNat)) :=
      List.sum_cons
    rw [hsum] at hj
    by_cases hlt : j < a.toNat
    · have h0 : j / packetLength = 0 := Nat.div_eq_of_lt (by omega)
      have hm : j % packetLength = j := Nat.mod_eq_of_lt (by omega)
      rw [received, List.getElem?_append_left (by simpa using hlt), h0, hm]
      exact ⟨List.getElem?_replicate_of_lt hlt, hlt⟩
    · have hne : as ≠ [] := by
        rintro rfl
        have hnone : total (([] : List UInt32).map (·.toNat)) = 0 := List.sum_nil
        omega
      obtain ⟨hfull, hrest⟩ : a.toNat = packetLength ∧ Packed packetLength as := by
        simpa [Packed, List.dropLast_cons_of_ne_nil hne] using hp
      obtain ⟨d, rfl⟩ := Nat.exists_eq_add_of_le (Nat.le_of_not_lt hlt)
      have hi :=
        ih (j := d) (fun b hb => hle b (List.mem_cons_of_mem _ hb)) hrest (by omega) (i + 1)
      have hdiv : (a.toNat + d) / packetLength = d / packetLength + 1 := by
        rw [hfull, Nat.add_div_left _ (by omega)]
      have hmod : (a.toNat + d) % packetLength = d % packetLength := by
        rw [hfull, Nat.add_mod_left]
      rw [received, List.getElem?_append_right (by simp), hdiv, hmod]
      refine ⟨?_, hi.2⟩
      rw [List.length_replicate, Nat.add_sub_cancel_left, hi.1]
      congr 2
      omega

/-- The first packet that is short and not the last leaves a gap behind it. -/
theorem exists_gap {packetLength : Nat} {lengths : List UInt32}
    (hle : ∀ a ∈ lengths, a.toNat ≤ packetLength ∧ 0 < a.toNat)
    (hp : ¬ Packed packetLength lengths) : ∃ j < total (lengths.map (·.toNat)),
      (lengths.map (·.toNat)).getD (j / packetLength) 0 ≤ j % packetLength := by
  induction lengths with
  | nil => exact absurd (by simp [Packed]) hp
  | cons a as ih =>
    obtain ⟨ha, hpos⟩ := hle a List.mem_cons_self
    have has : ∀ b ∈ as, b.toNat ≤ packetLength ∧ 0 < b.toNat := fun b hb =>
      hle b (List.mem_cons_of_mem _ hb)
    obtain ⟨b, bs, rfl⟩ : ∃ b bs, as = b :: bs := by
      cases as with
      | nil => exact absurd (by simp [Packed]) hp
      | cons b bs => exact ⟨b, bs, rfl⟩
    have hsum : total ((a :: b :: bs).map (·.toNat)) =
      a.toNat + total ((b :: bs).map (·.toNat)) := List.sum_cons
    by_cases hfull : a.toNat = packetLength
    · have hrest : ¬ Packed packetLength (b :: bs) := fun h => hp (by
        simpa [Packed, hfull] using h)
      obtain ⟨j, hj, hgap⟩ := ih has hrest
      refine ⟨a.toNat + j, by omega, ?_⟩
      rw [hfull, Nat.add_div_left _ (by omega), Nat.add_mod_left, List.map_cons,
        List.getD_cons_succ]
      exact hgap
    · have hb := (has b List.mem_cons_self).2
      have hnext : total ((b :: bs).map (·.toNat)) = b.toNat + total (bs.map (·.toNat)) :=
        List.sum_cons
      refine ⟨a.toNat, by omega, ?_⟩
      rw [Nat.div_eq_of_lt (by omega), Nat.mod_eq_of_lt (by omega), List.map_cons,
        List.getD_cons_zero]

/-- The valid bytes after a read, `prior` being the memory before it: each packet starts at its own
multiple of the packet length, and what is valid ends where all packets would end had they been
written one after another. -/
structure ReadBack (packetLength : Nat) (lengths : List UInt32) (prior contents : Bytes) :
    Prop where
  length : contents.length = total (lengths.map (·.toNat))
  strided : ∀ j < contents.length, contents[j]? =
    if j % packetLength < (lengths.map (·.toNat)).getD (j / packetLength) 0 then
      some (.ofNat (j / packetLength))
    else prior[j]?
  packed : Packed packetLength lengths → contents = received 0 lengths
  gap : ¬ Packed packetLength lengths → ∃ j < contents.length,
    (lengths.map (·.toNat)).getD (j / packetLength) 0 ≤ j % packetLength ∧ contents[j]? = prior[j]?

theorem readBack_nil (packetLength : Nat) (prior : Bytes) : ReadBack packetLength [] prior [] where
  length := rfl
  strided j hj := by simp at hj
  packed _ := rfl
  gap hp := absurd (by simp [Packed]) hp

theorem readBack_of_strided {packetLength : Nat} {lengths : List UInt32} {prior contents : Bytes}
    (hle : ∀ a ∈ lengths, a.toNat ≤ packetLength ∧ 0 < a.toNat)
    (hlen : contents.length = total (lengths.map (·.toNat)))
    (hstrided : ∀ j < contents.length, contents[j]? =
      if j % packetLength < (lengths.map (·.toNat)).getD (j / packetLength) 0 then
        some (.ofNat (j / packetLength))
      else prior[j]?) : ReadBack packetLength lengths prior contents := by
  refine ⟨hlen, hstrided, fun hp => ?_, fun hp => ?_⟩
  · apply List.ext_getElem?
    intro j
    by_cases hj : j < contents.length
    · obtain ⟨hget, hin⟩ := getElem?_received_of_packed (j := j) hle hp (by omega) 0
      rw [hstrided j hj, if_pos hin, hget, Nat.zero_add]
    · rw [List.getElem?_eq_none (by omega),
        List.getElem?_eq_none (by rw [length_received]; omega)]
  · obtain ⟨j, hj, hgap⟩ := exists_gap hle hp
    have hj' : j < contents.length := by omega
    exact ⟨j, hj', hgap, by rw [hstrided j hj', if_neg (by omega)]⟩

theorem length_streamed_le (packetLength : UInt32) (packets : Nat) (actual : List UInt32) :
    (streamed packetLength packets actual).length ≤ packets := by
  have hpre := (List.takeWhile_prefix (fun a => decide (a ≠ 0))
    (l := (actual.take packets).map (min · packetLength))).length_le
  simp only [List.length_map, List.length_take] at hpre
  exact Nat.le_trans hpre (Nat.min_le_left _ _)

theorem readBack_fillPackets {packetLength : UInt32} {packets : Nat} {actual : List UInt32}
    {prior : Bytes} (hfit : packets * packetLength.toNat ≤ prior.length)
    (hw : actual.length * packetLength.toNat < wordSize / 2) :
    total ((streamed packetLength packets actual).map (·.toNat)) ≤ prior.length ∧
      ReadBack packetLength.toNat (streamed packetLength packets actual) prior
        ((fillPackets packetLength.toNat 0 actual prior).take
          (total ((streamed packetLength packets actual).map (·.toNat)))) := by
  have htotal : total ((streamed packetLength packets actual).map (·.toNat)) ≤
      (streamed packetLength packets actual).length * packetLength.toNat :=
    total_le_of_forall_le fun a ha => (le_of_mem_streamed ha).1
  have hroom := Nat.mul_le_mul_right packetLength.toNat
    (length_streamed_le packetLength packets actual)
  refine ⟨by omega, ?_⟩
  generalize hc : List.take _ _ = contents
  have hlen : contents.length = total ((streamed packetLength packets actual).map (·.toNat)) := by
    rw [← hc, List.length_take, length_fillPackets]
    omega
  refine readBack_of_strided (fun a => le_of_mem_streamed) hlen fun j hj => ?_
  have hL : 0 < packetLength.toNat := by
    rcases Nat.eq_zero_or_pos packetLength.toNat with h0 | h0
    · rw [h0] at htotal
      omega
    · exact h0
  have hk : j / packetLength.toNat < (streamed packetLength packets actual).length :=
    (Nat.div_lt_iff_lt_mul hL).2 (by omega)
  have hr := Nat.mod_lt j hL
  rw [← hc, List.getElem?_take_of_lt (by omega), getElem?_fillPackets hL 0 actual prior (by simpa)]
  refine if_congr ?_ rfl rfl
  rw [lt_getD_streamed_iff hk hr, Nat.sub_zero]
  exact ⟨fun h => h.2.2, fun h => ⟨Nat.zero_le _, by omega, h⟩⟩

def filled (packetLength : UInt32) (packets : Nat) : Option Response → List UInt32
  | some (.packets actual) => streamed packetLength packets actual
  | _ => []

theorem settle_of_isochronous {x : Transfer} (hx : x.kind = .isochronous)
    (response : Option Response) (m : Buffers) :
    (∃ actual, response = some (.packets actual) ∧
      settle response x m =
        (((x.mapPackets (report actual)).rewrite m (fillPackets x.packetLength 0 actual)).1.record
            .completed 0,
          ((x.mapPackets (report actual)).rewrite m (fillPackets x.packetLength 0 actual)).2)) ∨
      (∀ packetLength packets, filled packetLength packets response = []) ∧
        ∃ st n, settle response x m = (x.record st n, m) := by
  rcases response with _ | ⟨p | st | actual⟩
  · right
    refine ⟨fun _ _ => rfl, ?_⟩
    cases hd : x.direction <;> simp only [settle, hx, hd] <;> exact ⟨_, _, rfl⟩
  · right
    refine ⟨fun _ _ => rfl, ?_⟩
    cases hd : x.direction <;> simp only [settle, hx, hd] <;> exact ⟨_, _, rfl⟩
  · exact .inr ⟨fun _ _ => rfl, _, _, rfl⟩
  · exact .inl ⟨actual, rfl, by simp only [settle, hx]⟩

theorem delivered_replicate (packets : Nat) (packetLength : UInt32) :
    IsoPacket.delivered (List.replicate packets { length := packetLength }) = 0 := by
  cases packets <;> simp [IsoPacket.delivered, List.replicate_succ]

end Simulated

namespace Buffers

theorem bytes_rewrite_self (m : Buffers) (b : BufferId) {f : Bytes → Bytes} (hf : f [] = []) :
    (m.rewrite b f).bytes b = f (m.bytes b) := by
  unfold bytes rewrite
  rw [List.getElem?_modify]
  cases m[b]? with
  | none => simp [hf]
  | some c => simp

end Buffers

namespace Host

variable {x : Transfer} {packets : Nat} {packetLength : UInt32} {b : BufferId} {n : Nat}
  {data : Option Bytes}

theorem settle_stream
    (hx : x.shape = .isochronous (List.replicate packets { length := packetLength }))
    (hb : x.memory = .lent b) (m : Buffers) (response : Option Response) (k : SimulatedHost)
    (hs : k.settle (Simulated.settle response x m).1 = some (.ok n, data))
    (hfit : packets * packetLength.toNat ≤ (m.bytes b).length)
    (hw : ∀ actual, response = some (.packets actual) →
      actual.length * packetLength.toNat < wordSize / 2) :
    data = none ∧ n ≤ (m.bytes b).length ∧
      ((Simulated.settle response x m).2.bytes b).length = (m.bytes b).length ∧
      Simulated.ReadBack packetLength.toNat (Simulated.filled packetLength packets response)
        (m.bytes b) (((Simulated.settle response x m).2.bytes b).take n) := by
  have hkind : x.kind = .isochronous := by rw [Transfer.kind, hx]; rfl
  rcases Simulated.settle_of_isochronous hkind response m with
    ⟨actual, rfl, he⟩ | ⟨hnone, st, v, he⟩
  · have hrw := Buffers.bytes_rewrite_self m b (f := Simulated.fillPackets x.packetLength 0 actual)
      (List.length_eq_zero_iff.1 (Simulated.length_fillPackets _ _ _ _))
    simp only [Transfer.mapPackets, Transfer.rewrite, hb] at he
    rw [he] at hs ⊢
    simp only [settle, Transfer.record, Option.getD_some, TransferStatus.outcome, hx,
      Shape.mapPackets, Option.some.injEq, Prod.mk.injEq, Except.ok.injEq] at hs
    obtain ⟨rfl, rfl⟩ := hs
    rw [Simulated.delivered_report, hrw, Simulated.length_fillPackets]
    obtain ⟨hn, hread⟩ := Simulated.readBack_fillPackets hfit (hw actual rfl)
    refine ⟨rfl, hn, rfl, ?_⟩
    cases packets with
    | zero =>
      have hempty : Simulated.streamed packetLength 0 actual = [] := rfl
      rw [Simulated.filled, hempty]
      exact Simulated.readBack_nil _ _
    | succ packets =>
      have hL : x.packetLength = packetLength.toNat := by
        simp only [Transfer.packetLength, Transfer.packets, hx, Shape.packets, List.replicate_succ,
          List.head?_cons, Option.map_some, Option.getD_some]
      rw [hL]
      exact hread
  · rw [he] at hs ⊢
    have hdel := Simulated.delivered_replicate packets packetLength
    cases ho : st.outcome v with
    | error e => simp [settle, Transfer.record, ho] at hs
    | ok w =>
      simp only [settle, Transfer.record, Option.getD_some, ho, hx, hdel, Option.some.injEq,
        Prod.mk.injEq, Except.ok.injEq] at hs
      obtain ⟨rfl, rfl⟩ := hs
      rw [hnone]
      exact ⟨rfl, Nat.zero_le _, rfl, Simulated.readBack_nil _ _⟩

theorem deliveryOf_filled (k : SimulatedHost) {p : Pending} {cell : Storage}
    (hx : x.kind = .isochronous) (hp : p.buffer = some b) (hc : k.buffers[b]? = some cell)
    (hn : n ≤ cell.bytes.length) (data : Option Bytes) :
    k.deliveryOf x p (.ok n) data =
      { transfer := x.id, target := p.target, notifier := p.contracts.notifier .isochronous
        completion :=
          { kind := .isochronous, data := some (cell.bytes.take n), result := .ok n
            valid := some n } } := by
  have hmark : (k.mark (some b) (.ok n)).buffers[b]? = some { cell with valid := n } := by
    simp [mark, Buffers.setValid, hc, Except.toOption, Storage.setValid, Storage.capacity,
      Nat.min_eq_left hn]
  simp [deliveryOf, completion, hp, Message.read, hmark, hx, Storage.contents]

theorem result_deliveryOf (k : SimulatedHost) (x : Transfer) (p : Pending) (result : Outcome)
    (data : Option Bytes) : (k.deliveryOf x p result data).completion.result = result := by
  simp only [deliveryOf, completion]
  split <;> rfl

theorem owed_run {h h' : SimulatedHost} {history : List Note} {y : Transfer} (hr : Run h history h')
    (hy : y ∈ h.owed) : y ∈ h'.owed ∨ y.id ∈ h'.deliveries.map (·.transfer) := by
  induction hr with
  | refl => exact .inl hy
  | snoc _ hm ih =>
    rcases ih with hy | hd
    · rcases owed_move hm hy with hy | ⟨p, result, data, -, -, he⟩
      · exact .inl hy
      · exact .inr (by rw [he]; simp [deliveryOf])
    · exact .inr (((deliveries_move hm).map _).subset hd)

theorem notified_owed {h h' k : SimulatedHost} {history later : List Note} {y : Transfer}
    {d : Delivery} (hl : Ledger history h') (hr : Run h later h') (hy : y ∈ h.owed)
    (hm : Move h' (.notified d) k) (hid : d.transfer = y.id) :
    ∃ p result data, y.pending = some p ∧ h'.settle y = some (result, data) ∧
      d = h'.deliveryOf y p result data := by
  cases hm with
  | @deliver x rest p result data hb hp hs =>
    obtain ⟨-, hnodup, hdisj⟩ := List.nodup_append.1 hl.nodup_ids
    have hx : x ∈ h'.owed := by simp [owed, hb]
    rcases owed_run hr hy with hy | hy
    · obtain rfl : x = y := List.inj_on_of_nodup_map hnodup hx hy hid
      exact ⟨p, result, data, hp, hs, rfl⟩
    · exact absurd hid.symm (hdisj _ hy _ (List.mem_map_of_mem hx))

section Accepted

variable {h h' : SimulatedHost} {target : TargetId} {id : StreamId} {s : Stream} {timeout : UInt32}

theorem stream_accepted (hi : h.streams[id]? = some s)
    (hp : h.place target (.stream id b timeout) = (h', .done)) :
    ∃ contracts connection c slot, h.admission s.token = .ok (contracts, connection, c) ∧
      s.capacity ≤ h.buffers.capacity b ∧ s.slot = some slot ∧
      h' = h.queued c.device (h.rebind target contracts connection id b timeout slot) := by
  obtain ⟨device, y, hd, rfl⟩ := queued_of_done hp
  cases hd with
  | @stream _ _ _ s' contracts connection c slot hi' ha hcap hslot =>
    obtain rfl : s' = s := by simpa [hi] using hi'.symm
    exact ⟨contracts, connection, c, slot, ha, hcap, hslot, rfl⟩

theorem toNat_ofNat_le (n : Nat) : (UInt32.ofNat n).toNat ≤ n := by
  rw [UInt32.toNat_ofNat']
  exact Nat.mod_le _ _

theorem room_of_capacity (hfit : s.packets * s.packetLength < wordSize)
    (hcap : s.capacity ≤ h.buffers.capacity b) :
    s.packets * (UInt32.ofNat s.packetLength).toNat ≤ (h.buffers.bytes b).length := by
  rw [Stream.capacity, Nat.mod_eq_of_lt hfit] at hcap
  exact Nat.le_trans (Nat.mul_le_mul_left _ (toNat_ofNat_le _)) hcap

end Accepted

theorem stream_read_back {h₁ h₂ h₃ h₄ : SimulatedHost} {earlier later : List Note} {id : StreamId}
    {s : Stream} {target : TargetId} {timeout : UInt32} {key : UInt32 × Endpoint} {d : Delivery}
    {cell : Storage} (h₁run : Run fresh earlier h₁) (hi : h₁.streams[id]? = some s)
    (hfit : s.packets * s.packetLength < wordSize)
    (hkey : h₁.answerKey? (.stream id b timeout) = some key)
    (hw : ∀ actual, (h₁.controller.take key).2 = some (.packets actual) →
      actual.length * s.packetLength < wordSize / 2)
    (hp : h₁.place target (.stream id b timeout) = (h₂, .done)) (hr : Run h₂ later h₃)
    -- nobody has written to the buffer since
    (hc : h₃.buffers[b]? = some cell) (hkept : cell.bytes = h₂.buffers.bytes b)
    (hm : Move h₃ (.notified d) h₄) (hid : d.transfer = h₁.nextTransfer)
    (hn : d.completion.result = .ok n) :
    ∃ contracts contents, d =
        { transfer := h₁.nextTransfer, target
          notifier := contracts.notifier .isochronous
          completion :=
            { kind := .isochronous, data := some contents, result := .ok n, valid := some n } } ∧
      h₁.contracts = some contracts ∧ contents.length = n ∧
      Simulated.ReadBack (UInt32.ofNat s.packetLength).toNat
        (Simulated.filled (.ofNat s.packetLength) s.packets (h₁.controller.take key).2)
        (h₁.buffers.bytes b) contents := by
  have hslots := slots_fresh.run h₁run
  obtain ⟨contracts, connection, c, slot, ha, hcap, hslot, rfl⟩ := stream_accepted hi hp
  have hd : h₁.Drafts target (.stream id b timeout) c.device _ := .stream hi ha hcap hslot
  have hroom := room_of_capacity hfit hcap
  have hshape : slot.shape =
      .isochronous (List.replicate s.packets { length := .ofNat s.packetLength }) := by
    rw [parked_eq hslots (tidy_fresh.run h₁run) hi hslot]
    rfl
  have hplace := Move.place h₁ target (.stream id b timeout)
  rw [hp] at hplace
  have hl := ledger_of_run (h₁run.trans (.cons hplace hr))
  obtain rfl := Option.some.inj (hkey.symm.trans (hd.answerKey?_eq hslots))
  have hframe :=
    h₁.frame_finished c.device (h₁.rebind target contracts connection id b timeout slot)
  obtain ⟨p, result, data, hpend, hset, rfl⟩ :=
    notified_owed hl hr (h₁.queued_mem_owed c.device _) hm
    (hid.trans (Transfer.id_of_frame hframe).symm)
  rw [Transfer.pending_of_frame hframe] at hpend
  obtain rfl := Option.some.inj hpend
  obtain rfl : result = .ok n := (result_deliveryOf _ _ _ _ _).symm.trans hn
  obtain ⟨-, hle, hlen, hread⟩ := settle_stream
    (x := h₁.rebind target contracts connection id b timeout slot) hshape rfl h₁.buffers _ h₃
    hset hroom fun actual ha =>
      Nat.lt_of_le_of_lt (Nat.mul_le_mul_left _ (toNat_ofNat_le _)) (hw actual ha)
  have hbytes : cell.bytes = (Simulated.settle _ _ _).2.bytes b := hkept
  have hkind : (h₁.finished c.device
      (h₁.rebind target contracts connection id b timeout slot)).1.kind = .isochronous := by
    rw [Transfer.kind_of_frame hframe]
    exact congrArg Shape.kind hshape
  rw [← hbytes] at hlen hread
  refine ⟨contracts, cell.bytes.take n, ?_, contracts_of_admission ha, ?_, hread⟩
  · rw [deliveryOf_filled (b := b) h₃ hkind rfl hc (by omega) data, Transfer.id_of_frame hframe]
    rfl
  · rw [List.length_take]
    omega

/-- A stream whose first packet will be short, and a buffer that has been used before. -/
def gapped : List Act :=
  [.upkeep (.resolve .standard), .upkeep (.adopt 1), .upkeep (.setPacketSize 1 ⟨0x82⟩ 4),
    .allocate ⟨0, 0⟩ ⟨0x82⟩ 2 none, .upkeep (.addBuffer (.ofBytes (List.replicate 8 0xaa))),
    .upkeep (.addTarget .recorder), .script 1 ⟨0x82⟩ (.packets [2, 4])]

/-- The two bytes between the packets are from before the transfer, and the last two received bytes
are missing. -/
theorem gapped_stale :
    (after (gapped ++ [.place 0 (.stream 0 0 0), .processEvents (fun _ _ => {}) none])).seen 0 =
        [{ kind := .isochronous, data := some [0, 0, 0xaa, 0xaa, 1, 1], result := .ok 6
           valid := some 6 }] ∧
      Simulated.received 0 [2, 4] = [0, 0, 1, 1, 1, 1] := by
  decide

theorem gapped_read_back :
    ∃ earlier h₂ h₃ h₄ d, Run fresh earlier (after gapped) ∧
      (after gapped).place 0 (.stream 0 0 0) = (h₂, .done) ∧ Run h₂ [.polled] h₃ ∧
      Move h₃ (.notified d) h₄ ∧ d.completion.data = some [0, 0, 0xaa, 0xaa, 1, 1] ∧
      Simulated.ReadBack 4 [2, 4] (List.replicate 8 0xaa) [0, 0, 0xaa, 0xaa, 1, 1] := by
  obtain ⟨earlier, hr, -⟩ := after_run gapped
  have hi : (after gapped).streams[0]? = some
      { token := ⟨0, 0⟩, endpoint := ⟨0x82⟩, packets := 2, packetLength := 4
        slot := some (Transfer.ofPackets 1 ⟨0x82⟩ 2 4) } := by decide
  have hp : (after gapped).place 0 (.stream 0 0 0) =
    (((after gapped).place 0 (.stream 0 0 0)).1, .done) := Prod.ext rfl (by decide)
  have hkey : (after gapped).answerKey? (.stream 0 0 0) = some (1, ⟨0x82⟩) := by decide
  have hanswer : ((after gapped).controller.take (1, ⟨0x82⟩)).2 = some (.packets [2, 4]) := by
    decide
  have hw : ∀ actual, ((after gapped).controller.take (1, ⟨0x82⟩)).2 = some (.packets actual) →
      actual.length * 4 < wordSize / 2 := by
    intro actual ha
    obtain rfl : [2, 4] = actual := by simpa [hanswer] using ha
    decide
  have hempty : ((after gapped).place 0 (.stream 0 0 0)).1.batch = [] := by decide
  -- the queue is one transfer, and polling makes it the batch
  obtain ⟨h₃, hpoll, x, p, hb, hpend, hs, hc, hid, hdata⟩ :
      ∃ h₃, Move ((after gapped).place 0 (.stream 0 0 0)).1 .polled h₃ ∧
        ∃ x p, h₃.batch = [x] ∧ x.pending = some p ∧ h₃.settle x = some (.ok 6, none) ∧
          h₃.buffers[0]? = some ⟨[0, 0, 0xaa, 0xaa, 1, 1, 1, 1], 8⟩ ∧ x.id = 2 ∧
          (h₃.deliveryOf x p (.ok 6) none).completion.data = some [0, 0, 0xaa, 0xaa, 1, 1] :=
    ⟨_, .poll hempty, _, _, rfl, rfl, by decide, by decide, by decide, by decide⟩
  have hm := Move.deliver hb hpend hs
  obtain ⟨contracts, contents, hd, -, -, hread⟩ := stream_read_back hr hi (by decide) hkey hw hp
    (.single hpoll) hc (by decide) hm hid (result_deliveryOf _ _ _ _ _)
  obtain rfl : contents = [0, 0, 0xaa, 0xaa, 1, 1] := by
    rw [hd] at hdata
    exact Option.some.inj hdata
  have hprior : (after gapped).buffers.bytes 0 = List.replicate 8 0xaa := by decide
  rw [hanswer, hprior] at hread
  exact ⟨earlier, _, h₃, _, _, hr, hp, .single hpoll, hm, hdata, hread⟩

end Host

end UsbTransfer
