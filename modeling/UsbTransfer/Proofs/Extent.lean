import UsbTransfer.Proofs.Stock

namespace UsbTransfer

namespace Simulated

theorem getElem?_fillPackets_of_outside {packetLength j : Nat} (i : Nat) (actual : List UInt32)
    (b : Bytes) (hj : ∀ (k : Nat) a, actual[k]? = some a →
      ¬ ((packetRegion packetLength b.length (i + k) a.toNat).1 ≤ j ∧
        j < (packetRegion packetLength b.length (i + k) a.toNat).2)) :
    (fillPackets packetLength i actual b)[j]? = b[j]? := by
  induction actual generalizing i b with
  | nil => rfl
  | cons a as ih =>
    have hfirst := hj 0 a rfl
    have hrest : ∀ (k : Nat) c, as[k]? = some c →
        ¬ ((packetRegion packetLength b.length (i + 1 + k) c.toNat).1 ≤ j ∧
          j < (packetRegion packetLength b.length (i + 1 + k) c.toNat).2) := by
      intro k c hk
      have hnext := hj (k + 1) c hk
      rwa [Nat.add_comm k 1, ← Nat.add_assoc] at hnext
    have hsize : (packetRegion packetLength b.length i a.toNat).2 ≤ b.length :=
      Nat.le_trans (Nat.min_le_left _ _) (Nat.min_le_right _ _)
    rw [Nat.add_zero] at hfirst
    simp only [fillPackets]
    split
    · rw [ih, Bytes.getElem?_fill hsize, if_neg hfirst]
      rwa [Bytes.fill, Bytes.length_patch]
    · exact ih (i + 1) b hrest

theorem packetRegion_le {packetLength packets k : Nat} (size actual : Nat) (hk : k < packets) :
    (packetRegion packetLength size k actual).2 ≤ packets * packetLength := by
  have hstop : (packetRegion packetLength size k actual).2 ≤
      (k * packetLength % wordSize + packetLength) % wordSize := Nat.min_le_right _ _
  refine Nat.le_trans hstop (Nat.le_trans (Nat.mod_le _ _) ?_)
  calc k * packetLength % wordSize + packetLength
      ≤ k * packetLength + packetLength := Nat.add_le_add_right (Nat.mod_le _ _) _
    _ = (k + 1) * packetLength := (Nat.succ_mul _ _).symm
    _ ≤ packets * packetLength := Nat.mul_le_mul_right _ hk

theorem getElem?_fillPackets_of_le {packetLength packets j : Nat} {actual : List UInt32}
    (hl : actual.length ≤ packets) (hj : packets * packetLength ≤ j) (b : Bytes) :
    (fillPackets packetLength 0 actual b)[j]? = b[j]? := by
  refine getElem?_fillPackets_of_outside 0 actual b fun k a hk hin => ?_
  have hlt : 0 + k < packets := by
    have := (List.getElem?_eq_some_iff.1 hk).1
    omega
  have hle : (packetRegion packetLength b.length (0 + k) a.toNat).2 ≤ packets * packetLength :=
    packetRegion_le b.length a.toNat hlt
  omega

end Simulated

namespace Buffers

theorem bytes_setValid (m : Buffers) (b c : BufferId) (n : Nat) :
    (m.setValid b n).bytes c = m.bytes c := by
  unfold bytes setValid
  rw [List.getElem?_modify]
  cases m[c]? with
  | none => rfl
  | some cell =>
    by_cases hbc : b = c
    · simp [hbc, Storage.setValid]
    · simp [hbc]

end Buffers

namespace Host

variable {h h' h₁ h₂ : SimulatedHost} {earlier : List Note} {d : Delivery} {target : TargetId}
  {id : StreamId} {s : Stream} {b : BufferId} {timeout : UInt32} {key : UInt32 × Endpoint}

structure Extent (h : SimulatedHost) (s : Stream) (b : BufferId) (answer : Option Response)
    (h' : SimulatedHost) : Prop where
  others : ∀ c ≠ b, h'.buffers[c]? = h.buffers[c]?
  length : (h'.buffers.bytes b).length = (h.buffers.bytes b).length
  still : (∀ actual, answer ≠ some (.packets actual)) → h'.buffers = h.buffers
  within : ∀ actual, answer = some (.packets actual) → actual.length ≤ s.packets →
    ∀ j ≥ s.packets * s.packetLength, (h'.buffers.bytes b)[j]? = (h.buffers.bytes b)[j]?
  strided : ∀ actual, answer = some (.packets actual) →
    actual.length * s.packetLength < wordSize / 2 → s.packetLength < 2 ^ 32 → ∀ j : Nat,
      (h'.buffers.bytes b)[j]? =
        if j < (h.buffers.bytes b).length ∧
            j % s.packetLength < (actual.map (·.toNat)).getD (j / s.packetLength) 0 then
          some (.ofNat (j / s.packetLength))
        else (h.buffers.bytes b)[j]?
  payload : ∃ submission, h'.controller.submissions = h.controller.submissions ++ [submission] ∧
    submission.payload =
      if s.endpoint.direction = .hostToDevice then h.buffers.bytes b else []
  completion : ∀ later h₃ d h₄, Run h' later h₃ → Move h₃ (.notified d) h₄ →
    ∀ c, h₄.buffers.bytes c = h₃.buffers.bytes c

theorem bytes_notified (hm : Move h (.notified d) h') (c : BufferId) :
    h'.buffers.bytes c = h.buffers.bytes c := by
  cases hm with
  | @deliver x rest p result data hb hp hs =>
    rw [Host.buffers_deliver]
    cases p.buffer with
    | none => rfl
    | some b => exact Buffers.bytes_setValid h.buffers b c _

theorem finished_of_packets {device : UInt32} {y : Transfer} {actual : List UInt32}
    (hk : y.kind = .isochronous) (hb : y.memory = .lent b)
    (ha : (h.controller.take (Simulated.answerKey device y)).2 = some (.packets actual)) :
    (h.finished device y).2 =
      h.buffers.rewrite b (Simulated.fillPackets y.packetLength 0 actual) := by
  simp only [finished, ha, Simulated.settle, hk, Transfer.rewrite, Transfer.mapPackets, hb]

theorem bytes_of_packets {device : UInt32} {y : Transfer} {actual : List UInt32}
    (hk : y.kind = .isochronous) (hb : y.memory = .lent b)
    (ha : (h.controller.take (Simulated.answerKey device y)).2 = some (.packets actual)) :
    (h.finished device y).2.bytes b =
      Simulated.fillPackets y.packetLength 0 actual (h.buffers.bytes b) := by
  rw [finished_of_packets hk hb ha]
  apply Buffers.bytes_rewrite_self
  exact List.length_eq_zero_iff.1 (Simulated.length_fillPackets _ _ _ _)

theorem finished_of_silent {device : UInt32} {y : Transfer} (hk : y.kind = .isochronous)
    (ha : ∀ actual,
      (h.controller.take (Simulated.answerKey device y)).2 ≠ some (.packets actual)) :
    (h.finished device y).2 = h.buffers := by
  rcases Simulated.settle_of_isochronous hk (h.controller.take (Simulated.answerKey device y)).2
    h.buffers with ⟨actual, he, -⟩ | ⟨-, st, n, he⟩
  · exact absurd he (ha actual)
  · exact congrArg Prod.snd he

theorem others_finished {o : Order} {device : UInt32} {y : Transfer} (hs : Slots h)
    (hd : h.Drafts target o device y) (ho : o.buffer? = some b) {c : BufferId} (hc : c ≠ b) :
    (h.finished device y).2[c]? = h.buffers[c]? := by
  rcases buffers_finished hs hd with he | ⟨b', packetLength, actual, ho', he⟩
  · rw [he]
  · obtain rfl := Option.some.inj (ho.symm.trans ho')
    rw [he]
    exact Buffers.getElem?_modify_of_ne _ _ hc.symm

theorem length_finished {o : Order} {device : UInt32} {y : Transfer} (hs : Slots h)
    (hd : h.Drafts target o device y) (ho : o.buffer? = some b) :
    ((h.finished device y).2.bytes b).length = (h.buffers.bytes b).length := by
  rcases buffers_finished hs hd with he | ⟨b', packetLength, actual, ho', he⟩
  · rw [he]
  · obtain rfl := Option.some.inj (ho.symm.trans ho')
    have hsame := Simulated.length_fillPackets packetLength 0 actual
    rw [he, Buffers.bytes_rewrite_self _ _ (List.length_eq_zero_iff.1 (hsame [])), hsame]

theorem payload_of_stream {y : Transfer} (hy : s.Owns y) (hb : y.memory = .lent b) (device : UInt32)
    (m : Buffers) : (Simulated.submission device y m).payload =
      if s.endpoint.direction = .hostToDevice then m.bytes b else [] := by
  have hbytes : y.bytes m = m.bytes b := by rw [Transfer.bytes, hb]
  have hdir : y.direction = s.endpoint.direction := by
    have hkind := hy.kind
    rw [← hy.endpoint]
    unfold Transfer.kind at hkind
    unfold Transfer.direction
    cases hx : y.shape <;> simp_all [Shape.kind]
  simp only [Simulated.submission, hdir, hbytes, hy.header, List.drop_zero]

theorem packetLength_of_stream {y : Transfer} (hp : 0 < s.packets)
    (hy : y.shape = .isochronous (List.replicate s.packets { length := .ofNat s.packetLength })) :
    y.packetLength = (UInt32.ofNat s.packetLength).toNat := by
  obtain ⟨n, hn⟩ := Nat.exists_eq_succ_of_ne_zero (Nat.pos_iff_ne_zero.1 hp)
  simp only [Transfer.packetLength, Transfer.packets, hy, Shape.packets, hn, List.replicate_succ,
    List.head?_cons, Option.map_some, Option.getD_some]

theorem extent_of_draft {o : Order} {device : UInt32} {y : Transfer} (hs : Slots h)
    (hd : h.Drafts target o device y) (ho : o.buffer? = some b) (hy : s.Owns y)
    (hlent : y.memory = .lent b) (hl : y.packetLength = (UInt32.ofNat s.packetLength).toNat)
    (hpos : 0 < s.packetLength) :
    Extent h s b (h.controller.take (Simulated.answerKey device y)).2 (h.queued device y) := by
  have hbytes : ∀ actual, (h.controller.take (Simulated.answerKey device y)).2 =
      some (.packets actual) → (h.queued device y).buffers.bytes b =
        Simulated.fillPackets (UInt32.ofNat s.packetLength).toNat 0 actual (h.buffers.bytes b) := by
    intro actual ha
    rw [← hl]
    exact bytes_of_packets hy.kind hlent ha
  constructor
  case others => exact fun c hc => others_finished hs hd ho hc
  case length => exact length_finished hs hd ho
  case still => exact finished_of_silent hy.kind
  case within =>
    intro actual ha hle j hj
    have hsize := Nat.mul_le_mul_left s.packets (toNat_ofNat_le s.packetLength)
    rw [hbytes actual ha]
    exact Simulated.getElem?_fillPackets_of_le hle (Nat.le_trans hsize hj) _
  case strided =>
    intro actual ha hw hword j
    have hlen : (UInt32.ofNat s.packetLength).toNat = s.packetLength :=
      UInt32.toNat_ofNat_of_lt' hword
    rw [hbytes actual ha, hlen,
      Simulated.getElem?_fillPackets hpos 0 actual _ (by rwa [Nat.zero_add])]
    exact if_congr (by simp) rfl rfl
  case payload =>
    exact ⟨Simulated.submission device y h.buffers, rfl,
      payload_of_stream hy hlent device h.buffers⟩
  case completion => exact fun _ _ _ _ _ hm c => bytes_notified hm c

theorem stream_extent (h₁run : Run fresh earlier h₁) (hi : h₁.streams[id]? = some s)
    (hkey : h₁.answerKey? (.stream id b timeout) = some key)
    (hp : h₁.place target (.stream id b timeout) = (h₂, .done)) :
    Extent h₁ s b (h₁.controller.take key).2 h₂ := by
  have hslots := slots_fresh.run h₁run
  obtain ⟨hpackets, hpos⟩ := stream_sized h₁run hi
  obtain ⟨contracts, connection, c, slot, ha, hcap, hslot, rfl⟩ := stream_accepted hi hp
  have hd : h₁.Drafts target (.stream id b timeout) c.device _ := .stream hi ha hcap hslot
  obtain rfl := Option.some.inj (hkey.symm.trans (hd.answerKey?_eq hslots))
  have howns : s.Owns (h₁.rebind target contracts connection id b timeout slot) :=
    (hslots.idle hi hslot).1.of_cleared rfl
  refine extent_of_draft hslots hd rfl howns rfl ?_ hpos
  apply packetLength_of_stream hpackets
  rw [parked_eq hslots (tidy_fresh.run h₁run) hi hslot]
  rfl

/-- A script that is longer than the packet table, one for packets towards the device, and buffers
that are larger than their transfers. -/
def overrunning : List Act :=
  [.upkeep (.resolve .standard), .upkeep (.adopt 1), .upkeep (.setPacketSize 1 ⟨0x82⟩ 4),
    .upkeep (.setPacketSize 1 ⟨0x02⟩ 4), .allocate ⟨0, 0⟩ ⟨0x82⟩ 1 none,
    .allocate ⟨0, 0⟩ ⟨0x02⟩ 1 none, .upkeep (.addBuffer (.ofBytes (List.replicate 12 0xaa))),
    .upkeep (.addBuffer (.ofBytes (List.replicate 8 0xbb))), .upkeep (.addTarget .recorder),
    .script 1 ⟨0x82⟩ (.packets [4, 4]), .script 1 ⟨0x02⟩ (.packets [4])]

/-- Four bytes behind the transfer are overwritten, and so are four of a buffer that is only read
from; all of that buffer is sent, where the transfer is its first half. -/
theorem overrunning_overwritten :
    let host := after (overrunning ++ [.place 0 (.stream 0 0 0), .place 0 (.stream 1 1 0)])
    host.buffers.bytes 0 = [0, 0, 0, 0, 1, 1, 1, 1, 0xaa, 0xaa, 0xaa, 0xaa] ∧
      host.buffers.bytes 1 = [0, 0, 0, 0, 0xbb, 0xbb, 0xbb, 0xbb] ∧
      host.controller.submissions.map (·.payload) = [[], List.replicate 8 0xbb] := by
  decide

theorem overrunning_extent :
    ∃ earlier s h₂, Run fresh earlier (after overrunning) ∧
      (after overrunning).streams[0]? = some s ∧
      (after overrunning).answerKey? (.stream 0 0 0) = some (1, ⟨0x82⟩) ∧
      (after overrunning).place 0 (.stream 0 0 0) = (h₂, .done) ∧
      Extent (after overrunning) s 0 (some (.packets [4, 4])) h₂ ∧
      s.packets * s.packetLength = 4 ∧
        h₂.buffers.bytes 0 ≠ (after overrunning).buffers.bytes 0 := by
  obtain ⟨earlier, hr, -⟩ := after_run overrunning
  have hi : (after overrunning).streams[0]? = some
      { token := ⟨0, 0⟩, endpoint := ⟨0x82⟩, packets := 1, packetLength := 4
        slot := some (Transfer.ofPackets 1 ⟨0x82⟩ 1 4) } := by decide
  have hkey : (after overrunning).answerKey? (.stream 0 0 0) = some (1, ⟨0x82⟩) := by decide
  have hp : (after overrunning).place 0 (.stream 0 0 0) =
    (((after overrunning).place 0 (.stream 0 0 0)).1, .done) := Prod.ext rfl (by decide)
  have hanswer : ((after overrunning).controller.take (1, ⟨0x82⟩)).2 = some (.packets [4, 4]) := by
    decide
  have he := stream_extent hr hi hkey hp
  rw [hanswer] at he
  exact ⟨earlier, _, _, hr, hi, hkey, hp, he, rfl, by decide⟩

end Host

end UsbTransfer
