import UsbTransfer.Proofs.Stock

namespace UsbTransfer

namespace TransferStatus

theorem outcome_of_ne_completed {s : TransferStatus} (hs : s ≠ .completed) (actual : Nat) :
    ∃ e, s.outcome 0 = .error e ∧ s.outcome actual = .error e := by
  cases s with
  | completed => exact absurd rfl hs
  | error | timedOut | cancelled | stall | noDevice | overflow | unrecognized => exact ⟨_, rfl, rfl⟩

end TransferStatus

namespace Simulated

variable {packetLength : UInt32} {p : IsoPacket}

theorem le_of_mem_report {actual : List UInt32} {ps : List IsoPacket}
    (hps : ∀ p ∈ ps, p.length = packetLength) (hp : p ∈ report actual ps) :
    p.length = packetLength ∧ p.actual ≤ p.length := by
  induction ps generalizing actual with
  | nil => cases actual <;> simp [report] at hp
  | cons q ps ih =>
    have hq := hps q List.mem_cons_self
    have hrest : ∀ p ∈ ps, p.length = packetLength := fun p hm => hps p (List.mem_cons_of_mem _ hm)
    cases actual with
    | nil =>
      rw [report, List.mem_cons] at hp
      rcases hp with rfl | hp
      · exact ⟨hq, UInt32.zero_le⟩
      · exact ih hrest hp
    | cons a as =>
      rw [report, List.mem_cons] at hp
      rcases hp with rfl | hp
      · refine ⟨hq, ?_⟩
        rw [UInt32.le_iff_toNat_le, UInt32.toNat_min]
        exact Nat.min_le_right _ _
      · exact ih hrest hp

theorem total_filled_le (packetLength : UInt32) (packets : Nat) (response : Option Response) :
    total ((filled packetLength packets response).map (·.toNat)) ≤
      packets * packetLength.toNat := by
  rcases response with _ | ⟨p | st | actual⟩
  · exact Nat.zero_le _
  · exact Nat.zero_le _
  · exact Nat.zero_le _
  · have htotal : total ((streamed packetLength packets actual).map (·.toNat)) ≤
        (streamed packetLength packets actual).length * packetLength.toNat :=
      total_le_of_forall_le fun a ha => (le_of_mem_streamed ha).1
    exact Nat.le_trans htotal
      (Nat.mul_le_mul_right _ (length_streamed_le packetLength packets actual))

end Simulated

/-- A finished stream, the status it ended with and the result that its target is told. -/
structure Transfer.Tells (x : Transfer) (packetLength : UInt32) (lengths : List UInt32)
    (status : TransferStatus) (result : Outcome) : Prop where
  recorded : x.status = some status
  packets : ∀ p ∈ x.packets, p.length = packetLength ∧ p.actual ≤ p.length
  completed : status = .completed → result = .ok (IsoPacket.delivered x.packets) ∧
    IsoPacket.delivered x.packets = total (lengths.map (·.toNat))
  failed : status ≠ .completed → ∃ e, status.outcome 0 = .error e ∧ result = .error e

/-- What a target finds when it is notified of a stream: the finished transfer, the status it ended
with, the buffer of its submission and the result. -/
structure Concluded (s : Stream) (answer : Option Response) (x : Transfer) (status : TransferStatus)
    (cell : Storage) (result : Outcome) : Prop where
  recorded : x.status = some status
  packets : ∀ p ∈ x.packets,
    p.actual ≤ p.length ∧ (s.packetLength < 2 ^ 32 → p.length.toNat = s.packetLength)
  completed : status = .completed → result = .ok cell.valid ∧
    cell.valid = IsoPacket.delivered x.packets ∧ cell.valid =
      total ((Simulated.filled (.ofNat s.packetLength) s.packets answer).map (·.toNat))
  failed : status ≠ .completed → cell.valid = 0 ∧
    ∃ e, status.outcome 0 = .error e ∧ result = .error e
  bounded : cell.valid ≤ s.capacity ∧ cell.valid ≤ cell.capacity

theorem Transfer.Tells.concluded {s : Stream} {answer : Option Response} {x : Transfer}
    {status : TransferStatus} {cell : Storage} {result : Outcome}
    (ht : x.Tells (.ofNat s.packetLength)
      (Simulated.filled (.ofNat s.packetLength) s.packets answer) status result)
    (hfit : s.packets * s.packetLength < wordSize) (hroom : s.capacity ≤ cell.capacity) :
    Concluded s answer x status (cell.setValid (result.toOption.getD 0)) result := by
  have hcap : s.capacity = s.packets * s.packetLength := Nat.mod_eq_of_lt hfit
  have hle : total ((Simulated.filled (.ofNat s.packetLength) s.packets answer).map (·.toNat)) ≤
      s.capacity := by
    rw [hcap]
    exact Nat.le_trans (Simulated.total_filled_le _ _ _)
      (Nat.mul_le_mul_left _ (Host.toNat_ofNat_le _))
  have hpackets : ∀ p ∈ x.packets,
      p.actual ≤ p.length ∧ (s.packetLength < 2 ^ 32 → p.length.toNat = s.packetLength) := by
    intro p hp
    obtain ⟨hl, hact⟩ := ht.packets p hp
    exact ⟨hact, fun hword => by rw [hl, UInt32.toNat_ofNat_of_lt' hword]⟩
  by_cases hc : status = .completed
  · obtain ⟨rfl, hn⟩ := ht.completed hc
    have hvalid : (cell.setValid (IsoPacket.delivered x.packets)).valid =
      IsoPacket.delivered x.packets := Nat.min_eq_left (by omega)
    refine ⟨ht.recorded, hpackets, fun _ => ⟨?_, hvalid, hvalid.trans hn⟩,
      fun hne => absurd hc hne, ?_, ?_⟩
    · exact congrArg _ hvalid.symm
    · exact hvalid.le.trans (hn ▸ hle)
    · exact cell.valid_setValid_le _
  · obtain ⟨e, he, rfl⟩ := ht.failed hc
    have hvalid : (cell.setValid 0).valid = 0 := Nat.zero_min _
    exact ⟨ht.recorded, hpackets, fun h => absurd h hc, fun _ => ⟨hvalid, e, he, rfl⟩,
      hvalid ▸ Nat.zero_le _, cell.valid_setValid_le 0⟩

namespace Host

variable {h h' h₁ h₂ : SimulatedHost} {history earlier later : List Note} {x y : Transfer}
  {d : Delivery} {packets : Nat} {packetLength : UInt32} {b : BufferId} {result : Outcome}
  {data : Option Bytes}

theorem tells_record {k : SimulatedHost} {lengths : List UInt32} {st : TransferStatus} {n : Nat}
    {ps : List IsoPacket} (hx : x.shape = .isochronous ps)
    (hp : ∀ p ∈ ps, p.length = packetLength ∧ p.actual ≤ p.length)
    (hl : IsoPacket.delivered ps = total (lengths.map (·.toNat)))
    (hs : k.settle (x.record st n) = some (result, data)) :
    (x.record st n).Tells packetLength lengths st result := by
  have hps : (x.record st n).packets = ps := by
    simp only [Transfer.packets, Transfer.record, hx, Shape.packets]
  simp only [settle, Transfer.record, Option.getD_some, hx] at hs
  refine ⟨rfl, by rwa [hps], fun hc => ?_, fun hne => ?_⟩
  · subst hc
    obtain ⟨rfl, -⟩ := Prod.mk.inj (Option.some.inj hs)
    rw [hps]
    exact ⟨rfl, hl⟩
  · obtain ⟨e, he, hn⟩ := TransferStatus.outcome_of_ne_completed hne n
    rw [hn] at hs
    obtain ⟨rfl, -⟩ := Prod.mk.inj (Option.some.inj hs)
    exact ⟨e, he, rfl⟩

theorem settle_tells
    (hy : y.shape = .isochronous (List.replicate packets { length := packetLength }))
    (hb : y.memory = .lent b) (m : Buffers) (response : Option Response) (k : SimulatedHost)
    (hs : k.settle (Simulated.settle response y m).1 = some (result, data)) :
    ∃ status, (Simulated.settle response y m).1.Tells packetLength
      (Simulated.filled packetLength packets response) status result := by
  have hkind : y.kind = .isochronous := by rw [Transfer.kind, hy]; rfl
  have hlength : ∀ p ∈ List.replicate packets ({ length := packetLength } : IsoPacket),
      p = { length := packetLength } := fun p hp => (List.mem_replicate.1 hp).2
  rcases Simulated.settle_of_isochronous hkind response m with
    ⟨actual, rfl, he⟩ | ⟨hnone, st, n, he⟩
  · simp only [Transfer.rewrite, Transfer.mapPackets, hb] at he
    rw [he] at hs ⊢
    have hshape : y.shape.mapPackets (Simulated.report actual) = .isochronous
        (Simulated.report actual (List.replicate packets { length := packetLength })) := by
      rw [hy]
      rfl
    refine ⟨.completed, tells_record hshape ?_ ?_ hs⟩
    · exact fun p hp => Simulated.le_of_mem_report (fun q hq => by rw [hlength q hq]) hp
    · exact Simulated.delivered_report packetLength packets actual
  · rw [he] at hs ⊢
    refine ⟨st, tells_record hy ?_ ?_ hs⟩
    · intro p hp
      rw [hlength p hp]
      exact ⟨rfl, UInt32.zero_le⟩
    · rw [hnone, Simulated.delivered_replicate]
      rfl

/-- The stream was submitted with the buffer in the course of a history. `answer` is what the script
had for it then. -/
def StreamedIn (history : List Note) (h : SimulatedHost) (id : TransferId) (target : TargetId)
    (s : Stream) (b : BufferId) (answer : Option Response) : Prop :=
  ∃ earlier h₁ h₂ i timeout key later, Run fresh earlier h₁ ∧ h₁.streams[i]? = some s ∧
    h₁.place target (.stream i b timeout) = (h₂, .done) ∧ Run h₂ later h ∧
    answer = (h₁.controller.take key).2 ∧
    history = earlier ++ .placed id target (.stream i b timeout) (some key) .done :: later

theorem StreamedIn.size_mem {id : TransferId} {target : TargetId} {s : Stream}
    {answer : Option Response} (hs : StreamedIn history h id target s b answer) :
    (s.packets, s.packetLength) ∈ h.streams.map fun s => (s.packets, s.packetLength) := by
  obtain ⟨earlier, h₁, h₂, i, timeout, key, later, hr₁, hi, hplace, hlater, -, -⟩ := hs
  have hplaced := Move.place h₁ target (.stream i b timeout)
  rw [hplace] at hplaced
  obtain ⟨slot, hslot⟩ := stream_run (.cons hplaced hlater) hi
  exact List.mem_map.2 ⟨_, List.mem_of_getElem? hslot, rfl⟩

theorem tells_of_slot {s : Stream} {target : TargetId} {contracts : Contracts}
    {connection : ConnectionId} {device : UInt32} {i : StreamId} {timeout : UInt32}
    {slot : Transfer}
    (hr₁ : Run fresh earlier h₁) (hi : h₁.streams[i]? = some s) (hslot : s.slot = some slot)
    (hy : y = h₁.rebind target contracts connection i b timeout slot)
    (hs : h.settle (h₁.finished device y).1 = some (result, data)) :
    ∃ status, (h₁.finished device y).1.Tells (.ofNat s.packetLength)
      (Simulated.filled (.ofNat s.packetLength) s.packets
        (h₁.controller.take (Simulated.answerKey device y)).2) status result := by
  have hshape : y.shape =
      .isochronous (List.replicate s.packets { length := .ofNat s.packetLength }) := by
    rw [hy, parked_eq (slots_fresh.run hr₁) (tidy_fresh.run hr₁) hi hslot]
    rfl
  exact settle_tells hshape (by rw [hy]; rfl) h₁.buffers _ h hs

theorem buffer_of_stream {s : Stream} {i : StreamId} (hr₁ : Run fresh earlier h₁)
    (hi : h₁.streams[i]? = some s) (hcap : s.capacity ≤ h₁.buffers.capacity b)
    (hlater : Run h₁ later h) (hfit : s.packets * s.packetLength < wordSize) :
    ∃ cell, h.buffers[b]? = some cell ∧ s.capacity ≤ cell.capacity := by
  have hpos : 0 < s.capacity := by
    obtain ⟨hp, hl⟩ := stream_sized hr₁ hi
    rw [Stream.capacity, Nat.mod_eq_of_lt hfit]
    exact Nat.mul_pos hp hl
  obtain ⟨cell, hcell, hsize⟩ := Buffers.exists_of_capacity (Nat.lt_of_lt_of_le hpos hcap)
  obtain ⟨cell', hcell', hsize'⟩ := buffer_run (slots_fresh.run hr₁) hlater b cell hcell
  exact ⟨cell', hcell', by omega⟩

theorem concluded_of_settle {p : Pending} (hr : Run fresh history h) (hx : x ∈ h.inFlight)
    (hp : x.pending = some p) (hk : x.kind = .isochronous) (hs : h.settle x = some (result, data)) :
    ∃ s b answer, p.buffer = some b ∧ StreamedIn history h x.id p.target s b answer ∧
      (s.packets * s.packetLength < wordSize → ∃ status cell, h.buffers[b]? = some cell ∧
        Concluded s answer x status (cell.setValid (result.toOption.getD 0)) result) := by
  obtain ⟨earlier, h₁, target, o, device, y, later, hr₁, hd, hplace, hlater, rfl, rfl⟩ :=
    drafted_in hr hx
  have hframe := h₁.frame_finished device y
  have hid := (Transfer.id_of_frame hframe).trans hd.id_eq
  have hpend := (Transfer.pending_of_frame hframe).symm.trans hp
  have hkey := hd.answerKey?_eq (slots_fresh.run hr₁)
  have hplaced := Move.place h₁ target o
  rw [hplace] at hplaced
  have hbound := (hd.kind_iff (slots_fresh.run hr₁)).1
    ((Transfer.kind_of_frame hframe).symm.trans hk)
  cases hd with
  | transfer => cases hbound
  | @stream i b timeout s contracts connection c slot hi ha hcap hslot =>
    obtain rfl := Option.some.inj hpend
    obtain ⟨status, ht⟩ := tells_of_slot hr₁ hi hslot rfl hs
    refine ⟨s, b, (h₁.controller.take (Simulated.answerKey c.device
      (h₁.rebind target contracts connection i b timeout slot))).2, rfl,
      ⟨earlier, h₁, _, i, timeout, _, later, hr₁, hi, hplace, hlater, rfl, by rw [hkey, hid]⟩,
      fun hfit => ?_⟩
    obtain ⟨cell, hcell, hroom⟩ := buffer_of_stream hr₁ hi hcap (.cons hplaced hlater) hfit
    exact ⟨status, cell, hcell, ht.concluded hfit hroom⟩

theorem kind_of_deliveryOf {p : Pending} (hr : Run fresh history h) (hx : x ∈ h.inFlight)
    (hp : x.pending = some p) (result : Outcome) (data : Option Bytes) :
    (h.deliveryOf x p result data).completion.kind = x.kind := by
  have hkind := kind_iff hr hx hp
  cases hb : p.buffer with
  | none => simp only [deliveryOf, completion, hb]
  | some b =>
    rw [hb] at hkind
    rw [hkind.2 rfl]
    simp only [deliveryOf, completion, hb, Message.read]

theorem stream_concluded (hr : Run fresh history h) (hm : Move h (.notified d) h')
    (hk : d.completion.kind = .isochronous) :
    ∃ x s b answer, h.batch.head? = some x ∧ x.id = d.transfer ∧
      x.pending.bind (·.buffer) = some b ∧ StreamedIn history h d.transfer d.target s b answer ∧
      (s.packets * s.packetLength < wordSize → ∃ status cell, h'.buffers[b]? = some cell ∧
        d.completion = (Message.filled (some b) d.completion.result).read h'.buffers ∧
        Concluded s answer x status cell d.completion.result) := by
  cases hm with
  | @deliver x rest p result data hb hp hs =>
    have hx : x ∈ h.inFlight := by simp [inFlight_eq, hb]
    have hkind := kind_of_deliveryOf hr hx hp result data
    obtain ⟨s, b, answer, hbuf, hstream, hc⟩ :=
      concluded_of_settle hr hx hp (hkind.symm.trans hk) hs
    have hbuffers := Host.buffers_deliver { h with batch := rest } x p result data
    refine ⟨x, s, b, answer, by rw [hb]; rfl, rfl, by rw [hp]; exact hbuf, hstream, fun hfit => ?_⟩
    obtain ⟨status, cell, hcell, hconc⟩ := hc hfit
    obtain ⟨target, contracts, buffer, park⟩ := p
    obtain rfl : buffer = some b := hbuf
    rw [result_deliveryOf, hbuffers]
    exact ⟨status, _, Buffers.getElem?_setValid hcell _, rfl, hconc⟩

/-- The first round of a stream fills its buffer, and its second round fails. -/
def stalling : List Act :=
  [.upkeep (.resolve .standard), .upkeep (.adopt 1), .upkeep (.setPacketSize 1 ⟨0x82⟩ 4),
    .allocate ⟨0, 0⟩ ⟨0x82⟩ 2 none, .upkeep (.addBuffer (.zeroed 8)),
    .upkeep (.addTarget .recorder), .script 1 ⟨0x82⟩ (.packets [4, 9]),
    .script 1 ⟨0x82⟩ (.status .stall), .place 0 (.stream 0 0 0),
    .processEvents (fun _ _ => {}) none, .place 0 (.stream 0 0 0)]

theorem stalling_concluded :
    ∃ history h h' d x s answer status cell, Run fresh history h ∧ Move h (.notified d) h' ∧
      d.completion.kind = .isochronous ∧ StreamedIn history h d.transfer d.target s 0 answer ∧
      h.buffers[0]? = some ⟨[0, 0, 0, 0, 1, 1, 1, 1], 8⟩ ∧ h'.buffers[0]? = some cell ∧
      Concluded s answer x status cell d.completion.result ∧
      d.completion.result = .error .pipe ∧ cell.valid = 0 := by
  obtain ⟨earlier, hr, hbatch⟩ := after_run stalling
  obtain ⟨h, hpoll, x, p, hb, hp, hs, hbuf, hkind, hres, hpark, hsize⟩ :
      ∃ h, Move (after stalling) .polled h ∧ ∃ x p, h.batch = [x] ∧ x.pending = some p ∧
        h.settle x = some (.error .pipe, none) ∧
        h.buffers[0]? = some ⟨[0, 0, 0, 0, 1, 1, 1, 1], 8⟩ ∧
        (h.deliveryOf x p (.error .pipe) none).completion.kind = .isochronous ∧
        (h.deliveryOf x p (.error .pipe) none).completion.result = .error .pipe ∧
        p.buffer = some 0 ∧ (h.streams.map fun s => (s.packets, s.packetLength)) = [(2, 4)] :=
    ⟨_, .poll hbatch, _, _, rfl, rfl, rfl, by decide, by decide, rfl, rfl, by decide⟩
  have hm := Move.deliver hb hp hs
  obtain ⟨y, s, b, answer, hhead, -, hbuffer, hstream, hc⟩ :=
    stream_concluded (hr.snoc hpoll) hm hkind
  obtain rfl : x = y := by simpa [hb] using hhead
  obtain rfl : 0 = b := by simpa [hp, hpark] using hbuffer
  obtain ⟨hpackets, hlength⟩ : s.packets = 2 ∧ s.packetLength = 4 := by
    simpa [hsize] using hstream.size_mem
  obtain ⟨status, cell, hcell, -, hconc⟩ :=
    hc (by rw [hpackets, hlength]; decide)
  refine ⟨_, h, _, _, x, s, answer, status, cell, hr.snoc hpoll, hm, hkind, hstream, hbuf, hcell,
    hconc, hres, ?_⟩
  refine (hconc.failed ?_).1
  rintro rfl
  have hok := (hconc.completed rfl).1
  rw [hres] at hok
  cases hok

end Host

end UsbTransfer
