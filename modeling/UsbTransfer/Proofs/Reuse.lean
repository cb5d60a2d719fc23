import UsbTransfer.Proofs.Delivery

namespace UsbTransfer

def Order.stream? : Order → Option StreamId
  | .transfer .. => none
  | .stream id .. => some id

def Note.Resubmits (id : StreamId) : Note → Prop
  | .placed _ _ o _ a => o.stream? = some id ∧ a = .done
  | _ => False

namespace Host

def Idle (h : SimulatedHost) (id : StreamId) : Prop :=
  ∃ s, h.streams[id]? = some s ∧ s.slot.isSome

variable {h h' : SimulatedHost} {history : List Note} {n : Note} {target : TargetId} {o : Order}
  {device : UInt32} {x : Transfer} {id : StreamId}

theorem Idle.congr (hi : h.Idle id) (ht : h'.streams = h.streams) : h'.Idle id := by
  unfold Idle at *
  rw [ht]
  exact hi

theorem Idle.setSlot? (hi : h.Idle id) (slot : Option StreamId) (y : Transfer)
    (ht : h'.streams = (h.setSlot? slot (some y)).streams) : h'.Idle id := by
  obtain ⟨s, hs, hd⟩ := hi
  cases slot with
  | none => exact ⟨s, by rw [ht]; exact hs, hd⟩
  | some j =>
    refine ⟨if j = id then { s with slot := some y } else s, ?_, ?_⟩
    · rw [ht, streams_setSlot?, List.getElem?_modify, hs]
      rfl
    · split
      · rfl
      · exact hd

theorem Idle.allocate (hi : h.Idle id) (t : Token) (e : Endpoint) (packets : Nat)
    (given : Option Nat) : (h.allocate t e packets given).1.Idle id := by
  rcases h.allocate_cases t e packets given with he | ⟨packetLength, he⟩
  · rw [he]
    exact hi
  · obtain ⟨s, hs, hd⟩ := hi
    have hlt : id < h.streams.length := (List.getElem?_eq_some_iff.1 hs).1
    rw [he]
    exact ⟨s, (List.getElem?_append_left hlt).trans hs, hd⟩

theorem Drafts.slot?_eq (hd : h.Drafts target o device x) : x.slot? = o.stream? := by
  cases hd with
  | transfer => rfl
  | stream => rfl

theorem streams_turnedAway (x : Transfer) (c : Simulated) (e : UsbError) :
    (h.turnedAway x c e).streams = (h.setSlot? x.slot? (some x.cleared)).streams := rfl

theorem Idle.queued (hi : h.Idle id) (hx : x.slot? ≠ some id) : (h.queued device x).Idle id := by
  obtain ⟨s, hs, hd⟩ := hi
  refine ⟨s, ?_, hd⟩
  have ht : (h.queued device x).streams = (h.setSlot? x.slot? none).streams := rfl
  rw [ht, streams_setSlot?]
  split
  · exact hs
  · rename_i j hj
    have hne : j ≠ id := fun he => hx (by rw [hj, he])
    simpa [List.getElem?_modify, hne] using hs

theorem idle_move (hm : Move h n h') (hi : h.Idle id) : h'.Idle id ∨ n.Resubmits id := by
  cases hm with
  | upkeep u =>
    have hq : Quiet h (h.perform u) := quiet_perform u
    exact .inl (hi.congr hq.streams)
  | allocate t e packets given => exact .inl (hi.allocate t e packets given)
  | script device e r => exact .inl (hi.congr rfl)
  | exchange hc hd hr =>
    obtain ⟨sent, rfl⟩ := run_eq hc hd hr
    exact .inl (hi.congr rfl)
  | place target o =>
    rcases h.place_outcome target o with ⟨hp, -⟩ | ⟨device, x, c, e, -, -, hp⟩ | ⟨device, x, hd, hp⟩
    · rw [hp]
      exact .inl hi
    · rw [hp]
      exact .inl (hi.setSlot? _ _ (streams_turnedAway x c e))
    · rw [hp]
      by_cases hx : x.slot? = some id
      · exact .inr ⟨hd.slot?_eq.symm.trans hx, rfl⟩
      · exact .inl (hi.queued hx)
  | poll hb => exact .inl (hi.congr rfl)
  | @deliver x rest p result data hb hp hs =>
    have ht := Host.streams_deliver { h with batch := rest } x p result data
    split at ht
    · exact .inl (Idle.setSlot? (h := { h with batch := rest }) (hi.congr rfl) p.park x.cleared ht)
    · exact .inl (hi.congr ht)

theorem idle_run (hr : Run h history h') (hi : h.Idle id) :
    h'.Idle id ∨ ∃ n ∈ history, n.Resubmits id := by
  induction hr with
  | refl => exact .inl hi
  | snoc hr hm ih =>
    rcases ih with hi | ⟨n, hn, hres⟩
    · rcases idle_move hm hi with hi | hres
      · exact .inl hi
      · exact .inr ⟨_, by simp, hres⟩
    · exact .inr ⟨n, List.mem_append_left _ hn, hres⟩

theorem idle_of_refused {e : HostError} (he : (h.place target o).2 = .refused e) :
    (h.place target o).1.Idle id ↔ h.Idle id := by
  rcases h.place_outcome target o with ⟨hp, -⟩ | ⟨device, x, c, u, hd, -, hp⟩ | ⟨device, x, -, hp⟩
  · rw [hp]
  · rw [hp]
    refine ⟨fun hi => ?_, fun hi => hi.setSlot? _ _ (streams_turnedAway x c u)⟩
    obtain ⟨s, hs, hslot⟩ := hi
    rw [streams_turnedAway, streams_setSlot?] at hs
    rcases hd.slot?_cases with hn | ⟨j, s', d, hx, hs', hd', -⟩
    · rw [hn] at hs
      exact ⟨s, hs, hslot⟩
    · rw [hx] at hs
      by_cases hj : j = id
      · subst hj
        exact ⟨s', hs', by rw [hd']; rfl⟩
      · exact ⟨s, by simpa [List.getElem?_modify, hj] using hs, hslot⟩
  · rw [hp] at he
    cases he

theorem mem_flying {x : Transfer} : x ∈ h.flying id ↔ x ∈ h.inFlight ∧ x.slot? = some id := by
  simp [flying]

theorem answer_offer (h : SimulatedHost) (device : UInt32) (x : Transfer) :
    (h.offer device x).2 =
      match h.controller.refusal.2 with
      | none => .done
      | some e => .refused (.usb e) := by
  unfold offer
  rcases h.controller.refusal with ⟨c, _ | e⟩ <;> rfl

theorem nextTransfer_offer (h : SimulatedHost) (device : UInt32) (x : Transfer) :
    (h.offer device x).1.nextTransfer = h.nextTransfer + 1 := by
  unfold offer
  rcases h.controller.refusal with ⟨c, _ | e⟩ <;> rfl

theorem busy_iff (hs : Slots h) {s : Stream} {b : BufferId} {timeout : UInt32}
    {contracts : Contracts} {connection : ConnectionId} {c : Connection UInt32}
    (hi : h.streams[id]? = some s) (ha : h.admission s.token = .ok (contracts, connection, c))
    (hb : s.capacity ≤ h.buffers.capacity b) :
    h.place target (.stream id b timeout) = (h, .refused (.usb .busy)) ↔
      ∃ x ∈ h.inFlight, x.slot? = some id := by
  rcases hs.one id s hi with ⟨d, hd, -, hf⟩ | ⟨hd, x, -, hf⟩
  · have hp : h.place target (.stream id b timeout) =
        h.offer c.device (h.rebind target contracts connection id b timeout d) :=
      place_stream hi ha hb hd
    constructor
    · -- an idle stream draws a new id for whatever answer it gets
      intro he
      have hn := h.nextTransfer_offer c.device (h.rebind target contracts connection id b timeout d)
      rw [← hp, he] at hn
      exact absurd hn (Nat.ne_of_lt (Nat.lt_succ_self _))
    · rintro ⟨x, hx, hslot⟩
      have hmem : x ∈ h.flying id := mem_flying.2 ⟨hx, hslot⟩
      simp [hf] at hmem
  · have hmem : x ∈ h.flying id := by simp [hf]
    refine ⟨fun _ => ⟨x, mem_flying.1 hmem⟩, fun _ => ?_⟩
    simp [place, hi, submitStream, ha, Nat.not_lt.2 hb, hd, Answer.ofExcept]

theorem answer_of_idle {s : Stream} {b : BufferId} {timeout : UInt32} {contracts : Contracts}
    {connection : ConnectionId} {c : Connection UInt32} {d : Transfer}
    (hi : h.streams[id]? = some s) (ha : h.admission s.token = .ok (contracts, connection, c))
    (hb : s.capacity ≤ h.buffers.capacity b) (hd : s.slot = some d) :
    (h.place target (.stream id b timeout)).2 =
      match h.controller.refusal.2 with
      | none => .done
      | some e => .refused (.usb e) := by
  rw [place_stream hi ha hb hd]
  exact h.answer_offer _ _

/-- The callback of a delivery runs from `start`, where the descriptor is back. -/
structure Returned (h : SimulatedHost) (id : StreamId) (s : Stream) (x : Transfer)
    (start finish : SimulatedHost) : Prop where
  delivered : ∃ d, start.deliveries = h.deliveries ++ [d] ∧ d.Reports x
  filled : start.streams[id]? = some { s with slot := some x.cleared }
  again : ∀ target b timeout contracts connection c,
    start.admission s.token = .ok (contracts, connection, c) →
      s.capacity ≤ start.buffers.capacity b →
      (start.place target (.stream id b timeout)).2 =
        match start.controller.refusal.2 with
        | none => .done
        | some e => .refused (.usb e)
  idle : ∃ later, Run start later finish ∧ (finish.Idle id ∨ ∃ n ∈ later, n.Resubmits id)

theorem dispatch_returned (hs : Slots h) {s : Stream} {rest : List Transfer}
    (hi : h.streams[id]? = some s) (hb : h.batch = x :: rest) (hx : x.slot? = some id)
    (hd : x.Deliverable) (reactions : Reactions) :
    ∃ start target r, Returned h id s x start (start.respond target r) ∧
      dispatch reactions { h with batch := rest } x = (start.respond target r, true) := by
  obtain ⟨p, hp⟩ := hd.1
  obtain ⟨result, data, hset⟩ := h.settle_of_deliverable hd
  obtain ⟨r, -, hdis⟩ := dispatch_eq reactions { h with batch := rest } hp hset
  obtain ⟨s', hi', ho, -⟩ := hs.alone hb hx
  obtain rfl : s' = s := by simpa [hi] using hi'.symm
  have hpark : p.park = some id := by simpa [Transfer.slot?, hp] using hx
  have hfilled : (Host.deliver { h with batch := rest } x p result data).streams[id]? =
      some { s' with slot := some x.cleared } := by
    rw [streams_deliver, if_pos ho.reusable, hpark, streams_setSlot?, List.getElem?_modify]
    simp [hi]
  refine ⟨_, p.target, r, ⟨?_, hfilled, ?_, ?_⟩, hdis⟩
  · refine ⟨h.deliveryOf x p result data, ?_, rfl, p, hp, rfl, rfl⟩
    rw [deliveries_deliver, deliveryOf_batch]
    rfl
  · intro target b timeout contracts connection c ha hcap
    exact answer_of_idle hfilled ha hcap rfl
  · obtain ⟨later, hr, -⟩ :=
      (Host.deliver { h with batch := rest } x p result data).respond_run p.target r
    exact ⟨later, hr, idle_run hr ⟨_, hfilled, rfl⟩⟩

structure Reuse (h : SimulatedHost) (id : StreamId) (s : Stream) : Prop where
  one : h.OneDescriptor id s
  busy : ∀ target b timeout contracts connection c,
    h.admission s.token = .ok (contracts, connection, c) → s.capacity ≤ h.buffers.capacity b →
      (h.place target (.stream id b timeout) = (h, .refused (.usb .busy)) ↔
        ∃ x ∈ h.inFlight, x.slot? = some id)
  refused : ∀ target o e, (h.place target o).2 = .refused e →
    ((h.place target o).1.Idle id ↔ h.Idle id)
  returned : ∀ x rest reactions, h.batch = x :: rest → x.slot? = some id →
    ∃ start target r, Returned h id s x start (start.respond target r) ∧
      dispatch reactions { h with batch := rest } x = (start.respond target r, true)

theorem one_descriptor_per_stream {s : Stream} (hr : Run fresh history h)
    (hi : h.streams[id]? = some s) : Reuse h id s := by
  have hs := slots_fresh.run hr
  have hl := ledger_of_run hr
  refine ⟨hs.one id s hi, ?_, fun _ _ _ he => idle_of_refused he, ?_⟩
  · intro target b timeout contracts connection c ha hb
    exact busy_iff hs hi ha hb
  · intro x rest reactions hb hx
    refine dispatch_returned hs hi hb hx (hl.deliverable x ?_) reactions
    simp [owed, hb]

/-- A stream is submitted, a second submission finds it busy, and a callback submits it again. -/
def streaming : List Act :=
  let order := .stream 0 0 0
  [.upkeep (.resolve .standard), .upkeep (.adopt 1), .upkeep (.setPacketSize 1 ⟨0x82⟩ 4),
    .allocate ⟨0, 0⟩ ⟨0x82⟩ 2 none, .upkeep (.addBuffer (.zeroed 8)),
    .upkeep (.addTarget .recorder),
    .place 0 order, .place 0 order,
    .processEvents (fun _ _ => { orders := [order], panics := true }) none]

theorem streaming_one_descriptor :
    ∃ history s, Run fresh history (after streaming) ∧ (after streaming).streams[0]? = some s ∧
      Reuse (after streaming) 0 s ∧ s.slot = none ∧ (after streaming).answers 0 = [.done] ∧
      (after streaming).deliveries.length = 1 := by
  obtain ⟨history, hr, -⟩ := after_run streaming
  have hi : (after streaming).streams[0]? =
      some
        { token := ⟨0, 0⟩, endpoint := ⟨0x82⟩, packets := 2, packetLength := 4, slot := none } := by
    decide
  exact ⟨history, _, hr, hi, one_descriptor_per_stream hr hi, rfl, by decide, by decide⟩

end Host

end UsbTransfer
