import UsbTransfer.Proofs.InForce

namespace UsbTransfer

theorem Route.kind_ne_isochronous (r : Route) : r.kind ≠ .isochronous := by
  cases r <;> simp [kind]

namespace Host

variable {h h₁ h₂ h₃ : SimulatedHost} {earlier later : List Note} {target : TargetId} {o : Order}
  {device : UInt32} {x : Transfer} {n : Nat}

/-- How many bytes an order sends to its device, if it sends and does not receive. -/
def outgoing? (h : SimulatedHost) : Order → Option Nat
  | .transfer _ r => if r.route.direction = .hostToDevice then some r.dataLength else none
  | .stream id _ _ =>
    match h.streams[id]? with
    | none => none
    | some s => if s.endpoint.direction = .hostToDevice then some s.capacity else none

theorem settle_unanswered (hd : x.direction = .hostToDevice) (m : Buffers) :
    Simulated.settle none x m = (x.record .completed (x.length - x.header), m) := by
  unfold Simulated.settle
  cases hk : x.kind <;> simp only [hd]

theorem settle_recorded (k : SimulatedHost) (hd : x.direction = .hostToDevice) (n : Nat) :
    k.settle (x.record .completed n) =
      some (.ok (if x.kind = .isochronous then IsoPacket.delivered x.packets else n), none) := by
  have hdir : (x.record .completed n).direction = .hostToDevice := hd
  unfold Host.settle
  rw [hdir]
  unfold Transfer.kind Transfer.packets Transfer.record
  cases x.shape <;> rfl

structure Outgoing (o : Order) (n : Nat) (x : Transfer) : Prop where
  direction : x.direction = .hostToDevice
  room : x.length - x.header = n
  packets : x.kind = .isochronous → IsoPacket.delivered x.packets = 0

theorem Drafts.outgoing (hs : Slots h) (ht : Tidy h) (hd : h.Drafts target o device x)
    (ho : h.outgoing? o = some n) : Outgoing o n x := by
  cases hd with
  | @transfer t r contracts id c ha hf =>
    obtain ⟨hdir, rfl⟩ : r.route.direction = .hostToDevice ∧ r.dataLength = n := by
      simpa [outgoing?] using ho
    have hroom := Transfer.room_ofRoute h.nextTransfer r
    refine ⟨(Transfer.direction_ofRoute h.nextTransfer r).trans hdir, hroom, fun hk => ?_⟩
    exact absurd ((Transfer.kind_ofRoute h.nextTransfer r).symm.trans hk)
      r.route.kind_ne_isochronous
  | @stream id b timeout s contracts connection c d hi ha hb hslot =>
    obtain ⟨hdir, rfl⟩ : s.endpoint.direction = .hostToDevice ∧ s.capacity = n := by
      simpa [outgoing?, hi] using ho
    rw [parked_eq hs ht hi hslot]
    exact ⟨hdir, rfl, fun _ => Simulated.delivered_replicate _ _⟩

/-- What a target is told of an unanswered order: that all was sent or, of a stream, nothing. -/
structure Told (o : Order) (n : Nat) (id : TransferId) (target : TargetId) (contracts : Contracts)
    (d : Delivery) : Prop where
  transfer : d.transfer = id
  target : d.target = target
  notifier : d.notifier = contracts.notifier o.kind
  result : d.completion.result = .ok (if o.kind = .isochronous then 0 else n)
  valid : d.completion.valid.getD 0 = 0

theorem valid_deliveryOf (k : SimulatedHost) (x : Transfer) (p : Pending) {result : Outcome}
    (hr : result = .ok 0 ∨ p.buffer = none) (data : Option Bytes) :
    (k.deliveryOf x p result data).completion.valid.getD 0 = 0 := by
  cases hb : p.buffer with
  | none => simp [deliveryOf, completion, hb]
  | some b =>
    obtain rfl := hr.resolve_right (by simp [hb])
    simp only [deliveryOf, completion, hb, Message.read, mark, Buffers.setValid, Option.bind_some,
      List.getElem?_modify]
    cases k.buffers[b]? <;> simp [Storage.setValid, Except.toOption]

theorem told_finished (hs : Slots h) (ht : Tidy h) (hd : h.Drafts target o device x)
    (ho : h.outgoing? o = some n)
    (hnone : (h.controller.take (Simulated.answerKey device x)).2 = none) :
    (h.finished device x).1 = x.record .completed n ∧
      ∃ contracts, h.contracts = some contracts ∧
        Foretold (h.finished device x).1 (Told o n h.nextTransfer target contracts) := by
  have hout := hd.outgoing hs ht ho
  have hfinished : (h.finished device x).1 = x.record .completed n := by
    rw [finished, hnone, settle_unanswered hout.direction, hout.room]
  have hcarries := hd.carries hs
  obtain ⟨contracts, hc, hpend⟩ := hcarries.pending
  refine ⟨hfinished, contracts, hc, fun k p result data hp hset => ?_⟩
  obtain rfl := Option.some.inj (hp.symm.trans hpend)
  have hkind := (Transfer.kind_of_frame (h.frame_finished device x)).trans (hd.kind_eq hs)
  have hsettle := k.settle_recorded hout.direction n
  rw [← hfinished, hset] at hsettle
  obtain ⟨rfl, rfl⟩ := Prod.mk.inj (Option.some.inj hsettle)
  have hresult : (if x.kind = .isochronous then IsoPacket.delivered x.packets else n) =
      if o.kind = .isochronous then 0 else n := by
    rw [← hd.kind_eq hs]
    exact ite_congr rfl hout.packets fun _ => rfl
  rw [hresult]
  refine ⟨hcarries.id, rfl, congrArg contracts.notifier hkind, result_deliveryOf _ _ _ _ _,
    valid_deliveryOf _ _ _ ?_ _⟩
  cases o with
  | transfer t r => exact .inr rfl
  | stream id b timeout => exact .inl rfl

theorem unanswered_reported (h₁run : Run fresh earlier h₁) (hp : h₁.place target o = (h₂, .done))
    (ho : h₁.outgoing? o = some n)
    (hnone : ∀ key ∈ h₁.answerKey? o, (Tape.of earlier).next key = none) (hr : Run h₂ later h₃) :
    ∃ contracts y, h₁.contracts = some contracts ∧
      h₂.controller.queue = h₁.controller.queue ++ [y] ∧ y.kind = o.kind ∧
      y.status = some .completed ∧ y.actual = n ∧
      KeptAs h₃ h₁.nextTransfer (Told o n h₁.nextTransfer target contracts) := by
  obtain ⟨device, x, hd, rfl⟩ := queued_of_done hp
  have hs := slots_fresh.run h₁run
  have htake : (h₁.controller.take (Simulated.answerKey device x)).2 = none := by
    rw [take_run h₁run, hnone _ (hd.answerKey?_eq hs)]
    rfl
  obtain ⟨hfinished, contracts, hc, hfore⟩ :=
    told_finished hs (tidy_fresh.run h₁run) hd ho htake
  have hmove := Move.place h₁ target o
  rw [hp] at hmove
  have hrun := h₁run.trans (.cons hmove hr)
  have hid := (hd.carries hs).id
  have hfate := foretold_run hfore hr (.inl (h₁.queued_mem_owed device x))
  have hk := keptAs_of_foretold (ledger_of_run hrun) (slots_fresh.run hrun) hfore
    (fun d hd => hd.transfer.trans hid.symm) hfate
  rw [hid] at hk
  have hkind := (Transfer.kind_of_frame (h₁.frame_finished device x)).trans (hd.kind_eq hs)
  exact ⟨contracts, (h₁.finished device x).1, hc, rfl, hkind, by rw [hfinished]; rfl,
    by rw [hfinished]; rfl, hk⟩

def sending : List Act :=
  [.upkeep (.resolve .standard), .upkeep (.adopt 1), .upkeep (.setPacketSize 1 ⟨0x02⟩ 4),
    .allocate ⟨0, 0⟩ ⟨0x02⟩ 2 none, .upkeep (.addBuffer (.ofBytes (List.replicate 8 0xbb))),
    .upkeep (.addTarget .recorder)]

/-- Eight bytes are recorded as sent and none is reported. -/
theorem sending_unreported :
    (after (sending ++ [.place 0 (.stream 0 0 0)])).controller.queue.map
        (fun x => (x.status, x.actual)) = [(some .completed, 8)] ∧
      (after (sending ++ [.place 0 (.stream 0 0 0), .processEvents (fun _ _ => {}) none])).seen 0 =
        [{ kind := .isochronous, data := some [], result := .ok 0, valid := some 0 }] := by
  decide

def fourBytes : Request where
  route := .bulk ⟨0x01⟩
  buffer := [1, 2, 3, 4, 5]
  offset := 1
  length := 4
  timeout := 0

theorem sending_reported :
    ∃ earlier contracts h₂ h₃, Run fresh earlier (after sending) ∧
      (after sending).outgoing? (.stream 0 0 0) = some 8 ∧
      (after sending).place 0 (.stream 0 0 0) = (h₂, .done) ∧
      KeptAs h₂ 2 (Told (.stream 0 0 0) 8 2 0 contracts) ∧
      (after sending).outgoing? (.transfer ⟨0, 0⟩ fourBytes) = some 4 ∧
      (after sending).place 0 (.transfer ⟨0, 0⟩ fourBytes) = (h₃, .done) ∧
      KeptAs h₃ 2 (Told (.transfer ⟨0, 0⟩ fourBytes) 4 2 0 contracts) := by
  obtain ⟨earlier, hr, -⟩ := after_run sending
  have hsilent : ∀ key, (Tape.of earlier).next key = none := fun key => by
    have htake : ((after sending).controller.take key).2 = none := rfl
    rw [take_run hr] at htake
    exact Option.map_eq_none_iff.1 htake
  have hplace : ∀ o, ((after sending).place 0 o).2 = .done →
      (after sending).place 0 o = (((after sending).place 0 o).1, .done) :=
    fun o ho => Prod.ext rfl ho
  have hp := hplace (.stream 0 0 0) (by decide)
  have hp' := hplace (.transfer ⟨0, 0⟩ fourBytes) (by decide)
  have ho : (after sending).outgoing? (.stream 0 0 0) = some 8 := by decide
  have ho' : (after sending).outgoing? (.transfer ⟨0, 0⟩ fourBytes) = some 4 := by decide
  obtain ⟨contracts, -, hc, -, -, -, -, hk⟩ :=
    unanswered_reported hr hp ho (fun key _ => hsilent key) (.refl _)
  obtain ⟨contracts', -, hc', -, -, -, -, hk'⟩ :=
    unanswered_reported hr hp' ho' (fun key _ => hsilent key) (.refl _)
  obtain rfl := Option.some.inj (hc.symm.trans hc')
  exact ⟨earlier, contracts, _, _, hr, ho, hp, hk, ho', hp', hk'⟩

end Host

end UsbTransfer
