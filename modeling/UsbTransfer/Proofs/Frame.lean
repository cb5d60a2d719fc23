import UsbTransfer.Proofs.Settlement

namespace UsbTransfer

namespace Simulated

structure Quiet (s s' : Simulated) : Prop where
  queue : s'.queue = s.queue
  script : s'.script = s.script
  submissions : s'.submissions = s.submissions
  rejected : s'.rejected = s.rejected
  dispatched : s'.dispatched = s.dispatched

theorem Quiet.refl (s : Simulated) : Quiet s s := ⟨rfl, rfl, rfl, rfl, rfl⟩

theorem quiet_operate (s : Simulated) (device : UInt32) (op : DeviceOp) :
    Quiet s (s.operate device op).1 := by
  unfold operate
  split
  · exact .refl s
  · split
    · exact .refl s
    · exact ⟨rfl, rfl, rfl, rfl, rfl⟩

theorem quiet_refusal {s c : Simulated} {e : Option UsbError} (h : s.refusal = (c, e)) :
    Quiet s c := by
  unfold refusal at h
  split at h
  · obtain ⟨rfl, -⟩ := Prod.mk.inj h
    exact ⟨rfl, rfl, rfl, rfl, rfl⟩
  · obtain ⟨rfl, -⟩ := Prod.mk.inj h
    exact .refl s

structure Steady (s s' : Simulated) : Prop where
  claims : s'.claims = s.claims
  ops : s'.ops = s.ops

theorem Steady.refl (s : Simulated) : Steady s s := ⟨rfl, rfl⟩

theorem steady_refusal (s : Simulated) : Steady s s.refusal.1 := by
  unfold refusal
  split <;> exact ⟨rfl, rfl⟩

theorem exchange_cases {s s' : Simulated} {device : UInt32} {route : Route} {region region' : Bytes}
    {out : Outcome} (h : s.exchange device route region = some (s', region', out)) :
    (s.disconnected = true ∧ s' = s) ∨ (s.disconnected = false ∧
      ∃ sent, s' = { (s.take (device, route.answerKey)).1 with sent }) := by
  unfold exchange at h
  dsimp only at h
  split at h
  · cases h
  · split at h
    · rename_i hd
      obtain ⟨rfl, -⟩ := Prod.mk.inj (Option.some.inj h)
      exact .inl ⟨hd, rfl⟩
    · rename_i hd
      refine .inr ⟨by simpa using hd, ?_⟩
      split at h <;> obtain ⟨rfl, -⟩ := Prod.mk.inj (Option.some.inj h) <;> exact ⟨_, rfl⟩

end Simulated

namespace Host

structure Quiet (h h' : SimulatedHost) : Prop where
  controller : Simulated.Quiet h.controller h'.controller
  nextTransfer : h'.nextTransfer = h.nextTransfer
  streams : h'.streams = h.streams
  batch : h'.batch = h.batch
  deliveries : h'.deliveries = h.deliveries

variable {h : SimulatedHost}

theorem Quiet.refl (h : SimulatedHost) : Quiet h h := ⟨.refl _, rfl, rfl, rfl, rfl⟩

@[simp] theorem reap_eq (h : SimulatedHost) (id : ConnectionId) : h.reap id = h := by
  unfold reap
  split
  · rfl
  · split <;> rfl

@[simp] theorem reap?_eq (h : SimulatedHost) (id : Option ConnectionId) : h.reap? id = h := by
  cases id with
  | none => rfl
  | some id => exact reap_eq h id

theorem deliveries_log_answered {κ δ : Type} {h : Host κ δ} (t : TargetId) (a : Answer) :
    (h.log (.answered t a)).deliveries = h.deliveries := by
  simp [deliveries, log]

theorem quiet_setChannel (h : SimulatedHost) (t : TargetId) (c : Channel Message) :
    Quiet h (h.setChannel t c) := ⟨.refl _, rfl, rfl, rfl, rfl⟩

theorem quiet_operate (t : Token) (op : DeviceOp) : Quiet h (h.operate t op).1 := by
  unfold operate
  split
  · exact .refl h
  · exact ⟨Simulated.quiet_operate _ _ op, rfl, rfl, rfl, rfl⟩

theorem quiet_close (t : Token) : Quiet h (h.close t).1 := by
  unfold close
  split
  · exact .refl h
  · rw [reap_eq]
    exact ⟨⟨rfl, rfl, rfl, rfl, rfl⟩, rfl, rfl, rfl, rfl⟩

theorem quiet_perform (u : Upkeep) : Quiet h (h.perform u) := by
  cases u with
  | resolve r =>
    simp only [perform, resolve]
    split
    · exact ⟨.refl _, rfl, rfl, rfl, rfl⟩
    · exact .refl h
  | adopt d => exact ⟨.refl _, rfl, rfl, rfl, rfl⟩
  | close t => exact quiet_close t
  | beginDrain t =>
    simp only [perform, beginDrain]
    split
    · exact .refl h
    · exact ⟨.refl _, rfl, rfl, rfl, rfl⟩
  | endDrain id => exact ⟨.refl _, rfl, rfl, rfl, rfl⟩
  | operate t op => exact quiet_operate t op
  | refuseNext e => exact ⟨⟨rfl, rfl, rfl, rfl, rfl⟩, rfl, rfl, rfl, rfl⟩
  | setPacketSize d e n => exact ⟨⟨rfl, rfl, rfl, rfl, rfl⟩, rfl, rfl, rfl, rfl⟩
  | hold d e => exact ⟨⟨rfl, rfl, rfl, rfl, rfl⟩, rfl, rfl, rfl, rfl⟩
  | release d e => exact ⟨⟨rfl, rfl, rfl, rfl, rfl⟩, rfl, rfl, rfl, rfl⟩
  | disconnect => exact ⟨⟨rfl, rfl, rfl, rfl, rfl⟩, rfl, rfl, rfl, rfl⟩
  | addBuffer s => exact ⟨.refl _, rfl, rfl, rfl, rfl⟩
  | write b start data => exact ⟨.refl _, rfl, rfl, rfl, rfl⟩
  | setValid b n => exact ⟨.refl _, rfl, rfl, rfl, rfl⟩
  | addTarget t => exact ⟨.refl _, rfl, rfl, rfl, rfl⟩
  | receive t =>
    simp only [perform]
    split
    · exact .refl h
    · exact quiet_setChannel h t _
  | dropTarget t =>
    simp only [perform, dropTarget]
    split
    · exact quiet_setChannel h t _
    · exact .refl h
  | dropReceiver t =>
    simp only [perform, dropReceiver]
    split
    · exact quiet_setChannel h t _
    · exact .refl h
  | answer t a => exact ⟨.refl _, rfl, rfl, rfl, deliveries_log_answered t a⟩
  | leave => exact ⟨.refl _, rfl, rfl, rfl, rfl⟩

theorem announce_eq {κ δ : Type} (h : Host κ δ) (id : TransferId) (p : Pending)
    (kind : TransferKind) (data : Option Bytes) (result : Outcome) :
    ∃ targets, h.announce id p kind data result =
      { h.log (.notified ⟨id, p.target, p.contracts.notifier kind,
          h.completion kind data p.buffer result⟩) with targets } := by
  unfold announce
  dsimp only
  split
  · exact ⟨_, rfl⟩
  · exact ⟨h.targets, rfl⟩

theorem streams_setSlot? {κ δ : Type} (h : Host κ δ) (id : Option StreamId) (x : Option Transfer) :
    (h.setSlot? id x).streams =
      match id with
      | none => h.streams
      | some id => h.streams.modify id fun s => { s with slot := x } := by
  cases id <;> rfl

section Retiring

variable {κ δ : Type} [Controller κ δ] (h : Host κ δ)

/-- The controller that is left when nothing may refer to a device any more. -/
def Lets (k k' : κ) : Prop := k' = k ∨ ∃ device : δ, k' = Controller.abandon k device

theorem reap?_cases (id : Option ConnectionId) :
    ∃ k, Lets h.controller k ∧ h.reap? id = { h with controller := k } := by
  cases id with
  | none => exact ⟨h.controller, .inl rfl, rfl⟩
  | some id =>
    rw [reap?, reap]
    split
    · exact ⟨h.controller, .inl rfl, rfl⟩
    · rename_i c hc
      split
      · exact ⟨_, .inr ⟨c.device, rfl⟩, rfl⟩
      · exact ⟨h.controller, .inl rfl, rfl⟩

theorem retire_cases (x : Transfer) (slot : Option StreamId) :
    ∃ k, Lets h.controller k ∧ h.retire x slot =
      { (if x.reusable then h.setSlot? slot (some x.cleared) else h) with controller := k } := by
  unfold retire
  cases x.reusable with
  | false => exact h.reap?_cases x.connection
  | true =>
    cases slot with
    | none => exact h.reap?_cases x.connection
    | some id => exact (h.park id x).reap?_cases x.connection

theorem deliver_cases (x : Transfer) (p : Pending) (result : Outcome) (data : Option Bytes) :
    Lets h.controller (h.deliver x p result data).controller ∧
      (h.deliver x p result data).batch = h.batch ∧
      (h.deliver x p result data).streams =
        (if x.reusable then h.setSlot? p.park (some x.cleared) else h).streams := by
  obtain ⟨targets, ht⟩ :=
    announce_eq ((h.mark p.buffer result).retire x p.park) x.id p x.kind data result
  obtain ⟨k, hk, hr⟩ := (h.mark p.buffer result).retire_cases x p.park
  have hc : (h.mark p.buffer result).controller = h.controller := by cases p.buffer <;> rfl
  rw [hc] at hk
  rw [deliver, ht, hr]
  cases p.buffer <;> cases x.reusable <;> cases p.park <;> exact ⟨hk, rfl, rfl⟩

theorem retire_keeps (x : Transfer) (slot : Option StreamId) :
    (h.retire x slot).journal = h.journal ∧ (h.retire x slot).buffers = h.buffers := by
  obtain ⟨k, -, hr⟩ := h.retire_cases x slot
  rw [hr]
  cases x.reusable <;> cases slot <;> exact ⟨rfl, rfl⟩

theorem deliveries_deliver (x : Transfer) (p : Pending) (result : Outcome) (data : Option Bytes) :
    (h.deliver x p result data).deliveries = h.deliveries ++ [h.deliveryOf x p result data] := by
  obtain ⟨targets, ht⟩ :=
    announce_eq ((h.mark p.buffer result).retire x p.park) x.id p x.kind data result
  obtain ⟨hjournal, hbuffers⟩ := (h.mark p.buffer result).retire_keeps x p.park
  have hmark : (h.mark p.buffer result).journal = h.journal := by cases p.buffer <;> rfl
  rw [hmark] at hjournal
  have hread : ((h.mark p.buffer result).retire x p.park).completion x.kind data p.buffer result =
      (h.mark p.buffer result).completion x.kind data p.buffer result := by
    unfold completion
    rw [hbuffers]
  rw [deliver, ht]
  simp [deliveries, log, deliveryOf, hjournal, hread]

end Retiring

theorem retire_eq (h : SimulatedHost) (x : Transfer) (slot : Option StreamId) :
    h.retire x slot = if x.reusable then h.setSlot? slot (some x.cleared) else h := by
  simp only [retire, reap?_eq]
  cases x.reusable <;> cases slot <;> rfl

theorem place_outcome (h : SimulatedHost) (target : TargetId) (o : Order) :
    ((h.place target o).1 = h ∧ (h.place target o).2 ≠ .done) ∨
      (∃ device x c e, h.Drafts target o device x ∧ Simulated.Quiet h.controller c ∧
        h.place target o = (h.turnedAway x c e, .refused (.usb e))) ∨
      ∃ device x, h.Drafts target o device x ∧ h.place target o = (h.queued device x, .done) := by
  rcases h.place_cases target o with hn | ⟨e, -, hn⟩ | ⟨device, x, hd⟩
  · exact .inl (by simp [hn])
  · exact .inl (by simp [hn])
  · have hp := place_of_drafts hd
    unfold offer at hp
    rcases hc : h.controller.refusal with ⟨c, _ | e⟩
    · rw [hc] at hp
      exact .inr (.inr ⟨device, x, hd, hp⟩)
    · rw [hc] at hp
      exact .inr (.inl ⟨device, x, c, e, hd, Simulated.quiet_refusal hc, hp⟩)

theorem queued_of_done {h h' : SimulatedHost} {target : TargetId} {o : Order}
    (hp : h.place target o = (h', .done)) :
    ∃ device x, h.Drafts target o device x ∧ h' = h.queued device x := by
  rcases h.place_outcome target o with ⟨-, hne⟩ | ⟨device, x, c, e, -, -, he⟩ | ⟨device, x, hd, he⟩
  · rw [hp] at hne
    exact absurd rfl hne
  · rw [hp] at he
    cases he
  · rw [hp] at he
    exact ⟨device, x, hd, (Prod.mk.inj he).1⟩

theorem steady_place (h : SimulatedHost) (target : TargetId) (o : Order) :
    h.controller.Steady (h.place target o).1.controller := by
  rcases h.place_cases target o with he | ⟨e, -, he⟩ | ⟨device, x, hd⟩
  · rw [he]
    exact .refl _
  · rw [he]
    exact .refl _
  · rw [place_of_drafts hd, offer]
    have hs := h.controller.steady_refusal
    rcases hc : h.controller.refusal with ⟨c, _ | e⟩
    · exact ⟨rfl, rfl⟩
    · rw [hc] at hs
      exact ⟨hs.claims, hs.ops⟩

theorem packetSize_pos {reported : Outcome} {given : Option Nat} {n : Nat}
    (hs : packetSize reported given = .ok n) : 0 < n := by
  unfold packetSize at hs
  split at hs <;> cases hs <;> exact Nat.succ_pos _

/-- An allocation asks the controller for a size at most, or it adds a stream of packets that are
not empty. -/
theorem allocate_outcome {κ δ : Type} [Controller κ δ] (h : Host κ δ) (t : Token) (e : Endpoint)
    (packets : Nat) (given : Option Nat) :
    (∃ err, h.allocate t e packets given = (h, .error err)) ∨
      (∃ device err, h.allocate t e packets given =
        ({ h with controller := (Controller.maxPacket h.controller device e).1 }, .error err)) ∨
      ∃ connection c packetLength, h.lookup t = .ok (connection, c) ∧ 0 < packets ∧
        packetSize (Controller.maxPacket h.controller c.device e).2 given = .ok packetLength ∧
        h.allocate t e packets given =
          ({ h with
              controller := (Controller.maxPacket h.controller c.device e).1
              nextTransfer := h.nextTransfer + 1
              streams := h.streams ++ [{
                token := t, endpoint := e, packets, packetLength
                slot := some (Transfer.ofPackets h.nextTransfer e packets packetLength) }] },
            .ok h.streams.length) := by
  unfold allocate
  split
  · exact .inl ⟨_, rfl⟩
  · rename_i connection c hl
    split
    · exact .inl ⟨_, rfl⟩
    · rename_i hne
      dsimp only
      split
      · exact .inr (.inl ⟨c.device, _, rfl⟩)
      · rename_i packetLength hsize
        exact .inr (.inr ⟨connection, c, packetLength, hl, Nat.pos_of_ne_zero hne, hsize, rfl⟩)

theorem allocate_sized (h : SimulatedHost) (t : Token) (e : Endpoint) (packets : Nat)
    (given : Option Nat) :
    (h.allocate t e packets given).1 = h ∨
      ∃ packetLength, 0 < packets ∧ 0 < packetLength ∧ (h.allocate t e packets given).1 =
        { h with
          nextTransfer := h.nextTransfer + 1
          streams := h.streams ++ [{
            token := t, endpoint := e, packets, packetLength
            slot := some (Transfer.ofPackets h.nextTransfer e packets packetLength) }] } := by
  rcases h.allocate_outcome t e packets given with
    ⟨err, he⟩ | ⟨device, err, he⟩ | ⟨connection, c, packetLength, -, hp, hs, he⟩
  · exact .inl (congrArg Prod.fst he)
  · exact .inl (congrArg Prod.fst he)
  · exact .inr ⟨packetLength, hp, packetSize_pos hs, congrArg Prod.fst he⟩

theorem allocate_cases (h : SimulatedHost) (t : Token) (e : Endpoint) (packets : Nat)
    (given : Option Nat) :
    (h.allocate t e packets given).1 = h ∨
      ∃ packetLength, (h.allocate t e packets given).1 =
        { h with
          nextTransfer := h.nextTransfer + 1
          streams := h.streams ++ [{
            token := t, endpoint := e, packets, packetLength
            slot := some (Transfer.ofPackets h.nextTransfer e packets packetLength) }] } := by
  rcases h.allocate_sized t e packets given with he | ⟨packetLength, -, -, he⟩
  · exact .inl he
  · exact .inr ⟨packetLength, he⟩

theorem exchange_of_run {h' : SimulatedHost} {call : Call} {c : Connection UInt32} {buffer : Bytes}
    {result : Except HostError Nat} (hc : h.connections[call.connection]? = some c)
    (hr : h.run call = some (h', buffer, result)) :
    ∃ k region out, h.controller.exchange c.device call.request.route call.request.payload =
      some (k, region, out) ∧ h' = { h with controller := k } := by
  simp only [run, hc] at hr
  obtain ⟨⟨k, region, out⟩, hx, he⟩ := Option.map_eq_some_iff.1 hr
  obtain ⟨rfl, -⟩ := Prod.mk.inj he
  exact ⟨k, region, out, hx, rfl⟩

theorem run_eq {h' : SimulatedHost} {call : Call} {c : Connection UInt32} {buffer : Bytes}
    {result : Except HostError Nat} (hc : h.connections[call.connection]? = some c)
    (hd : h.controller.disconnected = false) (hr : h.run call = some (h', buffer, result)) :
    ∃ sent, h' = { h with controller :=
      { (h.controller.take (c.device, call.request.route.answerKey)).1 with sent } } := by
  obtain ⟨k, region, out, hx, rfl⟩ := exchange_of_run hc hr
  rcases Simulated.exchange_cases hx with ⟨hn, -⟩ | ⟨-, sent, rfl⟩
  · simp [hd] at hn
  · exact ⟨sent, rfl⟩

theorem run_cases {h' : SimulatedHost} {call : Call} {buffer : Bytes}
    {result : Except HostError Nat} (hr : h.run call = some (h', buffer, result)) :
    h' = h ∨ ∃ c, h.connections[call.connection]? = some c ∧ h.controller.disconnected = false := by
  cases hc : h.connections[call.connection]? with
  | none =>
    simp only [run, hc] at hr
    exact .inl (congrArg Prod.fst (Option.some.inj hr)).symm
  | some c =>
    obtain ⟨k, region, out, hx, rfl⟩ := exchange_of_run hc hr
    rcases Simulated.exchange_cases hx with ⟨-, rfl⟩ | ⟨hd, -⟩
    · exact .inl rfl
    · exact .inr ⟨c, rfl, hd⟩

section Deliver

variable (h : SimulatedHost) (x : Transfer) (p : Pending) (result : Outcome) (data : Option Bytes)

theorem retire_mark (b : Option BufferId) (slot : Option StreamId) :
    (h.mark b result).retire x slot =
      { h with
        buffers := (h.mark b result).buffers, streams := (h.retire x slot).streams } := by
  rw [retire_eq, retire_eq]
  cases b <;> split <;> cases slot <;> rfl

theorem deliver_eq :
    ∃ targets, h.deliver x p result data =
      { h with
        buffers := (h.mark p.buffer result).buffers
        streams := (h.retire x p.park).streams
        journal := h.journal ++ [.notified (h.deliveryOf x p result data)]
        targets } := by
  obtain ⟨targets, ht⟩ :=
    announce_eq ((h.mark p.buffer result).retire x p.park) x.id p x.kind data result
  refine ⟨targets, ht.trans ?_⟩
  rw [retire_mark]
  cases hb : p.buffer <;> simp only [deliveryOf, hb] <;> rfl

theorem buffers_deliver :
    (h.deliver x p result data).buffers = (h.mark p.buffer result).buffers := by
  obtain ⟨targets, ht⟩ := h.deliver_eq x p result data
  rw [ht]

theorem controller_deliver : (h.deliver x p result data).controller = h.controller := by
  obtain ⟨targets, ht⟩ := h.deliver_eq x p result data
  rw [ht]

theorem batch_deliver : (h.deliver x p result data).batch = h.batch := by
  obtain ⟨targets, ht⟩ := h.deliver_eq x p result data
  rw [ht]

theorem nextTransfer_deliver : (h.deliver x p result data).nextTransfer = h.nextTransfer := by
  obtain ⟨targets, ht⟩ := h.deliver_eq x p result data
  rw [ht]

theorem streams_deliver :
    (h.deliver x p result data).streams =
      if x.reusable then (h.setSlot? p.park (some x.cleared)).streams else h.streams := by
  obtain ⟨targets, ht⟩ := h.deliver_eq x p result data
  rw [ht, retire_eq]
  split <;> rfl

theorem deliveryOf_batch (batch : List Transfer) :
    Host.deliveryOf { h with batch } x p result data = h.deliveryOf x p result data := by
  unfold deliveryOf
  cases p.buffer <;> rfl

end Deliver

end Host

end UsbTransfer
