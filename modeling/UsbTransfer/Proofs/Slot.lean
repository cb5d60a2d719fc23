import UsbTransfer.Proofs.Frame

namespace UsbTransfer

/-- The descriptor that was allocated for a stream, whatever submission it is on. -/
def Stream.Owns (s : Stream) (x : Transfer) : Prop :=
  x.cleared =
    { Transfer.ofPackets x.id s.endpoint s.packets s.packetLength with timeout := x.timeout }

namespace Host

def flying (h : SimulatedHost) (id : StreamId) : List Transfer :=
  h.inFlight.filter fun x => x.slot? = some id

/-- The descriptor is in its slot, or it is the one transfer in flight that goes back there. -/
def OneDescriptor (h : SimulatedHost) (id : StreamId) (s : Stream) : Prop :=
  (∃ x, s.slot = some x ∧ s.Owns x ∧ h.flying id = []) ∨
    (s.slot = none ∧ ∃ x, s.Owns x ∧ h.flying id = [x])

structure Slots (h : SimulatedHost) : Prop where
  one : ∀ id s, h.streams[id]? = some s → h.OneDescriptor id s
  bounded : ∀ x ∈ h.inFlight, ∀ id, x.slot? = some id → id < h.streams.length

variable {h h' : SimulatedHost}

theorem inFlight_eq (h : SimulatedHost) : h.inFlight = h.controller.queue ++ h.batch := rfl

theorem Slots.keep (hs : Slots h) (ht : h'.streams = h.streams)
    (hf : ∀ id, h'.flying id = h.flying id)
    (hb : ∀ x ∈ h'.inFlight, ∀ id, x.slot? = some id → id < h.streams.length) : Slots h' := by
  constructor
  · intro id s hi
    rw [ht] at hi
    simpa only [OneDescriptor, hf] using hs.one id s hi
  · rw [ht]
    exact hb

theorem Slots.congr (hs : Slots h) (hf : h'.inFlight = h.inFlight) (ht : h'.streams = h.streams) :
    Slots h' := by
  refine hs.keep ht (fun id => by rw [flying, hf, flying]) ?_
  rw [hf]
  exact hs.bounded

theorem Quiet.inFlight (hq : Quiet h h') : h'.inFlight = h.inFlight := by
  rw [inFlight_eq, inFlight_eq, hq.controller.queue, hq.batch]

end Host

namespace Stream

variable {s : Stream} {x y : Transfer}

theorem Owns.of_cleared (h : s.Owns x)
    (hc : y.cleared = { x.cleared with id := y.id, timeout := y.timeout }) : s.Owns y := by
  unfold Owns at *
  rw [hc, h]
  rfl

theorem Owns.reusable (h : s.Owns x) : x.reusable = true := by
  have hr : x.cleared.reusable = true := by rw [h]; rfl
  exact hr

theorem Owns.endpoint (h : s.Owns x) : x.endpoint = s.endpoint := by
  have he : x.cleared.endpoint = s.endpoint := by rw [h]; rfl
  exact he

theorem Owns.kind (h : s.Owns x) : x.kind = .isochronous := by
  have hk : x.cleared.kind = .isochronous := by rw [h]; rfl
  unfold Transfer.kind at *
  cases hx : x.shape <;> simp_all [Transfer.cleared, Shape.mapPackets, Shape.kind]

theorem Owns.header (h : s.Owns x) : x.header = 0 := by
  have hk := h.kind
  unfold Transfer.kind at hk
  unfold Transfer.header
  cases hx : x.shape <;> simp_all [Shape.kind]

theorem Owns.cleared (h : s.Owns x) : s.Owns x.cleared := h.of_cleared (by simp)

theorem Owns.of_frame (h : s.Owns x) (hf : y.frame = x.frame) : s.Owns y := by
  apply h.of_cleared
  rw [Transfer.cleared_of_frame hf, Transfer.id_of_frame hf, Transfer.timeout_of_frame hf]
  rfl

theorem owns_ofPackets (s : Stream) (id : TransferId) :
    s.Owns (Transfer.ofPackets id s.endpoint s.packets s.packetLength) := by
  simp [Owns, Transfer.ofPackets, Transfer.cleared, Shape.mapPackets, IsoPacket.cleared]

end Stream

namespace Host

variable {h h' : SimulatedHost} {target : TargetId} {o : Order} {device : UInt32} {x : Transfer}

theorem frame_finished (h : SimulatedHost) (device : UInt32) (x : Transfer) :
    (h.finished device x).1.frame = x.frame := Simulated.frame_settle _ _ _

theorem inFlight_queued (h : SimulatedHost) (device : UInt32) (x : Transfer) :
    (h.queued device x).inFlight =
      h.controller.queue ++ [(h.finished device x).1] ++ h.batch := by
  rw [inFlight_eq, queue_queued, batch_queued]

theorem mem_inFlight_queued {z : Transfer} (hz : z ∈ (h.queued device x).inFlight) :
    z = (h.finished device x).1 ∨ z ∈ h.inFlight := by
  rw [inFlight_queued] at hz
  rw [inFlight_eq]
  simp only [List.mem_append, List.mem_singleton] at hz ⊢
  rcases hz with (hz | hz) | hz
  · exact .inr (.inl hz)
  · exact .inl hz
  · exact .inr (.inr hz)

theorem flying_queued_of_ne {id : StreamId} (hx : x.slot? ≠ some id) :
    (h.queued device x).flying id = h.flying id := by
  have hy := Transfer.slot?_of_frame (h.frame_finished device x)
  rw [flying, flying, inFlight_queued, inFlight_eq, List.filter_append, List.filter_append,
    List.filter_append]
  simp [hy, hx]

theorem flying_queued_self {id : StreamId} (hx : x.slot? = some id) (hn : h.flying id = []) :
    (h.queued device x).flying id = [(h.finished device x).1] := by
  have hy := Transfer.slot?_of_frame (h.frame_finished device x)
  rw [flying, inFlight_eq, List.filter_append, List.append_eq_nil_iff] at hn
  rw [flying, inFlight_queued, List.filter_append, List.filter_append, hn.1, hn.2]
  simp [hy, hx]

theorem inFlight_turnedAway (c : Simulated) (e : UsbError) (hc : Simulated.Quiet h.controller c) :
    (h.turnedAway x c e).inFlight = h.inFlight := by
  have hq : (h.turnedAway x c e).controller.queue = h.controller.queue := hc.queue
  rw [inFlight_eq, inFlight_eq, hq, batch_turnedAway]

theorem Slots.update (hs : Slots h) {id : StreamId} {slot : Option Transfer}
    (ht : h'.streams = h.streams.modify id fun s => { s with slot })
    (hother : ∀ j, j ≠ id → h'.flying j = h.flying j)
    (hself : ∀ s, h.streams[id]? = some s → h'.OneDescriptor id { s with slot })
    (hb : ∀ x ∈ h'.inFlight, ∀ j, x.slot? = some j → j < h.streams.length) : Slots h' := by
  constructor
  · intro j s hj
    rw [ht, List.getElem?_modify] at hj
    by_cases hji : j = id
    · subst hji
      simp only [if_true, Option.map_eq_map] at hj
      obtain ⟨s₀, hs₀, rfl⟩ := Option.map_eq_some_iff.1 hj
      exact hself s₀ hs₀
    · have hne : id ≠ j := fun he => hji he.symm
      have hj : h.streams[j]? = some s := by simpa [hne] using hj
      simpa only [OneDescriptor, hother j hji] using hs.one j s hj
  · intro x hx j hj
    rw [ht, List.length_modify]
    exact hb x hx j hj

theorem Drafts.slot?_cases {κ δ : Type} {h : Host κ δ} {device : δ}
    (hd : h.Drafts target o device x) :
    x.slot? = none ∨ ∃ id s d, x.slot? = some id ∧ h.streams[id]? = some s ∧ s.slot = some d ∧
      x.cleared = { d.cleared with id := x.id, timeout := x.timeout } := by
  cases hd with
  | transfer => exact .inl rfl
  | stream hs _ _ hd => exact .inr ⟨_, _, _, rfl, hs, hd, rfl⟩

theorem Slots.idle (hs : Slots h) {id : StreamId} {s : Stream} {d : Transfer}
    (hi : h.streams[id]? = some s) (hd : s.slot = some d) : s.Owns d ∧ h.flying id = [] := by
  rcases hs.one id s hi with ⟨x, hx, ho, hf⟩ | ⟨hx, -⟩
  · obtain rfl : x = d := by simpa [hd] using hx.symm
    exact ⟨ho, hf⟩
  · simp [hd] at hx

theorem Slots.queued_of_slot?_eq_none (hs : Slots h) (hn : x.slot? = none) :
    Slots (h.queued device x) := by
  have hy := Transfer.slot?_of_frame (h.frame_finished device x)
  have ht : (h.queued device x).streams = h.streams := by
    simp only [Host.queued, streams_setSlot?, hn]
  refine hs.keep ht (fun j => flying_queued_of_ne (by simp [hn])) fun z hz j hj => ?_
  rcases mem_inFlight_queued hz with rfl | hz
  · rw [hy, hn] at hj
    cases hj
  · exact hs.bounded z hz j hj

theorem Slots.queued_of_slot?_eq_some (hs : Slots h) {id : StreamId} {s : Stream} {d : Transfer}
    (hx : x.slot? = some id) (hi : h.streams[id]? = some s) (hslot : s.slot = some d)
    (hc : x.cleared = { d.cleared with id := x.id, timeout := x.timeout }) :
    Slots (h.queued device x) := by
  have hy := h.frame_finished device x
  obtain ⟨ho, hidle⟩ := hs.idle hi hslot
  have ht : (h.queued device x).streams =
      h.streams.modify id fun s => { s with slot := none } := by
    simp only [Host.queued, streams_setSlot?, hx]
  refine hs.update ht (fun j hj => flying_queued_of_ne (by simp [hx, Ne.symm hj])) ?_ ?_
  · intro s' hs'
    obtain rfl : s' = s := by simpa [hi] using hs'.symm
    refine .inr ⟨rfl, (h.finished device x).1, ?_, flying_queued_self hx hidle⟩
    exact Stream.Owns.of_frame (ho.of_cleared hc) hy
  · intro z hz j hj
    rcases mem_inFlight_queued hz with rfl | hz
    · rw [Transfer.slot?_of_frame hy, hx] at hj
      cases hj
      exact (List.getElem?_eq_some_iff.1 hi).1
    · exact hs.bounded z hz j hj

theorem Slots.queued (hs : Slots h) (hd : h.Drafts target o device x) :
    Slots (h.queued device x) := by
  rcases hd.slot?_cases with hn | ⟨id, s, d, hx, hi, hslot, hc⟩
  · exact hs.queued_of_slot?_eq_none hn
  · exact hs.queued_of_slot?_eq_some hx hi hslot hc

theorem Slots.turnedAway (hs : Slots h) {c : Simulated} {e : UsbError}
    (hd : h.Drafts target o device x) (hc : Simulated.Quiet h.controller c) :
    Slots (h.turnedAway x c e) := by
  have hf : (h.turnedAway x c e).inFlight = h.inFlight := inFlight_turnedAway c e hc
  rcases hd.slot?_cases with hn | ⟨id, s, d, hx, hi, hslot, hcl⟩
  · refine hs.congr hf ?_
    simp only [Host.turnedAway, streams_setSlot?, hn]
  · have hidle := hs.idle hi hslot
    have ht : (h.turnedAway x c e).streams =
        h.streams.modify id fun s => { s with slot := some x.cleared } := by
      simp only [Host.turnedAway, streams_setSlot?, hx]
    have hfly : ∀ j, (h.turnedAway x c e).flying j = h.flying j := fun j => by
      rw [flying, hf, flying]
    refine hs.update ht (fun j _ => hfly j) ?_ fun z hz j hj => ?_
    · intro s' hs'
      obtain rfl : s' = s := by simpa [hi] using hs'.symm
      refine .inl ⟨x.cleared, rfl, ?_, ?_⟩
      · have hox : s'.Owns x := hidle.1.of_cleared hcl
        exact hox.cleared
      · rw [hfly]
        exact hidle.2
    · rw [hf] at hz
      exact hs.bounded z hz j hj

theorem Slots.place (hs : Slots h) (target : TargetId) (o : Order) :
    Slots (h.place target o).1 := by
  rcases h.place_outcome target o with ⟨hp, -⟩ | ⟨device, x, c, e, hd, hc, hp⟩ | ⟨device, x, hd, hp⟩
  · rw [hp]
    exact hs
  · rw [hp]
    exact hs.turnedAway hd hc
  · rw [hp]
    exact hs.queued hd

theorem Slots.append (hs : Slots h) {s : Stream} {x : Transfer} (hx : s.slot = some x)
    (ho : s.Owns x) (ht : h'.streams = h.streams ++ [s]) (hf : h'.inFlight = h.inFlight) :
    Slots h' := by
  have hfly : ∀ j, h'.flying j = h.flying j := fun j => by rw [flying, hf, flying]
  constructor
  · intro j s' hj
    rw [ht, List.getElem?_append] at hj
    split at hj
    · simpa only [OneDescriptor, hfly] using hs.one j s' hj
    · rename_i hlt
      obtain ⟨-, rfl⟩ : j - h.streams.length = 0 ∧ s' = s := by
        rw [List.getElem?_singleton] at hj
        split at hj
        · exact ⟨by assumption, by simpa using hj.symm⟩
        · cases hj
      refine .inl ⟨x, hx, ho, ?_⟩
      rw [hfly, flying, List.filter_eq_nil_iff]
      intro z hz hzj
      exact hlt (hs.bounded z hz j (by simpa using hzj))
  · intro z hz j hj
    rw [hf] at hz
    rw [ht, List.length_append]
    exact Nat.lt_add_right _ (hs.bounded z hz j hj)

theorem Slots.allocate (hs : Slots h) (t : Token) (e : Endpoint) (packets : Nat)
    (given : Option Nat) : Slots (h.allocate t e packets given).1 := by
  rcases h.allocate_cases t e packets given with he | ⟨packetLength, he⟩
  · rw [he]
    exact hs
  · rw [he]
    exact hs.append rfl (Stream.owns_ofPackets _ _) rfl rfl

theorem Slots.poll (hs : Slots h) (hb : h.batch = []) :
    Slots { h with controller := h.controller.poll.1, batch := h.controller.queue } := by
  refine hs.congr ?_ rfl
  rw [inFlight_eq, inFlight_eq, hb, List.append_nil]
  rfl

theorem Slots.alone (hs : Slots h) {rest : List Transfer} {id : StreamId} (hb : h.batch = x :: rest)
    (hx : x.slot? = some id) :
    ∃ s, h.streams[id]? = some s ∧ s.Owns x ∧
      (h.controller.queue ++ rest).filter (fun z => z.slot? = some id) = [] := by
  have hmem : x ∈ h.inFlight := by simp [inFlight_eq, hb]
  have hlt := hs.bounded x hmem id hx
  have hfly : h.flying id = h.controller.queue.filter (fun z => z.slot? = some id) ++
      x :: rest.filter fun z => z.slot? = some id := by
    rw [flying, inFlight_eq, hb, List.filter_append]
    simp [hx]
  refine ⟨_, List.getElem?_eq_getElem hlt, ?_⟩
  rcases hs.one id _ (List.getElem?_eq_getElem hlt) with ⟨_, _, _, hnil⟩ | ⟨-, y, hoy, hy⟩
  · rw [hfly] at hnil
    simp at hnil
  · rw [hfly] at hy
    -- `x` is itself the one transfer in flight, so that none is left for the queue and the rest
    have hlen := congrArg List.length hy
    simp only [List.length_append, List.length_cons, List.length_nil] at hlen
    have hq : h.controller.queue.filter (fun z => z.slot? = some id) = [] :=
      List.eq_nil_of_length_eq_zero (by omega)
    rw [hq, List.nil_append] at hy
    obtain ⟨rfl, hr⟩ := List.cons.inj hy
    exact ⟨hoy, by rw [List.filter_append, hq, hr, List.append_nil]⟩

theorem inFlight_deliver (h : SimulatedHost) (x : Transfer) (rest : List Transfer) (p : Pending)
    (result : Outcome) (data : Option Bytes) :
    (Host.deliver { h with batch := rest } x p result data).inFlight =
      h.controller.queue ++ rest := by
  rw [inFlight_eq, controller_deliver, batch_deliver]

theorem flying_deliver_of_ne {rest : List Transfer} {id : StreamId} (hb : h.batch = x :: rest)
    (hx : x.slot? ≠ some id) (p : Pending) (result : Outcome) (data : Option Bytes) :
    (Host.deliver { h with batch := rest } x p result data).flying id = h.flying id := by
  rw [flying, flying, inFlight_deliver, inFlight_eq, hb, List.filter_append, List.filter_append,
    List.filter_cons_of_neg (by simpa using hx)]

theorem Slots.bounded_deliver (hs : Slots h) {rest : List Transfer} (hb : h.batch = x :: rest)
    (p : Pending) (result : Outcome) (data : Option Bytes) :
    ∀ z ∈ (Host.deliver { h with batch := rest } x p result data).inFlight, ∀ j,
      z.slot? = some j → j < h.streams.length := by
  intro z hz j hj
  rw [inFlight_deliver] at hz
  refine hs.bounded z ?_ j hj
  rw [inFlight_eq, hb]
  rcases List.mem_append.1 hz with hz | hz
  · exact List.mem_append_left _ hz
  · exact List.mem_append_right _ (List.mem_cons_of_mem _ hz)

theorem Slots.deliver (hs : Slots h) {rest : List Transfer} {p : Pending} {result : Outcome}
    {data : Option Bytes} (hb : h.batch = x :: rest) (hp : x.pending = some p) :
    Slots (Host.deliver { h with batch := rest } x p result data) := by
  have hslot : x.slot? = p.park := by simp [Transfer.slot?, hp]
  have ht := Host.streams_deliver { h with batch := rest } x p result data
  have hbound := hs.bounded_deliver hb p result data
  cases hpark : p.park with
  | none =>
    have hst : (Host.deliver { h with batch := rest } x p result data).streams = h.streams := by
      rw [ht, hpark]
      split <;> rfl
    refine hs.keep hst (fun j => flying_deliver_of_ne hb ?_ p result data) hbound
    simp [hslot, hpark]
  | some id =>
    rw [hpark] at hslot
    obtain ⟨s, hi, ho, hnil⟩ := hs.alone hb hslot
    have hst : (Host.deliver { h with batch := rest } x p result data).streams =
        h.streams.modify id fun s => { s with slot := some x.cleared } := by
      rw [ht, hpark, if_pos ho.reusable]
      rfl
    refine hs.update hst (fun j hj => flying_deliver_of_ne hb ?_ p result data) ?_ hbound
    · simpa [hslot] using Ne.symm hj
    · intro s' hi'
      obtain rfl : s' = s := by simpa [hi] using hi'.symm
      refine .inl ⟨x.cleared, rfl, ho.cleared, ?_⟩
      rw [flying, inFlight_deliver]
      exact hnil

theorem Slots.move {n : Note} (hs : Slots h) (hm : Move h n h') : Slots h' := by
  cases hm with
  | upkeep u =>
    have hq : Quiet h (h.perform u) := quiet_perform u
    exact hs.congr hq.inFlight hq.streams
  | allocate t e packets given => exact hs.allocate t e packets given
  | script device e r => exact hs.congr rfl rfl
  | exchange hc hd hr =>
    obtain ⟨sent, rfl⟩ := run_eq hc hd hr
    exact hs.congr rfl rfl
  | place target o => exact hs.place target o
  | poll hb => exact hs.poll hb
  | deliver hb hp _ => exact hs.deliver hb hp

theorem Slots.run {history : List Note} (hr : Run h history h') (hs : Slots h) : Slots h' := by
  induction hr with
  | refl => exact hs
  | snoc _ hm ih => exact ih.move hm

theorem slots_fresh : Slots fresh :=
  ⟨fun id s hi => by simp [fresh] at hi, fun x hx => by simp [inFlight_eq, fresh] at hx⟩

end Host

end UsbTransfer
