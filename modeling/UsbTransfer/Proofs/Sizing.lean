import UsbTransfer.Proofs.Provenance
import UsbTransfer.Proofs.Delivery

namespace UsbTransfer

namespace Stream

variable {s : Stream} {x y : Transfer}

theorem Owns.length (ho : s.Owns x) : x.length = s.capacity := by
  have hl : x.cleared.length = s.capacity := by rw [ho]; rfl
  exact hl

theorem Owns.lengths (ho : s.Owns x) :
    x.packets.map (·.length) = List.replicate s.packets (.ofNat s.packetLength) := by
  have hp : x.cleared.packets.map (·.length) =
      List.replicate s.packets (.ofNat s.packetLength) := by
    rw [ho]
    simp [Transfer.packets, Transfer.ofPackets, Shape.packets]
  unfold Transfer.packets at *
  cases hx : x.shape <;>
    simp_all [Transfer.cleared, Shape.mapPackets, Shape.packets, IsoPacket.cleared,
    Function.comp_def]

end Stream

namespace Transfer

def requested (x : Transfer) : Nat := total (x.packets.map (·.length.toNat))

def Exact (x : Transfer) (packetLength : Nat) : Prop :=
  (∀ p ∈ x.packets, p.length.toNat = packetLength) ∧ x.length = x.requested

/-- The sizes of a descriptor for so many packets of a length. Their product is a word of 64 bits,
and what each of them asks for one of 32. -/
structure Measures (x : Transfer) (packets packetLength : Nat) : Prop where
  length : x.length = packets * packetLength % wordSize
  lengths : x.packets.map (·.length) = List.replicate packets (.ofNat packetLength)
  requested : x.requested = packets * (packetLength % UInt32.size)
  exact_iff : x.Exact packetLength ↔ packets * packetLength < wordSize ∧ packetLength < UInt32.size

variable {x : Transfer} {packets packetLength : Nat}

theorem requested_of_lengths
    (hl : x.packets.map (·.length) = List.replicate packets (.ofNat packetLength)) :
    x.requested = packets * (packetLength % UInt32.size) := by
  have hn := congrArg (List.map UInt32.toNat) hl
  rw [List.map_map, List.map_replicate] at hn
  have hr : x.requested = total (List.replicate packets (UInt32.ofNat packetLength).toNat) :=
    congrArg total hn
  rw [hr, total, List.sum_replicate_nat, UInt32.toNat_ofNat']

theorem measures_of_lengths (hpos : 0 < packets)
    (hlen : x.length = packets * packetLength % wordSize)
    (hl : x.packets.map (·.length) = List.replicate packets (.ofNat packetLength)) :
    x.Measures packets packetLength := by
  have hreq := requested_of_lengths hl
  have hmem : ∀ p ∈ x.packets, p.length.toNat = packetLength % UInt32.size := by
    intro p hp
    have hr : p.length ∈ List.replicate packets (UInt32.ofNat packetLength) :=
      hl ▸ List.mem_map_of_mem hp
    rw [List.eq_of_mem_replicate hr, UInt32.toNat_ofNat']
  refine ⟨hlen, hl, hreq, ?_⟩
  constructor
  · rintro ⟨hall, hsum⟩
    have hne : x.packets ≠ [] := by
      intro hnil
      rw [hnil] at hl
      have hcount := congrArg List.length hl
      simp only [List.map_nil, List.length_nil, List.length_replicate] at hcount
      omega
    obtain ⟨p, hp⟩ := List.exists_mem_of_ne_nil _ hne
    have hfull : packetLength % UInt32.size = packetLength := (hmem p hp).symm.trans (hall p hp)
    have hword : packets * packetLength % wordSize = packets * packetLength := by
      rw [← hlen, hsum, hreq, hfull]
    constructor
    · rw [← hword]
      exact Nat.mod_lt _ (by decide)
    · rw [← hfull]
      exact Nat.mod_lt _ (by decide)
  · rintro ⟨hword, hsmall⟩
    have hfull : packetLength % UInt32.size = packetLength := Nat.mod_eq_of_lt hsmall
    refine ⟨fun p hp => (hmem p hp).trans hfull, ?_⟩
    rw [hlen, hreq, hfull, Nat.mod_eq_of_lt hword]

theorem Measures.requested_le (hm : x.Measures packets packetLength)
    (hw : packets * packetLength < wordSize) : x.requested ≤ x.length := by
  rw [hm.requested, hm.length, Nat.mod_eq_of_lt hw]
  exact Nat.mul_le_mul_left _ (Nat.mod_le _ _)

end Transfer

namespace Stream

theorem Owns.measures {s : Stream} {x : Transfer} (ho : s.Owns x) (hpos : 0 < s.packets) :
    x.Measures s.packets s.packetLength :=
  Transfer.measures_of_lengths hpos ho.length ho.lengths

end Stream

namespace Host

variable {κ δ : Type} [Controller κ δ] {h₀ h h₁ h₂ : Host κ δ} {t : Token} {e : Endpoint}
  {packets packetLength : Nat} {given : Option Nat} {id : StreamId}

/-- A stream has these sizes in its slot, in flight and on the way to the controller. A buffer that
is accepted has room for the length, and for all packets as long as the product is a word. -/
structure Sized (h : Host κ δ) (id : StreamId) (packets packetLength : Nat) : Prop where
  stream : ∃ s, h.streams[id]? = some s ∧ s.packets = packets ∧ s.packetLength = packetLength ∧
    s.capacity = packets * packetLength % wordSize ∧
    ∀ x, s.slot = some x → x.Measures packets packetLength
  flying : ∀ x ∈ h.inFlight, x.slot? = some id → x.Measures packets packetLength
  handed : ∀ target b timeout h', h.place target (.stream id b timeout) = (h', .done) →
    ∃ device x k m, h.Drafts target (.stream id b timeout) device x ∧
      Controller.submit h.controller device x h.buffers = (k, m, none) ∧ x.memory = .lent b ∧
      x.Measures packets packetLength ∧ x.length ≤ h.buffers.capacity b ∧
      (packets * packetLength < wordSize → x.requested ≤ h.buffers.capacity b)

theorem Provenance.sized (hp : Provenance h) {s : Stream} (hi : h.streams[id]? = some s)
    (hpos : 0 < s.packets) : h.Sized id s.packets s.packetLength := by
  have howned : ∀ x, h.Owned x → x.slot? = some id → x.Measures s.packets s.packetLength := by
    intro x ho hx
    obtain ⟨s', hi', hown⟩ := ho id hx
    obtain rfl := Option.some.inj (hi.symm.trans hi')
    exact hown.measures hpos
  refine ⟨⟨s, hi, rfl, rfl, rfl, fun x hx => (hp.parked id s x hi hx).measures hpos⟩,
    fun x hx => howned x (hp.flying x hx), ?_⟩
  intro target b timeout h' hplace
  obtain ⟨device, x, k, m, hd, hs, -⟩ := handed_of_done hplace
  have hx : x.slot? = some id ∧ x.memory = .lent b ∧ s.capacity ≤ h.buffers.capacity b := by
    cases hd with
    | @stream _ _ _ s' contracts connection c d hi' ha hb hslot =>
      obtain rfl := Option.some.inj (hi.symm.trans hi')
      exact ⟨rfl, rfl, hb⟩
  have hm := howned x (hp.drafted hd) hx.1
  have hle : x.length ≤ h.buffers.capacity b := hm.length ▸ hx.2.2
  exact ⟨device, x, k, m, hd, hs, hx.2.1, hm, hle,
    fun hw => Nat.le_trans (hm.requested_le hw) hle⟩

theorem allocateChecked_iff {s : Stream} (ha : h.allocate t e packets given = (h₁, .ok id))
    (hs : h₁.streams[id]? = some s) :
    h.allocateChecked t e packets given = .ok (h₁, .ok id) ↔
      s.packets * s.packetLength < wordSize := by
  have hid : (Except.ok id : Except HostError StreamId).toOption.bind (h₁.streams[·]?) = some s :=
    hs
  simp only [allocateChecked, ha, hid, checkedMul]
  split
  · exact ⟨fun _ => ‹_›, fun _ => rfl⟩
  · exact ⟨nofun, fun hw => absurd hw ‹_›⟩

variable [LawfulController κ]

theorem allocated_sizes (h₀v : h₀.Vacant) (h₀h : Steps h₀ h)
    (ha : h.allocate t e packets given = (h₁, .ok id)) (h₁h₂ : Steps h₁ h₂) :
    ∃ connection c packetLength, h.lookup t = .ok (connection, c) ∧
      packetSize (Controller.maxPacket h.controller c.device e).2 given = .ok packetLength ∧
      0 < packets ∧ 0 < packetLength ∧
      (h.allocateChecked t e packets given = .ok (h₁, .ok id) ↔ packets * packetLength < wordSize) ∧
      h₂.Sized id packets packetLength := by
  have hstep : Steps h h₁ := by
    have hallocate := Step.allocate h t e packets given
    rw [ha] at hallocate
    exact .single hallocate
  have hprov := h₀v.provenance.steps (h₀h.trans (hstep.trans h₁h₂))
  rcases h.allocate_outcome t e packets given with
    ⟨err, he⟩ | ⟨device, err, he⟩ | ⟨connection, c, packetLength, hl, hpos, hsize, he⟩
  · rw [ha] at he
    cases he
  · rw [ha] at he
    cases he
  · rw [ha] at he
    obtain ⟨rfl, hid⟩ := Prod.mk.inj he
    obtain rfl := Except.ok.inj hid
    obtain ⟨y, hy⟩ := stream_steps h₁h₂ List.getElem?_concat_length
    exact ⟨connection, c, packetLength, hl, hsize, hpos, packetSize_pos hsize,
      allocateChecked_iff (ha.trans he) List.getElem?_concat_length, hprov.sized hy hpos⟩

def oversizing : List Act :=
  [.upkeep (.resolve .standard), .upkeep (.adopt 1), .allocate ⟨0, 0⟩ ⟨0x82⟩ 1 (some 4294967300)]

/-- The length of the one packet is cut to 32 bits, and that of the transfer is not. -/
theorem oversized_packet_cut :
    ∃ s x, (after oversizing).streams[0]? = some s ∧ s.slot = some x ∧
      s.packets = 1 ∧ s.packetLength = 4294967300 ∧ s.packets * s.packetLength < wordSize ∧
      s.capacity = 4294967300 ∧ x.length = 4294967300 ∧ x.packets.map (·.length.toNat) = [4] ∧
      x.requested = 4 ∧ ¬ x.Exact s.packetLength := by
  refine ⟨_, _, rfl, rfl, rfl, rfl, by decide, by decide, by decide, by decide, by decide, ?_⟩
  rintro ⟨-, hsum⟩
  revert hsum
  decide

def sizing : List Act :=
  [.upkeep (.resolve .standard), .upkeep (.adopt 1), .upkeep (.setPacketSize 1 ⟨0x82⟩ 4),
    .upkeep (.addBuffer (.zeroed 9)), .upkeep (.addTarget .recorder)]

theorem resubmitted_sizes :
    ∃ h h₁ h₂ : SimulatedHost, fresh.Vacant ∧ Steps fresh h ∧
      h.allocate ⟨0, 0⟩ ⟨0x82⟩ 2 (some 5) = (h₁, .ok 0) ∧ Steps h₁ h₂ ∧ h₂.Sized 0 2 4 ∧
      (∀ x : Transfer, x.Measures 2 4 → x.Exact 4) ∧ (h₂.place 0 (.stream 0 0 7)).2 = .done ∧
      h₂.deliveries.length = 1 := by
  have hv : fresh.Vacant := ⟨rfl, rfl⟩
  obtain ⟨history, hr, -⟩ := after_run sizing
  have hsteps := steps_of_run hr
  have ha : (after sizing).allocate ⟨0, 0⟩ ⟨0x82⟩ 2 (some 5) =
    (((after sizing).allocate ⟨0, 0⟩ ⟨0x82⟩ 2 (some 5)).1, .ok 0) := Prod.ext rfl (by decide)
  have hplace := Step.place ((after sizing).allocate ⟨0, 0⟩ ⟨0x82⟩ 2 (some 5)).1 0 (.stream 0 0 7)
  have hround := (Steps.single hplace).trans (steps_processEvents _ (fun _ _ => {}) none)
  obtain ⟨connection, c, packetLength, hl, hsize, -, -, -, hsized⟩ :=
    allocated_sizes hv hsteps ha hround
  have hlookup : (after sizing).lookup ⟨0, 0⟩ = .ok (0, { device := 1 }) := by decide
  obtain ⟨-, rfl⟩ := Prod.mk.inj (Except.ok.inj (hlookup.symm.trans hl))
  have hfour : packetSize (Controller.maxPacket (after sizing).controller 1 ⟨0x82⟩).2 (some 5) =
    .ok 4 := by decide
  obtain rfl := Except.ok.inj (hfour.symm.trans hsize)
  exact ⟨_, _, _, hv, hsteps, ha, hround, hsized, fun x hm => hm.exact_iff.2 (by decide),
    by decide, by decide⟩

end Host

end UsbTransfer
