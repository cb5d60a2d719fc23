import UsbTransfer.Proofs.Answer
import UsbTransfer.Proofs.Boundary
import UsbTransfer.Proofs.Sizing

namespace UsbTransfer

/-- The first length that a native integer cannot hold. -/
def nativeLimit : Nat := UInt32.size / 2

theorem nativeInt_eq {n : Nat} (h : n < nativeLimit) : nativeInt n = n := by
  have hlimit : nativeLimit = 2147483648 := rfl
  have hsize : UInt32.size = 4294967296 := rfl
  apply Int.bmod_eq_of_le <;> omega

theorem nativeInt_le (n : Nat) : nativeInt n ≤ n := by
  have hsize : UInt32.size = 4294967296 := rfl
  unfold nativeInt
  simp only [Int.bmod_def, hsize]
  split <;> omega

theorem nativeInt_lt (n : Nat) : nativeInt n < nativeLimit := by
  have hlimit : nativeLimit = 2147483648 := rfl
  have hsize : UInt32.size = 4294967296 := rfl
  have hlt : Int.bmod n UInt32.size < ((UInt32.size : Int) + 1) / 2 := Int.bmod_lt (by decide)
  unfold nativeInt
  omega

theorem nativeInt_eq_iff {n : Nat} : nativeInt n = n ↔ n < nativeLimit := by
  constructor
  · intro h
    have hlt := nativeInt_lt n
    omega
  · exact nativeInt_eq

theorem SetupPacket.lt_nativeLimit (s : SetupPacket) : size + s.length.toNat < nativeLimit := by
  have hw : s.length.toNat < 65536 := s.length.toNat_lt
  have hlimit : nativeLimit = 2147483648 := rfl
  have hsize : size = 8 := rfl
  omega

/-- A native transfer has the values of the descriptor behind it. Its length and the number of its
packets are integers of 32 bits. -/
structure NativeTransfer.Mirrors (n : NativeTransfer) (m : Buffers) : Prop where
  kind : n.kind = n.owner.kind
  endpoint : n.endpoint = n.owner.endpoint
  timeout : n.timeout = n.owner.timeout
  length : n.length = nativeInt n.owner.length
  exact_iff : n.length = n.owner.length ↔ n.owner.length < nativeLimit
  count : n.packets.length = (nativeInt n.owner.packets.length).toNat
  lengths : n.owner.packets.length < nativeLimit →
    n.packets.map (·.length) = n.owner.packets.map (·.length)
  room : n.owner.length ≤ (n.owner.bytes m).length
  within : n.length ≤ (n.owner.bytes m).length

namespace Transfer

/-- The descriptor of a control transfer has its setup stage in front, a table of packets is not
empty and its packets are equal, and the memory has room for the length. -/
structure Regular (x : Transfer) (m : Buffers) : Prop where
  control : ∀ s, x.shape = .control s → x.endpoint = .control ∧
    x.length = SetupPacket.size + s.length.toNat ∧ (x.bytes m).take SetupPacket.size = s.toBytes
  table : ∀ ps, x.shape = .isochronous ps → ps ≠ []
  equal : ∃ k n, x.packets.map (·.length) = List.replicate n k
  room : x.length ≤ (x.bytes m).length

variable {x : Transfer} {m : Buffers}

theorem lengths_of_equal (he : ∃ k n, x.packets.map (·.length) = List.replicate n k) :
    List.replicate x.packets.length (.ofNat x.packetLength) = x.packets.map (·.length) := by
  obtain ⟨k, n, he⟩ := he
  have hn := congrArg List.length he
  rw [List.length_map, List.length_replicate] at hn
  unfold packetLength
  cases hp : x.packets with
  | nil => rfl
  | cons p ps =>
    have hk : p.length = k := by
      apply List.eq_of_mem_replicate (n := n)
      rw [← he, hp]
      exact List.mem_cons_self
    rw [hp] at he hn
    rw [he, hn]
    simp [hk]

end Transfer

namespace Link

variable {l l' : Link} {d raw : Nat} {x : Transfer} {m m' : Buffers}

theorem length_native (hx : x.Regular m) : (l.native raw d x m).length = nativeInt x.length := by
  cases hs : x.shape with
  | control s =>
    obtain ⟨-, hlen, hsetup⟩ := hx.control s hs
    have hannounced : SetupPacket.announced (x.bytes m) = s.length.toNat := by
      rw [SetupPacket.announced, hsetup, SetupPacket.ofBytes?_toBytes, Option.map_some,
        Option.getD_some]
    have hsmall : x.length < nativeLimit := hlen ▸ s.lt_nativeLimit
    rw [nativeInt_eq hsmall, hlen]
    simp only [native, hs, hannounced]
    rfl
  | bulk | interrupt | isochronous => simp only [native, hs]

theorem kind_native (hx : x.Regular m) : (l.native raw d x m).kind = x.kind := by
  unfold Transfer.kind
  cases hs : x.shape with
  | isochronous ps =>
    have hne := hx.table ps hs
    simp [native, hs, hne, Shape.kind]
  | control | bulk | interrupt => simp only [native, hs, Shape.kind]

theorem endpoint_native (hx : x.Regular m) : (l.native raw d x m).endpoint = x.endpoint := by
  cases hs : x.shape with
  | control s =>
    simp only [native, hs]
    exact (hx.control s hs).1.symm
  | bulk | interrupt | isochronous => simp only [native, hs]

theorem mirrors_native (hx : x.Regular m) : (l.native raw d x m).Mirrors m := by
  have hlen : (l.native raw d x m).length = nativeInt x.length := length_native hx
  have howner : (l.native raw d x m).owner = x := rfl
  refine ⟨kind_native hx, endpoint_native hx, rfl, hlen, ?_, ?_, ?_, hx.room, ?_⟩
  · rw [hlen]
    exact nativeInt_eq_iff
  · rw [howner, native, List.length_replicate]
  · intro hcount
    rw [howner] at hcount ⊢
    rw [← Transfer.lengths_of_equal hx.equal, native, nativeInt_eq hcount, Int.toNat_natCast,
      List.map_replicate]
  · have hle := nativeInt_le x.length
    have hroom := hx.room
    rw [hlen, howner]
    omega

theorem submit_done (hs : l.submit d x m = (l', m', none)) :
    m' = m ∧ l'.bus.pending = l.bus.pending ++ [l.native l.bus.allocated d x m] ∧
      l'.bus.log = l.bus.log ++ [.submitted (l.native l.bus.allocated d x m)
        ((x.bytes m).take (l.native l.bus.allocated d x m).length.toNat)] := by
  rcases l.submit_cases d x m with ⟨bus, u, -, hx⟩ | ⟨bus, ha, hlog, ⟨u, hx⟩ | hx⟩ <;>
    rw [hs] at hx <;> cases hx
  rw [Transfer.leading_eq] at hlog
  exact ⟨rfl, congrArg (· ++ [_]) ha.pending, hlog⟩

end Link

/-- The descriptor of a request, and its memory: a setup stage where there is one, and the caller's
region behind it where the data go to the device. -/
structure Request.Drawn (r : Request) (x : Transfer) (bytes : Bytes) : Prop where
  kind : x.kind = r.route.kind
  endpoint : x.endpoint = r.route.endpoint
  timeout : x.timeout = r.timeout
  length : x.length = x.header + r.dataLength
  packets : x.packets = []
  setup : ∀ s, r.route = .control s →
    bytes.take SetupPacket.size = s.toBytes ∧ x.length < nativeLimit
  payload : r.route.direction = .hostToDevice → bytes.drop x.header = r.payload

structure Stream.Drawn (s : Stream) (b : BufferId) (timeout : UInt32) (x : Transfer) : Prop where
  kind : x.kind = .isochronous
  endpoint : x.endpoint = s.endpoint
  timeout : x.timeout = timeout
  length : x.length = s.capacity
  measures : x.Measures s.packets s.packetLength
  memory : x.memory = .lent b

def Order.Drawn (o : Order) (h : NativeHost) (x : Transfer) : Prop :=
  match o with
  | .transfer _ r => r.Drawn x (x.bytes h.buffers)
  | .stream id b timeout => ∃ s, h.streams[id]? = some s ∧ s.Drawn b timeout x

namespace Host

variable {h₀ h h' : NativeHost} {target : TargetId} {o : Order} {device : Nat} {x : Transfer}

theorem drawn_draft {contracts : Contracts} {connection : ConnectionId} {r : Request}
    (hr : r.route.direction = .hostToDevice → r.region.Fits r.buffer.length) :
    r.Drawn (h.draft target contracts connection r)
      ((h.draft target contracts connection r).bytes h.buffers) := by
  have hlen : (h.draft target contracts connection r).length -
      (h.draft target contracts connection r).header = r.dataLength :=
    Transfer.room_ofRoute h.nextTransfer r
  have hheader : (h.draft target contracts connection r).header ≤
      (h.draft target contracts connection r).length :=
    Transfer.header_le_length_ofRoute h.nextTransfer r.route r.length r.payload r.timeout
  refine ⟨Transfer.kind_ofRoute h.nextTransfer r, Transfer.endpoint_ofRoute h.nextTransfer r, ?_,
    by omega, ?_, ?_, fun hd => Transfer.bytes_ofRoute h.nextTransfer r h.buffers hd (hr hd)⟩
  · unfold draft
    cases r.route <;> rfl
  · unfold draft
    cases r.route <;> rfl
  · intro s hs
    simp only [draft, hs, Transfer.ofRoute, Transfer.ofControl, Transfer.bytes]
    exact ⟨List.take_left' rfl, s.lt_nativeLimit⟩

theorem regular_draft {contracts : Contracts} {connection : ConnectionId} {r : Request} :
    (h.draft target contracts connection r).Regular h.buffers := by
  obtain ⟨bytes, hown, hlen⟩ := Transfer.owned_ofRoute h.nextTransfer r
  have hbytes : (h.draft target contracts connection r).bytes h.buffers = bytes :=
    Transfer.bytes_of_own? hown h.buffers
  refine ⟨?_, ?_, ?_, ?_⟩
  · intro s hs
    cases hr : r.route with
    | control s' =>
      simp only [draft, hr, Transfer.ofRoute, Transfer.ofControl, Shape.control.injEq] at hs
      subst hs
      simp only [draft, hr, Transfer.ofRoute, Transfer.ofControl, Transfer.bytes]
      exact ⟨trivial, trivial, List.take_left' rfl⟩
    | bulk e | interrupt e =>
      rw [draft, hr] at hs
      cases hs
  · intro ps hs
    unfold draft at hs
    cases hr : r.route <;> rw [hr] at hs <;> cases hs
  · refine ⟨0, 0, ?_⟩
    unfold draft
    cases r.route <;> rfl
  · rw [hbytes, hlen]
    exact Nat.le_refl _

theorem regular_stream {s : Stream} {b : BufferId} (ho : s.Owns x) (hpos : 0 < s.packets)
    (hm : x.memory = .lent b) (hb : s.capacity ≤ h.buffers.capacity b) : x.Regular h.buffers := by
  have hkind := ho.kind
  have hlengths := ho.lengths
  refine ⟨?_, ?_, ⟨_, _, hlengths⟩, ?_⟩
  · intro p hs
    rw [Transfer.kind, hs] at hkind
    cases hkind
  · rintro ps hs rfl
    rw [Transfer.packets, hs] at hlengths
    have hcount := congrArg List.length hlengths
    simp only [Shape.packets, List.map_nil, List.length_nil, List.length_replicate] at hcount
    omega
  · rw [ho.length, Transfer.bytes, hm]
    exact hb

theorem drawn_of_drafts (hp : Provenance h) (hf : Filled h) (hd : h.Drafts target o device x) :
    x.Regular h.buffers ∧ o.Drawn h x := by
  have howned := hp.drafted hd
  cases hd with
  | transfer ha hr => exact ⟨regular_draft, drawn_draft hr⟩
  | @stream id b timeout s contracts connection c d hi ha hb hslot =>
    obtain ⟨s', hi', ho⟩ := howned id rfl
    obtain rfl := Option.some.inj (hi.symm.trans hi')
    have hpos := (hf id s hi).1
    exact ⟨regular_stream ho hpos rfl hb, s, hi, ho.kind, ho.endpoint, rfl, ho.length,
      ho.measures hpos, rfl⟩

theorem native_request (h₀v : h₀.Vacant) (h₀h : Steps h₀ h)
    (hp : h.place target o = (h', .done)) :
    ∃ n : NativeTransfer, h'.controller.bus.pending = h.controller.bus.pending ++ [n] ∧
      h'.controller.bus.log = h.controller.bus.log ++
        [.submitted n ((n.owner.bytes h.buffers).take n.length.toNat)] ∧
      h'.buffers = h.buffers ∧ n.Mirrors h.buffers ∧ o.Drawn h n.owner := by
  obtain ⟨device, x, k, m, hd, hs, rfl⟩ := handed_of_done hp
  have hsubmit : h.controller.submit device x h.buffers = (k, m, none) := hs
  obtain ⟨rfl, hpending, hlog⟩ := Link.submit_done hsubmit
  obtain ⟨hregular, hdrawn⟩ :=
    drawn_of_drafts (h₀v.provenance.steps h₀h) (h₀v.filled.steps h₀h) hd
  exact ⟨_, hpending, hlog, rfl, Link.mirrors_native hregular, hdrawn⟩

def linked : NativeHost where
  controller := { bus := { auto := true }, devices := [{ handle := 1, vendor := 1, product := 2 }] }
  connections := [{ device := 0 }]
  devices := (Arena.insert {} 0).1
  contracts := Registry.standard.resolve.toOption
  buffers := [.zeroed 8]
  targets := [.recorder]

def wide : Order :=
  .transfer ⟨0, 0⟩
    { route := .bulk ⟨0x81⟩, buffer := [], offset := 0, length := 4294967300, timeout := 0 }

/-- The transfer is accepted, and the library is asked for four bytes. -/
theorem wide_truncated :
    ∃ (h' : NativeHost) (n : NativeTransfer), linked.place 0 wide = (h', .done) ∧
      h'.controller.bus.pending = [n] ∧ n.owner.length = 4294967300 ∧ n.length = 4 ∧
      (n.length : Int) ≠ n.owner.length :=
  ⟨_, _, Prod.ext rfl (by decide), rfl, rfl, by decide, by decide⟩

def streamed : NativeHost :=
  (((linked.allocate ⟨0, 0⟩ ⟨0x82⟩ 2 (some 4)).1.place 0 (.stream 0 0 5)).1.processEvents
    (fun _ _ => {}) none).1

theorem streamed_request :
    ∃ h' n, linked.Vacant ∧ Steps linked streamed ∧
      streamed.place 0 (.stream 0 0 7) = (h', .done) ∧ h'.controller.bus.pending = [n] ∧
      n.Mirrors streamed.buffers ∧ n.kind = .isochronous ∧ n.endpoint = ⟨0x82⟩ ∧ n.timeout = 7 ∧
      n.length = 8 ∧ n.packets.map (·.length) = [4, 4] := by
  have hv : linked.Vacant := ⟨rfl, rfl⟩
  have hallocate := Steps.single (.allocate linked ⟨0, 0⟩ ⟨0x82⟩ 2 (some 4))
  have hplace := hallocate.trans (.single (.place _ 0 (.stream 0 0 5)))
  have hsteps : Steps linked streamed := hplace.trans (steps_processEvents _ (fun _ _ => {}) none)
  have hdone : streamed.place 0 (.stream 0 0 7) = ((streamed.place 0 (.stream 0 0 7)).1, .done) :=
    Prod.ext rfl (by decide)
  obtain ⟨n, hn, -, -, hm, s, hi, hd⟩ := native_request hv hsteps hdone
  have hsizes : streamed.streams[0]?.map (fun s => (s.endpoint, s.packets, s.packetLength)) =
    some (⟨0x82⟩, 2, 4) := by decide
  rw [hi, Option.map_some, Option.some.injEq, Prod.mk.injEq, Prod.mk.injEq] at hsizes
  obtain ⟨hendpoint, hpackets, hlength⟩ := hsizes
  have hnone : streamed.controller.bus.pending = [] := by decide
  have hmeasures := hd.measures
  rw [hpackets, hlength] at hmeasures
  have hcount := congrArg List.length hmeasures.lengths
  rw [List.length_map, List.length_replicate] at hcount
  have hsmall : n.owner.packets.length < nativeLimit := by
    rw [hcount]
    decide
  refine ⟨_, n, hv, hsteps, hdone, ?_, hm, hm.kind.trans hd.kind, ?_, ?_, ?_, ?_⟩
  · rw [hn, hnone, List.nil_append]
  · rw [hm.endpoint, hd.endpoint, hendpoint]
  · rw [hm.timeout, hd.timeout]
  · rw [hm.length, hmeasures.length]
    decide
  · rw [hm.lengths hsmall, hmeasures.lengths]
    decide

end Host

end UsbTransfer
