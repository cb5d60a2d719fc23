import UsbTransfer.Proofs.Delivery
import UsbTransfer.Proofs.Tape

namespace UsbTransfer

def Route.setup? : Route → Option SetupPacket
  | control s => some s
  | bulk _ | interrupt _ => none

def Request.asked (r : Request) (id : TransferId) (device : UInt32) : Submission where
  id
  device
  kind := r.route.kind
  endpoint := r.route.endpoint
  setup := r.route.setup?.map SetupPacket.toBytes
  payload :=
    match r.route.direction with
    | .hostToDevice => (r.buffer.drop r.offset).take r.dataLength
    | .deviceToHost => []
  timeout := r.timeout

def Note.asked? : Note → Option Submission
  | .placed id _ (.transfer _ r) (some key) .done => some (r.asked id key.1)
  | _ => none

def asked (history : List Note) : List Submission := history.filterMap Note.asked?

theorem Request.payload_eq (r : Request) :
    r.payload = (r.buffer.drop r.offset).take r.dataLength := by
  simp only [payload, Region.of, region, Region.stop, Bytes.slice, List.drop_take,
    Nat.add_sub_cancel_left]

namespace Transfer

variable (id : TransferId) (r : Request) (device : UInt32) (m : Buffers)

theorem setup_ofRoute :
    (Simulated.submission device (ofRoute id r.route r.length r.payload r.timeout) m).setup =
      r.route.setup?.map SetupPacket.toBytes := by
  cases hr : r.route with
  | control s =>
    have htake : ∀ data : Bytes, (s.toBytes ++ data).take SetupPacket.size = s.toBytes :=
      fun data => List.take_left' s.length_toBytes
    simp [Simulated.submission, ofRoute, ofControl, kind, Shape.kind, bytes, htake, Route.setup?]
  | bulk e => rfl
  | interrupt e => rfl

theorem submission_ofRoute
    (hf : r.route.direction = .hostToDevice → r.region.Fits r.buffer.length) :
    Simulated.submission device (ofRoute id r.route r.length r.payload r.timeout) m =
      r.asked id device := by
  have hpayload :
      (Simulated.submission device (ofRoute id r.route r.length r.payload r.timeout) m).payload =
        (r.asked id device).payload := by
    cases hd : r.route.direction with
    | hostToDevice =>
      rw [payload_ofRoute id r device m hd (hf hd), r.payload_eq]
      simp [Request.asked, hd]
    | deviceToHost => simp [Simulated.submission, direction_ofRoute, Request.asked, hd]
  have htimeout : (ofRoute id r.route r.length r.payload r.timeout).timeout = r.timeout := by
    cases r.route <;> rfl
  have hsetup := setup_ofRoute id r device m
  have hid := id_ofRoute id r.route r.length r.payload r.timeout
  have hkind := kind_ofRoute id r
  have hendpoint := endpoint_ofRoute id r
  simp only [Simulated.submission, Request.asked, Submission.mk.injEq] at *
  exact ⟨hid, trivial, hkind, hendpoint, hsetup, hpayload, htimeout⟩

end Transfer

namespace Host

variable {h h' h₁ h₂ : SimulatedHost} {later : List Note} {n : Note}
  {target : TargetId} {t : Token} {r : Request} {o : Order} {device : UInt32} {x : Transfer}

def requested (h : SimulatedHost) : List Submission :=
  h.controller.submissions.filter (·.kind ≠ .isochronous)

theorem kind_asked (r : Request) (id : TransferId) (device : UInt32) :
    (r.asked id device).kind ≠ .isochronous := by
  simp only [Request.asked]
  cases r.route <;> simp [Route.kind]

theorem submission_draft (h : SimulatedHost) (target : TargetId) (contracts : Contracts)
    (id : ConnectionId) (device : UInt32)
    (hf : r.route.direction = .hostToDevice → r.region.Fits r.buffer.length) :
    Simulated.submission device (h.draft target contracts id r) h.buffers =
      r.asked h.nextTransfer device :=
  Transfer.submission_ofRoute h.nextTransfer r device h.buffers hf

theorem submissions_place (hp : h.place target (.transfer t r) = (h', .done)) :
    ∃ id c, h.lookup t = .ok (id, c) ∧
      (r.route.direction = .hostToDevice → r.region.Fits r.buffer.length) ∧
      h'.controller.submissions =
        h.controller.submissions ++ [r.asked h.nextTransfer c.device] := by
  obtain ⟨device, x, hd, rfl⟩ := queued_of_done hp
  cases hd with
  | @transfer _ _ contracts id c ha hf =>
    refine ⟨id, c, lookup_of_admission ha, hf, ?_⟩
    rw [← h.submission_draft target contracts id c.device hf]
    rfl

theorem requested_queued (hs : Slots h) (hd : h.Drafts target o device x) :
    (h.queued device x).requested =
      h.requested ++
        (Note.asked? (.placed h.nextTransfer target o (h.answerKey? o) .done)).toList := by
  have hlog : (h.queued device x).requested =
      h.requested ++
        [Simulated.submission device x h.buffers].filter (·.kind ≠ .isochronous) := by
    simp only [requested, ← List.filter_append]
    rfl
  rw [hlog, hd.answerKey?_eq hs]
  cases hd with
  | @transfer t r contracts id c ha hf =>
    have hkey : (Simulated.answerKey c.device (h.draft target contracts id r)).1 = c.device := rfl
    rw [h.submission_draft target contracts id c.device hf]
    simp [Note.asked?, kind_asked, hkey]
  | @stream id b timeout s contracts connection c d hi ha hb hslot =>
    have hkind : (h.rebind target contracts connection id b timeout d).kind = .isochronous :=
      (hs.idle hi hslot).1.kind
    simp [Note.asked?, Simulated.submission, hkind]

theorem requested_move (hs : Slots h) (hm : Move h n h') :
    h'.requested = h.requested ++ n.asked?.toList := by
  -- most steps leave the log and are no requests
  have hskip : h'.controller.submissions = h.controller.submissions → n.asked? = none →
      h'.requested = h.requested ++ n.asked?.toList := by
    intro hlog hn
    rw [requested, hlog, hn]
    simp [requested]
  cases hm with
  | upkeep u =>
    have hq : Quiet h (h.perform u) := quiet_perform u
    exact hskip hq.controller.submissions rfl
  | allocate t e packets given =>
    refine hskip ?_ rfl
    rcases h.allocate_cases t e packets given with he | ⟨packetLength, he⟩ <;> rw [he]
  | script device e r => exact hskip rfl rfl
  | exchange hc hd hr =>
    obtain ⟨sent, rfl⟩ := run_eq hc hd hr
    exact hskip rfl rfl
  | place target o =>
    rcases h.place_outcome target o with
      ⟨hp, hne⟩ | ⟨device, x, c, e, hd, hc, hp⟩ | ⟨device, x, hd, hp⟩
    · refine hskip (by rw [hp]) ?_
      unfold Note.asked?
      split <;> simp_all
    · rw [hp] at hskip ⊢
      refine hskip hc.submissions ?_
      cases o <;> cases h.answerKey? _ <;> rfl
    · rw [hp]
      exact requested_queued hs hd
  | poll hb => exact hskip rfl rfl
  | deliver hb hp hset =>
    exact hskip (congrArg Simulated.submissions (controller_deliver _ _ _ _ _)) rfl

theorem requested_run (hs : Slots h₁) (hr : Run h₁ later h₂) :
    h₂.requested = h₁.requested ++ asked later := by
  induction hr with
  | refl => simp [asked]
  | @snoc _ _ later n hr hm ih =>
    rw [requested_move (hs.run hr) hm, ih, List.append_assoc, asked, asked,
      List.filterMap_append]
    cases hn : n.asked? <;> simp [hn]

theorem setup_asked (r : Request) (id : TransferId) (device : UInt32) :
    (r.asked id device).setup.bind SetupPacket.ofBytes? = r.route.setup? := by
  simp only [Request.asked]
  cases r.route.setup? with
  | none => rfl
  | some s => exact s.ofBytes?_toBytes

theorem length_payload_asked
    (hf : r.route.direction = .hostToDevice → r.region.Fits r.buffer.length)
    (id : TransferId) (device : UInt32) :
    (r.asked id device).payload.length =
      if r.route.direction = .hostToDevice then r.dataLength else 0 := by
  simp only [Request.asked]
  cases hd : r.route.direction with
  | hostToDevice =>
    simp only [if_true, ← r.payload_eq]
    exact Region.length_of (hf hd)
  | deviceToHost => rfl

/-- What the controller sees of a request is what was asked, and nothing else. -/
structure Seen (h h' : SimulatedHost) (t : Token) (r : Request) (entry : Submission) : Prop where
  asked : ∃ id c, h.lookup t = .ok (id, c) ∧ entry = r.asked h.nextTransfer c.device
  setup : entry.setup.bind SetupPacket.ofBytes? = r.route.setup?
  length : entry.payload.length = if r.route.direction = .hostToDevice then r.dataLength else 0
  log : h'.controller.submissions = h.controller.submissions ++ [entry]
  whole : ∀ earlier later h'', Run fresh earlier h → Run h' later h'' →
    h''.requested = UsbTransfer.asked earlier ++ entry :: UsbTransfer.asked later

theorem seen_as_asked (hp : h.place target (.transfer t r) = (h', .done)) :
    ∃ entry, Seen h h' t r entry := by
  obtain ⟨id, c, hl, hf, hlog⟩ := submissions_place hp
  refine ⟨r.asked h.nextTransfer c.device, ⟨id, c, hl, rfl⟩, setup_asked r _ _,
    length_payload_asked hf _ _, hlog, fun earlier later h'' hr hr' => ?_⟩
  have hs := slots_fresh.run hr
  have hmove := Move.place h target (.transfer t r)
  rw [hp] at hmove
  have hbefore : h.requested = asked earlier := by
    simpa [requested, fresh] using requested_run slots_fresh hr
  have hplaced : h'.requested = h.requested ++ [r.asked h.nextTransfer c.device] := by
    rw [requested, hlog, List.filter_append, requested]
    simp [kind_asked]
  rw [requested_run (hs.move hmove) hr', hplaced, hbefore, List.append_assoc]
  rfl

def acquainted : List Act :=
  [.upkeep (.resolve .standard), .upkeep (.adopt 1), .upkeep (.addTarget .recorder),
    .place 0 (.transfer ⟨0, 0⟩
      { route := .interrupt ⟨0x83⟩, buffer := [1, 2, 3], offset := 9, length := 4, timeout := 7 })]

def vendorWrite : Request where
  route := .control ⟨0x40, 0x09, 0x0102, 0, 3⟩
  buffer := [10, 11, 12, 13, 14, 15]
  offset := 2
  length := 0
  timeout := 250

theorem vendorWrite_seen :
    ∃ h' entry, (after acquainted).place 0 (.transfer ⟨0, 0⟩ vendorWrite) = (h', .done) ∧
      Seen (after acquainted) h' ⟨0, 0⟩ vendorWrite entry ∧
      h'.controller.submissions =
        [{ id := 1, device := 1, kind := .interrupt, endpoint := ⟨0x83⟩, setup := none
           payload := [], timeout := 7 },
          { id := 2, device := 1, kind := .control, endpoint := ⟨0x00⟩
            setup := some [0x40, 0x09, 0x02, 0x01, 0x00, 0x00, 0x03, 0x00]
            payload := [12, 13, 14], timeout := 250 }] := by
  have hp : (after acquainted).place 0 (.transfer ⟨0, 0⟩ vendorWrite) =
    (((after acquainted).place 0 (.transfer ⟨0, 0⟩ vendorWrite)).1, .done) :=
      Prod.ext rfl (by decide)
  obtain ⟨entry, hs⟩ := seen_as_asked hp
  exact ⟨_, entry, hp, hs, by decide⟩

end Host

end UsbTransfer
