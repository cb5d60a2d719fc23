import UsbTransfer.Proofs.Frame

namespace UsbTransfer

namespace Bytes

theorem slice_patch {bytes data : Bytes} {start : Nat} (h : start + data.length ≤ bytes.length) :
    (bytes.patch start data).slice start (start + data.length) = data := by
  have hs : start ≤ bytes.length := by omega
  have hd : data.take (bytes.length - start) = data := List.take_of_length_le (by omega)
  have hl : (bytes.take start ++ data).length = start + data.length := by simp [Nat.min_eq_left hs]
  rw [slice, patch, hd, ← hl, List.take_left, List.drop_append_of_le_length (by simp [hs]),
    List.drop_eq_nil_of_le (by simp [hs]), List.nil_append]

theorem take_length_patch {bytes data : Bytes} (h : data.length ≤ bytes.length) :
    (bytes.patch 0 data).take data.length = data := by
  have hs : (bytes.patch 0 data).slice 0 (0 + data.length) = data := slice_patch (by omega)
  simpa [slice] using hs

end Bytes

/-- The data and the result that a callback gets for an answer: what the device sends within the
limit, and the whole limit towards it. -/
def expected (direction : Direction) (limit : Nat) : Option Response → Option Bytes × Outcome
  | some (.status s) =>
    (if direction = .deviceToHost ∧ s = .completed then some [] else none, s.outcome 0)
  | some (.data p) =>
    match direction with
    | .deviceToHost => if p.length ≤ limit then (some p, .ok p.length) else (none, .error .overflow)
    | .hostToDevice => (none, .ok limit)
  | some (.packets _) | none =>
    match direction with
    | .deviceToHost => (none, .error .timeout)
    | .hostToDevice => (none, .ok limit)

def Request.delivery (r : Request) (id : TransferId) (target : TargetId) (contracts : Contracts)
    (response : Option Response) : Delivery where
  transfer := id
  target := target
  notifier := contracts.notifier r.route.kind
  completion :=
    { kind := r.route.kind
      data := (expected r.route.direction r.dataLength response).1
      result := (expected r.route.direction r.dataLength response).2 }

namespace Transfer

def own? (x : Transfer) : Option Bytes :=
  match x.memory with
  | .owned bytes => some bytes
  | .blank size => some (.zeros size)
  | .lent _ | .unbound => none

/-- A descriptor of one shot: its memory is its own and holds the setup stage and the data. -/
structure OneShot (x : Transfer) : Prop where
  kind : x.kind ≠ .isochronous
  owned : ∃ bytes, x.own? = some bytes ∧ bytes.length = x.length
  header : x.header ≤ x.length
  bounded : x.length < wordSize

variable {x : Transfer}

theorem bytes_of_own? {bytes : Bytes} (hm : x.own? = some bytes) (m : Buffers) :
    x.bytes m = bytes := by
  unfold own? at hm
  unfold Transfer.bytes
  split at hm <;> simp_all

theorem rewrite_of_owned {bytes : Bytes} (hm : x.own? = some bytes) (m : Buffers)
    (f : Bytes → Bytes) : x.rewrite m f = ({ x with memory := .owned (f bytes) }, m) := by
  unfold own? at hm
  unfold rewrite
  split at hm <;> simp_all

theorem received?_of_owned {bytes : Bytes} {n : Nat} (hm : x.own? = some bytes)
    (hl : x.header ≤ bytes.length) (hn : n < wordSize) (m : Buffers) :
    x.received? m n =
      if wordSize ≤ x.header + n then none else some (bytes.slice x.header (x.header + n)) := by
  have hb : x.bytes m = bytes := bytes_of_own? hm m
  simp only [received?, hb, Nat.min_eq_left hl]
  by_cases hw : wordSize ≤ x.header + n
  · -- what is left of the sum is less than the header
    have hword : wordSize = 2 ^ 64 := rfl
    have hmod : (x.header + n) % wordSize < x.header := by
      rw [hword] at hn hw ⊢
      omega
    rw [if_pos hw, if_neg (by omega)]
  · have htake : bytes.take (min (x.header + n) bytes.length) = bytes.take (x.header + n) := by
      rw [List.take_eq_take_iff]
      omega
    rw [if_neg hw, Nat.mod_eq_of_lt (Nat.lt_of_not_le hw), if_pos (by omega), Bytes.slice,
      Bytes.slice, htake]

theorem owned_ofStream (id : TransferId) (shape : Shape) (endpoint : Endpoint) (length : Nat)
    (out : Bytes) (timeout : UInt32) :
    ∃ bytes, (ofStream id shape endpoint length out timeout).own? = some bytes ∧
      bytes.length = length := by
  by_cases hd : endpoint.direction = .hostToDevice <;> simp [own?, ofStream, hd]

section OfRoute

variable (id : TransferId) (r : Request)

theorem direction_ofRoute :
    (ofRoute id r.route r.length r.payload r.timeout).direction = r.route.direction := by
  cases r.route <;> rfl

theorem kind_ofRoute : (ofRoute id r.route r.length r.payload r.timeout).kind = r.route.kind := by
  cases r.route <;> rfl

theorem room_ofRoute :
    (ofRoute id r.route r.length r.payload r.timeout).length -
      (ofRoute id r.route r.length r.payload r.timeout).header = r.dataLength := by
  unfold Request.dataLength
  cases r.route with
  | control s => exact Nat.add_sub_cancel_left _ _
  | bulk e => rfl
  | interrupt e => rfl

theorem owned_ofRoute :
    ∃ bytes, (ofRoute id r.route r.length r.payload r.timeout).own? = some bytes ∧
      bytes.length = (ofRoute id r.route r.length r.payload r.timeout).length := by
  cases r.route with
  | control s => exact ⟨_, rfl, length_bytes_ofControl id s r.payload r.timeout []⟩
  | bulk e => exact owned_ofStream id .bulk e r.length r.payload r.timeout
  | interrupt e => exact owned_ofStream id .interrupt e r.length r.payload r.timeout

theorem oneShot_ofRoute (hr : r.dataLength < wordSize) :
    (ofRoute id r.route r.length r.payload r.timeout).OneShot := by
  refine ⟨?_, owned_ofRoute id r, header_le_length_ofRoute id r.route r.length r.payload r.timeout,
    ?_⟩
  · rw [kind_ofRoute]
    cases r.route <;> simp [Route.kind]
  · have hroom := room_ofRoute id r
    rcases header_ofRoute id r.route r.length r.payload r.timeout with h0 | hw
    · omega
    · exact hw

theorem endpoint_ofRoute :
    (ofRoute id r.route r.length r.payload r.timeout).endpoint = r.route.endpoint := by
  cases r.route <;> rfl

theorem answerKey_ofRoute (device : UInt32) :
    Simulated.answerKey device (ofRoute id r.route r.length r.payload r.timeout) =
      (device, r.route.answerKey) := by
  simp only [Simulated.answerKey, kind_ofRoute, direction_ofRoute, endpoint_ofRoute]
  cases r.route <;> simp [Route.kind, Route.direction, Route.answerKey, Route.endpoint]

theorem bytes_ofRoute (m : Buffers) (hd : r.route.direction = .hostToDevice)
    (hf : r.region.Fits r.buffer.length) :
    ((ofRoute id r.route r.length r.payload r.timeout).bytes m).drop
      (ofRoute id r.route r.length r.payload r.timeout).header = r.payload := by
  have hlen : r.payload.length = r.dataLength := Region.length_of hf
  unfold Request.dataLength at hlen
  have hpatch : ∀ n, r.payload.length = n → (Bytes.zeros n).patch 0 r.payload = r.payload :=
    fun n hn => Bytes.patch_all (by rw [hn, Bytes.length_zeros])
  cases hr : r.route with
  | control s =>
    rw [hr] at hd hlen
    have hs : s.direction = .hostToDevice := hd
    simp only [ofRoute, ofControl, bytes, header, hs, if_true, hpatch _ hlen]
    exact List.drop_left' rfl
  | bulk e | interrupt e =>
    rw [hr] at hd hlen
    have he : e.direction = .hostToDevice := hd
    simp only [ofRoute, ofStream, bytes, header, he, if_true, hpatch _ hlen]
    exact List.drop_zero

theorem payload_ofRoute (device : UInt32) (m : Buffers) (hd : r.route.direction = .hostToDevice)
    (hf : r.region.Fits r.buffer.length) :
    (Simulated.submission device (ofRoute id r.route r.length r.payload r.timeout) m).payload =
      r.payload := by
  simp only [Simulated.submission, direction_ofRoute, if_pos hd]
  exact bytes_ofRoute id r m hd hf

end OfRoute

end Transfer

namespace Simulated

variable {s : Simulated} {device : UInt32} {route : Route}

theorem exchange_out (region : Bytes) (hdir : route.direction = .hostToDevice)
    (hk : (device, route.answerKey) ∉ s.holding) (hd : s.disconnected = false) :
    ∃ sent, s.exchange device route region =
        some ({ (s.take (device, route.answerKey)).1 with sent }, region,
          (expected route.direction region.length (s.take (device, route.answerKey)).2).2) ∧
      ((∀ st, (s.take (device, route.answerKey)).2 ≠ some (.status st)) →
        sent = s.sent ++ [(device, route.answerKey, region)]) := by
  have hnd : ¬ s.disconnected = true := by simp [hd]
  simp only [exchange, if_neg hk, if_neg hnd, hdir]
  generalize (s.take (device, route.answerKey)).2 = response
  rcases response with _ | p | st | actual
  · exact ⟨_, rfl, fun _ => rfl⟩
  · exact ⟨_, rfl, fun _ => rfl⟩
  · exact ⟨_, rfl, fun hst => absurd rfl (hst st)⟩
  · exact ⟨_, rfl, fun _ => rfl⟩

theorem exchange_in (region : Bytes) (hdir : route.direction = .deviceToHost)
    (hk : (device, route.answerKey) ∉ s.holding) (hd : s.disconnected = false) :
    ∃ region', s.exchange device route region =
        some ((s.take (device, route.answerKey)).1, region',
          (expected route.direction region.length (s.take (device, route.answerKey)).2).2) ∧
      region'.length = region.length ∧
      ∀ n, (expected route.direction region.length (s.take (device, route.answerKey)).2).2 = .ok n →
        (expected route.direction region.length (s.take (device, route.answerKey)).2).1 =
          some (region'.take n) := by
  have hnd : ¬ s.disconnected = true := by simp [hd]
  simp only [exchange, if_neg hk, if_neg hnd, hdir]
  generalize (s.take (device, route.answerKey)).2 = response
  rcases response with _ | p | st | actual
  · refine ⟨region, rfl, rfl, fun n hn => ?_⟩
    cases hn
  · refine ⟨region.patch 0 p, ?_, Bytes.length_patch _ _ _, fun n hn => ?_⟩
    · by_cases hp : p.length ≤ region.length
      · simp only [if_neg (Nat.not_lt.2 hp), expected, if_pos hp]
      · simp only [if_pos (Nat.lt_of_not_le hp), expected, if_neg hp]
    · by_cases hp : p.length ≤ region.length
      · simp only [expected, if_pos hp] at hn ⊢
        obtain rfl : p.length = n := by simpa using hn
        rw [Bytes.take_length_patch hp]
      · simp [expected, hp] at hn
  · refine ⟨region, rfl, rfl, fun n hn => ?_⟩
    obtain ⟨rfl, rfl⟩ := TransferStatus.outcome_eq_ok_iff.1 hn
    rfl
  · refine ⟨region, rfl, rfl, fun n hn => ?_⟩
    cases hn

theorem exchange_expected (region : Bytes) (hk : (device, route.answerKey) ∉ s.holding)
    (hd : s.disconnected = false) :
    ∃ sent region', s.exchange device route region =
        some ({ (s.take (device, route.answerKey)).1 with sent }, region',
          (expected route.direction region.length (s.take (device, route.answerKey)).2).2) ∧
      region'.length = region.length ∧
      (route.direction = .deviceToHost → ∀ n,
        (expected route.direction region.length (s.take (device, route.answerKey)).2).2 = .ok n →
        (expected route.direction region.length (s.take (device, route.answerKey)).2).1 =
          some (region'.take n)) ∧
      (route.direction = .hostToDevice →
        (∀ st, (s.take (device, route.answerKey)).2 ≠ some (.status st)) →
        sent = s.sent ++ [(device, route.answerKey, region)]) := by
  cases hdir : route.direction with
  | deviceToHost =>
    obtain ⟨region', hx, hl, hread⟩ := exchange_in region hdir hk hd
    rw [hdir] at hx hread
    exact ⟨s.sent, region', hx, hl, fun _ => hread, fun hout => nomatch hout⟩
  | hostToDevice =>
    obtain ⟨sent, hx, hsent⟩ := exchange_out region hdir hk hd
    rw [hdir] at hx
    exact ⟨sent, region, hx, rfl, (fun hin => nomatch hin), fun _ => hsent⟩

end Simulated

namespace Host

variable {h : SimulatedHost} {x : Transfer}

theorem settle_of_error {s : TransferStatus} {n : Nat} {e : UsbError}
    (ho : s.outcome n = .error e) : h.settle (x.record s n) = some (.error e, none) := by
  simp only [settle, Transfer.record, Option.getD_some, ho]

theorem settle_of_ok {s : TransferStatus} {n k : Nat} (hk : x.kind ≠ .isochronous)
    (ho : s.outcome n = .ok k) :
    h.settle (x.record s n) =
      if x.direction = .deviceToHost then (x.received? h.buffers k).map fun d => (.ok k, some d)
      else some (.ok k, none) := by
  obtain ⟨id, shape, _⟩ := x
  cases shape with
  | isochronous => exact absurd rfl hk
  | control | bulk | interrupt =>
    simp only [settle, Transfer.record, Option.getD_some, ho]
    rfl

theorem settle_silent (hk : x.kind ≠ .isochronous) {r : Option Response} (m : Buffers)
    (hr : r = none ∨ ∃ actual, r = some (.packets actual)) :
    (Simulated.settle r x m).1 =
      match x.direction with
      | .deviceToHost => x.record .timedOut 0
      | .hostToDevice => x.record .completed (x.length - x.header) := by
  unfold Simulated.settle
  cases hkx : x.kind with
  | isochronous => exact absurd hkx hk
  | control | bulk | interrupt =>
    rcases hr with rfl | ⟨actual, rfl⟩
    · cases x.direction <;> rfl
    · cases x.direction <;> rfl

theorem settle_data (hk : x.kind ≠ .isochronous) {bytes : Bytes} (hm : x.own? = some bytes)
    (p : Bytes) (m : Buffers) :
    (Simulated.settle (some (.data p)) x m).1 =
      match x.direction with
      | .deviceToHost =>
        Transfer.record
          { x with memory := .owned (bytes.patch x.header (p.take (x.length - x.header))) }
          (if x.length - x.header < p.length then .overflow else .completed)
          (min p.length (x.length - x.header))
      | .hostToDevice => x.record .completed (x.length - x.header) := by
  have hw := Transfer.rewrite_of_owned hm m (·.patch x.header (p.take (x.length - x.header)))
  unfold Simulated.settle
  cases hkx : x.kind with
  | isochronous => exact absurd hkx hk
  | control | bulk | interrupt =>
    cases x.direction with
    | hostToDevice => rfl
    | deviceToHost => simp only [hw]

theorem settle_received {bytes data : Bytes} (hk : x.kind ≠ .isochronous)
    (hm : x.own? = some (bytes.patch x.header data)) (hd : x.direction = .deviceToHost)
    (hl : x.header + data.length ≤ bytes.length) (hw : x.header + data.length < wordSize) :
    h.settle (x.record .completed data.length) = some (.ok data.length, some data) := by
  have hr : x.received? h.buffers data.length = some data := by
    rw [Transfer.received?_of_owned hm (by rw [Bytes.length_patch]; omega) (by omega) h.buffers,
      if_neg (Nat.not_le.2 hw), Bytes.slice_patch hl]
  rw [settle_of_ok hk rfl, if_pos hd, hr]
  rfl

theorem settle_filled (h : SimulatedHost) (hk : x.kind ≠ .isochronous)
    (hd : x.direction = .hostToDevice) :
    h.settle (x.record .completed (x.length - x.header)) =
      some (.ok (x.length - x.header), none) := by
  rw [settle_of_ok hk rfl, hd]
  rfl

theorem settle_expected_silent (h : SimulatedHost) (hx : x.OneShot) {r : Option Response}
    (m : Buffers) (hr : r = none ∨ ∃ actual, r = some (.packets actual)) :
    h.settle (Simulated.settle r x m).1 =
      some ((expected x.direction (x.length - x.header) r).2,
        (expected x.direction (x.length - x.header) r).1) := by
  have he : expected x.direction (x.length - x.header) r =
      match x.direction with
      | .deviceToHost => (none, .error .timeout)
      | .hostToDevice => (none, .ok (x.length - x.header)) := by
    rcases hr with rfl | ⟨actual, rfl⟩
    · rfl
    · rfl
  rw [settle_silent hx.kind m hr, he]
  cases hd : x.direction with
  | deviceToHost => exact settle_of_error rfl
  | hostToDevice => exact h.settle_filled hx.kind hd

theorem settle_expected_data (h : SimulatedHost) (hx : x.OneShot) (p : Bytes) (m : Buffers) :
    h.settle (Simulated.settle (some (.data p)) x m).1 =
      some ((expected x.direction (x.length - x.header) (some (.data p))).2,
        (expected x.direction (x.length - x.header) (some (.data p))).1) := by
  obtain ⟨bytes, hm, hlen⟩ := hx.owned
  have hhead := hx.header
  have hword := hx.bounded
  rw [settle_data hx.kind hm]
  cases hd : x.direction with
  | hostToDevice => exact h.settle_filled hx.kind hd
  | deviceToHost =>
    by_cases hp : p.length ≤ x.length - x.header
    · have hl : x.header + p.length ≤ bytes.length := by omega
      have hw : x.header + p.length < wordSize := by omega
      have hrec := settle_received (h := h)
        (x := { x with memory := .owned (bytes.patch x.header p) }) hx.kind rfl hd hl hw
      simp only [if_neg (Nat.not_lt.2 hp), Nat.min_eq_left hp, List.take_of_length_le hp, expected,
        if_pos hp]
      exact hrec
    · have hlt : x.length - x.header < p.length := Nat.lt_of_not_le hp
      simp only [if_pos hlt, expected, if_neg hp]
      exact settle_of_error rfl

theorem settle_expected_status (h : SimulatedHost) (hx : x.OneShot) (s : TransferStatus)
    (m : Buffers) :
    h.settle (Simulated.settle (some (.status s)) x m).1 =
      some ((expected x.direction (x.length - x.header) (some (.status s))).2,
        (expected x.direction (x.length - x.header) (some (.status s))).1) := by
  have hset : (Simulated.settle (some (.status s)) x m).1 = x.record s 0 := rfl
  rw [hset]
  cases ho : s.outcome 0 with
  | error e =>
    have hs : s ≠ .completed := by
      rintro rfl
      cases ho
    simpa [expected, ho, hs] using settle_of_error ho
  | ok k =>
    obtain ⟨rfl, rfl⟩ := TransferStatus.outcome_eq_ok_iff.1 ho
    cases hd : x.direction with
    | hostToDevice =>
      rw [settle_of_ok hx.kind ho, hd]
      rfl
    | deviceToHost =>
      obtain ⟨bytes, hm, hlen⟩ := hx.owned
      have hmem : x.own? = some (bytes.patch x.header []) := by rw [Bytes.patch_nil, hm]
      have hl : x.header + ([] : Bytes).length ≤ bytes.length := hlen ▸ hx.header
      have hw : x.header + ([] : Bytes).length < wordSize :=
        Nat.lt_of_le_of_lt hx.header hx.bounded
      have hrec := settle_received (h := h) hx.kind hmem hd hl hw
      simp only [expected, and_self, if_true]
      exact hrec

theorem settle_expected (h : SimulatedHost) (hx : x.OneShot) (r : Option Response) (m : Buffers) :
    h.settle (Simulated.settle r x m).1 =
      some ((expected x.direction (x.length - x.header) r).2,
        (expected x.direction (x.length - x.header) r).1) := by
  rcases r with _ | p | s | actual
  · exact h.settle_expected_silent hx m (.inl rfl)
  · exact h.settle_expected_data hx p m
  · exact h.settle_expected_status hx s m
  · exact h.settle_expected_silent hx m (.inr ⟨actual, rfl⟩)

end Host

end UsbTransfer
