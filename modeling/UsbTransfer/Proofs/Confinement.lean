import UsbTransfer.Proofs.Agreement

namespace UsbTransfer

namespace Bytes

theorem patch_slice {bytes : Bytes} {start stop : Nat} (hs : start ≤ stop)
    (hl : stop ≤ bytes.length) : bytes.patch start (bytes.slice start stop) = bytes := by
  have hlen : (bytes.slice start stop).length = stop - start := by
    rw [length_slice, Nat.min_eq_left hl]
  have hfit : (bytes.slice start stop).take (bytes.length - start) = bytes.slice start stop :=
    List.take_of_length_le (by omega)
  have htake : bytes.take start = (bytes.take stop).take start := by
    rw [List.take_take, Nat.min_eq_left hs]
  rw [patch, hfit, hlen, Nat.add_sub_of_le hs, slice, htake, List.take_append_drop,
    List.take_append_drop]

theorem getElem?_patch_of_lt (bytes data : Bytes) {start i : Nat} (hi : i < start) :
    (bytes.patch start data)[i]? = bytes[i]? := by
  have ht := congrArg (·[i]?) (bytes.take_patch data start)
  simpa [List.getElem?_take, hi] using ht

theorem getElem?_patch_of_le (bytes data : Bytes) {start i : Nat} (hi : start + data.length ≤ i) :
    (bytes.patch start data)[i]? = bytes[i]? := by
  have hd := congrArg (·[i - (start + data.length)]?) (bytes.drop_patch data start)
  simpa [List.getElem?_drop, Nat.add_sub_of_le hi] using hd

theorem patch_zero_of_le {bytes data : Bytes} (hl : bytes.length ≤ data.length) :
    bytes.patch 0 data = data.take bytes.length := by
  simp [patch, List.drop_eq_nil_of_le hl]

end Bytes

namespace Simulated

variable {s s' : Simulated} {device : UInt32} {route : Route} {region region' : Bytes}
    {out : Outcome}

theorem exchange_region_cases (hx : s.exchange device route region = some (s', region', out)) :
    (∃ p, route.direction = .deviceToHost ∧ s.disconnected = false ∧
        (s.take (device, route.answerKey)).2 = some (.data p) ∧ region' = region.patch 0 p ∧
        out = if region.length < p.length then .error .overflow else .ok p.length) ∨
      (region' = region ∧ (route.direction = .deviceToHost → ∀ n, out = .ok n →
        n = 0 ∧ (s.take (device, route.answerKey)).2 = some (.status .completed))) := by
  unfold exchange at hx
  dsimp only at hx
  split at hx
  · cases hx
  · split at hx
    · obtain ⟨-, rfl, rfl⟩ : s = s' ∧ region = region' ∧ .error .noDevice = out := by simpa using hx
      exact .inr ⟨rfl, fun _ n hn => nomatch hn⟩
    · rename_i hd
      split at hx <;> obtain ⟨-, hr⟩ := Prod.mk.inj (Option.some.inj hx) <;>
        obtain ⟨rfl, rfl⟩ := Prod.mk.inj hr
      · rename_i st hst
        refine .inr ⟨rfl, fun _ n hn => ?_⟩
        obtain ⟨rfl, rfl⟩ := TransferStatus.outcome_eq_ok_iff.1 hn
        exact ⟨rfl, hst⟩
      · rename_i p hp hdir
        exact .inl ⟨p, hdir, by simpa using hd, hp, rfl, rfl⟩
      · exact .inr ⟨rfl, fun _ n hn => nomatch hn⟩
      · rename_i hdir _
        exact .inr ⟨rfl, fun hin => nomatch hdir.symm.trans hin⟩

end Simulated

namespace Request

/-- What a blocking call may do to the caller's buffer, given the answer that lies ready for it. -/
structure Confined (r : Request) (s : Simulated) (response : Option Response) (buffer : Bytes)
    (result : Except HostError Nat) : Prop where
  length : buffer.length = r.buffer.length
  outside : ∀ i, i < r.offset ∨ r.offset + r.dataLength ≤ i → buffer[i]? = r.buffer[i]?
  sent : r.route.direction = .hostToDevice → buffer = r.buffer
  received : r.route.direction = .deviceToHost → ∀ n, result = .ok n → n ≤ r.dataLength ∧
    (∃ p, (response = some (.data p) ∨ response = some (.status .completed) ∧ p = []) ∧
      p.length = n ∧ (r.region.of buffer).take n = p) ∧
    (r.region.of buffer).drop n = r.payload.drop n
  failed : r.route.direction = .deviceToHost → ∀ e, result = .error e → buffer = r.buffer ∨
    s.disconnected = false ∧ e = .usb .overflow ∧
      ∃ p, response = some (.data p) ∧ r.dataLength < p.length ∧
        r.region.of buffer = p.take r.dataLength

variable {r : Request} {s : Simulated} {response : Option Response} {out : Outcome}

theorem confined_of_unchanged
    (ho : r.route.direction = .deviceToHost → ∀ n, out = .ok n →
      n = 0 ∧ response = some (.status .completed)) :
    r.Confined s response r.buffer (out.mapError .usb) := by
  refine ⟨rfl, fun _ _ => rfl, fun _ => rfl, fun hin n hn => ?_, fun _ _ _ => .inl rfl⟩
  have hok : out = .ok n := by cases out <;> simp_all [Except.mapError]
  obtain ⟨rfl, hst⟩ := ho hin n hok
  exact ⟨Nat.zero_le _, ⟨[], .inr ⟨hst, rfl⟩, rfl, List.take_zero⟩, rfl⟩

theorem confined_of_payload (hr : r.region.Fits r.buffer.length)
    (hin : r.route.direction = .deviceToHost) (hd : s.disconnected = false) {p : Bytes}
    (hp : response = some (.data p)) :
    r.Confined s response (r.buffer.patch r.offset (r.payload.patch 0 p))
      (Except.mapError HostError.usb
        (if r.payload.length < p.length then .error .overflow else .ok p.length)) := by
  have hlen : r.payload.length = r.dataLength := Region.length_of hr
  have hregion : r.region.of (r.buffer.patch r.offset (r.payload.patch 0 p)) =
      r.payload.patch 0 p :=
    Host.region_patch hr (Bytes.length_patch _ _ _)
  refine ⟨Bytes.length_patch _ _ _, fun i hi => ?_, fun hout => ?_, fun _ n hn => ?_,
    fun _ e he => ?_⟩
  · rcases hi with hi | hi
    · exact Bytes.getElem?_patch_of_lt _ _ hi
    · exact Bytes.getElem?_patch_of_le _ _ (by rw [Bytes.length_patch, hlen]; exact hi)
  · cases hin.symm.trans hout
  · rw [hregion]
    split at hn
    · cases hn
    · rename_i hlt
      obtain rfl : p.length = n := by simpa [Except.mapError] using hn
      have hle := Nat.le_of_not_lt hlt
      refine ⟨hlen ▸ hle, ⟨p, .inl hp, rfl, Bytes.take_length_patch hle⟩, ?_⟩
      simpa using Bytes.drop_patch r.payload p 0
  · rw [hregion]
    split at he
    · rename_i hlt
      obtain rfl : HostError.usb .overflow = e := by simpa [Except.mapError] using he
      exact .inr ⟨hd, rfl, p, hp, hlen ▸ hlt, hlen ▸ Bytes.patch_zero_of_le (Nat.le_of_lt hlt)⟩
    · cases he

end Request

namespace Host

variable {h h' k : SimulatedHost} {t : Token} {r : Request} {id : ConnectionId}
  {c : Connection UInt32} {buffer : Bytes} {result : Except HostError Nat}

theorem patch_payload (hr : r.region.Fits r.buffer.length) :
    r.buffer.patch r.offset r.payload = r.buffer :=
  Bytes.patch_slice (Nat.le_add_right _ _) hr.2

theorem confined_of_run (hr : r.region.Fits r.buffer.length) (hc : h.connections[id]? = some c)
    (hx : h.run ⟨id, r⟩ = some (h', buffer, result)) :
    r.Confined h.controller (h.controller.take (c.device, r.route.answerKey)).2 buffer result := by
  simp only [run, hc] at hx
  obtain ⟨⟨controller, region, out⟩, he, heq⟩ := Option.map_eq_some_iff.1 hx
  obtain ⟨rfl, rfl⟩ := Prod.mk.inj (Prod.mk.inj heq).2
  rcases Simulated.exchange_region_cases he with ⟨p, hin, hd, hp, rfl, rfl⟩ | ⟨rfl, ho⟩
  · exact Request.confined_of_payload hr hin hd hp
  · -- the region goes back into the buffer as it came out
    rw [patch_payload hr]
    exact Request.confined_of_unchanged ho

theorem run_eq_none_iff (hc : h.connections[id]? = some c) :
    h.run ⟨id, r⟩ = none ↔ (c.device, r.route.answerKey) ∈ h.controller.holding := by
  have hx : Controller.exchange h.controller c.device r.route r.payload r.timeout =
    h.controller.exchange c.device r.route r.payload := rfl
  simp only [run, hc, hx, Option.map_eq_none_iff, Simulated.exchange]
  split
  · simp [*]
  · split <;> simp [*]

/-- A blocking call on a live token. A region that is out of range is refused before anything is
done; the device may let any other call wait, and whenever it answers, the call keeps to the
region. -/
structure Regional (h : SimulatedHost) (t : Token) (r : Request) (id : ConnectionId) : Prop where
  refused : wordSize ≤ r.offset + r.dataLength ∨ r.buffer.length < r.offset + r.dataLength →
    h.exchange t r = some (h, r.buffer, .error (.usb .invalidParam))
  admitted : r.offset + r.dataLength < wordSize → r.offset + r.dataLength ≤ r.buffer.length →
    h.call t r = .ok ⟨id, r⟩ ∧ h.exchange t r = h.run ⟨id, r⟩ ∧
      ∀ k : SimulatedHost, ∀ c, k.connections[id]? = some c →
        (k.run ⟨id, r⟩ = none ↔ (c.device, r.route.answerKey) ∈ k.controller.holding) ∧
        ∀ k' buffer result, k.run ⟨id, r⟩ = some (k', buffer, result) →
          r.Confined k.controller (k.controller.take (c.device, r.route.answerKey)).2 buffer result

theorem exchange_regional (r : Request) (hl : h.lookup t = .ok (id, c)) : Regional h t r id := by
  refine ⟨fun hn => ?_, fun hw hb => ?_⟩
  · have hr : ¬ r.region.Fits r.buffer.length := fun hr =>
      hn.elim (fun hw => Nat.not_lt.2 hw hr.1) fun hb => Nat.not_lt.2 hr.2 hb
    simp only [exchange, call, hl, if_neg hr]
  · have hr : r.region.Fits r.buffer.length := ⟨hw, hb⟩
    refine ⟨by simp only [call, hl, if_pos hr], exchange_of_lookup hl hr, fun k c hc => ?_⟩
    exact ⟨run_eq_none_iff hc, fun k' buffer result hx => confined_of_run hr hc hx⟩

/-- The region begins before the end of the buffer and wraps. -/
def outlying : Request where
  route := .bulk ⟨0x81⟩
  buffer := .zeros 4
  offset := 2
  length := wordSize - 1
  timeout := 0

theorem outlying_regional :
    (after scripted).lookup ⟨0, 0⟩ = .ok (0, ⟨1, 0⟩) ∧
      Regional (after scripted) ⟨0, 0⟩ outlying 0 ∧ Regional (after scripted) ⟨0, 0⟩ reading 0 ∧
      ((after scripted).exchange ⟨0, 0⟩ outlying).map (·.2) =
        some (.zeros 4, .error (.usb .invalidParam)) ∧
      ((after scripted).exchange ⟨0, 0⟩ reading).map (·.2) = some ([1, 2, 3, 0], .ok 3) := by
  have hl : (after scripted).lookup ⟨0, 0⟩ = .ok (0, ⟨1, 0⟩) := rfl
  exact ⟨hl, exchange_regional outlying hl, exchange_regional reading hl, rfl, rfl⟩

end Host

end UsbTransfer
