import UsbTransfer.Proofs.Answer
import UsbTransfer.Proofs.Delivery

namespace UsbTransfer

namespace Host

variable {h : SimulatedHost} {t : Token} {r : Request} {contracts : Contracts} {id : ConnectionId}
  {c : Connection UInt32} {target : TargetId} {x : Transfer} {p : Pending} {result : Outcome}
  {data : Option Bytes}

theorem run_of_exchange {call : Call} {k : Simulated} {region : Bytes} {out : Outcome}
    (hc : h.connections[call.connection]? = some c)
    (hx : h.controller.exchange c.device call.request.route call.request.payload =
      some (k, region, out)) :
    h.run call = some ({ h with controller := k },
      call.request.buffer.patch call.request.offset region, out.mapError .usb) := by
  have hx' : Controller.exchange h.controller c.device call.request.route call.request.payload
      call.request.timeout = some (k, region, out) := hx
  simp only [run, hc, hx', Option.map_some]

theorem exchange_of_lookup (hl : h.lookup t = .ok (id, c)) (hr : r.region.Fits r.buffer.length) :
    h.exchange t r = h.run ⟨id, r⟩ := by
  simp only [exchange, call, hl, if_pos hr]

theorem region_patch (hr : r.region.Fits r.buffer.length) {region : Bytes}
    (hl : region.length = r.payload.length) :
    r.region.of (r.buffer.patch r.offset region) = region := by
  have hlen : r.payload.length = r.dataLength := Region.length_of hr
  have hstop : r.region.stop = r.offset + region.length := by rw [hl, hlen]; rfl
  have hfit : r.offset + region.length ≤ r.buffer.length := by rw [← hstop]; exact hr.2
  rw [Region.of, hstop]
  exact Bytes.slice_patch hfit

theorem processEvents_single (reactions : Reactions) (timeout : Option Nat)
    (hq : h.controller.queue = [x]) (hp : x.pending = some p)
    (hs : h.settle x = some (result, data)) : ∃ r, (r = {} ∨ ∃ k, r = reactions p.target k) ∧
      h.processEvents reactions timeout =
        ({ (Host.deliver { h with controller := h.controller.poll.1, batch := [] } x p result
            data).respond p.target r with batch := [] }, .done) := by
  obtain ⟨r, hr, hd⟩ :=
    dispatch_eq reactions { h with controller := h.controller.poll.1, batch := [] } hp hs
  have hpoll : Controller.poll h.controller h.buffers timeout =
    (h.controller.poll.1, h.buffers, .finished [x]) := by rw [← hq]; rfl
  refine ⟨r, hr, ?_⟩
  simp only [processEvents, hpoll, dispatchAll, hd]

theorem offer_accepted {device : UInt32} (hf : h.controller.refusals = [])
    (hd : h.controller.disconnected = false) (x : Transfer) :
    h.offer device x = (h.queued device x, .done) := by
  have hr : h.controller.refusal = (h.controller, none) := by simp [Simulated.refusal, hf, hd]
  simp only [offer, hr]

theorem settle_draft (h k : SimulatedHost) (target : TargetId) (contracts : Contracts)
    (id : ConnectionId) (device : UInt32) (hw : r.dataLength < wordSize) :
    k.settle (h.finished device (h.draft target contracts id r)).1 =
      some ((expected r.route.direction r.dataLength
          (h.controller.take (device, r.route.answerKey)).2).2,
        (expected r.route.direction r.dataLength
          (h.controller.take (device, r.route.answerKey)).2).1) := by
  have hone := Transfer.oneShot_ofRoute h.nextTransfer r hw
  have hx : (h.draft target contracts id r).OneShot :=
    ⟨hone.kind, hone.owned, hone.header, hone.bounded⟩
  have hkey : Simulated.answerKey device (h.draft target contracts id r) =
    (device, r.route.answerKey) := Transfer.answerKey_ofRoute h.nextTransfer r device
  have hdir : (h.draft target contracts id r).direction = r.route.direction :=
    Transfer.direction_ofRoute h.nextTransfer r
  have hroom : (h.draft target contracts id r).length - (h.draft target contracts id r).header =
    r.dataLength := Transfer.room_ofRoute h.nextTransfer r
  rw [finished, settle_expected k hx, hkey, hdir, hroom]

theorem deliveryOf_draft (h k : SimulatedHost) (target : TargetId) (contracts : Contracts)
    (id : ConnectionId) (device : UInt32) (r : Request) :
    k.deliveryOf (h.finished device (h.draft target contracts id r)).1 { target, contracts }
        (expected r.route.direction r.dataLength
          (h.controller.take (device, r.route.answerKey)).2).2
        (expected r.route.direction r.dataLength
          (h.controller.take (device, r.route.answerKey)).2).1 =
      r.delivery h.nextTransfer target contracts
        (h.controller.take (device, r.route.answerKey)).2 := by
  have hy := h.frame_finished device (h.draft target contracts id r)
  have hid : (h.finished device (h.draft target contracts id r)).1.id = h.nextTransfer :=
    (Transfer.id_of_frame hy).trans (Transfer.id_ofRoute _ _ _ _ _)
  have hkind : (h.finished device (h.draft target contracts id r)).1.kind = r.route.kind :=
    (Transfer.kind_of_frame hy).trans (Transfer.kind_ofRoute h.nextTransfer r)
  simp only [deliveryOf, hid, hkind, completion, Request.delivery]

/-- One request done both ways from one state: by a blocking call, and by a submission and the pass
after it. -/
structure Agrees (h : SimulatedHost) (t : Token) (r : Request) (target : TargetId)
    (contracts : Contracts) (device : UInt32) (blocking : SimulatedHost) (buffer : Bytes)
    (result : Except HostError Nat) (submitted : SimulatedHost) (d : Delivery) : Prop where
  exchanged : h.exchange t r = some (blocking, buffer, result)
  placed : h.place target (.transfer t r) = (submitted, .done)
  delivered : d.transfer = h.nextTransfer ∧ d.target = target ∧
    d.notifier = contracts.notifier r.route.kind
  pass : ∀ reactions timeout, (submitted.processEvents reactions timeout).2 = .done ∧
    (submitted.processEvents reactions timeout).1.deliveries = h.deliveries ++ [d]
  result : result = d.completion.result.mapError .usb
  script : blocking.controller.script = submitted.controller.script
  script_pass : ∀ reactions timeout, (∀ k, (reactions target k).orders = []) →
    (submitted.processEvents reactions timeout).1.controller.script = blocking.controller.script
  read : ∀ n, r.route.direction = .deviceToHost → d.completion.result = .ok n →
    d.completion.data = some ((r.region.of buffer).take n)
  sent : r.route.direction = .hostToDevice →
    (∀ st, (h.controller.take (device, r.route.answerKey)).2 ≠ some (.status st)) →
    ∃ s, submitted.controller.submissions = h.controller.submissions ++ [s] ∧
      blocking.controller.sent = h.controller.sent ++ [(device, r.route.answerKey, s.payload)]

theorem processEvents_draft (h : SimulatedHost) (target : TargetId) (contracts : Contracts)
    (id : ConnectionId) (device : UInt32) (reactions : Reactions) (timeout : Option Nat)
    (hq : h.controller.queue = []) (hw : r.dataLength < wordSize) :
    ((h.queued device (h.draft target contracts id r)).processEvents reactions timeout).2 = .done ∧
      ((h.queued device (h.draft target contracts id r)).processEvents reactions
        timeout).1.deliveries = h.deliveries ++ [r.delivery h.nextTransfer target contracts
          (h.controller.take (device, r.route.answerKey)).2] ∧
      ((∀ k, (reactions target k).orders = []) →
        ((h.queued device (h.draft target contracts id r)).processEvents reactions
          timeout).1.controller.script =
            (h.controller.take (device, r.route.answerKey)).1.script) := by
  have hy := h.frame_finished device (h.draft target contracts id r)
  have hp : (h.finished device (h.draft target contracts id r)).1.pending =
    some { target, contracts } := (Transfer.pending_of_frame hy).trans rfl
  have hqueue : (h.queued device (h.draft target contracts id r)).controller.queue =
      [(h.finished device (h.draft target contracts id r)).1] := by
    simp only [queued, hq, List.nil_append]
  have hset := h.settle_draft (h.queued device (h.draft target contracts id r)) target contracts id
    device hw
  have hkey : Simulated.answerKey device (h.draft target contracts id r) =
    (device, r.route.answerKey) := Transfer.answerKey_ofRoute h.nextTransfer r device
  obtain ⟨reaction, hreact, he⟩ := processEvents_single reactions timeout hqueue hp hset
  rw [he]
  generalize hk : ({ h.queued device (h.draft target contracts id r) with
    controller := (h.queued device (h.draft target contracts id r)).controller.poll.1
    batch := [] } : SimulatedHost) = k
  have hkd : k.deliveries = h.deliveries := by
    subst hk
    rfl
  have hks : k.controller.script = (h.controller.take (device, r.route.answerKey)).1.script := by
    subst hk
    rw [← hkey]
    rfl
  refine ⟨rfl, ?_, fun hnone => ?_⟩
  · change (Host.respond (k.deliver _ _ _ _) target reaction).deliveries = _
    rw [deliveries_respond, deliveries_deliver, deliveryOf_draft, hkd]
  · have hsilent : reaction.orders = [] := by
      rcases hreact with rfl | ⟨n, rfl⟩
      · rfl
      · exact hnone n
    change (Host.respond (k.deliver _ _ _ _) target reaction).controller.script = _
    rw [controller_respond_of_silent _ _ hsilent, controller_deliver, hks]

theorem blocking_agrees (target : TargetId) (ha : h.admission t = .ok (contracts, id, c))
    (hd : h.controller.disconnected = false) (hf : h.controller.refusals = [])
    (hq : h.controller.queue = []) (hk : (c.device, r.route.answerKey) ∉ h.controller.holding)
    (hr : r.region.Fits r.buffer.length) :
    ∃ blocking buffer result submitted d,
      Agrees h t r target contracts c.device blocking buffer result submitted d := by
  have hl := lookup_of_admission ha
  have hc := connection_of_lookup hl
  have hlen : r.payload.length = r.dataLength := Region.length_of hr
  have hw : r.dataLength < wordSize :=
    Nat.lt_of_le_of_lt (Nat.le_add_left r.dataLength r.offset) hr.1
  have hplace : h.place target (.transfer t r) =
      (h.queued c.device (h.draft target contracts id r), .done) := by
    rw [place_transfer ha fun _ => hr, offer_accepted hf hd]
  have hkey : Simulated.answerKey c.device (h.draft target contracts id r) =
    (c.device, r.route.answerKey) := Transfer.answerKey_ofRoute h.nextTransfer r c.device
  have hpass := fun reactions timeout =>
    h.processEvents_draft target contracts id c.device reactions timeout hq hw
  have hscript : (h.queued c.device (h.draft target contracts id r)).controller.script =
      (h.controller.take (c.device, r.route.answerKey)).1.script := by
    rw [← hkey]
    rfl
  obtain ⟨sent, region, hx, hrl, hread, hsent⟩ := Simulated.exchange_expected r.payload hk hd
  rw [hlen] at hx hread
  refine ⟨_, _, _, _, r.delivery h.nextTransfer target contracts _,
    (exchange_of_lookup hl hr).trans (run_of_exchange hc hx), hplace, ⟨rfl, rfl, rfl⟩,
    fun reactions timeout => ⟨(hpass reactions timeout).1, (hpass reactions timeout).2.1⟩, rfl,
    hscript.symm, fun reactions timeout => (hpass reactions timeout).2.2, ?_, ?_⟩
  · intro n hin hn
    rw [region_patch hr hrl]
    exact hread hin n hn
  · intro hout hst
    have hpay : (Simulated.submission c.device (h.draft target contracts id r) h.buffers).payload =
      r.payload := Transfer.payload_ofRoute h.nextTransfer r c.device h.buffers hout hr
    refine ⟨Simulated.submission c.device (h.draft target contracts id r) h.buffers, rfl, ?_⟩
    rw [hpay]
    exact hsent hout hst

def scripted : List Act :=
  [.upkeep (.resolve .standard), .upkeep (.adopt 1), .upkeep (.addTarget .recorder),
    .script 1 ⟨0x81⟩ (.data [1, 2, 3])]

def reading : Request where
  route := .bulk ⟨0x81⟩
  buffer := .zeros 4
  offset := 0
  length := 4
  timeout := 0

theorem reading_agrees :
    (after scripted).admission ⟨0, 0⟩ =
        .ok (⟨.forward, .forward, .forward, .forward⟩, 0, ⟨1, 0⟩) ∧
      reading.region.Fits reading.buffer.length ∧
      ∃ blocking buffer result submitted d,
        Agrees (after scripted) ⟨0, 0⟩ reading 0 ⟨.forward, .forward, .forward, .forward⟩ 1 blocking
          buffer result submitted d := by
  have ha : (after scripted).admission ⟨0, 0⟩ =
    .ok (⟨.forward, .forward, .forward, .forward⟩, 0, ⟨1, 0⟩) := rfl
  have hr : reading.region.Fits reading.buffer.length := by decide
  exact ⟨ha, hr, blocking_agrees 0 ha (by decide) (by decide) (by decide) (by decide) hr⟩

end Host

end UsbTransfer
