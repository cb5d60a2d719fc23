import UsbTransfer.Cli.Execution
import UsbTransfer.Proofs.Agreement
import UsbTransfer.Proofs.Audience

namespace UsbTransfer

structure Request.Whole (q : Request) : Prop where
  offset : q.offset = 0
  length : q.dataLength = q.buffer.length
  word : q.buffer.length < wordSize

theorem Request.Whole.fits {q : Request} (hq : q.Whole) : q.region.Fits q.buffer.length := by
  have hstop : q.region.stop = q.buffer.length := by
    rw [Region.stop, Request.region, hq.offset, hq.length, Nat.zero_add]
  rw [Region.Fits, hstop]
  exact ⟨hq.word, Nat.le_refl _⟩

theorem data_of_expected_error {direction : Direction} {limit : Nat} {answer : Option Response}
    {e : UsbError} (he : (expected direction limit answer).2 = .error e) :
    (expected direction limit answer).1 = none := by
  rcases answer with _ | ⟨p | st | actual⟩
  · cases direction <;> rfl
  · cases direction with
    | hostToDevice => rfl
    | deviceToHost =>
      simp only [expected] at he ⊢
      split
      · rename_i hp
        rw [if_pos hp] at he
        cases he
      · rfl
  · cases st <;> cases direction <;> first | rfl | cases he
  · cases direction <;> rfl

theorem data_of_expected_out (limit : Nat) (answer : Option Response) :
    (expected .hostToDevice limit answer).1 = none := by
  rcases answer with _ | ⟨p | st | actual⟩ <;> rfl

namespace Host

variable {h h' : SimulatedHost} {t : TargetId} {x y : Transfer} {p : Pending} {result : Outcome}
  {data : Option Bytes}

theorem respond_silent (h : SimulatedHost) (target : TargetId) : h.respond target {} = h := by
  simp [respond, react]

theorem dispatch_silent (hp : x.pending = some p) (hs : h.settle x = some (result, data)) :
    dispatch (fun _ _ => {}) h x = (h.deliver x p result data, true) := by
  obtain ⟨r, hr, hd⟩ := dispatch_eq (fun _ _ => {}) h hp hs
  obtain rfl : r = {} := by
    rcases hr with rfl | ⟨k, rfl⟩ <;> rfl
  rw [hd, respond_silent]

structure Unheard (t : TargetId) (h h' : SimulatedHost) : Prop where
  controller : h'.controller = h.controller
  owned : h'.owned = h.owned
  target : h'.targets[t]? = h.targets[t]?

theorem Unheard.trans {h'' : SimulatedHost} (hu : Unheard t h h') (hu' : Unheard t h' h'') :
    Unheard t h h'' :=
  ⟨hu'.controller.trans hu.controller, hu'.owned.trans hu.owned, hu'.target.trans hu.target⟩

theorem unheard_deliver (h : SimulatedHost) (x : Transfer) (result : Outcome) (data : Option Bytes)
    (ht : t ≠ p.target) : Unheard t h (h.deliver x p result data) := by
  refine ⟨controller_deliver h x p result data, ?_, ?_⟩
  · obtain ⟨targets, he⟩ := h.deliver_eq x p result data
    rw [he]
  · rw [targets_deliver, if_neg fun hc => ht hc.1]

theorem dispatchAll_unheard (xs ys : List Transfer) (h : SimulatedHost)
    (hx : ∀ x ∈ xs, x.Deliverable ∧ ∀ p, x.pending = some p → t ≠ p.target) :
    ∃ h', Unheard t h h' ∧ (xs = [] → h' = h) ∧
      dispatchAll (fun _ _ => {}) h (xs ++ ys) = dispatchAll (fun _ _ => {}) h' ys := by
  -- a delivery to another target leaves this one as it was
  induction xs generalizing h with
  | nil => exact ⟨h, ⟨rfl, rfl, rfl⟩, fun _ => rfl, rfl⟩
  | cons x xs ih =>
    obtain ⟨hdel, hother⟩ := hx x List.mem_cons_self
    obtain ⟨p, hp⟩ := hdel.1
    obtain ⟨result, data, hs⟩ :=
      ({ h with batch := xs ++ ys } : SimulatedHost).settle_of_deliverable hdel
    obtain ⟨h', hu, -, he⟩ := ih (Host.deliver { h with batch := xs ++ ys } x p result data)
      fun z hz => hx z (List.mem_cons_of_mem _ hz)
    refine ⟨h', ?_, nofun, ?_⟩
    · have hfirst := unheard_deliver { h with batch := xs ++ ys } x result data (hother p hp)
      exact Unheard.trans ⟨hfirst.controller, hfirst.owned, hfirst.target⟩ hu
    · rw [List.cons_append, dispatchAll, dispatch_silent hp hs]
      exact he

/-- A pass ends with the youngest transfer, whose target has not heard of the others. -/
theorem processEvents_youngest {xs : List Transfer} (timeout : Option Nat)
    (hq : h.controller.queue = xs ++ [y])
    (hx : ∀ x ∈ xs, x.Deliverable ∧ ∀ q, x.pending = some q → p.target ≠ q.target)
    (hp : y.pending = some p) (hs : ∀ k : SimulatedHost, k.settle y = some (result, data)) :
    ∃ k, Unheard p.target { h with controller := h.controller.poll.1 } k ∧
      (xs = [] → k.buffers = h.buffers) ∧ h.processEvents (fun _ _ => {}) timeout =
        ({ k.deliver y p result data with batch := [] }, .done) := by
  obtain ⟨k, hu, hnone, he⟩ := dispatchAll_unheard xs [y]
    { h with controller := h.controller.poll.1, batch := h.controller.queue } hx
  have hpoll : Controller.poll h.controller h.buffers timeout =
    (h.controller.poll.1, h.buffers, .finished (xs ++ [y])) := by rw [← hq]; rfl
  refine ⟨{ k with batch := [] }, ⟨hu.controller, hu.owned, hu.target⟩,
    fun hxs => by rw [hnone hxs], ?_⟩
  rw [hq] at he
  simp only [processEvents, hpoll, he, dispatchAll, dispatch_silent hp (hs _)]

theorem submit_of_place {token : Token} {r : Request} {target : TargetId} {a : Answer}
    (hp : h.place target (.transfer token r) = (h', a)) :
    ∃ result, h.submit target token r = (h', result) ∧ a = .ofExcept result := by
  simp only [place] at hp
  obtain ⟨rfl, rfl⟩ := Prod.mk.inj hp
  exact ⟨_, rfl, rfl⟩

theorem submitStream_of_place {target : TargetId} {id : StreamId} {s : Stream} {b : BufferId}
    {timeout : UInt32} {a : Answer} (hs : h.streams[id]? = some s)
    (hp : h.place target (.stream id b timeout) = (h', a)) :
    ∃ result, h.submitStream target id s b timeout = (h', result) ∧ a = .ofExcept result := by
  simp only [place, hs] at hp
  obtain ⟨rfl, rfl⟩ := Prod.mk.inj hp
  exact ⟨_, rfl, rfl⟩

theorem targets_youngest {targets : List Target} (hu : Unheard p.target h h')
    (ht : h.targets = targets ++ [.channel {}]) (hp : p.target = targets.length)
    (hn : p.contracts.notifier y.kind = .forward) :
    (h'.deliver y p result data).targets[p.target]? =
      some (.channel { queue := [p.message y.kind data result] }) := by
  have hlast : h'.targets[p.target]? = some (.channel {}) := by
    rw [hu.target, ht, hp, List.getElem?_append_right (Nat.le_refl _), Nat.sub_self]
    rfl
  rw [targets_deliver, if_pos ⟨rfl, hn⟩, hlast]
  rfl

end Host

namespace Session

variable {s : Session Simulated UInt32} {h' : SimulatedHost} {p : Pump}

theorem settle_of_idle (reactions : Reactions) (hs : s.pumpOnce reactions = none) (n : Nat) :
    s.settle reactions n = s := by
  cases n with
  | zero => rfl
  | succ n => simp only [settle, hs]

theorem settle_of_pass (reactions : Reactions) (ha : s.alive = true) (hp : s.pump = some p)
    (hrun : p.Running) (hready : s.host.controller.queue ≠ [])
    (hpass : s.host.processEvents reactions (some p.interval) = (h', .done))
    (hq : h'.controller.queue = []) (ho : h'.owned = true) (n : Nat) :
    s.settle reactions (n + 1) = { s with host := h' } := by
  have hfirst : s.pumpOnce reactions = some { s with host := h' } := by
    have hready' : Controller.ready s.host.controller = true := by
      cases hqueue : s.host.controller.queue with
      | nil => exact absurd hqueue hready
      | cons x xs => simp [Controller.ready, hqueue]
    have hpump : s.pump.filter (·.Running) = some p := by simp [hp, hrun]
    simp only [pumpOnce, ha, hready', hpump, passOf, hpass, Pump.afterPass, letGo, ho]
    simp [← hp]
  have hidle : ({ s with host := h' } : Session Simulated UInt32).pumpOnce reactions = none := by
    have hready' : Controller.ready h'.controller = false := by simp [Controller.ready, hq]
    simp only [pumpOnce, hready', or_true, if_true]
  simp only [settle, hfirst, settle_of_idle reactions hidle]

end Session

namespace Cli

theorem length_stage (data : Option Bytes) (n : Nat) : (stage data n).length = n := by
  simp only [stage, List.length_append, List.length_take, Bytes.length_zeros]
  omega

theorem whole_control (c : ControlCommand) (setup : SetupPacket) (timeout : UInt32) :
    Request.Whole { route := .control setup, buffer := stage c.data setup.length.toNat, offset := 0
                    length := setup.length.toNat, timeout } := by
  have hlen := length_stage c.data setup.length.toNat
  refine ⟨rfl, hlen.symm, ?_⟩
  rw [hlen]
  exact Nat.lt_trans setup.length.toNat_lt (by decide)

theorem whole_pipe (pipe : Pipe) (e : Endpoint) (timeout : UInt32) (buffer : Bytes)
    (hw : buffer.length < wordSize) :
    Request.Whole
      { route := pipe.route e, buffer, offset := 0, length := buffer.length, timeout } :=
  ⟨rfl, by cases pipe <;> rfl, hw⟩

variable {s : Session Simulated UInt32}

structure Attended (s : Session Simulated UInt32) : Prop where
  alive : s.alive = true
  owned : s.host.owned = true
  running : ∃ p, s.pump = some p ∧ p.Running
  queue : ∀ x ∈ s.host.controller.queue, x.Deliverable ∧
    ∀ p, x.pending = some p → p.target < s.host.targets.length

def Report.told (r : Report) (data : Option Bytes) (result : Outcome) : Report :=
  (r.withOutcome result).withData data

/-- What is waited for on a new channel is what the transfer submitted last ends with. The buffers
are those that the transfers before it have left. -/
theorem completed_of_youngest (r : Report) (timeout : UInt32) (hs : Attended s) {h : SimulatedHost}
    {y : Transfer} {p : Pending} {result : Outcome} {data : Option Bytes}
    (hqueue : h.controller.queue = s.host.controller.queue ++ [y]) (ho : h.owned = s.host.owned)
    (ht : h.targets = s.host.targets ++ [.channel {}]) (hp : y.pending = some p)
    (htarget : p.target = s.host.targets.length) (hn : p.contracts.notifier y.kind = .forward)
    (hset : ∀ k : SimulatedHost, k.settle y = some (result, data)) :
    ∃ k : SimulatedHost, (s.host.controller.queue = [] → k.buffers = h.buffers) ∧
      ∃ c, c = (p.message y.kind data result).read (k.mark p.buffer result).buffers ∧
        (completed { s with host := h } p.target r timeout).2 = .ok (r.told c.data c.result) := by
  obtain ⟨pump, hpump, hrun⟩ := hs.running
  obtain ⟨k, hu, hnone, hpass⟩ := Host.processEvents_youngest (some pump.interval) hqueue
    (fun x hx => ⟨(hs.queue x hx).1, fun q hq =>
      Nat.ne_of_gt (htarget ▸ (hs.queue x hx).2 q hq)⟩) hp hset
  refine ⟨k, hnone, _, rfl, ?_⟩
  generalize hlast : ({ k.deliver y p result data with batch := [] } : SimulatedHost) = h' at hpass
  have hdone : h'.controller.queue = [] := by
    rw [← hlast, Host.controller_deliver, hu.controller]
    rfl
  have hkept : h'.owned = true := by
    obtain ⟨targets, he⟩ := k.deliver_eq y p result data
    rw [← hlast, he]
    exact hu.owned.trans (ho.trans hs.owned)
  have hchannel : h'.channel? p.target =
      some { queue := [p.message y.kind data result] } := by
    rw [← hlast]
    exact Host.channel?_eq_some.2 (Host.targets_youngest hu ht htarget hn)
  have hbuffers : h'.buffers = (k.mark p.buffer result).buffers := by
    rw [← hlast]
    exact Host.buffers_deliver k y p result data
  have hsettle : Session.settle (fun _ _ => {}) patience { s with host := h } =
      { s with host := h' } :=
    Session.settle_of_pass (s := { s with host := h }) _ hs.alive hpump hrun
      (by rw [hqueue]; simp) hpass hdone hkept 99999
  simp only [completed, hsettle, hchannel, Option.bind_some, Channel.receive?, hbuffers,
    Report.told]

def Report.returned (r : Report) (data : Option Bytes) : Outcome → Report
  | .ok n => (r.withOutcome (.ok n)).withData data
  | .error e => r.withError (.usb e)

section Transfers

variable {t : Token} {q : Request} {contracts : Contracts} {id : ConnectionId}
  {x : Connection UInt32} (r : Report) (ha : s.host.admission t = .ok (contracts, id, x))
  (hd : s.host.controller.disconnected = false) (hq : q.Whole)

include ha hd hq

theorem transferBlocking_of_answer (hk : (x.device, q.route.answerKey) ∉ s.host.controller.holding)
    {data : Option Bytes} {result : Outcome}
    (he : expected q.route.direction q.dataLength
      (s.host.controller.take (x.device, q.route.answerKey)).2 = (data, result)) :
    (transferBlocking s t r q).2 = .ok (r.returned data result) := by
  have hl := Host.lookup_of_admission ha
  have hlen : q.payload.length = q.dataLength := Region.length_of hq.fits
  obtain ⟨sent, region, hx, hrl, hread, -⟩ := Simulated.exchange_expected q.payload hk hd
  rw [hlen, he] at hx hread
  have hex := (Host.exchange_of_lookup hl hq.fits).trans
    (Host.run_of_exchange (Host.connection_of_lookup hl) hx)
  simp only [transferBlocking, hex]
  rcases result with e | n
  · rfl
  · have hall : q.buffer.patch q.offset region = region := by
      rw [hq.offset]
      exact Bytes.patch_all (hrl.trans (hlen.trans hq.length))
    have hdata : (if q.route.direction = .deviceToHost then
        some ((q.buffer.patch q.offset region).take n) else none) = data := by
      split
      · rename_i hin
        rw [hall]
        exact (hread hin n rfl).symm
      · rename_i hout
        have hdir : q.route.direction = .hostToDevice := by
          cases hdir : q.route.direction with
          | deviceToHost => exact absurd hdir hout
          | hostToDevice => rfl
        rw [hdir] at he
        exact (data_of_expected_out _ _).symm.trans (congrArg Prod.fst he)
    simp only [Except.mapError, hdata, Report.returned]

theorem transferAsynchronous_of_answer (hs : Attended s)
    (hforward : contracts.notifier q.route.kind = .forward)
    (hf : s.host.controller.refusals = []) {data : Option Bytes} {result : Outcome}
    (he : expected q.route.direction q.dataLength
      (s.host.controller.take (x.device, q.route.answerKey)).2 = (data, result)) :
    (transferAsynchronous s t r q).2 = .ok (r.told data result) := by
  generalize hh : (s.host.addTarget (.channel {})).1 = h
  generalize hT : s.host.targets.length = T
  have hadd : s.host.addTarget (.channel {}) = (h, T) := by rw [← hh, ← hT]; rfl
  have ha' : h.admission t = .ok (contracts, id, x) := by rw [← hh]; exact ha
  have hplace : h.place T (.transfer t q) =
      (h.queued x.device (h.draft T contracts id q), .done) := by
    rw [Host.place_transfer ha' fun _ => hq.fits, Host.offer_accepted] <;> (rw [← hh]; assumption)
  obtain ⟨answer, hsubmit, hanswer⟩ := Host.submit_of_place hplace
  obtain rfl : answer = .ok () := by
    cases answer with
    | ok u => rfl
    | error e => cases hanswer
  generalize hy : (h.finished x.device (h.draft T contracts id q)).1 = y
  have hframe := h.frame_finished x.device (h.draft T contracts id q)
  rw [hy] at hframe
  have hkind : y.kind = q.route.kind :=
    (Transfer.kind_of_frame hframe).trans (Transfer.kind_ofRoute h.nextTransfer q)
  have hsettle : ∀ k : SimulatedHost, k.settle y = some (result, data) := by
    intro k
    rw [← hy, h.settle_draft k T contracts id x.device (hq.length ▸ hq.word), ← hh]
    exact congrArg (fun r => some (r.2, r.1)) he
  have hqueue : (h.queued x.device (h.draft T contracts id q)).controller.queue =
      s.host.controller.queue ++ [y] := by
    rw [Host.queue_queued, hy, ← hh]
    rfl
  obtain ⟨k, -, c, hc, hcompleted⟩ := completed_of_youngest r q.timeout hs hqueue
    (by rw [← hh]; rfl) (by rw [← hh]; rfl) ((Transfer.pending_of_frame hframe).trans rfl) hT.symm
    (by rw [hkind]; exact hforward) hsettle
  have hmessage : c = { kind := q.route.kind, data, result } := by
    rw [hc, Pending.message, hkind, if_neg (by cases q.route <;> simp [Route.kind])]
    rfl
  rw [hmessage] at hcompleted
  simp only [transferAsynchronous, hadd, hsubmit]
  exact hcompleted

end Transfers

end Cli

end UsbTransfer
