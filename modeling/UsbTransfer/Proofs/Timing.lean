import UsbTransfer.Proofs.Awaited

namespace UsbTransfer

namespace Transfer

/-- The descriptor tells all that its target will hear: its memory is its own, and it goes back to
no slot. -/
structure Plain (x : Transfer) : Prop where
  deliverable : x.Deliverable
  own : x.own?.isSome
  pending : ∀ p, x.pending = some p → p.buffer = none ∧ p.park = none

def foretold (x : Transfer) : Option Delivery :=
  x.pending.bind fun p =>
    (Host.fresh.settle x).map fun (result, data) => Host.fresh.deliveryOf x p result data

variable {x : Transfer}

theorem settle_of_own (hx : x.own?.isSome) (h k : SimulatedHost) : h.settle x = k.settle x := by
  obtain ⟨bytes, hb⟩ := Option.isSome_iff_exists.1 hx
  simp only [Host.settle, received?, bytes_of_own? hb]

theorem own?_rewrite (hx : x.own?.isSome) (m : Buffers) (f : Bytes → Bytes) :
    (x.rewrite m f).1.own?.isSome := by
  obtain ⟨bytes, hb⟩ := Option.isSome_iff_exists.1 hx
  rw [rewrite_of_owned hb]
  rfl

theorem own?_settle (hx : x.own?.isSome) (r : Option Response) (m : Buffers) :
    (Simulated.settle r x m).1.own?.isSome := by
  unfold Simulated.settle
  split
  · exact hx
  · exact own?_rewrite (x := x.mapPackets _) hx m _
  · exact hx
  · exact own?_rewrite hx m _
  · exact hx
  · exact hx

end Transfer

namespace Simulated

/-- Without what waits, and without what tells when it was looked at. -/
def idle (s : Simulated) : Simulated := { s with queue := [], dispatched := [], polls := 0 }

variable (s : Simulated)

theorem refusal_idle : s.idle.refusal = (s.refusal.1.idle, s.refusal.2) := by
  cases hr : s.refusals <;> simp [refusal, idle, hr]

theorem exchange_idle (device : UInt32) (route : Route) (region : Bytes) :
    s.idle.exchange device route region =
      (s.exchange device route region).map fun (s, region, out) => (s.idle, region, out) := by
  have htake : s.idle.take (device, route.answerKey) =
    ((s.take (device, route.answerKey)).1.idle, (s.take (device, route.answerKey)).2) := rfl
  have hholding : s.idle.holding = s.holding := rfl
  have hdisconnected : s.idle.disconnected = s.disconnected := rfl
  simp only [exchange, htake, hholding, hdisconnected]
  split
  · rfl
  · split
    · rfl
    · split <;> rfl

end Simulated

inductive Errand where
  | resolve (registry : Registry)
  | adopt (device : UInt32)
  | close (token : Token)
  | beginDrain (token : Token)
  | endDrain (connection : ConnectionId)
  | script (device : UInt32) (endpoint : Endpoint) (response : Response)
  | refuseNext (error : UsbError)
  | disconnect
  | exchange (token : Token) (request : Request)
  | submit (target : TargetId) (token : Token) (request : Request)

inductive Feedback where
  | none
  | result (result : Except HostError Unit)
  | token (token : Token)
  | guard (result : Except HostError ConnectionId)
  | buffer (outcome : Option (Bytes × Except HostError Nat))

inductive Turn where
  | errand (errand : Errand)
  | pass (reactions : Reactions) (timeout : Option Nat)

namespace Turn

def errand? : Turn → Option Errand
  | errand e => some e
  | pass .. => none

def Silent : Turn → Prop
  | errand _ => True
  | pass reactions _ => ∀ target n, (reactions target n).orders = []

end Turn

def errands (turns : List Turn) : List Errand := turns.filterMap Turn.errand?

namespace Host

def errand (h : SimulatedHost) : Errand → SimulatedHost × Feedback
  | .resolve r => ((h.resolve r).1, .result (h.resolve r).2)
  | .adopt d => ((h.adopt d).1, .token (h.adopt d).2)
  | .close t => ((h.close t).1, .result (h.close t).2)
  | .beginDrain t => ((h.beginDrain t).1, .guard (h.beginDrain t).2)
  | .endDrain id => (h.endDrain id, .none)
  | .script d e r => (h.withController (·.addResponse d e r), .none)
  | .refuseNext e => (h.withController (·.refuseNext e), .none)
  | .disconnect => (h.withController (·.disconnect), .none)
  | .exchange t r =>
    match h.exchange t r with
    | none => (h, .buffer none)
    | some (h, buffer, result) => (h, .buffer (some (buffer, result)))
  | .submit target t r => ((h.submit target t r).1, .result (h.submit target t r).2)

def turn (h : SimulatedHost) : Turn → SimulatedHost × List Feedback
  | .errand e => ((h.errand e).1, [(h.errand e).2])
  | .pass reactions timeout => ((h.processEvents reactions timeout).1, [])

def course (h : SimulatedHost) : List Turn → SimulatedHost × List Feedback
  | [] => (h, [])
  | t :: turns => (((h.turn t).1.course turns).1, (h.turn t).2 ++ ((h.turn t).1.course turns).2)

/-- Without transfers on their way, and without what their targets have heard. -/
def bare (h : SimulatedHost) : SimulatedHost :=
  { h with controller := h.controller.idle, targets := [], journal := [], owned := true }

def tidings (h : SimulatedHost) : List Delivery :=
  h.deliveries ++ h.controller.queue.filterMap Transfer.foretold

/-- Between passes, with transfers of one shot alone. -/
structure Orderly (h : SimulatedHost) : Prop where
  batch : h.batch = []
  plain : ∀ x ∈ h.controller.queue, x.Plain

/-- The one is the other a few passes later or earlier. -/
structure Concur (h k : SimulatedHost) : Prop where
  bare : h.bare = k.bare
  tidings : h.tidings = k.tidings

variable {h k : SimulatedHost} {x : Transfer} {p : Pending} {result : Outcome} {data : Option Bytes}
  {reactions : Reactions} {timeout : Option Nat} {target : TargetId} {t : Token} {r : Request}
  {contracts : Contracts} {id : ConnectionId} {c : Connection UInt32}

theorem deliver_of_plain (hx : x.Plain) (hp : x.pending = some p)
    (hs : h.settle x = some (result, data)) :
    ∃ d targets, x.foretold = some d ∧ h.deliver x p result data =
      { h with journal := h.journal ++ [.notified d], targets } := by
  obtain ⟨hbuffer, hpark⟩ := hx.pending p hp
  obtain ⟨targets, ht⟩ := h.deliver_eq x p result data
  refine ⟨h.deliveryOf x p result data, targets, ?_, ?_⟩
  · rw [Transfer.settle_of_own hx.own h fresh] at hs
    simp only [Transfer.foretold, hp, hs, Option.bind_some, Option.map_some, deliveryOf, hbuffer]
    rfl
  · have hstreams : (h.retire x p.park).streams = h.streams := by
      rw [retire_eq, hpark]
      split <;> rfl
    rw [ht, hbuffer, hstreams]
    rfl

theorem dispatch_of_plain (hx : x.Plain) (hr : ∀ target n, (reactions target n).orders = []) :
    ∃ d targets owned, x.foretold = some d ∧ dispatch reactions h x =
      ({ h with journal := h.journal ++ [.notified d], targets, owned }, true) := by
  obtain ⟨p, hp⟩ := hx.deliverable.1
  obtain ⟨result, data, hs⟩ := h.settle_of_deliverable hx.deliverable
  obtain ⟨d, targets, hd, hdeliver⟩ := deliver_of_plain hx hp hs
  obtain ⟨r, hreact, he⟩ := dispatch_eq reactions h hp hs
  have hsilent : r.orders = [] := by
    rcases hreact with rfl | ⟨n, rfl⟩
    · rfl
    · exact hr _ n
  refine ⟨d, targets, h.owned && !r.leaves, hd, he.trans ?_⟩
  rw [hdeliver]
  simp only [respond, hsilent, react]

theorem dispatchAll_of_plain (xs : List Transfer) (hx : ∀ x ∈ xs, x.Plain)
    (hr : ∀ target n, (reactions target n).orders = []) :
    ∃ targets owned, dispatchAll reactions h xs =
      ({ h with
          journal := h.journal ++ (xs.filterMap Transfer.foretold).map .notified
          targets, owned, batch := [] }, true) := by
  induction xs generalizing h with
  | nil => exact ⟨h.targets, h.owned, by simp [dispatchAll]⟩
  | cons x rest ih =>
    obtain ⟨d, targets, owned, hd, he⟩ :=
      dispatch_of_plain (h := { h with batch := rest }) (hx x List.mem_cons_self) hr
    obtain ⟨targets', owned', hrest⟩ :=
      ih (h := { h with journal := h.journal ++ [.notified d], targets, owned, batch := rest })
        fun y hy => hx y (List.mem_cons_of_mem _ hy)
    refine ⟨targets', owned', ?_⟩
    rw [dispatchAll, he]
    simp only [hrest, List.filterMap_cons_some hd, List.map_cons, List.append_assoc]
    rfl

theorem processEvents_of_orderly (timeout : Option Nat) (ho : Orderly h)
    (hr : ∀ target n, (reactions target n).orders = []) :
    ∃ targets owned, h.processEvents reactions timeout =
      ({ h with
          controller := h.controller.poll.1
          journal := h.journal ++ (h.controller.queue.filterMap Transfer.foretold).map .notified
          targets, owned }, .done) := by
  obtain ⟨targets, owned, hd⟩ := dispatchAll_of_plain (h := { h with
    controller := h.controller.poll.1, batch := h.controller.queue }) h.controller.queue ho.plain hr
  have hpoll : Controller.poll h.controller h.buffers timeout =
    (h.controller.poll.1, h.buffers, .finished h.controller.queue) := rfl
  refine ⟨targets, owned, ?_⟩
  simp only [processEvents, hpoll, hd, ho.batch]

theorem deliveries_notified (h : SimulatedHost) (ds : List Delivery) :
    Host.deliveries { h with journal := h.journal ++ ds.map .notified } = h.deliveries ++ ds := by
  simp only [deliveries, List.filterMap_append, List.filterMap_map]
  congr 1
  exact List.filterMap_some

structure Passed (h h' : SimulatedHost) : Prop where
  orderly : Orderly h'
  concur : Concur h' h
  deliveries : h'.deliveries = h.tidings

theorem passed_of_orderly (timeout : Option Nat) (ho : Orderly h)
    (hr : ∀ target n, (reactions target n).orders = []) :
    (h.processEvents reactions timeout).2 = .done ∧
      Passed h (h.processEvents reactions timeout).1 := by
  obtain ⟨targets, owned, he⟩ := processEvents_of_orderly timeout ho hr
  have hd := h.deliveries_notified (h.controller.queue.filterMap Transfer.foretold)
  rw [he]
  refine ⟨rfl, ⟨ho.batch, by simp [Simulated.poll]⟩, ⟨rfl, ?_⟩, hd⟩
  exact (List.append_nil _).trans hd

/-- The call goes the same way with nothing on its way, and what it sends on its way comes last. -/
structure Carried (h : SimulatedHost) (e : Errand) : Prop where
  reply : (h.bare.errand e).2 = (h.errand e).2
  bare : (h.bare.errand e).1.bare = (h.errand e).1.bare
  queue : (h.errand e).1.controller.queue =
    h.controller.queue ++ (h.bare.errand e).1.controller.queue
  journal : (h.errand e).1.journal = h.journal
  batch : (h.errand e).1.batch = h.batch
  plain : ∀ x ∈ (h.bare.errand e).1.controller.queue, x.Plain

theorem submit_of_admission (target : TargetId) (ha : h.admission t = .ok (contracts, id, c))
    (hf : r.route.direction = .hostToDevice → r.region.Fits r.buffer.length) :
    h.submit target t r =
      match h.controller.refusal with
      | (k, some e) => (h.turnedAway (h.draft target contracts id r) k e, .error (.usb e))
      | (_, none) => (h.queued c.device (h.draft target contracts id r), .ok ()) := by
  have hp : h.place target (.transfer t r) = h.offer c.device (h.draft target contracts id r) :=
    place_transfer ha hf
  rcases hr : h.controller.refusal with ⟨k, _ | e⟩
  · rw [offer, hr] at hp
    obtain ⟨result, hs, ha⟩ := submit_of_place hp
    cases result with
    | ok u => exact hs
    | error e => cases ha
  · rw [offer, hr] at hp
    obtain ⟨result, hs, ha⟩ := submit_of_place hp
    cases result with
    | ok u => cases ha
    | error e =>
      cases ha
      exact hs

theorem plain_draft (h : SimulatedHost) (target : TargetId) (contracts : Contracts)
    (id : ConnectionId) (device : UInt32) (r : Request) :
    (h.finished device (h.draft target contracts id r)).1.Plain := by
  obtain ⟨bytes, hb, -⟩ := Transfer.owned_ofRoute h.nextTransfer r
  refine ⟨h.deliverable_draft target contracts id device r, Transfer.own?_settle ?_ _ _, ?_⟩
  · exact Option.isSome_iff_exists.2 ⟨bytes, hb⟩
  · intro p hp
    rw [Transfer.pending_of_frame (h.frame_finished device _)] at hp
    cases hp
    exact ⟨rfl, rfl⟩

theorem Carried.quiet {e : Errand} (hr : (h.bare.errand e).2 = (h.errand e).2)
    (hb : (h.bare.errand e).1.bare = (h.errand e).1.bare)
    (hq : (h.errand e).1.controller.queue = h.controller.queue)
    (hn : (h.bare.errand e).1.controller.queue = [])
    (hj : (h.errand e).1.journal = h.journal) (hbatch : (h.errand e).1.batch = h.batch) :
    Carried h e where
  reply := hr
  bare := hb
  queue := by rw [hq, hn, List.append_nil]
  journal := hj
  batch := hbatch
  plain := by simp [hn]

theorem Carried.refused {e : HostError} (hs : h.submit target t r = (h, .error e))
    (hb : h.bare.submit target t r = (h.bare, .error e)) : Carried h (.submit target t r) := by
  have he : h.errand (.submit target t r) = (h, .result (.error e)) := by simp only [errand, hs]
  have hbe : h.bare.errand (.submit target t r) = (h.bare, .result (.error e)) := by
    simp only [errand, hb]
  constructor <;> simp only [he, hbe]
  case plain => exact fun x hx => nomatch hx
  case queue => exact (List.append_nil _).symm
  rfl

theorem carried_submit (h : SimulatedHost) (target : TargetId) (t : Token) (r : Request) :
    Carried h (.submit target t r) := by
  have hadmission : h.bare.admission t = h.admission t := rfl
  rcases ha : h.admission t with e | ⟨contracts, id, c⟩
  · exact .refused (e := e) (by simp only [submit, ha]) (by simp only [submit, hadmission, ha])
  · by_cases hfit : r.route.direction = .hostToDevice ∧ ¬ r.region.Fits r.buffer.length
    · exact .refused (e := .usb .invalidParam) (by simp only [submit, ha, if_pos hfit])
        (by simp only [submit, hadmission, ha, if_pos hfit])
    · have hf : r.route.direction = .hostToDevice → r.region.Fits r.buffer.length := fun hd =>
        Decidable.byContradiction fun hn => hfit ⟨hd, hn⟩
      have hs := submit_of_admission target ha hf
      have hb := submit_of_admission target (hadmission.trans ha) hf
      have hrefusal : h.bare.controller.refusal = _ := h.controller.refusal_idle
      rw [hrefusal] at hb
      rcases hr : h.controller.refusal with ⟨k, _ | e⟩
      · obtain rfl := refusal_eq_none hr
        rw [hr] at hs hb
        constructor <;> simp only [errand, hs, hb]
        case plain =>
          intro x hx
          rw [List.mem_singleton.1 hx]
          exact h.plain_draft target contracts id c.device r
        all_goals rfl
      · rw [hr] at hs hb
        have hk := (Simulated.quiet_refusal hr).queue
        constructor <;> simp only [errand, hs, hb]
        case queue => exact hk.trans (List.append_nil _).symm
        case plain =>
          intro x hx
          cases hx
        all_goals rfl

theorem bare_exchange (h : SimulatedHost) (t : Token) (r : Request) :
    h.bare.exchange t r =
      (h.exchange t r).map fun (k, buffer, result) => (k.bare, buffer, result) := by
  have hcall : h.bare.call t r = h.call t r := rfl
  have hconnections : h.bare.connections = h.connections := rfl
  unfold exchange
  rw [hcall]
  rcases h.call t r with e | call
  · rfl
  · simp only [run, hconnections]
    cases h.connections[call.connection]? with
    | none => rfl
    | some c =>
      have hx : Controller.exchange h.bare.controller c.device call.request.route
          call.request.payload call.request.timeout = _ :=
        h.controller.exchange_idle c.device call.request.route call.request.payload
      simp only [hx, Option.map_map]
      rfl

theorem kept_exchange {buffer : Bytes} {result : Except HostError Nat}
    (hx : h.exchange t r = some (k, buffer, result)) :
    ∃ c : Simulated, c.queue = h.controller.queue ∧ k = { h with controller := c } := by
  unfold exchange at hx
  split at hx
  · obtain ⟨rfl, -⟩ := Prod.mk.inj (Option.some.inj hx)
    exact ⟨h.controller, rfl, rfl⟩
  · rcases run_cases hx with rfl | ⟨c, hc, hd⟩
    · exact ⟨k.controller, rfl, rfl⟩
    · obtain ⟨sent, rfl⟩ := run_eq hc hd hx
      refine ⟨_, ?_, rfl⟩
      rfl

theorem carried_exchange (h : SimulatedHost) (t : Token) (r : Request) :
    Carried h (.exchange t r) := by
  have hb := h.bare_exchange t r
  rcases hx : h.exchange t r with _ | ⟨k, buffer, result⟩
  · rw [hx] at hb
    refine .quiet ?_ ?_ ?_ ?_ ?_ ?_ <;> simp only [errand, hx, hb, Option.map_none] <;> rfl
  · obtain ⟨c, hc, rfl⟩ := kept_exchange hx
    rw [hx] at hb
    refine .quiet ?_ ?_ ?_ ?_ ?_ ?_ <;> simp only [errand, hx, hb, Option.map_some]
    case refine_3 => exact hc
    all_goals rfl

theorem carried (h : SimulatedHost) (e : Errand) : Carried h e := by
  cases e with
  | resolve registry =>
    refine .quiet ?_ ?_ ?_ ?_ ?_ ?_ <;> simp only [errand, resolve] <;> split <;> rfl
  | adopt device => exact .quiet rfl rfl rfl rfl rfl rfl
  | close token =>
    have hlookup : h.bare.lookup token = h.lookup token := rfl
    refine .quiet ?_ ?_ ?_ ?_ ?_ ?_ <;> simp only [errand, close, hlookup, reap_eq] <;>
      split <;> rfl
  | beginDrain token =>
    have hlookup : h.bare.lookup token = h.lookup token := rfl
    refine .quiet ?_ ?_ ?_ ?_ ?_ ?_ <;> simp only [errand, beginDrain, hlookup] <;> split <;> rfl
  | endDrain connection => exact .quiet rfl rfl rfl rfl rfl rfl
  | script device endpoint response => exact .quiet rfl rfl rfl rfl rfl rfl
  | refuseNext error => exact .quiet rfl rfl rfl rfl rfl rfl
  | disconnect => exact .quiet rfl rfl rfl rfl rfl rfl
  | exchange token request => exact h.carried_exchange token request
  | submit target token request => exact h.carried_submit target token request

theorem Orderly.errand (ho : Orderly h) (e : Errand) : Orderly (h.errand e).1 := by
  have hc := h.carried e
  refine ⟨hc.batch.trans ho.batch, fun x hx => ?_⟩
  rw [hc.queue] at hx
  rcases List.mem_append.1 hx with hx | hx
  · exact ho.plain x hx
  · exact hc.plain x hx

theorem Carried.tidings {e : Errand} (hc : Carried h e) : (h.errand e).1.tidings =
    h.tidings ++ (h.bare.errand e).1.controller.queue.filterMap Transfer.foretold := by
  have hd : (h.errand e).1.deliveries = h.deliveries := by rw [deliveries, hc.journal, deliveries]
  rw [Host.tidings, hd, hc.queue, List.filterMap_append, ← List.append_assoc]
  rfl

theorem Concur.errand (hc : Concur h k) (e : Errand) :
    (h.errand e).2 = (k.errand e).2 ∧ Concur (h.errand e).1 (k.errand e).1 := by
  have hh := h.carried e
  have hk := k.carried e
  have hb := hc.bare
  refine ⟨?_, ?_, ?_⟩
  · rw [← hh.reply, ← hk.reply, hb]
  · rw [← hh.bare, ← hk.bare, hb]
  · rw [hh.tidings, hk.tidings, hb, hc.tidings]

theorem course_concur {turns : List Turn} (hs : ∀ t ∈ turns, t.Silent) (ho : Orderly h)
    (hc : Concur h k) :
    (h.course turns).2 = (k.course ((errands turns).map .errand)).2 ∧
      Orderly (h.course turns).1 ∧
      Concur (h.course turns).1 (k.course ((errands turns).map .errand)).1 := by
  induction turns generalizing h k with
  | nil => exact ⟨rfl, ho, hc⟩
  | cons t turns ih =>
    have hlater := fun u hu => hs u (List.mem_cons_of_mem _ hu)
    cases t with
    | errand e =>
      obtain ⟨hreply, hce⟩ := hc.errand e
      obtain ⟨hreplies, hoc, hcc⟩ := ih hlater (ho.errand e) hce
      refine ⟨?_, hoc, hcc⟩
      simp only [course, turn, errands, List.filterMap_cons, Turn.errand?, List.map_cons] at *
      rw [hreply, hreplies]
    | pass reactions timeout =>
      have hsilent : ∀ target n, (reactions target n).orders = [] := hs _ List.mem_cons_self
      obtain ⟨-, hp⟩ := passed_of_orderly timeout ho hsilent
      obtain ⟨hreplies, hoc, hcc⟩ :=
        ih hlater hp.orderly ⟨hp.concur.bare.trans hc.bare, hp.concur.tidings.trans hc.tidings⟩
      exact ⟨hreplies, hoc, hcc⟩

/-- The calls were answered alike, and their callers are told the same in the end. -/
structure Indistinct (h : SimulatedHost) (first second : List Turn) : Prop where
  replies : (h.course first).2 = (h.course second).2
  bare : (h.course first).1.bare = (h.course second).1.bare
  notified : ∀ reactions timeout reactions' timeout', (Turn.pass reactions timeout).Silent →
    (Turn.pass reactions' timeout').Silent →
    ((h.course first).1.processEvents reactions timeout).2 = .done ∧
      ((h.course second).1.processEvents reactions' timeout').2 = .done ∧
      ((h.course first).1.processEvents reactions timeout).1.deliveries =
        ((h.course second).1.processEvents reactions' timeout').1.deliveries

theorem timing_invisible (targets : List Target) {first second : List Turn}
    (hf : ∀ t ∈ first, t.Silent) (hs : ∀ t ∈ second, t.Silent)
    (he : errands first = errands second) :
    Indistinct (fresh.withTargets targets) first second := by
  have ho : Orderly (fresh.withTargets targets) := ⟨rfl, fun x hx => nomatch hx⟩
  obtain ⟨hreplies, hof, hcf⟩ := course_concur hf ho ⟨rfl, rfl⟩
  obtain ⟨hreplies', hos, hcs⟩ := course_concur hs ho ⟨rfl, rfl⟩
  rw [← he] at hreplies' hcs
  refine ⟨hreplies.trans hreplies'.symm, hcf.bare.trans hcs.bare.symm, ?_⟩
  intro reactions timeout reactions' timeout' hr hr'
  obtain ⟨hdone, hp⟩ := passed_of_orderly timeout hof hr
  obtain ⟨hdone', hp'⟩ := passed_of_orderly timeout' hos hr'
  refine ⟨hdone, hdone', ?_⟩
  rw [hp.deliveries, hp'.deliveries, hcf.tidings, hcs.tidings]

def hasty : List Errand :=
  [.resolve .standard, .adopt 1, .script 1 ⟨0x81⟩ (.data [1, 2]), .submit 0 ⟨0, 0⟩ reading,
    .resolve ⟨some .silent, some .silent, some .silent, some .silent⟩, .close ⟨0, 0⟩, .adopt 2,
    .submit 0 ⟨0, 1⟩ reading, .disconnect, .submit 0 ⟨0, 1⟩ reading]

def interrupted : List Turn :=
  hasty.flatMap fun e => [.errand e, .pass (fun _ _ => { panics := true }) none]

theorem hasty_indistinct :
    (∀ t ∈ hasty.map Turn.errand, t.Silent) ∧ (∀ t ∈ interrupted, t.Silent) ∧
      errands (hasty.map .errand) = errands interrupted ∧
      Indistinct (fresh.withTargets [.recorder]) (hasty.map .errand) interrupted ∧
      (((fresh.withTargets [.recorder]).course interrupted).1.deliveries.map
        fun d => (d.transfer, d.notifier, d.completion.data, d.completion.result)) =
          [(1, .forward, some [1, 2], .ok 2), (2, .silent, none, .error .timeout)] := by
  have hf : ∀ t ∈ hasty.map Turn.errand, t.Silent := by
    intro t ht
    obtain ⟨e, -, rfl⟩ := List.mem_map.1 ht
    trivial
  have hs : ∀ t ∈ interrupted, t.Silent := by
    intro t ht
    obtain ⟨e, -, ht⟩ := List.mem_flatMap.1 ht
    rcases List.mem_pair.1 ht with rfl | rfl
    · trivial
    · exact fun _ _ => rfl
  have he : errands (hasty.map .errand) = errands interrupted := rfl
  exact ⟨hf, hs, he, timing_invisible [.recorder] hf hs he, by decide⟩

end Host

end UsbTransfer
