import UsbTransfer.Proofs.Conclusion
import UsbTransfer.Proofs.Occupancy
import UsbTransfer.Proofs.Reference

namespace UsbTransfer

def Note.resolved? : Note → Option Registry
  | .upkeep (.resolve r) => if r.missing = [] then some r else none
  | _ => none

def inForce (history : List Note) : Option Registry := (history.filterMap Note.resolved?).getLast?

def Order.kind : Order → TransferKind
  | .transfer _ r => r.route.kind
  | .stream .. => .isochronous

/-- What its notifier is given for an order: data of a transfer of its own, and for a stream the
buffer of the caller as it is then. -/
def Order.Hands (o : Order) (answer : Option Response) (m : Buffers) (c : Completion) : Prop :=
  match o with
  | .transfer _ r =>
    ∃ data result, c = (Message.received r.route.kind data result).read m ∧
      (r.dataLength < wordSize → (data, result) = expected r.route.direction r.dataLength answer)
  | .stream _ b _ => ∃ result, c = (Message.filled (some b) result).read m

namespace Registry

variable {r : Registry}

theorem resolve_of_complete (hm : r.missing = []) : ∃ c, r.resolve = .ok c := by
  have hall : ∀ k, r.get? k ≠ none := fun k hk => by
    have hmem := mem_missing.2 hk
    rw [hm] at hmem
    cases hmem
  obtain ⟨_ | c, _ | b, _ | i, _ | s⟩ := r
  all_goals first
    | exact ⟨_, rfl⟩
    | exact absurd rfl (hall .control)
    | exact absurd rfl (hall .bulk)
    | exact absurd rfl (hall .interrupt)
    | exact absurd rfl (hall .isochronous)

theorem resolve_of_missing {k : TransferKind} (hk : r.missing.head? = some k) :
    r.resolve = .error (.missingContract k) := by
  have hd : r.missing.headD .control = k := by rw [List.headD_eq_head?_getD, hk]; rfl
  unfold resolve
  split
  · cases hk
  · rw [hd]

end Registry

theorem inForce_snoc_of_none {n : Note} (history : List Note) (hn : n.resolved? = none) :
    inForce (history ++ [n]) = inForce history := by
  simp [inForce, hn]

theorem inForce_snoc_of_some {n : Note} {r : Registry} (history : List Note)
    (hn : n.resolved? = some r) : inForce (history ++ [n]) = some r := by
  simp [inForce, hn]

theorem complete_of_inForce {history : List Note} {r : Registry} (hf : inForce history = some r) :
    r.missing = [] := by
  obtain ⟨n, -, hn⟩ := List.mem_filterMap.1 (List.mem_of_getLast? hf)
  unfold Note.resolved? at hn
  split at hn
  · simp only [Option.ite_none_right_eq_some, Option.some.injEq] at hn
    obtain ⟨hm, rfl⟩ := hn
    exact hm
  · cases hn

namespace Host

variable {h h' h₁ k : SimulatedHost} {history earlier between : List Note} {n : Note} {d : Delivery}
  {target : TargetId} {o : Order} {device : UInt32} {x y : Transfer} {r : Registry}

theorem contracts_close (h : SimulatedHost) (t : Token) :
    (h.close t).1.contracts = h.contracts := by
  unfold close
  split
  · rfl
  · rw [reap_eq]

theorem contracts_move (hm : Move h n h') :
    (n.resolved? = none ∧ h'.contracts = h.contracts) ∨
      ∃ r c, n.resolved? = some r ∧ r.resolve = .ok c ∧ h'.contracts = some c := by
  cases governed_move hm with
  | kept hn hs =>
    have hnone : n.resolved? = none := by
      cases n with
      | upkeep u =>
        cases u with
        | resolve => cases hn
        | _ => rfl
      | _ => rfl
    exact .inl ⟨hnone, hs.contracts⟩
  | resolved r he =>
    rw [he]
    by_cases hm : r.missing = []
    · obtain ⟨c, hc⟩ := Registry.resolve_of_complete hm
      exact .inr ⟨r, c, if_pos hm, hc, by simp only [Host.resolve, hc]⟩
    · have hmissing := Registry.resolve_of_missing (List.head?_eq_some_head hm)
      exact .inl ⟨if_neg hm, by simp only [Host.resolve, hmissing]⟩
  | adopted device he =>
    rw [he]
    exact .inl ⟨rfl, rfl⟩
  | closed t he => exact .inl ⟨rfl, he ▸ h.contracts_close t⟩
  | begun t he =>
    rw [he, beginDrain]
    split <;> exact .inl ⟨rfl, rfl⟩
  | ended id he =>
    rw [he]
    exact .inl ⟨rfl, rfl⟩

theorem contracts_of_run (hr : Run fresh history h) :
    h.contracts = (inForce history).bind fun r => r.resolve.toOption := by
  induction hr with
  | refl => rfl
  | snoc hr hm ih =>
    rcases contracts_move hm with ⟨hn, hc⟩ | ⟨r, c, hn, hres, hc⟩
    · rw [inForce_snoc_of_none _ hn, hc]
      exact ih
    · rw [inForce_snoc_of_some _ hn, hc, Option.bind_some, hres]
      rfl

theorem notifier_of_run {c : Contracts} (hr : Run fresh history h) (hc : h.contracts = some c) :
    ∃ r, inForce history = some r ∧ ∀ kind, r.get? kind = some (c.notifier kind) := by
  rw [contracts_of_run hr] at hc
  obtain ⟨r, hr, hres⟩ := Option.bind_eq_some_iff.1 hc
  refine ⟨r, hr, Registry.notifier_of_resolve ?_⟩
  rcases he : r.resolve with e | c'
  · rw [he] at hres
    cases hres
  · rw [he] at hres
    rw [Option.some.inj hres]

theorem delivered_at (hr : Run fresh history h) (hd : d ∈ h.deliveries) :
    ∃ before k k' later, Run fresh before k ∧ Move k (.notified d) k' ∧
      history = before ++ .notified d :: later := by
  induction hr with
  | refl => simp [fresh, deliveries] at hd
  | @snoc h₂ h₃ history n hr hm ih =>
    have hlater : d ∈ h₂.deliveries → ∃ before k k' later, Run fresh before k ∧
        Move k (.notified d) k' ∧ history ++ [n] = before ++ .notified d :: later := by
      intro hold
      obtain ⟨before, k, k', later, hb, hk, he⟩ := ih hold
      exact ⟨before, k, k', later ++ [n], hb, hk, by rw [he]; simp⟩
    cases hn : n.dispatching with
    | false =>
      rw [(batch_move hm hn).2] at hd
      exact hlater hd
    | true =>
      cases hm with
      | poll hb => exact hlater hd
      | @deliver x rest p result data hb hp hs =>
        rw [deliveries_deliver, deliveryOf_batch, List.mem_append] at hd
        rcases hd with hd | hd
        · exact hlater hd
        · obtain rfl := List.mem_singleton.1 hd
          exact ⟨history, h₂, _, [], hr, .deliver hb hp hs, rfl⟩
      | upkeep | allocate | script | exchange | place => cases hn

/-- A delivery and the submission that it concludes, with all that happened between them. -/
structure DeliveredUnder (history : List Note) (d : Delivery) (earlier between later : List Note)
    (h₁ h₂ k k' : SimulatedHost) (o : Order) (r : Registry) : Prop where
  split : history = earlier ++ .placed d.transfer d.target o (h₁.answerKey? o) .done ::
    (between ++ .notified d :: later)
  before : Run fresh earlier h₁
  placed : h₁.place d.target o = (h₂, .done)
  meanwhile : Run h₂ between k
  delivered : Move k (.notified d) k'
  force : inForce earlier = some r
  notifier : r.get? o.kind = some d.notifier
  kind : d.completion.kind = o.kind
  hands : o.Hands ((h₁.answerKey? o).bind fun key => (h₁.controller.take key).2) k'.buffers
    d.completion

theorem Drafts.kind_eq (hs : Slots h) (hd : h.Drafts target o device y) : y.kind = o.kind := by
  cases hd with
  | transfer => exact Transfer.kind_ofRoute h.nextTransfer _
  | stream hi ha hb hslot => exact (hs.idle hi hslot).1.kind

theorem hands_of_settle {p : Pending} {result : Outcome} {data : Option Bytes} (hs : Slots h₁)
    (hd : h₁.Drafts target o device y) (hp : (h₁.finished device y).1.pending = some p)
    (hset : k.settle (h₁.finished device y).1 = some (result, data)) :
    o.Hands ((h₁.answerKey? o).bind fun key => (h₁.controller.take key).2)
      (k.mark p.buffer result).buffers
      (k.deliveryOf (h₁.finished device y).1 p result data).completion := by
  have hkey := hd.answerKey?_eq hs
  have hkind := (Transfer.kind_of_frame (h₁.frame_finished device y)).trans (hd.kind_eq hs)
  obtain ⟨contracts, -, hpend⟩ := (hd.carries hs).pending
  obtain rfl := Option.some.inj (hp.symm.trans hpend)
  rw [hkey, Option.bind_some]
  cases hd with
  | @transfer t r contracts' id c ha hr =>
    refine ⟨data, result, ?_, fun hw => ?_⟩
    · simp only [deliveryOf, completion, Order.buffer?, Message.read, hkind, Order.kind]
    · rw [h₁.settle_draft k target contracts' id c.device hw] at hset
      obtain ⟨rfl, rfl⟩ := Prod.mk.inj (Option.some.inj hset)
      rw [show Simulated.answerKey c.device (h₁.draft target contracts' id r) =
        (c.device, r.route.answerKey) from Transfer.answerKey_ofRoute h₁.nextTransfer r c.device]
  | @stream i b timeout s contracts' connection c slot hi ha hb hslot => exact ⟨result, rfl⟩

theorem delivered_under (hr : Run fresh history h) (hd : d ∈ h.deliveries) :
    ∃ earlier between later h₁ h₂ k k' o r,
      DeliveredUnder history d earlier between later h₁ h₂ k k' o r := by
  obtain ⟨before, k, k', later, hrk, hm, rfl⟩ := delivered_at hr hd
  have hdelivered := hm
  cases hm with
  | @deliver x rest p result data hb hp hset =>
    have hx : x ∈ k.inFlight := by simp [inFlight_eq, hb]
    obtain ⟨earlier, h₁, target, o, device, y, between, hr₁, hdraft, hplace, hbetween, rfl, rfl⟩ :=
      drafted_in hrk hx
    have hs := slots_fresh.run hr₁
    have hcarries := hdraft.carries hs
    obtain ⟨contracts, hc, hpend⟩ := hcarries.pending
    obtain ⟨r, hforce, hnotifier⟩ := notifier_of_run hr₁ hc
    have hkind : (h₁.finished device y).1.kind = o.kind :=
      (Transfer.kind_of_frame (h₁.frame_finished device y)).trans (hdraft.kind_eq hs)
    have hhands := hands_of_settle hs hdraft hp hset
    obtain rfl := Option.some.inj (hp.symm.trans hpend)
    have hbuffers : (Host.deliver { k with batch := rest } (h₁.finished device y).1
        { target, contracts, buffer := o.buffer?, park := o.stream? } result data).buffers =
          (k.mark o.buffer? result).buffers := by
      rw [buffers_deliver]
      cases o <;> rfl
    refine ⟨earlier, between, later, h₁, _, k, _, o, r, ?_, hr₁, hplace, hbetween, hdelivered,
      hforce, ?_, ?_, ?_⟩
    · rw [← hcarries.id]
      simp [deliveryOf]
    · rw [hnotifier, ← hkind]
      rfl
    · rw [kind_of_deliveryOf hrk hx hp, hkind]
    · rw [hbuffers]
      exact hhands

structure Contracted (history : List Note) (h : SimulatedHost) : Prop where
  initialized : h.initialized = true ↔ (inForce history).isSome
  failed : ∀ r k, r.missing.head? = some k →
    h.resolve r = (h, .error (.missingContract k)) ∧
      inForce (history ++ [.upkeep (.resolve r)]) = inForce history
  succeeded : ∀ r, r.missing = [] →
    (h.resolve r).2 = .ok () ∧ inForce (history ++ [.upkeep (.resolve r)]) = some r
  delivered : ∀ d ∈ h.deliveries, ∃ earlier between later h₁ h₂ k k' o r,
    DeliveredUnder history d earlier between later h₁ h₂ k k' o r
  once : ∀ id ∈ h.controller.dispatched,
    (id ∈ h.batch.map (·.id) ∧ h.deliveries.filter (·.transfer = id) = []) ∨
      ∃ d, h.deliveries.filter (·.transfer = id) = [d]
  pass : h.batch = [] → ∀ reactions timeout, (h.processEvents reactions timeout).2 = .done ∧
    ∃ later, Drained h later (h.processEvents reactions timeout).1

theorem delivered_by_contracts_of_submission (hr : Run fresh history h) : Contracted history h := by
  have hl := ledger_of_run hr
  refine ⟨?_, fun r k hk => ⟨?_, ?_⟩, fun r hm => ⟨?_, ?_⟩, fun d hd => delivered_under hr hd,
    fun id hid => ?_, fun hb => hl.drained (slots_fresh.run hr) hb⟩
  · constructor
    · intro hi
      obtain ⟨c, hc⟩ := Option.isSome_iff_exists.1 hi
      obtain ⟨r, hforce, -⟩ := notifier_of_run hr hc
      rw [hforce]
      rfl
    · intro hi
      obtain ⟨r, hforce⟩ := Option.isSome_iff_exists.1 hi
      obtain ⟨c, hc⟩ := Registry.resolve_of_complete (complete_of_inForce hforce)
      rw [initialized, contracts_of_run hr, hforce, Option.bind_some, hc]
      rfl
  · simp only [Host.resolve, Registry.resolve_of_missing hk]
  · refine inForce_snoc_of_none history ?_
    have hne : r.missing ≠ [] := fun hm => by rw [hm] at hk; cases hk
    simp [Note.resolved?, hne]
  · obtain ⟨c, hc⟩ := Registry.resolve_of_complete hm
    simp only [Host.resolve, hc]
  · exact inForce_snoc_of_some history (by simp [Note.resolved?, hm])
  · rw [hl.dispatched, List.mem_append] at hid
    rcases hid with hid | hid
    · obtain ⟨d, hd, rfl⟩ := List.mem_map.1 hid
      exact .inr ⟨d, (hl.delivered_once hd).1⟩
    · obtain ⟨x, hx, rfl⟩ := List.mem_map.1 hid
      exact .inl ⟨hid, hl.undelivered (List.mem_append_left _ hx)⟩

/-- Bulk completions are let go, then forwarded, then let go again, with a resolution that fails in
between. The callback under the second registry submits when the third is in force. -/
def switching : List Act :=
  let order := .transfer ⟨0, 0⟩
    { route := .bulk ⟨0x81⟩, buffer := [], offset := 0, length := 4, timeout := 0 }
  let quiet := Registry.standard.set .bulk .silent
  [.upkeep (.resolve quiet), .upkeep (.adopt 1), .upkeep (.addTarget .recorder), .place 0 order,
    .upkeep (.resolve { bulk := some .forward }), .place 0 order, .upkeep (.resolve .standard),
    .place 0 order, .upkeep (.resolve quiet),
    .processEvents (fun _ _ => { orders := [order] }) none, .processEvents (fun _ _ => {}) none]

theorem switching_contracted :
    ∃ history, Run fresh history (after switching) ∧ Contracted history (after switching) ∧
      (after switching).deliveries.map (fun d => (d.transfer, d.notifier)) =
        [(1, .silent), (2, .silent), (3, .forward), (4, .silent)] := by
  obtain ⟨history, hr, -⟩ := after_run switching
  exact ⟨history, hr, delivered_by_contracts_of_submission hr, by decide⟩

end Host

end UsbTransfer
