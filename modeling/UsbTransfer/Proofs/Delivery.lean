import UsbTransfer.Proofs.Pass

namespace UsbTransfer

inductive Act where
  | upkeep (step : Upkeep)
  | allocate (token : Token) (endpoint : Endpoint) (packets : Nat) (given : Option Nat)
  | script (device : UInt32) (endpoint : Endpoint) (response : Response)
  | exchange (token : Token) (request : Request)
  | place (target : TargetId) (order : Order)
  | processEvents (reactions : Reactions) (timeout : Option Nat)

namespace Host

def act (h : SimulatedHost) : Act → SimulatedHost
  | .upkeep u => h.perform u
  | .allocate t e packets given => (h.allocate t e packets given).1
  | .script device e r => h.withController (·.addResponse device e r)
  | .exchange t r => ((h.exchange t r).map (·.1)).getD h
  | .place target o => (h.place target o).1
  | .processEvents reactions timeout => (h.processEvents reactions timeout).1

def after (acts : List Act) : SimulatedHost := acts.foldl act fresh

variable {h h' : SimulatedHost} {history : List Note}

theorem exchange_run (h : SimulatedHost) (t : Token) (r : Request) :
    ∃ history, Run h history (h.act (.exchange t r)) ∧ ∀ n ∈ history, n.dispatching = false := by
  have hrefl : Run h [] h := .refl h
  rcases hx : h.exchange t r with _ | ⟨h', buffer, result⟩
  · refine ⟨[], ?_, by simp⟩
    simpa only [act, hx, Option.map_none, Option.getD_none] using hrefl
  · have he : h.act (.exchange t r) = h' := by
      simp only [act, hx, Option.map_some, Option.getD_some]
    rw [he]
    unfold exchange at hx
    split at hx
    · obtain ⟨rfl, -⟩ := Prod.mk.inj (Option.some.inj hx)
      exact ⟨[], hrefl, by simp⟩
    · rcases run_cases hx with rfl | ⟨c, hc, hd⟩
      · exact ⟨[], hrefl, by simp⟩
      · exact ⟨_, .single (.exchange hc hd hx), by simp [Note.dispatching]⟩

theorem move_run {n : Note} (hm : Move h n h') (hn : n.dispatching = false) (hb : h.batch = []) :
    ∃ history, Run h history h' ∧ h'.batch = [] := by
  have hr := Run.single hm
  exact ⟨[n], hr, (batch_run hr (by simpa using hn)).1.trans hb⟩

theorem act_run (a : Act) (hb : h.batch = []) (hx : ∀ x ∈ h.owed, x.Deliverable) :
    ∃ history, Run h history (h.act a) ∧ (h.act a).batch = [] := by
  cases a with
  | upkeep u => exact move_run (.upkeep h u) rfl hb
  | allocate t e packets given => exact move_run (.allocate h t e packets given) rfl hb
  | script device e r => exact move_run (.script h device e r) rfl hb
  | exchange t r =>
    obtain ⟨history, hr, hn⟩ := h.exchange_run t r
    exact ⟨history, hr, (batch_run hr hn).1.trans hb⟩
  | place target o => exact move_run (.place h target o) rfl hb
  | processEvents reactions timeout =>
    have hq : ∀ x ∈ h.controller.queue, x.Deliverable := fun x hm =>
      hx x (List.mem_append_right _ hm)
    obtain ⟨later, ds, -, hr, hbatch, -⟩ := processEvents_run reactions timeout hb hq
    exact ⟨_, hr, hbatch⟩

theorem acts_run (acts : List Act) (hr : Run fresh history h) (hb : h.batch = []) :
    ∃ later, Run fresh (history ++ later) (acts.foldl act h) ∧ (acts.foldl act h).batch = [] := by
  induction acts generalizing h history with
  | nil => exact ⟨[], by simpa using hr, hb⟩
  | cons a acts ih =>
    have hl := ledger_of_run hr
    obtain ⟨first, hr', hb'⟩ := act_run a hb hl.deliverable
    obtain ⟨later, hrs, hbs⟩ := ih (hr.trans hr') hb'
    exact ⟨first ++ later, by rw [← List.append_assoc]; exact hrs, hbs⟩

theorem after_run (acts : List Act) :
    ∃ history, Run fresh history (after acts) ∧ (after acts).batch = [] :=
  acts_run acts (.refl fresh) rfl

theorem tag?_of_deliverable {x : Transfer} (hx : x.Deliverable) :
    ∃ target, x.tag? = some (x.id, target) := by
  obtain ⟨⟨p, hp⟩, -⟩ := hx
  exact ⟨p.target, by simp [Transfer.tag?, hp]⟩

theorem tags_of_deliverable {xs : List Transfer} (hx : ∀ x ∈ xs, x.Deliverable) {α : Type}
    {f : TransferId × TargetId → α} {g : Transfer → α}
    (hf : ∀ x target, x.tag? = some (x.id, target) → f (x.id, target) = g x) :
    (xs.filterMap Transfer.tag?).map f = xs.map g := by
  have htag : ∀ x ∈ xs, x.tag?.map f = some (g x) := fun x hm => by
    obtain ⟨target, ht⟩ := tag?_of_deliverable (hx x hm)
    rw [ht, Option.map_some, hf x target ht]
  rw [List.map_filterMap, List.filterMap_congr htag]
  exact congrFun List.filterMap_eq_map xs

theorem ids_of_deliverable {xs : List Transfer} (hx : ∀ x ∈ xs, x.Deliverable) :
    (xs.filterMap Transfer.tag?).map (·.1) = xs.map (·.id) :=
  tags_of_deliverable hx fun _ _ _ => rfl

theorem Ledger.ids (hl : Ledger history h) : (accepted history).map (·.1) =
    h.deliveries.map (·.transfer) ++ h.owed.map (·.id) := by
  have ho := congrArg (List.map (·.1)) hl.ordered
  rw [List.map_append, ids_of_deliverable hl.deliverable, List.map_map] at ho
  exact ho

theorem Ledger.nodup_ids (hl : Ledger history h) :
    (h.deliveries.map (·.transfer) ++ h.owed.map (·.id)).Nodup := by
  rw [← hl.ids]
  exact (List.nodup_append.1 hl.nodup).1

theorem map_transfer_of_reports {ds : List Delivery} {xs : List Transfer}
    (hr : List.Forall₂ Delivery.Reports ds xs) : ds.map (·.transfer) = xs.map (·.id) := by
  induction hr with
  | nil => rfl
  | cons hd _ ih => rw [List.map_cons, List.map_cons, hd.1, ih]

theorem tags_of_reports {ds : List Delivery} {xs : List Transfer}
    (hr : List.Forall₂ Delivery.Reports ds xs) :
    ds.map Delivery.tag = xs.filterMap Transfer.tag? := by
  induction hr with
  | nil => rfl
  | @cons d x ds xs hd _ ih =>
    obtain ⟨hid, p, hp, ht, -⟩ := hd
    have htag : x.tag? = some d.tag := by simp [Transfer.tag?, Delivery.tag, hp, hid, ht]
    rw [List.map_cons, List.filterMap_cons_some htag, ih]

/-- One whole pass: the queue is delivered in its order, and what was accepted meanwhile is the new
queue. -/
structure Drained (h : SimulatedHost) (later : List Note) (h' : SimulatedHost) : Prop where
  run : Run h (.polled :: later) h'
  batch : h'.batch = []
  delivered : ∃ ds, h'.deliveries = h.deliveries ++ ds ∧
    List.Forall₂ Delivery.Reports ds h.controller.queue
  dispatched : h'.controller.dispatched = h.controller.dispatched ++ h.controller.queue.map (·.id)
  behind : h'.controller.queue.map Transfer.tag? = (accepted later).map some

theorem Ledger.drained (hl : Ledger history h) (hs : Slots h) (hb : h.batch = [])
    (reactions : Reactions) (timeout : Option Nat) :
    (h.processEvents reactions timeout).2 = .done ∧
      ∃ later, Drained h later (h.processEvents reactions timeout).1 := by
  have howed : h.owed = h.controller.queue := by rw [owed, hb, List.nil_append]
  obtain ⟨later, ds, hdone, hr, hbatch, hd, hrep⟩ :=
    processEvents_run reactions timeout hb (by rw [← howed]; exact hl.deliverable)
  have hl' := hl.run hs hr
  have howed' : (h.processEvents reactions timeout).1.owed =
      (h.processEvents reactions timeout).1.controller.queue := by
    rw [owed, hbatch, List.nil_append]
  have hdisp := hl.dispatched
  have hord := hl.ordered
  have hdisp' := hl'.dispatched
  have hord' := hl'.ordered
  have hdel' := hl'.deliverable
  rw [hb, List.map_nil, List.append_nil] at hdisp
  rw [howed] at hord
  rw [hbatch, List.map_nil, List.append_nil, hd, List.map_append, ← hdisp] at hdisp'
  -- both sides now begin with what was accepted before the pass
  rw [howed', hd, List.map_append, tags_of_reports hrep, ← hord, accepted_append] at hord'
  rw [howed'] at hdel'
  refine ⟨hdone, later, hr, hbatch, ⟨ds, hd, hrep⟩, ?_, ?_⟩
  · rw [hdisp', map_transfer_of_reports hrep]
  · have hpolled : accepted (.polled :: later) = accepted later := rfl
    rw [← tags_of_deliverable hdel' fun _ _ ht => ht.symm, ← List.append_cancel_left hord', hpolled]

structure ExactlyOnce (history : List Note) (h : SimulatedHost) : Prop where
  submitted : h.controller.submissions.map (·.id) = (accepted history).map (·.1)
  drained : (accepted history).map (·.1) =
    h.controller.dispatched ++ h.controller.queue.map (·.id)
  nodup : ((accepted history).map (·.1) ++ h.controller.rejected.map (·.1)).Nodup
  /-- As long as the counter is a word, the ids that are shown differ, too. -/
  shown : h.nextTransfer ≤ wordSize →
    (((accepted history).map (·.1) ++ h.controller.rejected.map (·.1)).map TransferId.word).Nodup
  rejected : ∀ r ∈ h.controller.rejected,
    r.1 ∉ h.controller.dispatched ∧ ∀ d ∈ h.deliveries, d.transfer ≠ r.1
  delivered : h.deliveries.map Delivery.tag <+: accepted history
  pass : h.batch = [] → ∀ reactions timeout, (h.processEvents reactions timeout).2 = .done ∧
    ∃ later, Drained h later (h.processEvents reactions timeout).1

theorem delivered_exactly_once (hr : Run fresh history h) : ExactlyOnce history h := by
  have hs := slots_fresh.run hr
  have hl := ledger_of_run hr
  have hids : (accepted history).map (·.1) =
      h.controller.dispatched ++ h.controller.queue.map (·.id) := by
    rw [hl.ids, owed, List.map_append, hl.dispatched, List.append_assoc]
  refine ⟨hl.submitted, hids, hl.nodup, hl.shown, ?_, ?_, fun hb => hl.drained hs hb⟩
  · intro r hmem
    have hnot : r.1 ∉ (accepted history).map (·.1) := fun ha =>
      (List.nodup_append.1 hl.nodup).2.2 _ ha _ (List.mem_map_of_mem hmem) rfl
    rw [hids] at hnot
    have hdis : r.1 ∉ h.controller.dispatched := fun hd => hnot (List.mem_append_left _ hd)
    refine ⟨hdis, fun d hd he => hdis ?_⟩
    rw [hl.dispatched, ← he]
    exact List.mem_append_left _ (List.mem_map_of_mem hd)
  · rw [hl.ordered]
    exact List.prefix_append _ _

/-- A refusal, then two transfers whose callbacks submit again; the second callback panics. -/
def resubmitting : List Act :=
  let order := .transfer ⟨0, 0⟩
    { route := .bulk ⟨0x81⟩, buffer := [], offset := 0, length := 4, timeout := 0 }
  [.upkeep (.resolve .standard), .upkeep (.adopt 1), .upkeep (.addTarget .recorder),
    .upkeep (.refuseNext .busy), .place 0 order, .place 0 order, .place 0 order,
    .processEvents (fun _ n => { orders := [order], panics := n = 1 }) none]

theorem resubmitting_exactly_once :
    ∃ history, Run fresh history (after resubmitting) ∧ ExactlyOnce history (after resubmitting) ∧
      (after resubmitting).controller.dispatched = [2, 3] ∧
      (after resubmitting).controller.queue.map (·.id) = [4, 5] ∧
      (after resubmitting).controller.rejected.map (·.1) = [1] := by
  obtain ⟨history, hr, -⟩ := after_run resubmitting
  exact ⟨history, hr, delivered_exactly_once hr, by decide, by decide, by decide⟩

end Host

end UsbTransfer
