import UsbTransfer.Proofs.Agreement
import UsbTransfer.Proofs.Tape

namespace UsbTransfer

namespace Host

variable {h h' h₁ h₂ h₃ : SimulatedHost} {history earlier later : List Note} {n : Note}
  {target : TargetId} {t : Token} {r : Request} {y : Transfer} {d : Delivery} {P : Delivery → Prop}

theorem queue_place (h : SimulatedHost) (target : TargetId) (o : Order) :
    h.controller.queue <+: (h.place target o).1.controller.queue := by
  rcases h.place_outcome target o with ⟨hp, -⟩ | ⟨device, x, c, e, -, hc, hp⟩ | ⟨device, x, -, hp⟩
  · exact ⟨[], (List.append_nil _).trans (by rw [hp])⟩
  · rw [hp]
    exact ⟨[], (List.append_nil _).trans hc.queue.symm⟩
  · rw [hp]
    exact List.prefix_append _ _

theorem mem_owed_mono (hb : h'.batch = h.batch)
    (hq : h.controller.queue <+: h'.controller.queue) (hy : y ∈ h.owed) : y ∈ h'.owed := by
  rw [owed, hb]
  rcases List.mem_append.1 hy with hy | hy
  · exact List.mem_append_left _ hy
  · exact List.mem_append_right _ (hq.subset hy)

theorem owed_move (hm : Move h n h') (hy : y ∈ h.owed) :
    y ∈ h'.owed ∨ ∃ p result data, y.pending = some p ∧ h.settle y = some (result, data) ∧
      h'.deliveries = h.deliveries ++ [h.deliveryOf y p result data] := by
  cases hm with
  | upkeep u =>
    have hq : Quiet h (h.perform u) := quiet_perform u
    have hp : h.controller.queue <+: (h.perform u).controller.queue :=
      ⟨[], (List.append_nil _).trans hq.controller.queue.symm⟩
    exact .inl (mem_owed_mono hq.batch hp hy)
  | allocate t e packets given =>
    rcases h.allocate_cases t e packets given with he | ⟨packetLength, he⟩
    · rw [he]
      exact .inl hy
    · rw [he]
      exact .inl hy
  | script device e r => exact .inl hy
  | exchange hc hd hr =>
    obtain ⟨sent, rfl⟩ := run_eq hc hd hr
    exact .inl hy
  | place target o =>
    exact .inl (mem_owed_mono (h.batch_place target o).1 (h.queue_place target o) hy)
  | poll hb =>
    rw [owed, hb] at hy
    exact .inl (List.mem_append_left _ hy)
  | @deliver x rest p result data hb hp hs =>
    rw [owed, hb, List.cons_append, List.mem_cons] at hy
    rcases hy with rfl | hy
    · refine .inr ⟨p, result, data, hp, hs, ?_⟩
      rw [deliveries_deliver, deliveryOf_batch]
      rfl
    · left
      rw [owed, batch_deliver, controller_deliver]
      exact hy

theorem deliveries_move (hm : Move h n h') : h.deliveries <+: h'.deliveries := by
  cases hn : n.dispatching with
  | false =>
    exact ⟨[], (List.append_nil _).trans (batch_move hm hn).2.symm⟩
  | true =>
    cases hm with
    | poll hb => exact List.prefix_refl _
    | deliver hb hp hs =>
      rw [deliveries_deliver]
      exact List.prefix_append _ _
    | upkeep | allocate | script | exchange | place => cases hn

def Foretold (y : Transfer) (P : Delivery → Prop) : Prop :=
  ∀ (k : SimulatedHost) p result data, y.pending = some p → k.settle y = some (result, data) →
    P (k.deliveryOf y p result data)

def Promised (y : Transfer) (d : Delivery) : Prop :=
  ∀ (k : SimulatedHost) p result data, y.pending = some p → k.settle y = some (result, data) →
    k.deliveryOf y p result data = d

theorem foretold_run (hp : Foretold y P) (hr : Run h history h')
    (hf : y ∈ h.owed ∨ ∃ d ∈ h.deliveries, P d) : y ∈ h'.owed ∨ ∃ d ∈ h'.deliveries, P d := by
  induction hr with
  | refl => exact hf
  | snoc _ hm ih =>
    rcases ih with hy | ⟨d, hd, hP⟩
    · rcases owed_move hm hy with hy | ⟨p, result, data, hpend, hs, he⟩
      · exact .inl hy
      · right
        rw [he]
        exact ⟨_, by simp, hp _ p result data hpend hs⟩
    · exact .inr ⟨d, (deliveries_move hm).subset hd, hP⟩

theorem promise_run (hp : Promised y d) (hr : Run h history h')
    (hf : y ∈ h.owed ∨ d ∈ h.deliveries) : y ∈ h'.owed ∨ d ∈ h'.deliveries := by
  have hfate := foretold_run (P := (· = d)) hp hr (hf.imp_right fun hd => ⟨d, hd, rfl⟩)
  exact hfate.imp_right fun ⟨_, hd, he⟩ => he ▸ hd

theorem promised_draft (h : SimulatedHost) (target : TargetId) (contracts : Contracts)
    (id : ConnectionId) (device : UInt32) (hw : r.dataLength < wordSize) :
    Promised (h.finished device (h.draft target contracts id r)).1
      (r.delivery h.nextTransfer target contracts
        (h.controller.take (device, r.route.answerKey)).2) := by
  intro k p result data hp hs
  have hy := h.frame_finished device (h.draft target contracts id r)
  have hpend : (h.finished device (h.draft target contracts id r)).1.pending =
    some { target, contracts } := (Transfer.pending_of_frame hy).trans rfl
  obtain rfl : p = { target, contracts } := by simpa [hp] using hpend
  rw [h.settle_draft k target contracts id device hw] at hs
  obtain ⟨rfl, rfl⟩ := Prod.mk.inj (Option.some.inj hs)
  exact h.deliveryOf_draft k target contracts id device r

theorem mem_owed_iff : y ∈ h.owed ↔ y ∈ h.inFlight := by
  rw [owed, inFlight_eq, List.mem_append, List.mem_append, or_comm]

theorem filter_transfer_of_mem {ds : List Delivery} (hn : (ds.map (·.transfer)).Nodup)
    (hd : d ∈ ds) : ds.filter (·.transfer = d.transfer) = [d] := by
  have hinj := List.inj_on_of_nodup_map hn
  calc ds.filter (·.transfer = d.transfer)
      = ds.filter (· = d) := by
        refine List.filter_congr fun e he => ?_
        rw [decide_eq_decide]
        exact ⟨hinj he hd, congrArg _⟩
    _ = List.replicate (ds.count d) d := List.filter_eq d
    _ = [d] := by rw [List.count_eq_one_of_mem (List.Nodup.of_map _ hn) hd]; rfl

theorem Ledger.delivered_once (hl : Ledger history h) (hd : d ∈ h.deliveries) :
    h.deliveries.filter (·.transfer = d.transfer) = [d] ∧ d.transfer ∉ h.inFlight.map (·.id) := by
  obtain ⟨hn, -, hdis⟩ := List.nodup_append.1 hl.nodup_ids
  refine ⟨filter_transfer_of_mem hn hd, fun hm => ?_⟩
  obtain ⟨x, hx, hid⟩ := List.mem_map.1 hm
  exact hdis _ (List.mem_map_of_mem hd) _ (List.mem_map_of_mem (mem_owed_iff.2 hx)) hid.symm

theorem Ledger.undelivered (hl : Ledger history h) (hy : y ∈ h.owed) :
    h.deliveries.filter (·.transfer = y.id) = [] := by
  obtain ⟨-, -, hdis⟩ := List.nodup_append.1 hl.nodup_ids
  rw [List.filter_eq_nil_iff]
  intro e he
  simpa using hdis _ (List.mem_map_of_mem he) _ (List.mem_map_of_mem hy)

/-- The notifier runs once for a transfer and tells its target what was foretold. -/
structure KeptAs (h : SimulatedHost) (id : TransferId) (P : Delivery → Prop) : Prop where
  once : (id ∈ h.inFlight.map (·.id) ∧ h.deliveries.filter (·.transfer = id) = []) ∨
    (id ∉ h.inFlight.map (·.id) ∧ ∃ d, h.deliveries.filter (·.transfer = id) = [d] ∧ P d)
  pass : h.batch = [] → ∀ reactions timeout, (h.processEvents reactions timeout).2 = .done ∧
    ∃ d, (h.processEvents reactions timeout).1.deliveries.filter (·.transfer = id) = [d] ∧ P d

theorem keptAs_of_foretold (hl : Ledger history h) (hs : Slots h) (hp : Foretold y P)
    (hid : ∀ d, P d → d.transfer = y.id) (hf : y ∈ h.owed ∨ ∃ d ∈ h.deliveries, P d) :
    KeptAs h y.id P := by
  constructor
  · rcases hf with hy | ⟨d, hd, hP⟩
    · exact .inl ⟨List.mem_map_of_mem (mem_owed_iff.1 hy), hl.undelivered hy⟩
    · right
      obtain ⟨hfilter, hnot⟩ := hl.delivered_once hd
      rw [hid d hP] at hfilter hnot
      exact ⟨hnot, d, hfilter, hP⟩
  · intro hb reactions timeout
    obtain ⟨hdone, later, hdr⟩ := hl.drained hs hb reactions timeout
    have hl' := hl.run hs hdr.run
    refine ⟨hdone, ?_⟩
    obtain ⟨ds, hds, hrep⟩ := hdr.delivered
    obtain ⟨d, hd, hP⟩ : ∃ d ∈ (h.processEvents reactions timeout).1.deliveries, P d := by
      rcases hf with hy | ⟨d, hd, hP⟩
      · have hq : y ∈ h.controller.queue := by simpa [owed, hb] using hy
        have hmem : y.id ∈ (h.processEvents reactions timeout).1.deliveries.map (·.transfer) := by
          rw [hds, List.map_append, map_transfer_of_reports hrep]
          exact List.mem_append_right _ (List.mem_map_of_mem hq)
        -- its id is among the delivered ones now, so it cannot be owed any more
        exact (foretold_run hp hdr.run (.inl hy)).resolve_left fun hy' =>
          (List.nodup_append.1 hl'.nodup_ids).2.2 _ hmem _ (List.mem_map_of_mem hy') rfl
      · exact ⟨d, by rw [hds]; exact List.mem_append_left _ hd, hP⟩
    exact ⟨d, hid d hP ▸ (hl'.delivered_once hd).1, hP⟩

structure Kept (h : SimulatedHost) (d : Delivery) : Prop where
  once : (d.transfer ∈ h.inFlight.map (·.id) ∧ h.deliveries.filter (·.transfer = d.transfer) = []) ∨
    (d.transfer ∉ h.inFlight.map (·.id) ∧ h.deliveries.filter (·.transfer = d.transfer) = [d])
  pass : h.batch = [] → ∀ reactions timeout, (h.processEvents reactions timeout).2 = .done ∧
    (h.processEvents reactions timeout).1.deliveries.filter (·.transfer = d.transfer) = [d]

theorem kept_of_promised (hl : Ledger history h) (hs : Slots h) (hp : Promised y d)
    (hid : d.transfer = y.id) (hf : y ∈ h.owed ∨ d ∈ h.deliveries) : Kept h d := by
  have hk := keptAs_of_foretold (P := (· = d)) hl hs hp (fun _ he => he ▸ hid)
    (hf.imp_right fun hd => ⟨d, hd, rfl⟩)
  rw [← hid] at hk
  constructor
  · exact hk.once.imp_right fun ⟨hnot, _, he, hd⟩ => ⟨hnot, hd ▸ he⟩
  · intro hb reactions timeout
    obtain ⟨hdone, _, he, rfl⟩ := hk.pass hb reactions timeout
    exact ⟨hdone, he⟩

theorem queued_mem_owed (h : SimulatedHost) (device : UInt32) (x : Transfer) :
    (h.finished device x).1 ∈ (h.queued device x).owed := by
  rw [owed, queue_queued]
  simp

theorem reference_outcome (h₁run : Run fresh earlier h₁)
    (hp : h₁.place target (.transfer t r) = (h₂, .done)) (hw : r.dataLength < wordSize)
    (hr : Run h₂ later h₃) :
    ∃ contracts id c whole, h₁.contracts = some contracts ∧ h₁.lookup t = .ok (id, c) ∧
      whole = earlier ++ .placed h₁.nextTransfer target (.transfer t r)
        (some (c.device, r.route.answerKey)) .done :: later ∧ Run fresh whole h₃ ∧
      Kept h₃ (r.delivery h₁.nextTransfer target contracts
        (((Tape.of earlier).next (c.device, r.route.answerKey)).map (·.response))) ∧
      h₃.controller.script = (Tape.of whole).answers ∧
      ((Tape.of whole).given ++ (Tape.of whole).unread.map (·.serial)).Nodup := by
  rcases h₁.place_outcome target (.transfer t r) with
    ⟨-, hne⟩ | ⟨device, x, c, e, -, -, hp'⟩ | ⟨device, x, hd, hp'⟩
  · rw [hp] at hne
    exact absurd rfl hne
  · rw [hp] at hp'
    cases hp'
  · rw [hp] at hp'
    obtain ⟨rfl, -⟩ := Prod.mk.inj hp'
    cases hd with
    | @transfer _ _ contracts id c ha hreg =>
      have hl := lookup_of_admission ha
      have hkey : h₁.answerKey? (.transfer t r) = some (c.device, r.route.answerKey) := by
        simp only [answerKey?, hl]
      have hplace := Move.place h₁ target (.transfer t r)
      rw [hp, hkey] at hplace
      have hrun := h₁run.trans (.cons hplace hr)
      have hprom := h₁.promised_draft target contracts id c.device hw
      have hfate := promise_run hprom hr
        (.inl (h₁.queued_mem_owed c.device (h₁.draft target contracts id r)))
      have hid : (h₁.finished c.device (h₁.draft target contracts id r)).1.id = h₁.nextTransfer :=
        (Transfer.id_of_frame (h₁.frame_finished _ _)).trans (Transfer.id_ofRoute _ _ _ _ _)
      rw [take_run h₁run] at hprom hfate
      exact ⟨contracts, id, c, _, contracts_of_admission ha, hl, rfl, hrun,
        kept_of_promised (ledger_of_run hrun) (slots_fresh.run hrun) hprom hid.symm hfate,
        script_run hrun, (Tape.sound_of _).nodup⟩

theorem reading_reference :
    ∃ earlier h₂, Run fresh earlier (after scripted) ∧
      (after scripted).place 0 (.transfer ⟨0, 0⟩ reading) = (h₂, .done) ∧
      reading.dataLength < wordSize ∧
      Kept h₂ { transfer := 1, target := 0, notifier := .forward,
                completion := { kind := .bulk, data := some [1, 2, 3], result := .ok 3 } } := by
  obtain ⟨earlier, hr, -⟩ := after_run scripted
  have hp : (after scripted).place 0 (.transfer ⟨0, 0⟩ reading) =
    (((after scripted).place 0 (.transfer ⟨0, 0⟩ reading)).1, .done) := Prod.ext rfl (by decide)
  have hw : reading.dataLength < wordSize := by decide
  obtain ⟨contracts, id, c, whole, hc, hl, -, -, hk, -⟩ := reference_outcome hr hp hw (.refl _)
  have hc' : (after scripted).contracts = some ⟨.forward, .forward, .forward, .forward⟩ := by decide
  have hl' : (after scripted).lookup ⟨0, 0⟩ = .ok (0, ⟨1, 0⟩) := by rfl
  obtain rfl := Option.some.inj (hc.symm.trans hc')
  obtain ⟨-, rfl⟩ := Prod.mk.inj (Except.ok.inj (hl.symm.trans hl'))
  have hresp : ((Tape.of earlier).next (1, reading.route.answerKey)).map (·.response) =
      some (.data [1, 2, 3]) := by
    rw [← take_run hr]
    decide
  rw [hresp] at hk
  exact ⟨earlier, _, hr, hp, hw, hk⟩

end Host

end UsbTransfer
