import UsbTransfer.Proofs.Slot
import Mathlib.Data.List.Nodup

namespace UsbTransfer

def Note.accepted? : Note → Option (TransferId × TargetId)
  | .placed id target _ _ .done => some (id, target)
  | _ => none

def accepted (history : List Note) : List (TransferId × TargetId) :=
  history.filterMap Note.accepted?

theorem accepted_append (history later : List Note) :
    accepted (history ++ later) = accepted history ++ accepted later :=
  List.filterMap_append

theorem accepted_snoc_of_none {n : Note} (history : List Note) (hn : n.accepted? = none) :
    accepted (history ++ [n]) = accepted history := by
  simp [accepted, hn]

theorem accepted_snoc_of_some {n : Note} {a : TransferId × TargetId} (history : List Note)
    (hn : n.accepted? = some a) : accepted (history ++ [n]) = accepted history ++ [a] := by
  simp [accepted, hn]

def Transfer.tag? (x : Transfer) : Option (TransferId × TargetId) :=
  x.pending.map fun p => (x.id, p.target)

def Delivery.tag (d : Delivery) : TransferId × TargetId := (d.transfer, d.target)

def Transfer.Deliverable (x : Transfer) : Prop :=
  (∃ p, x.pending = some p) ∧ (x.header = 0 ∨ x.header + x.actual < wordSize)

namespace Host

def owed (h : SimulatedHost) : List Transfer := h.batch ++ h.controller.queue

structure Ledger (history : List Note) (h : SimulatedHost) : Prop where
  submitted : h.controller.submissions.map (·.id) = (accepted history).map (·.1)
  dispatched : h.controller.dispatched = h.deliveries.map (·.transfer) ++ h.batch.map (·.id)
  ordered : accepted history = h.deliveries.map Delivery.tag ++ h.owed.filterMap Transfer.tag?
  deliverable : ∀ x ∈ h.owed, x.Deliverable
  drawn : ∀ id ∈ (accepted history).map (·.1) ++ h.controller.rejected.map (·.1),
    id < h.nextTransfer
  nodup : ((accepted history).map (·.1) ++ h.controller.rejected.map (·.1)).Nodup

variable {h h' : SimulatedHost} {history : List Note} {n : Note} {target : TargetId} {o : Order}
  {device : UInt32} {x : Transfer}

theorem Ledger.congr (hl : Ledger history h) (hn : n.accepted? = none)
    (hs : h'.controller.submissions = h.controller.submissions)
    (hd : h'.controller.dispatched = h.controller.dispatched)
    (hr : h'.controller.rejected = h.controller.rejected)
    (hq : h'.controller.queue = h.controller.queue)
    (hb : h'.batch = h.batch) (hv : h'.deliveries = h.deliveries)
    (ht : h.nextTransfer ≤ h'.nextTransfer) : Ledger (history ++ [n]) h' := by
  have ho : h'.owed = h.owed := by rw [owed, owed, hb, hq]
  constructor
  · rw [hs, accepted_snoc_of_none _ hn]
    exact hl.submitted
  · rw [hd, hv, hb]
    exact hl.dispatched
  · rw [accepted_snoc_of_none _ hn, hv, ho]
    exact hl.ordered
  · rw [ho]
    exact hl.deliverable
  · rw [accepted_snoc_of_none _ hn, hr]
    exact fun id hi => Nat.lt_of_lt_of_le (hl.drawn id hi) ht
  · rw [accepted_snoc_of_none _ hn, hr]
    exact hl.nodup

theorem Ledger.quiet (hl : Ledger history h) (hn : n.accepted? = none) (hq : Quiet h h') :
    Ledger (history ++ [n]) h' :=
  hl.congr hn hq.controller.submissions hq.controller.dispatched hq.controller.rejected
    hq.controller.queue hq.batch hq.deliveries (Nat.le_of_eq hq.nextTransfer.symm)

theorem Drafts.id_eq (hd : h.Drafts target o device x) : x.id = h.nextTransfer := by
  cases hd with
  | transfer => exact Transfer.id_ofRoute _ _ _ _ _
  | stream => rfl

theorem Drafts.pending_eq (hd : h.Drafts target o device x) :
    ∃ p, x.pending = some p ∧ p.target = target := by
  cases hd with
  | transfer => exact ⟨_, rfl, rfl⟩
  | stream => exact ⟨_, rfl, rfl⟩

theorem header_finished (h : SimulatedHost) (device : UInt32) (hx : x.header = 0 ∨
    (x.header ≤ x.length ∧ x.length < wordSize)) : (h.finished device x).1.header = 0 ∨
      (h.finished device x).1.header + (h.finished device x).1.actual < wordSize := by
  rw [Transfer.header_of_frame (h.frame_finished device x)]
  have hle : (h.finished device x).1.actual ≤ x.length - x.header :=
    Simulated.actual_settle_le _ _ _
  rcases hx with h0 | ⟨hlen, hw⟩
  · exact .inl h0
  · exact .inr (by omega)

theorem deliverable_draft (h : SimulatedHost) (target : TargetId) (contracts : Contracts)
    (id : ConnectionId) (device : UInt32) (r : Request) :
    (h.finished device (h.draft target contracts id r)).1.Deliverable := by
  have hlen := Transfer.header_le_length_ofRoute h.nextTransfer r.route r.length r.payload r.timeout
  have hhead := Transfer.header_ofRoute h.nextTransfer r.route r.length r.payload r.timeout
  refine ⟨⟨_, (Transfer.pending_of_frame (h.frame_finished device _)).trans rfl⟩, ?_⟩
  exact h.header_finished device (hhead.imp_right fun hw => ⟨hlen, hw⟩)

theorem deliverable_finished (hs : Slots h) (hd : h.Drafts target o device x) :
    (h.finished device x).1.Deliverable := by
  cases hd with
  | transfer => exact h.deliverable_draft _ _ _ _ _
  | stream hi _ _ hslot =>
    refine ⟨⟨_, (Transfer.pending_of_frame (h.frame_finished _ _)).trans rfl⟩, ?_⟩
    exact h.header_finished _ (.inl (hs.idle hi hslot).1.header)

theorem nodup_middle_of_lt {a b : List TransferId} {n : TransferId} (hn : (a ++ b).Nodup)
    (hlt : ∀ id ∈ a ++ b, id < n) : (a ++ n :: b).Nodup := by
  rw [List.nodup_middle, List.nodup_cons]
  exact ⟨fun hm => Nat.lt_irrefl n (hlt n hm), hn⟩

theorem Ledger.turnedAway (hl : Ledger history h) {c : Simulated} {e : UsbError}
    (hn : n.accepted? = none) (hd : h.Drafts target o device x)
    (hc : Simulated.Quiet h.controller c) : Ledger (history ++ [n]) (h.turnedAway x c e) := by
  have hb := h.batch_turnedAway x c e
  have hv := h.deliveries_turnedAway x c e
  have hq : (h.turnedAway x c e).controller.queue = h.controller.queue := hc.queue
  have ho : (h.turnedAway x c e).owed = h.owed := by rw [owed, owed, hb, hq]
  have hr : (h.turnedAway x c e).controller.rejected.map (·.1) =
      h.controller.rejected.map (·.1) ++ [h.nextTransfer] := by
    simp [Host.turnedAway, hc.rejected, hd.id_eq]
  constructor
  · rw [accepted_snoc_of_none _ hn, ← hl.submitted]
    exact congrArg _ hc.submissions
  · rw [hv, hb, ← hl.dispatched]
    exact hc.dispatched
  · rw [accepted_snoc_of_none _ hn, hv, ho]
    exact hl.ordered
  · rw [ho]
    exact hl.deliverable
  · rw [accepted_snoc_of_none _ hn, hr, ← List.append_assoc]
    intro id hi
    rcases List.mem_append.1 hi with hi | hi
    · exact Nat.lt_succ_of_lt (hl.drawn id hi)
    · rw [List.mem_singleton.1 hi]
      exact Nat.lt_succ_self _
  · rw [accepted_snoc_of_none _ hn, hr, ← List.append_assoc]
    exact nodup_middle_of_lt (by simpa using hl.nodup) (by simpa using hl.drawn)

theorem Ledger.queued (hl : Ledger history h) (hs : Slots h)
    (hn : n.accepted? = some (h.nextTransfer, target)) (hd : h.Drafts target o device x) :
    Ledger (history ++ [n]) (h.queued device x) := by
  have hy := h.frame_finished device x
  have hid : (h.finished device x).1.id = h.nextTransfer :=
    (Transfer.id_of_frame hy).trans hd.id_eq
  obtain ⟨p, hp, hpt⟩ := hd.pending_eq
  have htag : (h.finished device x).1.tag? = some (h.nextTransfer, target) := by
    rw [Transfer.tag?, Transfer.pending_of_frame hy, hp, hid, ← hpt]
    rfl
  have hb := h.batch_queued device x
  have hv := h.deliveries_queued device x
  have ho : (h.queued device x).owed = h.owed ++ [(h.finished device x).1] := by
    rw [owed, owed, hb, queue_queued, List.append_assoc]
  have hr : (h.queued device x).controller.rejected = h.controller.rejected := rfl
  have hids : (accepted (history ++ [n])).map (·.1) =
      (accepted history).map (·.1) ++ [h.nextTransfer] := by
    rw [accepted_snoc_of_some _ hn, List.map_append, List.map_singleton]
  constructor
  · rw [hids, ← hl.submitted, ← hd.id_eq]
    exact List.map_append
  · rw [hv, hb]
    exact hl.dispatched
  · rw [accepted_snoc_of_some _ hn, hl.ordered, hv, ho, List.filterMap_append]
    simp [htag]
  · rw [ho]
    intro z hz
    rcases List.mem_append.1 hz with hz | hz
    · exact hl.deliverable z hz
    · rw [List.mem_singleton.1 hz]
      exact deliverable_finished hs hd
  · rw [hids, hr, List.append_assoc]
    intro id hi
    have hi : id ∈ (accepted history).map (·.1) ++ h.controller.rejected.map (·.1) ∨
        id = h.nextTransfer := by
      simp only [List.mem_append, List.mem_singleton] at hi ⊢
      tauto
    rcases hi with hi | rfl
    · exact Nat.lt_succ_of_lt (hl.drawn id hi)
    · exact Nat.lt_succ_self _
  · -- the new id goes between the accepted and the rejected ones, all drawn before it
    rw [hids, hr, List.append_assoc]
    exact nodup_middle_of_lt hl.nodup hl.drawn

theorem Ledger.place (hl : Ledger history h) (hs : Slots h) (target : TargetId) (o : Order)
    (key : Option (UInt32 × Endpoint)) :
    Ledger (history ++ [.placed h.nextTransfer target o key (h.place target o).2])
      (h.place target o).1 := by
  rcases h.place_outcome target o with
    ⟨hp, hne⟩ | ⟨device, x, c, e, hd, hc, hp⟩ | ⟨device, x, hd, hp⟩
  · have hn : Note.accepted? (.placed h.nextTransfer target o key (h.place target o).2) = none := by
      unfold Note.accepted?
      split
      · rename_i he
        simp only [Note.placed.injEq] at he
        exact absurd he.2.2.2.2 hne
      · rfl
    rw [hp]
    exact hl.congr hn rfl rfl rfl rfl rfl rfl (Nat.le_refl _)
  · rw [hp]
    exact hl.turnedAway rfl hd hc
  · rw [hp]
    exact hl.queued hs rfl hd

theorem Ledger.allocate (hl : Ledger history h) (t : Token) (e : Endpoint) (packets : Nat)
    (given : Option Nat) (hn : n.accepted? = none) :
    Ledger (history ++ [n]) (h.allocate t e packets given).1 := by
  rcases h.allocate_cases t e packets given with he | ⟨packetLength, he⟩
  · rw [he]
    exact hl.congr hn rfl rfl rfl rfl rfl rfl (Nat.le_refl _)
  · rw [he]
    exact hl.congr hn rfl rfl rfl rfl rfl rfl (Nat.le_succ _)

theorem Ledger.poll (hl : Ledger history h) (hb : h.batch = []) :
    Ledger (history ++ [.polled])
      { h with controller := h.controller.poll.1, batch := h.controller.queue } := by
  have hn : Note.polled.accepted? = none := rfl
  have ho : Host.owed { h with controller := h.controller.poll.1, batch := h.controller.queue } =
      h.owed := by
    rw [owed, owed, hb]
    exact List.append_nil _
  constructor
  · rw [accepted_snoc_of_none _ hn]
    exact hl.submitted
  · have hd : h.controller.dispatched = h.deliveries.map (·.transfer) := by
      simpa [hb] using hl.dispatched
    exact congrArg (· ++ h.controller.queue.map (·.id)) hd
  · rw [accepted_snoc_of_none _ hn, ho]
    exact hl.ordered
  · rw [ho]
    exact hl.deliverable
  · rw [accepted_snoc_of_none _ hn]
    exact hl.drawn
  · rw [accepted_snoc_of_none _ hn]
    exact hl.nodup

theorem Ledger.deliver (hl : Ledger history h) {rest : List Transfer} {p : Pending}
    {result : Outcome} {data : Option Bytes} (hb : h.batch = x :: rest) (hp : x.pending = some p)
    (hn : n.accepted? = none) :
    Ledger (history ++ [n]) (Host.deliver { h with batch := rest } x p result data) := by
  have hv := deliveries_deliver { h with batch := rest } x p result data
  have hc := controller_deliver { h with batch := rest } x p result data
  have hr := batch_deliver { h with batch := rest } x p result data
  have ht := nextTransfer_deliver { h with batch := rest } x p result data
  dsimp only at hc hr ht
  have htag : x.tag? = some (x.id, p.target) := by simp [Transfer.tag?, hp]
  have howed : h.owed = x :: (Host.deliver { h with batch := rest } x p result data).owed := by
    rw [owed, owed, hr, hc, hb]
    rfl
  constructor
  · rw [accepted_snoc_of_none _ hn, hc]
    exact hl.submitted
  · rw [hc, hr, hv, hl.dispatched, hb, List.map_append, List.append_assoc]
    rfl
  · rw [accepted_snoc_of_none _ hn, hl.ordered, hv, howed, List.filterMap_cons_some htag,
      List.map_append, List.append_assoc]
    rfl
  · intro z hz
    exact hl.deliverable z (by rw [howed]; exact List.mem_cons_of_mem _ hz)
  · rw [accepted_snoc_of_none _ hn, hc, ht]
    exact hl.drawn
  · rw [accepted_snoc_of_none _ hn, hc]
    exact hl.nodup

theorem Ledger.move (hl : Ledger history h) (hs : Slots h) (hm : Move h n h') :
    Ledger (history ++ [n]) h' := by
  cases hm with
  | upkeep u => exact hl.quiet rfl (quiet_perform u)
  | allocate t e packets given => exact hl.allocate t e packets given rfl
  | script device e r => exact hl.congr rfl rfl rfl rfl rfl rfl rfl (Nat.le_refl _)
  | exchange hc hd hr =>
    obtain ⟨sent, rfl⟩ := run_eq hc hd hr
    exact hl.congr rfl rfl rfl rfl rfl rfl rfl (Nat.le_refl _)
  | place target o => exact hl.place hs target o _
  | poll hb => exact hl.poll hb
  | deliver hb hp _ => exact hl.deliver hb hp rfl

theorem Ledger.run {earlier : List Note} (hl : Ledger earlier h) (hs : Slots h)
    (hr : Run h history h') : Ledger (earlier ++ history) h' := by
  induction hr with
  | refl => simpa using hl
  | snoc hr hm ih =>
    rw [← List.append_assoc]
    exact ih.move (hs.run hr) hm

theorem Ledger.shown (hl : Ledger history h) (hn : h.nextTransfer ≤ wordSize) :
    (((accepted history).map (·.1) ++ h.controller.rejected.map (·.1)).map
      TransferId.word).Nodup := by
  have hword : ∀ id ∈ (accepted history).map (·.1) ++ h.controller.rejected.map (·.1),
      id.word.toNat = id := fun id hi =>
    TransferId.toNat_word (Nat.lt_of_lt_of_le (hl.drawn id hi) hn)
  refine hl.nodup.map_on fun i hi j hj he => ?_
  rw [← hword i hi, he, hword j hj]

theorem ledger_fresh : Ledger [] fresh := by
  constructor <;> simp [fresh, accepted, deliveries, owed]

theorem ledger_of_run (hr : Run fresh history h) : Ledger history h := by
  simpa using ledger_fresh.run slots_fresh hr

end Host

end UsbTransfer
