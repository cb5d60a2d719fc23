import UsbTransfer.Proofs.Course
import UsbTransfer.Proofs.Ledger

namespace UsbTransfer

def Note.dispatching : Note → Bool
  | .polled | .notified _ => true
  | _ => false

def Delivery.Reports (d : Delivery) (x : Transfer) : Prop :=
  d.transfer = x.id ∧
    ∃ p, x.pending = some p ∧ d.target = p.target ∧ d.notifier = p.contracts.notifier x.kind

namespace Host

variable {h h' : SimulatedHost} {history : List Note} {n : Note} {x : Transfer} {p : Pending}
  {result : Outcome} {data : Option Bytes}

theorem batch_move (hm : Move h n h') (hn : n.dispatching = false) :
    h'.batch = h.batch ∧ h'.deliveries = h.deliveries := by
  cases hm with
  | upkeep u =>
    have hq : Quiet h (h.perform u) := quiet_perform u
    exact ⟨hq.batch, hq.deliveries⟩
  | allocate t e packets given =>
    rcases h.allocate_cases t e packets given with he | ⟨packetLength, he⟩
    · rw [he]
      exact ⟨rfl, rfl⟩
    · rw [he]
      exact ⟨rfl, rfl⟩
  | script device e r => exact ⟨rfl, rfl⟩
  | exchange hc hd hr =>
    obtain ⟨sent, rfl⟩ := run_eq hc hd hr
    exact ⟨rfl, rfl⟩
  | place target o => exact h.batch_place target o
  | poll hb => cases hn
  | deliver hb hp hs => cases hn

theorem batch_run (hr : Run h history h') (hn : ∀ n ∈ history, n.dispatching = false) :
    h'.batch = h.batch ∧ h'.deliveries = h.deliveries := by
  induction hr with
  | refl => exact ⟨rfl, rfl⟩
  | snoc hr hm ih =>
    have hi := ih fun n hn' => hn n (List.mem_append_left _ hn')
    have hl := batch_move hm (hn _ (by simp))
    exact ⟨hl.1.trans hi.1, hl.2.trans hi.2⟩

theorem received?_of_deliverable (hx : x.Deliverable) (m : Buffers) :
    ∃ bytes, x.received? m x.actual = some bytes := by
  have hle : min x.header (x.bytes m).length ≤
      min ((min x.header (x.bytes m).length + x.actual) % wordSize) (x.bytes m).length := by
    rcases hx.2 with h0 | hw
    · simp [h0]
    · rw [Nat.mod_eq_of_lt (by omega)]
      omega
  exact ⟨_, if_pos hle⟩

theorem settle_of_deliverable {κ δ : Type} (h : Host κ δ) (hx : x.Deliverable) :
    ∃ result data, h.settle x = some (result, data) := by
  unfold settle
  split
  · exact ⟨_, _, rfl⟩
  · rename_i actual ho
    obtain ⟨-, rfl⟩ := TransferStatus.outcome_eq_ok_iff.1 ho
    split
    · exact ⟨_, _, rfl⟩
    · split
      · obtain ⟨bytes, hb⟩ := received?_of_deliverable hx h.buffers
        exact ⟨_, _, by rw [hb]; rfl⟩
      · exact ⟨_, _, rfl⟩

theorem react_run (h : SimulatedHost) (target : TargetId) (orders : List Order) :
    ∃ history, Run h history (h.react target orders) ∧ ∀ n ∈ history, n.dispatching = false := by
  induction orders generalizing h with
  | nil => exact ⟨[], .refl h, by simp⟩
  | cons o rest ih =>
    by_cases ho : h.owned
    · obtain ⟨history, hr, hn⟩ :=
        ih ((h.place target o).1.log (.answered target (h.place target o).2))
      refine ⟨.placed h.nextTransfer target o (h.answerKey? o) (h.place target o).2 ::
        .upkeep (.answer target (h.place target o).2) :: history, ?_, ?_⟩
      · simp only [react, ho, if_true]
        exact .cons (.place h target o) (.cons (.upkeep _ (.answer _ _)) hr)
      · simpa [Note.dispatching] using hn
    · obtain ⟨history, hr, hn⟩ := ih (h.log (.answered target .noHost))
      refine ⟨.upkeep (.answer target .noHost) :: history, ?_, ?_⟩
      · simp only [react, ho]
        exact .cons (.upkeep _ (.answer _ _)) hr
      · simpa [Note.dispatching] using hn

theorem respond_run (h : SimulatedHost) (target : TargetId) (r : Reaction) :
    ∃ history, Run h history (h.respond target r) ∧ ∀ n ∈ history, n.dispatching = false := by
  obtain ⟨history, hr, hn⟩ := h.react_run target r.orders
  unfold respond
  cases r.leaves with
  | false =>
    refine ⟨history, ?_, hn⟩
    simpa using hr
  | true =>
    refine ⟨history ++ [.upkeep .leave], ?_, ?_⟩
    · simpa [perform] using hr.snoc (.upkeep _ .leave)
    · intro n hm
      rcases List.mem_append.1 hm with hm | hm
      · exact hn n hm
      · rw [List.mem_singleton.1 hm]
        rfl

theorem controller_respond_of_silent (h : SimulatedHost) (target : TargetId) {r : Reaction}
    (hr : r.orders = []) : (h.respond target r).controller = h.controller := by
  simp only [respond, hr, react]

theorem dispatch_eq {κ δ : Type} [Controller κ δ] (reactions : Reactions) (h : Host κ δ)
    (hp : x.pending = some p) (hs : h.settle x = some (result, data)) :
    ∃ r, (r = {} ∨ ∃ k, r = reactions p.target k) ∧
      dispatch reactions h x = ((h.deliver x p result data).respond p.target r, true) := by
  refine ⟨((h.mark p.buffer result).retire x p.park).reaction reactions p x.kind, ?_, ?_⟩
  · unfold reaction
    split
    · exact .inr ⟨_, rfl⟩
    · exact .inl rfl
  · simp only [dispatch, hp, hs]
    rfl

theorem dispatch_run (reactions : Reactions) {rest : List Transfer} (hb : h.batch = x :: rest)
    (hx : x.Deliverable) :
    ∃ history d, (dispatch reactions { h with batch := rest } x).2 = true ∧
      Run h history (dispatch reactions { h with batch := rest } x).1 ∧
      (dispatch reactions { h with batch := rest } x).1.batch = rest ∧
      (dispatch reactions { h with batch := rest } x).1.deliveries = h.deliveries ++ [d] ∧
      d.Reports x := by
  obtain ⟨p, hp⟩ := hx.1
  obtain ⟨result, data, hs⟩ := h.settle_of_deliverable hx
  obtain ⟨r, -, hd⟩ := dispatch_eq reactions { h with batch := rest } hp hs
  obtain ⟨history, hr, -⟩ :=
    (Host.deliver { h with batch := rest } x p result data).respond_run p.target r
  have hkeep := (Host.deliver { h with batch := rest } x p result data).steps_respond p.target r
  have hbatch := batch_deliver { h with batch := rest } x p result data
  rw [hd]
  refine ⟨_, h.deliveryOf x p result data, rfl, .cons (.deliver hb hp hs) hr, ?_, ?_, rfl, p, hp,
    rfl, rfl⟩
  · exact hkeep.2.trans hbatch
  · rw [deliveries_respond, deliveries_deliver, deliveryOf_batch]
    rfl

theorem dispatchAll_run (reactions : Reactions) (xs : List Transfer) (h : SimulatedHost)
    (hb : h.batch = xs) (hx : ∀ x ∈ xs, x.Deliverable) :
    ∃ history ds, (dispatchAll reactions h xs).2 = true ∧
      Run h history (dispatchAll reactions h xs).1 ∧ (dispatchAll reactions h xs).1.batch = [] ∧
      (dispatchAll reactions h xs).1.deliveries = h.deliveries ++ ds ∧
      List.Forall₂ Delivery.Reports ds xs := by
  induction xs generalizing h with
  | nil =>
    have he : ({ h with batch := [] } : SimulatedHost) = h := by rw [← hb]
    refine ⟨[], [], rfl, ?_, rfl, ?_, .nil⟩
    · simpa only [dispatchAll, he] using Run.refl h
    · simp only [dispatchAll, he, List.append_nil]
  | cons x rest ih =>
    -- what the callback submits waits in the queue, and the batch is still `rest`
    obtain ⟨first, d, ht, hr, hbatch, hd, hrep⟩ :=
      dispatch_run reactions hb (hx x List.mem_cons_self)
    obtain ⟨later, ds, hts, hrs, hbs, hds, hreps⟩ :=
      ih _ hbatch fun z hz => hx z (List.mem_cons_of_mem _ hz)
    have he : dispatchAll reactions h (x :: rest) =
        dispatchAll reactions (dispatch reactions { h with batch := rest } x).1 rest := by
      rw [dispatchAll]
      generalize dispatch reactions { h with batch := rest } x = r at ht
      obtain ⟨h', ok⟩ := r
      obtain rfl : ok = true := ht
      rfl
    rw [he]
    refine ⟨first ++ later, d :: ds, hts, hr.trans hrs, hbs, ?_, .cons hrep hreps⟩
    rw [hds, hd, List.append_assoc]
    rfl

theorem processEvents_run (reactions : Reactions) (timeout : Option Nat) (hb : h.batch = [])
    (hx : ∀ x ∈ h.controller.queue, x.Deliverable) :
    ∃ history ds, (h.processEvents reactions timeout).2 = .done ∧
      Run h (.polled :: history) (h.processEvents reactions timeout).1 ∧
      (h.processEvents reactions timeout).1.batch = [] ∧
      (h.processEvents reactions timeout).1.deliveries = h.deliveries ++ ds ∧
      List.Forall₂ Delivery.Reports ds h.controller.queue := by
  obtain ⟨history, ds, ht, hr, hbatch, hd, hrep⟩ := dispatchAll_run reactions h.controller.queue
    { h with controller := h.controller.poll.1, batch := h.controller.queue } rfl hx
  have he : h.processEvents reactions timeout =
      ((dispatchAll reactions
        { h with controller := h.controller.poll.1, batch := h.controller.queue }
        h.controller.queue).1, .done) := by
    have hpoll : Controller.poll h.controller h.buffers timeout =
      (h.controller.poll.1, h.buffers, .finished h.controller.queue) := rfl
    simp only [processEvents, hpoll]
    generalize dispatchAll reactions
      { h with controller := h.controller.poll.1, batch := h.controller.queue }
      h.controller.queue = r at ht
    obtain ⟨h', ok⟩ := r
    obtain rfl : ok = true := ht
    rfl
  rw [he]
  exact ⟨history, ds, rfl, .cons (.poll hb) hr, hbatch, hd, hrep⟩

end Host

end UsbTransfer
