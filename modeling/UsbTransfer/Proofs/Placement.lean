import UsbTransfer.Proofs.Run

namespace UsbTransfer

def Transfer.slot? (x : Transfer) : Option StreamId := x.pending.bind (·.park)

namespace Host

section Orders

variable {κ δ : Type}

def draft (h : Host κ δ) (target : TargetId) (contracts : Contracts) (connection : ConnectionId)
    (r : Request) : Transfer :=
  { Transfer.ofRoute h.nextTransfer r.route r.length r.payload r.timeout with
    pending := some { target, contracts }, connection := some connection }

def rebind (h : Host κ δ) (target : TargetId) (contracts : Contracts)
    (connection : ConnectionId) (id : StreamId) (b : BufferId) (timeout : UInt32) (d : Transfer) :
    Transfer :=
  { d with
    id := h.nextTransfer, memory := .lent b, timeout
    pending := some { target, contracts, buffer := some b, park := some id }
    connection := some connection }

inductive Drafts (h : Host κ δ) (target : TargetId) : Order → δ → Transfer → Prop
  | transfer {t : Token} {r : Request} {contracts : Contracts} {id : ConnectionId}
      {c : Connection δ} (ha : h.admission t = .ok (contracts, id, c))
      (hr : r.route.direction = .hostToDevice → r.region.Fits r.buffer.length) :
      Drafts h target (.transfer t r) c.device (h.draft target contracts id r)
  | stream {id : StreamId} {b : BufferId} {timeout : UInt32} {s : Stream} {contracts : Contracts}
      {connection : ConnectionId} {c : Connection δ} {d : Transfer}
      (hs : h.streams[id]? = some s) (ha : h.admission s.token = .ok (contracts, connection, c))
      (hb : s.capacity ≤ h.buffers.capacity b) (hd : s.slot = some d) :
      Drafts h target (.stream id b timeout) c.device
        (h.rebind target contracts connection id b timeout d)

def token? (h : Host κ δ) : Order → Option Token
  | .transfer t _ => some t
  | .stream id _ _ => h.streams[id]?.map (·.token)

inductive Barred (h : Host κ δ) : Order → HostError → Prop
  | uninitialized {o : Order} (hc : h.contracts = none) : Barred h o .notInitialized
  | stale {o : Order} {t : Token} (ht : h.token? o = some t)
      (hl : h.lookup t = .error .invalidHandle) : Barred h o .invalidHandle
  | draining {o : Order} {t : Token} {id : ConnectionId} {c : Connection δ}
      (ht : h.token? o = some t) (hl : h.lookup t = .ok (id, c)) (hd : 0 < c.draining) :
      Barred h o (.usb .busy)
  | region {t : Token} {r : Request} (hd : r.route.direction = .hostToDevice)
      (hr : ¬ r.region.Fits r.buffer.length) : Barred h (.transfer t r) (.usb .invalidParam)
  | capacity {id : StreamId} {b : BufferId} {timeout : UInt32} {s : Stream}
      (hs : h.streams[id]? = some s) (hb : h.buffers.capacity b < s.capacity) :
      Barred h (.stream id b timeout) (.usb .invalidParam)
  | flying {id : StreamId} {b : BufferId} {timeout : UInt32} {s : Stream}
      (hs : h.streams[id]? = some s) (hd : s.slot = none) :
      Barred h (.stream id b timeout) (.usb .busy)

def setSlot? (h : Host κ δ) (id : Option StreamId) (x : Option Transfer) : Host κ δ :=
  match id with
  | none => h
  | some id => h.setSlot id x

end Orders

def turnedAway (h : SimulatedHost) (x : Transfer) (c : Simulated) (e : UsbError) : SimulatedHost :=
  { h.setSlot? x.slot? (some x.cleared) with
    nextTransfer := h.nextTransfer + 1
    controller := { c with rejected := c.rejected ++ [(x.id, e)] } }

def finished (h : SimulatedHost) (device : UInt32) (x : Transfer) : Transfer × Buffers :=
  Simulated.settle (h.controller.take (Simulated.answerKey device x)).2 x h.buffers

def queued (h : SimulatedHost) (device : UInt32) (x : Transfer) : SimulatedHost :=
  { h.setSlot? x.slot? none with
    nextTransfer := h.nextTransfer + 1
    buffers := (h.finished device x).2
    controller :=
      { (h.controller.take (Simulated.answerKey device x)).1 with
        submissions := h.controller.submissions ++ [Simulated.submission device x h.buffers]
        queue := h.controller.queue ++ [(h.finished device x).1] } }

def offer (h : SimulatedHost) (device : UInt32) (x : Transfer) : SimulatedHost × Answer :=
  match h.controller.refusal with
  | (c, some e) => (h.turnedAway x c e, .refused (.usb e))
  | (_, none) => (h.queued device x, .done)

@[simp] theorem batch_setSlot? {κ δ : Type} (h : Host κ δ) (id : Option StreamId)
    (x : Option Transfer) : (h.setSlot? id x).batch = h.batch := by
  cases id <;> rfl

@[simp] theorem journal_setSlot? {κ δ : Type} (h : Host κ δ) (id : Option StreamId)
    (x : Option Transfer) : (h.setSlot? id x).journal = h.journal := by
  cases id <;> rfl

theorem batch_turnedAway (h : SimulatedHost) (x : Transfer) (c : Simulated) (e : UsbError) :
    (h.turnedAway x c e).batch = h.batch := h.batch_setSlot? _ _

theorem deliveries_turnedAway (h : SimulatedHost) (x : Transfer) (c : Simulated) (e : UsbError) :
    (h.turnedAway x c e).deliveries = h.deliveries := by
  simp only [deliveries, turnedAway, journal_setSlot?]

theorem batch_queued (h : SimulatedHost) (device : UInt32) (x : Transfer) :
    (h.queued device x).batch = h.batch := h.batch_setSlot? _ _

theorem owned_queued (h : SimulatedHost) (device : UInt32) (x : Transfer) :
    (h.queued device x).owned = h.owned := by
  simp only [queued]
  cases x.slot? <;> rfl

theorem targets_queued (h : SimulatedHost) (device : UInt32) (x : Transfer) :
    (h.queued device x).targets = h.targets := by
  simp only [queued]
  cases x.slot? <;> rfl

theorem deliveries_queued (h : SimulatedHost) (device : UInt32) (x : Transfer) :
    (h.queued device x).deliveries = h.deliveries := by
  simp only [deliveries, queued, journal_setSlot?]

theorem queue_queued (h : SimulatedHost) (device : UInt32) (x : Transfer) :
    (h.queued device x).controller.queue =
      h.controller.queue ++ [(h.finished device x).1] := rfl

section Admission

variable {κ δ : Type} {h : Host κ δ} {t : Token} {contracts : Contracts} {id : ConnectionId}
  {c : Connection δ}

theorem lookup_of_admission (ha : h.admission t = .ok (contracts, id, c)) :
    h.lookup t = .ok (id, c) := by
  unfold admission at ha
  split at ha
  · cases ha
  · split at ha
    · cases ha
    · rename_i hl
      split at ha
      · cases ha
      · cases ha
        exact hl

theorem contracts_of_admission (ha : h.admission t = .ok (contracts, id, c)) :
    h.contracts = some contracts := by
  unfold admission at ha
  split at ha
  · cases ha
  · rename_i hc
    split at ha
    · cases ha
    · split at ha
      · cases ha
      · cases ha
        exact hc

theorem error_of_lookup {e : HostError} (hl : h.lookup t = .error e) : e = .invalidHandle := by
  unfold lookup at hl
  split at hl
  · exact (Except.error.inj hl).symm
  · split at hl
    · exact (Except.error.inj hl).symm
    · cases hl

theorem barred_of_admission {e : HostError} {o : Order} (ht : h.token? o = some t)
    (ha : h.admission t = .error e) : h.Barred o e := by
  unfold admission at ha
  split at ha
  · rename_i hc
    cases ha
    exact .uninitialized hc
  · split at ha
    · rename_i hl
      cases ha
      obtain rfl := error_of_lookup hl
      exact .stale ht hl
    · rename_i hl
      split at ha
      · rename_i hd
        cases ha
        exact .draining ht hl hd
      · cases ha

theorem connection_of_lookup (hl : h.lookup t = .ok (id, c)) : h.connections[id]? = some c := by
  unfold lookup at hl
  split at hl
  · cases hl
  · split at hl
    · cases hl
    · rename_i hc
      cases hl
      exact hc

end Admission

theorem place_cases {κ δ : Type} [Controller κ δ] (h : Host κ δ) (target : TargetId)
    (o : Order) :
    h.place target o = (h, .noStream) ∨
      (∃ e, h.Barred o e ∧ h.place target o = (h, .refused e)) ∨
      ∃ device x, h.Drafts target o device x := by
  cases o with
  | transfer t r =>
    right
    rcases ha : h.admission t with e | ⟨contracts, id, c⟩
    · exact .inl ⟨e, barred_of_admission rfl ha, by simp [place, submit, ha, Answer.ofExcept]⟩
    · by_cases hn : r.route.direction = .hostToDevice ∧ ¬ r.region.Fits r.buffer.length
      · exact .inl ⟨_, .region hn.1 hn.2, by simp [place, submit, ha, hn, Answer.ofExcept]⟩
      · exact .inr ⟨_, _, .transfer ha fun hd => Decidable.byContradiction fun hf => hn ⟨hd, hf⟩⟩
  | stream id b timeout =>
    rcases hs : h.streams[id]? with _ | s
    · exact .inl (by simp [place, hs])
    right
    rcases ha : h.admission s.token with e | ⟨contracts, connection, c⟩
    · exact .inl ⟨e, barred_of_admission (by rw [token?, hs, Option.map_some]) ha,
        by simp [place, hs, submitStream, ha, Answer.ofExcept]⟩
    · by_cases hb : h.buffers.capacity b < s.capacity
      · exact .inl ⟨_, .capacity hs hb, by simp [place, hs, submitStream, ha, hb, Answer.ofExcept]⟩
      · rcases hd : s.slot with _ | d
        · exact .inl ⟨_, .flying hs hd,
            by simp [place, hs, submitStream, ha, hb, hd, Answer.ofExcept]⟩
        · exact .inr ⟨_, _, .stream hs ha (Nat.not_lt.1 hb) hd⟩

theorem setSlot_setSlot {κ δ : Type} {h : Host κ δ} (id : StreamId) (y z : Option Transfer) :
    (h.setSlot id y).setSlot id z = h.setSlot id z := by
  simp only [setSlot, List.modify_modify_eq]
  rfl

section Handing

variable {κ δ : Type} [Controller κ δ] {h : Host κ δ} {target : TargetId} {o : Order} {device : δ}
  {x : Transfer}

/-- Gives a descriptor to the controller. Its slot is empty then, unless it was handed back. -/
def hand (h : Host κ δ) (device : δ) (x : Transfer) : Host κ δ × Answer :=
  match Controller.submit h.controller device x h.buffers with
  | (controller, buffers, none) =>
    ({ h.setSlot? x.slot? none with nextTransfer := h.nextTransfer + 1, controller, buffers },
      .done)
  | (controller, buffers, some (e, y)) =>
    ({ h.setSlot? x.slot? (some y.cleared) with
        nextTransfer := h.nextTransfer + 1, controller, buffers }, .refused (.usb e))

theorem place_hand (hd : h.Drafts target o device x) : h.place target o = h.hand device x := by
  cases hd with
  | @transfer t r contracts id c ha hr =>
    have hfit : ¬ (r.route.direction = .hostToDevice ∧ ¬ r.region.Fits r.buffer.length) :=
      fun hn => hn.2 (hr hn.1)
    have hsub : Controller.submit h.draw.controller c.device (h.draft target contracts id r)
      h.draw.buffers = Controller.submit h.controller c.device (h.draft target contracts id r)
        h.buffers := rfl
    simp only [draft] at hsub
    simp only [place, submit, ha, if_neg hfit, handOver, hand, draft, hsub]
    rcases Controller.submit h.controller c.device _ h.buffers with ⟨k, m, _ | ⟨e, y⟩⟩ <;> rfl
  | @stream id b timeout s contracts connection c d hs ha hb hd =>
    have hsub : Controller.submit (h.draw.setSlot id none).controller c.device
      (h.rebind target contracts connection id b timeout d) (h.draw.setSlot id none).buffers =
        Controller.submit h.controller c.device
          (h.rebind target contracts connection id b timeout d) h.buffers := rfl
    simp only [rebind] at hsub
    simp only [place, hs, submitStream, ha, if_neg (Nat.not_lt.2 hb), hd, handOver, hand, rebind,
      hsub]
    rcases Controller.submit h.controller c.device _ h.buffers with ⟨k, m, _ | ⟨e, y⟩⟩
    · rfl
    · have hpark := setSlot_setSlot (h := { h.draw with controller := k, buffers := m }) id none
        (some y.cleared)
      exact Prod.ext hpark rfl

end Handing

variable {h : SimulatedHost} {target : TargetId} {device : UInt32} {x : Transfer}

theorem refusal_eq_none {c : Simulated} (hc : h.controller.refusal = (c, none)) :
    c = h.controller := by
  unfold Simulated.refusal at hc
  split at hc
  · cases hc
  · exact (congrArg Prod.fst hc).symm

theorem hand_eq_offer (h : SimulatedHost) (device : UInt32) (x : Transfer) :
    h.hand device x = h.offer device x := by
  have hsub : Controller.submit h.controller device x h.buffers =
    h.controller.submit device x h.buffers := rfl
  simp only [hand, offer, hsub, Simulated.submit]
  rcases hc : h.controller.refusal with ⟨c, _ | e⟩
  · obtain rfl := refusal_eq_none hc
    rfl
  · simp only [turnedAway]
    cases x.slot? <;> rfl

theorem place_of_drafts {o : Order} (hd : h.Drafts target o device x) :
    h.place target o = h.offer device x := (place_hand hd).trans (h.hand_eq_offer device x)

theorem place_transfer {t : Token} {r : Request} {contracts : Contracts} {id : ConnectionId}
    {c : Connection UInt32} (ha : h.admission t = .ok (contracts, id, c))
    (hr : r.route.direction = .hostToDevice → r.region.Fits r.buffer.length) :
    h.place target (.transfer t r) = h.offer c.device (h.draft target contracts id r) :=
  place_of_drafts (.transfer ha hr)

theorem place_stream {id : StreamId} {b : BufferId} {timeout : UInt32} {s : Stream}
    {contracts : Contracts} {connection : ConnectionId} {c : Connection UInt32} {d : Transfer}
    (hs : h.streams[id]? = some s) (ha : h.admission s.token = .ok (contracts, connection, c))
    (hb : s.capacity ≤ h.buffers.capacity b) (hd : s.slot = some d) :
    h.place target (.stream id b timeout) =
      h.offer c.device (h.rebind target contracts connection id b timeout d) :=
  place_of_drafts (.stream hs ha hb hd)

end Host

end UsbTransfer
