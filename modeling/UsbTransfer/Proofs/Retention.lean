import UsbTransfer.Proofs.Occupancy
import UsbTransfer.Proofs.Origin
import UsbTransfer.Proofs.Refusal

namespace UsbTransfer

theorem total_eq_two_mul_countP {α : Type} {xs : List α} {f : α → Nat} {p : α → Bool}
    (h : ∀ x ∈ xs, f x = if p x then 2 else 0) : total (xs.map f) = 2 * xs.countP p := by
  induction xs with
  | nil => rfl
  | cons x xs ih =>
    have hx := h x List.mem_cons_self
    have hxs := ih fun y hy => h y (List.mem_cons_of_mem _ hy)
    simp only [List.map_cons, List.sum_cons, List.countP_cons, hx, hxs]
    split <;> omega

def Transfer.streamsTo (x : Transfer) (b : BufferId) : Bool :=
  x.kind = .isochronous ∧ x.lent? = some b

theorem Transfer.boundTo_of_cleared {x : Transfer} (hx : x.cleared = x) (b : BufferId) :
    x.boundTo b = 0 := by
  rw [← hx]
  simp [boundTo, cleared]

namespace Host

variable {h h' : SimulatedHost} {history : List Note} {n : Note} {target : TargetId} {o : Order}
  {x : Transfer}

theorem Carries.boundTo (hc : Carries h target o x) (b : BufferId) :
    x.boundTo b = if x.streamsTo b then 2 else 0 := by
  obtain ⟨contracts, -, hp⟩ := hc.pending
  have hlent : x.memory = .lent b ↔ o.buffer? = some b := by
    rw [← Transfer.lent?_eq_some, hc.lent]
  have hkind : o.buffer? = some b → x.kind = .isochronous := by
    intro hb
    refine hc.kind ?_
    cases o with
    | transfer => cases hb
    | stream => rfl
  simp only [Transfer.boundTo, Transfer.streamsTo, hlent, hp, hc.lent, Option.bind_some]
  by_cases hb : o.buffer? = some b
  · simp [hb, hkind hb]
  · simp [hb]

/-- Unread messages keep the buffers that they tell of. -/
def unread (h : SimulatedHost) (b : BufferId) : Nat :=
  total ((List.range h.targets.length).map fun t => (h.messages t).countP (·.refersTo b))

structure Retained (history : List Note) (h : SimulatedHost) : Prop where
  targets : ∀ t, h.targetRefs t = h.controller.queue.countP (·.notifies t)
  buffers : ∀ b, h.bufferRefs b = 2 * h.controller.queue.countP (·.streamsTo b) + h.unread b
  connections : ∀ id, h.connectionRefs id =
    (if h.Open id then 1 else 0) + h.controller.queue.countP (·.connection = some id)
  tokens : h.devices.slots.length ≤ UInt32.size →
    ∀ id, h.Open id ↔ ∃ t c, h.lookup t = .ok (id, c)
  closed : ∀ t id c, h.lookup t = .ok (id, c) →
    (h.close t).1.connectionRefs id = h.controller.queue.countP (·.connection = some id)
  queued : ∀ x ∈ h.controller.queue, CameFrom history h x
  parked : ∀ (id : StreamId) s x, h.streams[id]? = some s → s.slot = some x → x =
    { Transfer.ofPackets x.id s.endpoint s.packets s.packetLength with timeout := x.timeout }
  streams : ∀ later h', Run h later h' → ∀ (id : StreamId) s, h.streams[id]? = some s →
    ∃ slot, h'.streams[id]? = some { s with slot := slot }

section Counts

variable (hb : h.batch = []) (ht : Tidy h)

include hb ht

theorem targetRefs_eq (t : TargetId) :
    h.targetRefs t = h.controller.queue.countP (·.notifies t) := by
  have hparked : h.parked.countP (·.notifies t) = 0 := by
    rw [List.countP_eq_zero]
    intro x hx
    rw [← ht.cleared_of_parked hx]
    simp [Transfer.notifies, Transfer.cleared]
  rw [targetRefs, List.countP_append, hparked, inFlight_eq, hb, List.append_nil, Nat.add_zero]

theorem bufferRefs_eq (ho : ∀ x ∈ h.inFlight, ∃ h₁ target o, Carries h₁ target o x) (b : BufferId) :
    h.bufferRefs b = 2 * h.controller.queue.countP (·.streamsTo b) + h.unread b := by
  have hparked : total (h.parked.map (·.boundTo b)) = 2 * h.parked.countP (fun _ => false) :=
    total_eq_two_mul_countP fun x hx => Transfer.boundTo_of_cleared (ht.cleared_of_parked hx) b
  have hflight : total (h.inFlight.map (·.boundTo b)) = 2 * h.inFlight.countP (·.streamsTo b) :=
    total_eq_two_mul_countP fun x hx => by
      obtain ⟨h₁, target, o, hc⟩ := ho x hx
      exact hc.boundTo b
  have hqueue : h.inFlight = h.controller.queue := by rw [inFlight_eq, hb, List.append_nil]
  have hboth : total ((h.inFlight ++ h.parked).map (·.boundTo b)) =
      total (h.inFlight.map (·.boundTo b)) + total (h.parked.map (·.boundTo b)) := by
    rw [List.map_append]
    exact List.sum_append_nat
  rw [bufferRefs, hboth, hflight, hparked, hqueue]
  simp [unread]

theorem connectionRefs_eq (ho : Occupied h) (id : ConnectionId) :
    h.connectionRefs id =
      (if h.Open id then 1 else 0) + h.controller.queue.countP (·.connection = some id) := by
  have hparked : h.parked.countP (·.connection = some id) = 0 := by
    rw [List.countP_eq_zero]
    intro x hx
    rw [← ht.cleared_of_parked hx]
    simp [Transfer.cleared]
  rw [connectionRefs, ho.count_eq, List.countP_append, hparked, inFlight_eq, hb, List.append_nil,
    Nat.add_zero]

end Counts

theorem retained_between_calls (hr : Run fresh history h) (hb : h.batch = []) :
    Retained history h := by
  have ht := tidy_fresh.run hr
  have ho := occupied_fresh.run hr
  have hc : ∀ x ∈ h.inFlight, CameFrom history h x := fun x hx => came_from hr hx
  refine ⟨targetRefs_eq hb ht, bufferRefs_eq hb ht ?_, connectionRefs_eq hb ht ho, ho.open_iff,
    ?_, ?_,
    fun id s x hi hx => parked_eq (slots_fresh.run hr) ht hi hx,
    fun later h' hlater id s hi => stream_run hlater hi⟩
  · intro x hx
    obtain ⟨_, h₁, _, target, o, _, -, hcarry, -⟩ := hc x hx
    exact ⟨h₁, target, o, hcarry⟩
  · intro t id c hl
    have hmove := Move.upkeep h (.close t)
    have hclose : (h.close t).1.controller.queue = h.controller.queue :=
      (quiet_close t).controller.queue
    have hrefs :=
      connectionRefs_eq ((quiet_close t).batch.trans hb) (ht.move hmove) (ho.move hmove) id
    rw [if_neg (ho.not_open_close hl), Nat.zero_add, hclose] at hrefs
    exact hrefs
  · intro x hx
    refine hc x ?_
    rw [inFlight_eq]
    exact List.mem_append_left _ hx

/-- Two transfers are in flight when the token of their device is closed. -/
def lingering : List Act :=
  [.upkeep (.resolve .standard), .upkeep (.adopt 1), .upkeep (.setPacketSize 1 ⟨0x82⟩ 4),
    .allocate ⟨0, 0⟩ ⟨0x82⟩ 2 none, .upkeep (.addBuffer (.zeroed 8)),
    .upkeep (.addTarget .recorder), .place 0 (.stream 0 0 0),
    .place 0 (.transfer ⟨0, 0⟩
      { route := .bulk ⟨0x81⟩, buffer := [], offset := 0, length := 4, timeout := 0 }),
    .upkeep (.close ⟨0, 0⟩)]

theorem lingering_retained :
    ∃ history, Run fresh history (after lingering) ∧ (after lingering).batch = [] ∧
      Retained history (after lingering) ∧ ¬ (after lingering).Open 0 ∧
      (after lingering).targetRefs 0 = 2 ∧ (after lingering).bufferRefs 0 = 2 ∧
      (after lingering).connectionRefs 0 = 2 := by
  obtain ⟨history, hr, hb⟩ := after_run lingering
  exact ⟨history, hr, hb, retained_between_calls hr hb, by decide, by decide, by decide, by decide⟩

end Host

end UsbTransfer
