import UsbTransfer.Proofs.Pass

namespace UsbTransfer

def Target.tell (m : Message) : Target → Target
  | .recorder => .recorder
  | .channel c => .channel (c.send m).1

def Pending.message (p : Pending) (kind : TransferKind) (data : Option Bytes) (result : Outcome) :
    Message :=
  if kind = .isochronous then .filled p.buffer result else .received kind data result

def Note.heard (t : TargetId) : Note → List Delivery
  | .notified d => if d.target = t ∧ d.notifier = .forward then [d] else []
  | _ => []

namespace Host

/-- What a target was told, oldest first. A recorder sees the completions of it. -/
def told (h : SimulatedHost) (t : TargetId) : List Delivery :=
  h.deliveries.filter fun d => d.target = t ∧ d.notifier = .forward

def withTargets (h : SimulatedHost) (targets : List Target) : SimulatedHost := { h with targets }

variable {h h' : SimulatedHost} {history : List Note} {n : Note} {targets : List Target}
  {t : TargetId} {T : Target}

section Agree

variable (h : SimulatedHost) (targets : List Target)

theorem handOver_withTargets (device : UInt32) (x : Transfer) (slot : Option StreamId) :
    (h.withTargets targets).handOver device x slot =
      ((h.handOver device x slot).1.withTargets targets, (h.handOver device x slot).2) := by
  have hc : (h.withTargets targets).controller = h.controller := rfl
  have hb : (h.withTargets targets).buffers = h.buffers := rfl
  unfold handOver
  rw [hc, hb]
  rcases Controller.submit h.controller device x h.buffers with ⟨c, m, _ | ⟨e, y⟩⟩
  · rfl
  · cases slot <;> rfl

theorem submit_withTargets (target : TargetId) (t : Token) (r : Request) :
    (h.withTargets targets).submit target t r =
      ((h.submit target t r).1.withTargets targets, (h.submit target t r).2) := by
  have ha : (h.withTargets targets).admission t = h.admission t := rfl
  simp only [submit, ha]
  rcases h.admission t with e | ⟨contracts, id, c⟩
  · rfl
  · dsimp only
    split
    · rfl
    · exact h.draw.handOver_withTargets targets c.device _ none

theorem submitStream_withTargets (target : TargetId) (id : StreamId) (s : Stream) (b : BufferId)
    (timeout : UInt32) :
    (h.withTargets targets).submitStream target id s b timeout =
      ((h.submitStream target id s b timeout).1.withTargets targets,
        (h.submitStream target id s b timeout).2) := by
  have ha : (h.withTargets targets).admission s.token = h.admission s.token := rfl
  have hb : (h.withTargets targets).buffers = h.buffers := rfl
  simp only [submitStream, ha, hb]
  rcases h.admission s.token with e | ⟨contracts, connection, c⟩
  · rfl
  · dsimp only
    split
    · rfl
    · rcases s.slot with _ | x
      · rfl
      · exact (h.draw.setSlot id none).handOver_withTargets targets c.device _ (some id)

theorem place_withTargets (target : TargetId) (o : Order) :
    (h.withTargets targets).place target o =
      ((h.place target o).1.withTargets targets, (h.place target o).2) := by
  cases o with
  | transfer t r => simp only [place, submit_withTargets]
  | stream id b timeout =>
    have hi : (h.withTargets targets).streams = h.streams := rfl
    simp only [place, hi]
    cases h.streams[id]? with
    | none => rfl
    | some s => simp only [submitStream_withTargets]

theorem allocate_withTargets (t : Token) (e : Endpoint) (packets : Nat) (given : Option Nat) :
    ((h.withTargets targets).allocate t e packets given).1 =
      (h.allocate t e packets given).1.withTargets targets := by
  have hl : (h.withTargets targets).lookup t = h.lookup t := rfl
  unfold allocate
  rw [hl]
  rcases h.lookup t with er | ⟨id, c⟩
  · rfl
  · dsimp only
    split
    · rfl
    · dsimp only [withTargets]
      split <;> rfl

theorem perform_withTargets (u : Upkeep) :
    ∃ targets', (h.withTargets targets).perform u = (h.perform u).withTargets targets' := by
  cases u with
  | receive t | dropTarget t | dropReceiver t =>
    -- only the receivers change, in either host
    simp only [perform, dropTarget, dropReceiver]
    split <;> split <;> exact ⟨_, rfl⟩
  | addTarget target => exact ⟨targets ++ [target], rfl⟩
  | close t =>
    have hl : (h.withTargets targets).lookup t = h.lookup t := rfl
    refine ⟨targets, ?_⟩
    simp only [perform, close, hl]
    split
    · rfl
    · simp only [reap_eq]
      rfl
  | beginDrain t | operate t op =>
    have hl : (h.withTargets targets).lookup t = h.lookup t := rfl
    refine ⟨targets, ?_⟩
    simp only [perform, beginDrain, operate, hl]
    split <;> rfl
  | resolve r =>
    refine ⟨targets, ?_⟩
    simp only [perform, resolve]
    split <;> rfl
  | adopt | endDrain | refuseNext | setPacketSize | hold | release | disconnect | addBuffer | write
  | setValid | answer | leave => exact ⟨targets, rfl⟩

theorem deliver_withTargets (x : Transfer) (p : Pending) (result : Outcome) (data : Option Bytes) :
    ∃ targets', (h.withTargets targets).deliver x p result data =
      (h.deliver x p result data).withTargets targets' := by
  obtain ⟨ts, ht⟩ := h.deliver_eq x p result data
  obtain ⟨ts', ht'⟩ := (h.withTargets targets).deliver_eq x p result data
  refine ⟨ts', ?_⟩
  rw [ht, ht', retire_eq, retire_eq]
  cases hb : p.buffer <;> cases p.park <;> split <;> simp only [deliveryOf, hb] <;> rfl

theorem call_withTargets (call : Call) :
    (h.withTargets targets).run call =
      (h.run call).map fun q => (q.1.withTargets targets, q.2) := by
  have hc : (h.withTargets targets).connections = h.connections := rfl
  unfold run
  rw [hc]
  rcases h.connections[call.connection]? with _ | c
  · rfl
  · dsimp only
    rw [Option.map_map]
    rfl

end Agree

/-- No step looks at who is listening. -/
theorem move_withTargets (hm : Move h n h') (targets : List Target) :
    ∃ targets', Move (h.withTargets targets) n (h'.withTargets targets') := by
  cases hm with
  | upkeep u =>
    obtain ⟨targets', ht⟩ := h.perform_withTargets targets u
    exact ⟨targets', by rw [← ht]; exact .upkeep _ u⟩
  | allocate t e packets given =>
    refine ⟨targets, ?_⟩
    rw [← allocate_withTargets]
    exact .allocate _ t e packets given
  | script device e r => exact ⟨targets, .script _ device e r⟩
  | @exchange _ call c buffer result hc hd hr =>
    have hrun : (h.withTargets targets).run call =
        some (h'.withTargets targets, buffer, result) := by
      rw [call_withTargets, hr]
      rfl
    exact ⟨targets, .exchange hc hd hrun⟩
  | place target o =>
    have hp := h.place_withTargets targets target o
    have hm := Move.place (h.withTargets targets) target o
    rw [hp] at hm
    exact ⟨targets, hm⟩
  | poll hb => exact ⟨targets, .poll hb⟩
  | @deliver x rest p result data hb hp hs =>
    obtain ⟨targets', ht⟩ := deliver_withTargets { h with batch := rest } targets x p result data
    have hm := Move.deliver (h := h.withTargets targets) hb hp hs
    have hd : (h.withTargets targets).deliveryOf x p result data =
        h.deliveryOf x p result data := by
      unfold deliveryOf
      cases p.buffer <;> rfl
    rw [hd] at hm
    exact ⟨targets', by rw [← ht]; exact hm⟩

theorem run_withTargets (hr : Run h history h') (targets : List Target) :
    ∃ targets', Run (h.withTargets targets) history (h'.withTargets targets') := by
  induction hr with
  | refl => exact ⟨targets, .refl _⟩
  | snoc _ hm ih =>
    obtain ⟨ts, hr'⟩ := ih
    obtain ⟨ts', hm'⟩ := move_withTargets hm ts
    exact ⟨ts', hr'.snoc hm'⟩

theorem channel?_eq_some {c : Channel Message} :
    h.channel? t = some c ↔ h.targets[t]? = some (.channel c) := by
  unfold channel?
  split <;> simp_all

theorem targets_announce (h : SimulatedHost) (id : TransferId) (p : Pending) (kind : TransferKind)
    (data : Option Bytes) (result : Outcome) (t : TargetId) :
    (h.announce id p kind data result).targets[t]? =
      if t = p.target ∧ p.contracts.notifier kind = .forward then
        (h.targets[t]?).map (.tell (p.message kind data result))
      else h.targets[t]? := by
  have hlog : ∀ e, (h.log e).channel? p.target = h.channel? p.target := fun _ => rfl
  have hmessage : (if kind = .isochronous then .filled p.buffer result
    else .received kind data result) = p.message kind data result := rfl
  simp only [announce, hlog, hmessage]
  split
  · rename_i c hn hc
    have hp : h.targets[p.target]? = some (.channel c) := channel?_eq_some.1 hc
    by_cases ht : t = p.target
    · subst ht
      have hlt := (List.getElem?_eq_some_iff.1 hp).1
      rw [if_pos ⟨rfl, hn⟩, hp]
      exact List.getElem?_set_self hlt
    · rw [if_neg fun h => ht h.1]
      exact List.getElem?_set_ne (Ne.symm ht)
  · rename_i hnone
    split
    · rename_i hin
      obtain ⟨rfl, hn⟩ := hin
      change h.targets[p.target]? = _
      rcases ht : h.targets[p.target]? with _ | ⟨_ | c⟩
      · rfl
      · rfl
      · exact absurd (channel?_eq_some.2 ht) (hnone c hn)
    · rfl

theorem targets_deliver (h : SimulatedHost) (x : Transfer) (p : Pending) (result : Outcome)
    (data : Option Bytes) (t : TargetId) :
    (h.deliver x p result data).targets[t]? =
      if t = p.target ∧ p.contracts.notifier x.kind = .forward then
        (h.targets[t]?).map (.tell (p.message x.kind data result))
      else h.targets[t]? := by
  rw [deliver, retire_mark, targets_announce]

theorem targets_place (h : SimulatedHost) (target : TargetId) (o : Order) :
    (h.place target o).1.targets = h.targets := by
  rcases h.place_outcome target o with ⟨hp, -⟩ | ⟨device, x, c, e, -, -, hp⟩ | ⟨device, x, -, hp⟩
  · rw [hp]
  · rw [hp]
    cases hx : x.slot? <;> simp only [turnedAway, hx] <;> rfl
  · rw [hp]
    cases hx : x.slot? <;> simp only [queued, hx] <;> rfl

theorem target_setChannel {v : TargetId} {c : Channel Message} (c' : Channel Message)
    (hc : h.channel? v = some c) (ht : h.targets[t]? = some T) :
    (h.setChannel v c').targets[t]? = some T ∨
      (v = t ∧ T = .channel c ∧ (h.setChannel v c').targets[t]? = some (.channel c')) := by
  by_cases hv : v = t
  · subst hv
    have hlt := (List.getElem?_eq_some_iff.1 ht).1
    exact .inr ⟨rfl, Option.some.inj (ht.symm.trans (channel?_eq_some.1 hc)),
      List.getElem?_set_self hlt⟩
  · exact .inl ((List.getElem?_set_ne hv).trans ht)

theorem target_perform (u : Upkeep) (ht : h.targets[t]? = some T) :
    (h.perform u).targets[t]? = some T ∨ ∃ c c', T = .channel c ∧
      (h.perform u).targets[t]? = some (.channel c') ∧
        (u = .receive t ∨ u = .dropReceiver t ∨ (u = .dropTarget t ∧ c' = c.dropSender)) := by
  cases u with
  | addTarget target =>
    exact .inl ((List.getElem?_append_left (List.getElem?_eq_some_iff.1 ht).1).trans ht)
  | receive v =>
    simp only [perform]
    split
    · exact .inl ht
    · rename_i c' m hb
      obtain ⟨c, hc, -⟩ := Option.bind_eq_some_iff.1 hb
      rcases target_setChannel c' hc ht with hk | ⟨rfl, rfl, hs⟩
      · exact .inl hk
      · exact .inr ⟨c, c', rfl, hs, .inl rfl⟩
  | dropTarget v =>
    simp only [perform, dropTarget]
    split
    · rename_i c hc
      rcases target_setChannel c.dropSender hc ht with hk | ⟨rfl, rfl, hs⟩
      · exact .inl hk
      · exact .inr ⟨c, _, rfl, hs, .inr (.inr ⟨rfl, rfl⟩)⟩
    · exact .inl ht
  | dropReceiver v =>
    simp only [perform, dropReceiver]
    split
    · rename_i c hc
      rcases target_setChannel c.dropReceiver hc ht with hk | ⟨rfl, rfl, hs⟩
      · exact .inl hk
      · exact .inr ⟨c, _, rfl, hs, .inr (.inl rfl)⟩
    · exact .inl ht
  | close token =>
    simp only [perform, close]
    split
    · exact .inl ht
    · rw [reap_eq]
      exact .inl ht
  | resolve | beginDrain | operate =>
    simp only [perform, resolve, beginDrain, operate]
    split <;> exact .inl ht
  | adopt | endDrain | refuseNext | setPacketSize | hold | release | disconnect | addBuffer | write
  | setValid | answer | leave => exact .inl ht

inductive Addressed (h h' : SimulatedHost) (t : TargetId) (T : Target) : Note → Prop
  | kept {n : Note} (hn : n.heard t = []) (ht : h'.targets[t]? = some T) : Addressed h h' t T n
  | ended {u : Upkeep} (c c' : Channel Message) (hc : T = .channel c)
      (ht : h'.targets[t]? = some (.channel c'))
      (hu : u = .receive t ∨ u = .dropReceiver t ∨ (u = .dropTarget t ∧ c' = c.dropSender)) :
      Addressed h h' t T (.upkeep u)
  | told (x : Transfer) (p : Pending) (result : Outcome) (data : Option Bytes) (hx : x ∈ h.inFlight)
      (hp : x.pending = some p) (hs : h.settle x = some (result, data)) (hpt : p.target = t)
      (hf : p.contracts.notifier x.kind = .forward)
      (hb : h'.buffers = (h.mark p.buffer result).buffers)
      (ht : h'.targets[t]? = some (T.tell (p.message x.kind data result))) :
      Addressed h h' t T (.notified (h.deliveryOf x p result data))

theorem addressed_move (hm : Move h n h') (ht : h.targets[t]? = some T) : Addressed h h' t T n := by
  cases hm with
  | upkeep u =>
    rcases target_perform u ht with hk | ⟨c, c', hc, hs, hu⟩
    · exact .kept rfl hk
    · exact .ended c c' hc hs hu
  | allocate token e packets given =>
    refine .kept rfl ?_
    rcases h.allocate_cases token e packets given with he | ⟨packetLength, he⟩ <;> rwa [he]
  | script device e r => exact .kept rfl ht
  | exchange hc hd hr =>
    obtain ⟨sent, rfl⟩ := run_eq hc hd hr
    exact .kept rfl ht
  | place target o => exact .kept rfl (by rwa [targets_place])
  | poll hb => exact .kept rfl ht
  | @deliver x rest p result data hb hp hs =>
    have htold := targets_deliver { h with batch := rest } x p result data t
    by_cases hin : t = p.target ∧ p.contracts.notifier x.kind = .forward
    · rw [if_pos hin] at htold
      refine .told x p result data (by simp [inFlight_eq, hb]) hp hs hin.1.symm hin.2 ?_
        (htold.trans (congrArg (Option.map _) ht))
      rw [buffers_deliver]
      cases p.buffer <;> rfl
    · rw [if_neg hin] at htold
      exact .kept (if_neg fun hd => hin ⟨hd.1.symm, hd.2⟩) (htold.trans ht)

theorem recorder_run (hr : Run h history h') (ht : h.targets[t]? = some .recorder) :
    h'.targets[t]? = some .recorder := by
  induction hr with
  | refl => exact ht
  | snoc _ hm ih =>
    rcases addressed_move hm ih with ⟨-, hk⟩ | ⟨c, c', hc, -⟩ | ⟨_, _, _, _, _, _, _, _, _, _, hk⟩
    · exact hk
    · cases hc
    · exact hk

theorem told_move (hm : Move h n h') (t : TargetId) : h'.told t = h.told t ++ n.heard t := by
  cases hn : n.dispatching with
  | false =>
    have hheard : n.heard t = [] := by
      cases n with
      | notified d => cases hn
      | upkeep | allocated | scripted | exchanged | placed | polled => rfl
    rw [told, told, (batch_move hm hn).2, hheard, List.append_nil]
  | true =>
    cases hm with
    | poll hb => exact (List.append_nil _).symm
    | deliver hb hp hs =>
      rw [told, deliveries_deliver, deliveryOf_batch, List.filter_append]
      refine congrArg (List.append _) ?_
      generalize h.deliveryOf _ _ _ _ = d
      by_cases hd : d.target = t ∧ d.notifier = .forward
      · simp [Note.heard, hd]
      · rw [Note.heard, if_neg hd, List.filter_cons_of_neg (by simpa using hd)]
        rfl
    | upkeep | allocate | script | exchange | place => cases hn

end Host

end UsbTransfer
