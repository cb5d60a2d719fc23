import UsbTransfer.Proofs.Occupancy
import UsbTransfer.Proofs.Refusal

namespace UsbTransfer

namespace Host

variable {h : SimulatedHost} {t : Token} {target : TargetId} {o : Order} {id : ConnectionId}
  {c : Connection UInt32}

theorem connections_deliver (h : SimulatedHost) (x : Transfer) (p : Pending) (result : Outcome)
    (data : Option Bytes) : (h.deliver x p result data).connections = h.connections := by
  obtain ⟨targets, ht⟩ := Host.deliver_eq h x p result data
  rw [ht]

theorem connections_react (h : SimulatedHost) (target : TargetId) (orders : List Order) :
    (h.react target orders).connections = h.connections := by
  induction orders generalizing h with
  | nil => rfl
  | cons o rest ih =>
    simp only [react]
    rw [ih]
    split
    · exact (h.standing_place target o).connections
    · rfl

theorem connections_dispatch (reactions : Reactions) (h : SimulatedHost) (x : Transfer) :
    (dispatch reactions h x).1.connections = h.connections := by
  rcases hp : x.pending with _ | p
  · simp only [dispatch, hp, reap?_eq]
  · rcases hs : h.settle x with _ | ⟨result, data⟩
    · simp only [dispatch, hp, hs, reap?_eq]
    · obtain ⟨r, -, hd⟩ := dispatch_eq reactions h hp hs
      rw [hd]
      exact (connections_react _ _ _).trans (h.connections_deliver x p result data)

theorem connections_reapAll (h : SimulatedHost) (xs : List Transfer) :
    (xs.foldl (fun h x => h.reap? x.connection) h).connections = h.connections := by
  simp

theorem connections_dispatchAll (reactions : Reactions) (h : SimulatedHost) (xs : List Transfer) :
    (dispatchAll reactions h xs).1.connections = h.connections := by
  induction xs generalizing h with
  | nil => rfl
  | cons x rest ih =>
    have hd := connections_dispatch reactions { h with batch := rest } x
    rw [dispatchAll]
    split
    · rename_i k hk
      rw [hk] at hd
      exact (ih k).trans hd
    · rename_i k hk
      rw [hk] at hd
      exact (connections_reapAll _ rest).trans hd

theorem connections_processEvents (reactions : Reactions) (h : SimulatedHost)
    (timeout : Option Nat) :
    (h.processEvents reactions timeout).1.connections = h.connections := by
  have hpoll : Controller.poll h.controller h.buffers timeout =
    (h.controller.poll.1, h.buffers, .finished h.controller.queue) := rfl
  have hd := connections_dispatchAll reactions
    { h with controller := h.controller.poll.1, batch := h.controller.queue } h.controller.queue
  simp only [processEvents, hpoll]
  split
  · rename_i k hk
    rw [hk] at hd
    exact hd
  · rename_i k hk
    rw [hk] at hd
    exact hd

theorem connections_shutDown (h : SimulatedHost) : h.shutDown.connections = h.connections := by
  have hall : ∀ (tokens : List Token) (h : SimulatedHost),
      (tokens.foldl (fun h t => (h.close t).1) h).connections = h.connections := by
    intro tokens
    induction tokens with
    | nil => exact fun h => rfl
    | cons t tokens ih => exact fun h => (ih _).trans (h.connections_close t)
  exact hall h.devices.tokens h

def undrained (h : SimulatedHost) : SimulatedHost :=
  { h with connections := h.connections.map fun c => { c with draining := 0 } }

/-- An order that is wrong in itself, or whose stream is still in flight. -/
inductive Unfit (h : SimulatedHost) : Order → HostError → Prop
  | region {t : Token} {r : Request} (hd : r.route.direction = .hostToDevice)
      (hr : ¬ r.region.Fits r.buffer.length) : Unfit h (.transfer t r) (.usb .invalidParam)
  | capacity {id : StreamId} {b : BufferId} {timeout : UInt32} {s : Stream}
      (hs : h.streams[id]? = some s) (hb : h.buffers.capacity b < s.capacity) :
      Unfit h (.stream id b timeout) (.usb .invalidParam)
  | flying {id : StreamId} {b : BufferId} {timeout : UInt32} {s : Stream}
      (hs : h.streams[id]? = some s) (hd : s.slot = none) :
      Unfit h (.stream id b timeout) (.usb .busy)

theorem admission_of_lookup {contracts : Contracts} (hc : h.contracts = some contracts)
    (hl : h.lookup t = .ok (id, c)) :
    h.admission t = if 0 < c.draining then .error (.usb .busy) else .ok (contracts, id, c) := by
  simp only [admission, hc, hl]

theorem place_of_admission_error {e : HostError} (ht : h.token? o = some t)
    (ha : h.admission t = .error e) : h.place target o = (h, .refused e) := by
  cases o with
  | transfer u r =>
    obtain rfl : u = t := Option.some.inj ht
    simp [place, submit, ha, Answer.ofExcept]
  | stream i b timeout =>
    obtain ⟨s, hs, rfl⟩ := Option.map_eq_some_iff.1 ht
    simp [place, hs, submitStream, ha, Answer.ofExcept]

theorem unfit_of_barred {contracts : Contracts} {e : HostError} (ht : h.token? o = some t)
    (ha : h.admission t = .ok (contracts, id, c)) (hb : h.Barred o e) : h.Unfit o e := by
  have hl := lookup_of_admission ha
  cases hb with
  | uninitialized hc =>
    rw [contracts_of_admission ha] at hc
    cases hc
  | stale ht' hl' =>
    obtain rfl := Option.some.inj (ht.symm.trans ht')
    rw [hl] at hl'
    cases hl'
  | draining ht' hl' hd =>
    obtain rfl := Option.some.inj (ht.symm.trans ht')
    rw [hl] at hl'
    cases hl'
    rw [admission_of_lookup (contracts_of_admission ha) hl, if_pos hd] at ha
    cases ha
  | region hd hr => exact .region hd hr
  | capacity hs hb => exact .capacity hs hb
  | flying hs hd => exact .flying hs hd

theorem refused_of_admitted {contracts : Contracts} {e : HostError} {h' : SimulatedHost}
    (ht : h.token? o = some t) (ha : h.admission t = .ok (contracts, id, c))
    (hp : h.place target o = (h', .refused e)) :
    (h.Unfit o e ∧ h' = h) ∨ ∃ u, e = .usb u ∧ h.controller.Refuses u := by
  rcases h.place_cases target o with hn | ⟨e', hb, hn⟩ | ⟨device, x, hd⟩
  · rw [hp] at hn
    cases hn
  · rw [hp] at hn
    cases hn
    exact .inl ⟨unfit_of_barred ht ha hb, rfl⟩
  · right
    have hoffer := place_of_drafts hd
    rw [hp, offer] at hoffer
    rcases hc : h.controller.refusal with ⟨k, _ | u⟩
    · rw [hc] at hoffer
      cases hoffer
    · rw [hc] at hoffer
      cases hoffer
      exact ⟨u, rfl, (Simulated.refuses_of_refusal hc).1⟩

theorem lookup_undrained (h : SimulatedHost) (t : Token) :
    h.undrained.lookup t = (h.lookup t).map fun (id, c) => (id, { c with draining := 0 }) := by
  unfold lookup
  have hd : h.undrained.devices = h.devices := rfl
  rw [hd]
  rcases h.devices.get? t with _ | id
  · rfl
  · simp only [undrained, List.getElem?_map]
    rcases h.connections[id]? with _ | c <;> rfl

theorem call_undrained (h : SimulatedHost) (t : Token) (r : Request) :
    h.undrained.call t r = h.call t r := by
  unfold call
  rw [lookup_undrained]
  rcases h.lookup t with e | ⟨id, c⟩ <;> rfl

theorem run_undrained (h : SimulatedHost) (call : Call) :
    h.undrained.run call =
      (h.run call).map fun (h, buffer, result) => (h.undrained, buffer, result) := by
  unfold run
  have hc : h.undrained.connections[call.connection]? =
      h.connections[call.connection]?.map fun c => { c with draining := 0 } := List.getElem?_map
  have hk : h.undrained.controller = h.controller := rfl
  rw [hc, hk]
  rcases h.connections[call.connection]? with _ | c
  · rfl
  · simp only [Option.map_some]
    rcases Controller.exchange h.controller c.device call.request.route call.request.payload
      call.request.timeout with _ | ⟨k, region, out⟩ <;> rfl

theorem exchange_undrained (h : SimulatedHost) (t : Token) (r : Request) :
    h.undrained.exchange t r =
      (h.exchange t r).map fun (h, buffer, result) => (h.undrained, buffer, result) := by
  unfold exchange
  rw [call_undrained]
  rcases h.call t r with e | call
  · rfl
  · exact h.run_undrained call

end Host

def Note.drains : Note → Bool
  | .upkeep (.beginDrain _) | .upkeep (.endDrain _) => true
  | _ => false

namespace Host

variable {h h' : SimulatedHost} {n : Note}

theorem connections_move (hm : Move h n h') (hn : n.drains = false) :
    h'.connections = h.connections ∨
      ∃ device, h'.connections = h.connections ++ [{ device := device }] := by
  cases governed_move hm with
  | kept _ hs => exact .inl hs.connections
  | resolved r he =>
    rw [he, resolve]
    split <;> exact .inl rfl
  | adopted device he => exact .inr ⟨device, congrArg Host.connections he⟩
  | closed t he => exact .inl (he ▸ h.connections_close t)
  | begun | ended => cases hn

end Host

abbrev SimulatedSession := Session Simulated UInt32

namespace Session

def Guarded (s : SimulatedSession) (id : ConnectionId) : Prop := some id ∈ s.guards

instance (s : SimulatedSession) (id : ConnectionId) : Decidable (s.Guarded id) :=
  inferInstanceAs (Decidable (_ ∈ _))

/-- One step of a session. Drains begin and end only with their guards. -/
inductive Step : SimulatedSession → SimulatedSession → Prop
  | move {s : SimulatedSession} {n : Note} {h : SimulatedHost} (hm : Move s.host n h)
      (hn : n.drains = false) : Step s { s with host := h }
  | beginDrain (s : SimulatedSession) (t : Token) : Step s (s.beginDrain t).1
  | dropGuard (s : SimulatedSession) (g : Nat) : Step s (s.dropGuard g)
  | processEvents (reactions : Reactions) (s : SimulatedSession) (timeout : Option Nat) :
      Step s (s.processEvents reactions timeout).1
  | letGo (s : SimulatedSession) : Step s s.letGo
  -- what concerns the pumps and the threads only
  | aside {s s' : SimulatedSession} (hh : s'.host = s.host) (hg : s'.guards = s.guards) : Step s s'

def Steps : SimulatedSession → SimulatedSession → Prop := Relation.ReflTransGen Step

structure Counted (s : SimulatedSession) : Prop where
  count : ∀ id c, s.host.connections[id]? = some c → c.draining = s.guards.count (some id)
  bounded : ∀ id, s.Guarded id → id < s.host.connections.length

variable {s s' : SimulatedSession} {t : Token} {id : ConnectionId} {c : Connection UInt32} {g : Nat}

theorem Counted.keep (hs : Counted s) (hg : s'.guards = s.guards)
    (hc : s'.host.connections = s.host.connections) : Counted s' := by
  refine ⟨fun id c hi => ?_, fun id hid => ?_⟩
  · rw [hc] at hi
    rw [hg]
    exact hs.count id c hi
  · rw [hc]
    exact hs.bounded id (by rwa [Guarded, hg] at hid)

theorem Counted.not_guarded (hs : Counted s) : ¬ s.Guarded s.host.connections.length := fun hg =>
  Nat.lt_irrefl _ (hs.bounded _ hg)

theorem Counted.adopt (hs : Counted s) (hg : s'.guards = s.guards) {device : UInt32}
    (hc : s'.host.connections = s.host.connections ++ [{ device := device }]) : Counted s' := by
  refine ⟨fun id c hi => ?_, fun id hid => ?_⟩
  · rw [hc, List.getElem?_append] at hi
    rw [hg]
    split at hi
    · exact hs.count id c hi
    · rename_i hle
      obtain ⟨hz, hnew⟩ := List.getElem?_eq_some_iff.1 hi
      obtain rfl : id = s.host.connections.length :=
        Nat.le_antisymm (Nat.sub_eq_zero_iff_le.1 (Nat.lt_one_iff.1 hz)) (Nat.not_lt.1 hle)
      simp only [Nat.sub_self, List.getElem_cons_zero] at hnew
      rw [← hnew, List.count_eq_zero_of_not_mem hs.not_guarded]
  · rw [hc, List.length_append]
    exact Nat.lt_succ_of_lt (hs.bounded id (by rwa [Guarded, hg] at hid))

theorem guards_beginDrain (hl : s.host.lookup t = .ok (id, c)) :
    (s.beginDrain t).1.guards = s.guards ++ [some id] := by
  simp only [Session.beginDrain, Host.beginDrain, hl]

theorem Counted.beginDrain (hs : Counted s) (t : Token) : Counted (s.beginDrain t).1 := by
  rcases hl : s.host.lookup t with e | ⟨id, c⟩
  · simp only [Session.beginDrain, Host.beginDrain, hl]
    exact hs.keep rfl rfl
  · have hc := Host.connection_of_lookup hl
    have hlt := (List.getElem?_eq_some_iff.1 hc).1
    simp only [Session.beginDrain, Host.beginDrain, hl]
    refine ⟨fun j d hj => ?_, fun j hj => ?_⟩
    · rw [List.getElem?_modify] at hj
      obtain ⟨d₀, hd₀, rfl⟩ := Option.map_eq_some_iff.1 hj
      have hcount := hs.count j d₀ hd₀
      rw [List.count_append, List.count_singleton]
      by_cases he : id = j
      · simp [he, hcount]
      · simp [he, hcount]
    · rw [List.length_modify]
      rcases List.mem_append.1 hj with hj | hj
      · exact hs.bounded j hj
      · cases List.mem_singleton.1 hj
        exact hlt

theorem Counted.pos (hs : Counted s) (hg : s.guards[g]? = some (some id)) :
    ∃ c, s.host.connections[id]? = some c ∧ 0 < c.draining := by
  have hmem : s.Guarded id := List.mem_of_getElem? hg
  have hi := List.getElem?_eq_getElem (hs.bounded id hmem)
  refine ⟨_, hi, ?_⟩
  rw [hs.count id _ hi]
  exact List.count_pos_iff.2 hmem

theorem dropGuard_eq (hg : s.guards[g]? = some (some id)) (hc : s.host.connections[id]? = some c) :
    s.dropGuard g =
      { s with
        host := { s.host with
          connections := s.host.connections.set id { c with draining := c.draining - 1 } }
        guards := s.guards.set g none } := by
  have hset : s.host.connections.modify id (fun c => { c with draining := c.draining - 1 }) =
      s.host.connections.set id { c with draining := c.draining - 1 } := by
    rw [List.modify_eq_set_getElem?, hc]
    rfl
  simp only [Session.dropGuard, hg, Option.join_some, Host.endDrain, hset]

theorem Counted.dropGuard (hs : Counted s) (g : Nat) : Counted (s.dropGuard g) := by
  rcases hg : s.guards[g]?.join with _ | id
  · simp only [Session.dropGuard, hg]
    exact hs
  · have hg' : s.guards[g]? = some (some id) := Option.join_eq_some_iff.1 hg
    obtain ⟨hlt, hget⟩ := List.getElem?_eq_some_iff.1 hg'
    obtain ⟨c, hc, hpos⟩ := hs.pos hg'
    rw [dropGuard_eq hg' hc]
    refine ⟨fun j d hj => ?_, fun j hj => ?_⟩
    · rw [List.getElem?_set] at hj
      rw [List.count_set hlt, hget]
      by_cases he : id = j
      · subst he
        rw [if_pos rfl, if_pos (List.getElem?_eq_some_iff.1 hc).1] at hj
        obtain rfl := Option.some.inj hj
        simp [hs.count id c hc]
      · rw [if_neg he] at hj
        simp [he, hs.count j d hj]
    · rw [List.length_set]
      rcases List.mem_or_eq_of_mem_set hj with hj | hj
      · exact hs.bounded j hj
      · cases hj

theorem Counted.letGo (hs : Counted s) : Counted s.letGo := by
  unfold Session.letGo
  split
  · exact hs.keep rfl s.host.connections_shutDown
  · exact hs

theorem Counted.step (hs : Counted s) (hstep : Step s s') : Counted s' := by
  cases hstep with
  | move hm hn =>
    rcases Host.connections_move hm hn with hc | ⟨device, hc⟩
    · exact hs.keep rfl hc
    · exact hs.adopt rfl hc
  | beginDrain _ t => exact hs.beginDrain t
  | dropGuard _ g => exact hs.dropGuard g
  | processEvents reactions _ timeout =>
    have hkeep : Counted { s with host := (s.host.processEvents reactions timeout).1 } :=
      hs.keep rfl (Host.connections_processEvents reactions s.host timeout)
    exact hkeep.letGo
  | letGo => exact hs.letGo
  | aside hh hg => exact hs.keep hg (by rw [hh])

theorem Counted.steps (hs : Counted s) (hsteps : Steps s s') : Counted s' := by
  induction hsteps with
  | refl => exact hs
  | tail _ hstep ih => exact ih.step hstep

theorem Counted.draining_iff (hs : Counted s) (hl : s.host.lookup t = .ok (id, c)) :
    0 < c.draining ↔ s.Guarded id := by
  rw [hs.count id c (Host.connection_of_lookup hl)]
  exact List.count_pos_iff

theorem guards_step (hs : Step s s') : s'.guards = s.guards ∨
    (∃ t id c, s.host.lookup t = .ok (id, c) ∧ s' = (s.beginDrain t).1 ∧
      s'.guards = s.guards ++ [some id]) ∨
    ∃ g, s' = s.dropGuard g ∧ s'.guards = s.guards.set g none := by
  have hgone : ∀ s : SimulatedSession, s.letGo.guards = s.guards := by
    intro s
    unfold Session.letGo
    split <;> rfl
  cases hs with
  | move hm hn => exact .inl rfl
  | beginDrain _ t =>
    rcases hl : s.host.lookup t with e | ⟨id, c⟩
    · left
      simp only [Session.beginDrain, Host.beginDrain, hl]
    · exact .inr (.inl ⟨t, id, c, hl, rfl, guards_beginDrain hl⟩)
  | dropGuard _ g =>
    rcases hg : s.guards[g]?.join with _ | id
    · left
      simp only [Session.dropGuard, hg]
    · refine .inr (.inr ⟨g, rfl, ?_⟩)
      simp only [Session.dropGuard, hg]
  | processEvents reactions _ timeout => exact .inl (hgone _)
  | letGo => exact .inl (hgone s)
  | aside hh hg => exact .inl hg

/-- A living guard was given out for its connection, through a token that named it then. -/
def Obtained (s : SimulatedSession) (g : Nat) (id : ConnectionId) (s' : SimulatedSession) : Prop :=
  ∃ s₁ t c, Steps s s₁ ∧ s₁.host.lookup t = .ok (id, c) ∧ s₁.guards.length = g ∧
    Steps (s₁.beginDrain t).1 s'

theorem obtained_of_steps {s₀ : SimulatedSession} (h₀ : s₀.guards = []) (hr : Steps s₀ s)
    (hg : s.guards[g]? = some (some id)) : Obtained s₀ g id s := by
  induction hr with
  | refl => simp [h₀] at hg
  | @tail s s' hr hs ih =>
    have hlater : s.guards[g]? = some (some id) → Obtained s₀ g id s' := by
      intro hold
      obtain ⟨s₁, t, c, hs₁, hl, hlen, hafter⟩ := ih hold
      exact ⟨s₁, t, c, hs₁, hl, hlen, hafter.tail hs⟩
    rcases guards_step hs with hk | ⟨t, j, c, hl, rfl, hk⟩ | ⟨j, -, hk⟩
    · exact hlater (by rwa [hk] at hg)
    · rw [hk, List.getElem?_append] at hg
      split at hg
      · exact hlater hg
      · rename_i hge
        obtain ⟨hz, hj⟩ := List.getElem?_eq_some_iff.1 hg
        have hlen : s.guards.length = g := by
          simp only [List.length_singleton] at hz
          omega
        obtain rfl : j = id := by simpa [hlen] using hj
        exact ⟨s, t, c, hr, hl, hlen, .refl⟩
    · rw [hk, List.getElem?_set] at hg
      split at hg
      · split at hg
        · cases hg
        · cases hg
      · exact hlater hg

theorem lasting_of_steps (hr : Steps s s') (hg : s.guards[g]? = some (some id)) :
    s'.guards[g]? = some (some id) ∨
      ∃ s₁, Steps s s₁ ∧ s₁.guards[g]? = some (some id) ∧ Steps (s₁.dropGuard g) s' := by
  induction hr with
  | refl => exact .inl hg
  | @tail s₁ s' hr hs ih =>
    rcases ih with hlast | ⟨s₂, hs₂, hg₂, hafter⟩
    · rcases guards_step hs with hk | ⟨t, j, c, -, -, hk⟩ | ⟨j, rfl, hk⟩
      · exact .inl (by rwa [hk])
      · left
        rw [hk]
        exact (List.getElem?_append_left (List.getElem?_eq_some_iff.1 hlast).1).trans hlast
      · by_cases hj : j = g
        · subst hj
          exact .inr ⟨s₁, hr, hlast, .refl⟩
        · left
          rw [hk, List.getElem?_set_ne hj]
          exact hlast
    · exact .inr ⟨s₂, hs₂, hg₂, hafter.tail hs⟩

def fresh : SimulatedSession := { host := .fresh }

theorem counted_fresh : Counted fresh :=
  ⟨fun id c hi => by simp [fresh, Host.fresh] at hi, fun id hg => by simp [fresh, Guarded] at hg⟩

/-- What a live token lets through. A guard shuts out even an order that is wrong in itself. -/
structure Gate (s : SimulatedSession) (t : Token) (id : ConnectionId) : Prop where
  drained : s.host.admission t = .error (.usb .busy) ↔ s.Guarded id
  shut : s.Guarded id → ∀ target o, s.host.token? o = some t →
    s.host.place target o = (s.host, .refused (.usb .busy))
  ajar : ¬ s.Guarded id → ∀ target o e h', s.host.token? o = some t →
    s.host.place target o = (h', .refused e) →
      (s.host.Unfit o e ∧ h' = s.host) ∨ ∃ u, e = .usb u ∧ s.host.controller.Refuses u

structure Gated (s : SimulatedSession) : Prop where
  gate : s.host.initialized = true → ∀ t id c, s.host.lookup t = .ok (id, c) → s.Gate t id
  begun : ∀ t id c, s.host.lookup t = .ok (id, c) →
    (s.beginDrain t).1.guards = s.guards ++ [some id]
  obtained : ∀ g id, s.guards[g]? = some (some id) → Obtained fresh g id s
  lasting : ∀ g id, s.guards[g]? = some (some id) → ∀ s', Steps s s' →
    s'.guards[g]? = some (some id) ∨
      ∃ s₁, Steps s s₁ ∧ s₁.guards[g]? = some (some id) ∧ Steps (s₁.dropGuard g) s'
  -- whether or not the device is still open
  dropped : ∀ g id, s.guards[g]? = some (some id) →
    ∃ c, s.host.connections[id]? = some c ∧ 0 < c.draining ∧
      s.dropGuard g = { s with
        host := { s.host with
          connections := s.host.connections.set id { c with draining := c.draining - 1 } }
        guards := s.guards.set g none }
  adopted : ∀ device, ¬ s.Guarded s.host.connections.length ∧
    (s.host.adopt device).1.connections = s.host.connections ++ [{ device := device }]
  blocking : ∀ t r, s.host.undrained.exchange t r =
    (s.host.exchange t r).map fun (h, buffer, result) => (h.undrained, buffer, result)

theorem Counted.gate (hs : Counted s) (hi : s.host.initialized = true)
    (hl : s.host.lookup t = .ok (id, c)) : s.Gate t id := by
  obtain ⟨contracts, hc⟩ := Option.isSome_iff_exists.1 hi
  have ha := Host.admission_of_lookup hc hl
  rw [if_congr (hs.draining_iff hl) rfl rfl] at ha
  refine ⟨⟨fun hb => ?_, fun hg => ?_⟩, fun hg target o ht => ?_, fun hg target o e h' ht hp => ?_⟩
  · by_contra hg
    rw [ha, if_neg hg] at hb
    cases hb
  · rw [ha, if_pos hg]
  · rw [if_pos hg] at ha
    exact Host.place_of_admission_error ht ha
  · rw [if_neg hg] at ha
    exact Host.refused_of_admitted ht ha hp

theorem drains_gate_submissions (hr : Steps fresh s) : Gated s := by
  have hs := counted_fresh.steps hr
  refine ⟨fun hi t id c hl => hs.gate hi hl, fun t id c hl => guards_beginDrain hl,
    fun g id hg => obtained_of_steps rfl hr hg, fun g id hg s' hr' => lasting_of_steps hr' hg,
    fun g id hg => ?_, fun device => ⟨hs.not_guarded, rfl⟩, s.host.exchange_undrained⟩
  obtain ⟨c, hc, hpos⟩ := hs.pos hg
  exact ⟨c, hc, hpos, dropGuard_eq hg hc⟩

/-- Two guards of one connection, of which the first is dropped; the device is closed under the
second, and another is adopted into its slot and guarded as well. -/
def readopted : SimulatedSession :=
  let s : SimulatedSession :=
    { fresh with host := (fresh.host.perform (.resolve .standard)).perform (.adopt 1) }
  let s := ((s.beginDrain ⟨0, 0⟩).1.beginDrain ⟨0, 0⟩).1.dropGuard 0
  let s := { s with host := (s.host.perform (.close ⟨0, 0⟩)).perform (.adopt 2) }
  (s.beginDrain ⟨0, 1⟩).1

theorem readopted_steps : Steps fresh readopted := by
  have hperform : ∀ (s : SimulatedSession) (u : Upkeep), (Note.upkeep u).drains = false →
      Step s { s with host := s.host.perform u } := fun s u hu => .move (.upkeep s.host u) hu
  have hopened := (Relation.ReflTransGen.single (hperform fresh (.resolve .standard) rfl)).tail
    (hperform _ (.adopt 1) rfl)
  have hnested := ((hopened.tail (.beginDrain _ ⟨0, 0⟩)).tail (.beginDrain _ ⟨0, 0⟩)).tail
    (.dropGuard _ 0)
  have hreopened := (hnested.tail (hperform _ (.close ⟨0, 0⟩) rfl)).tail
    (hperform _ (.adopt 2) rfl)
  exact hreopened.tail (.beginDrain _ ⟨0, 1⟩)

/-- The guard that outlived its device says nothing about the one that came after it. -/
theorem readopted_gated :
    Gated readopted ∧ readopted.guards = [none, some 0, some 1] ∧
      (readopted.host.lookup ⟨0, 1⟩).toOption = some (1, { device := 2, draining := 1 }) ∧
      ((readopted.dropGuard 2).host.place 0 (.transfer ⟨0, 1⟩
        { route := .bulk ⟨0x81⟩, buffer := [], offset := 0, length := 4, timeout := 0 })).2 =
          .done ∧
      ((readopted.dropGuard 1).host.place 0 (.transfer ⟨0, 1⟩
        { route := .bulk ⟨0x81⟩, buffer := [], offset := 0, length := 4, timeout := 0 })).2 =
          .refused (.usb .busy) :=
  ⟨drains_gate_submissions readopted_steps, by decide, by decide, by decide, by decide⟩

end Session

end UsbTransfer
