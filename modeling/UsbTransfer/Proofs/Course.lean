import UsbTransfer.Proofs.Lawful
import Mathlib.Logic.Relation

namespace UsbTransfer.Host

variable {κ δ : Type} [Controller κ δ] {h h' h₁ h₂ : Host κ δ} {target : TargetId} {o : Order}
  {device : δ} {x y : Transfer} {id : StreamId} {s : Stream}

/-- One step of a host over any controller. What a callback does, and what other threads do
meanwhile, are steps between two deliveries. -/
inductive Step : Host κ δ → Host κ δ → Prop
  | place (h : Host κ δ) (target : TargetId) (o : Order) : Step h (h.place target o).1
  | allocate (h : Host κ δ) (t : Token) (e : Endpoint) (packets : Nat) (given : Option Nat) :
      Step h (h.allocate t e packets given).1
  | poll {h : Host κ δ} {controller : κ} {buffers : Buffers} {batch : List Transfer}
      {timeout : Option Nat}
      (hp : Controller.poll h.controller h.buffers timeout =
        (controller, buffers, .finished batch)) :
      Step h { h with controller, buffers, batch }
  | deliver {h : Host κ δ} {x : Transfer} {rest : List Transfer} {p : Pending} (result : Outcome)
      (data : Option Bytes) (hb : h.batch = x :: rest) (hp : x.pending = some p) :
      Step h (Host.deliver { h with batch := rest } x p result data)
  -- what concerns neither the streams nor any new transfer
  | aside {h h' : Host κ δ} (hs : h'.streams = h.streams) (hf : Descends h'.inFlight h.inFlight) :
      Step h h'

def Steps (h h' : Host κ δ) : Prop := Relation.ReflTransGen Step h h'

theorem Steps.refl (h : Host κ δ) : Steps h h := Relation.ReflTransGen.refl

theorem Steps.trans {h₃ : Host κ δ} (hs : Steps h₁ h₂) (hs' : Steps h₂ h₃) : Steps h₁ h₃ :=
  Relation.ReflTransGen.trans hs hs'

theorem Steps.single (hs : Step h h') : Steps h h' := Relation.ReflTransGen.single hs

def Known (h : Host κ δ) (x : Transfer) : Prop :=
  ∃ y, x.frame = y.frame ∧ (y ∈ h.inFlight ∨ ∃ target o device, h.Drafts target o device y)

inductive Rearranged (h h' : Host κ δ) : Prop
  | kept (ht : h'.streams = h.streams)
  | emptied (slot : Option StreamId) (ht : h'.streams = (h.setSlot? slot none).streams)
  | filled (x : Transfer) (hx : h.Known x)
      (ht : h'.streams = (h.setSlot? x.slot? (some x.cleared)).streams)
  | added (t : Token) (e : Endpoint) (packets packetLength : Nat) (hp : 0 < packets)
      (hl : 0 < packetLength) (ht : h'.streams = h.streams ++ [{
        token := t, endpoint := e, packets, packetLength
        slot := some (Transfer.ofPackets h.nextTransfer e packets packetLength) }])

theorem known_of_mem (hx : x ∈ h.inFlight) : h.Known x := ⟨x, rfl, .inl hx⟩

theorem known_of_descends (hd : Descends h'.inFlight h.inFlight) (hy : y ∈ h'.inFlight) :
    h.Known y := by
  obtain ⟨x, hx, he⟩ := hd y hy
  exact ⟨x, he, .inl hx⟩

omit [Controller κ δ] in
theorem getElem?_setSlot? (slot : Option StreamId) (y : Option Transfer) (id : StreamId) :
    (h.setSlot? slot y).streams[id]? =
      h.streams[id]?.map fun s => if slot = some id then { s with slot := y } else s := by
  cases slot with
  | none => simp [setSlot?]
  | some j =>
    rw [streams_setSlot?, List.getElem?_modify]
    simp

theorem inFlight_of_controller
    (hc : Descends (Controller.held h'.controller) (Controller.held h.controller))
    (hb : h'.batch = h.batch) : Descends h'.inFlight h.inFlight := by
  rw [inFlight, inFlight, hb]
  exact hc.append (.refl _)

theorem batch_hand (h : Host κ δ) (device : δ) (x : Transfer) :
    (h.hand device x).1.batch = h.batch ∧ (h.hand device x).1.deliveries = h.deliveries := by
  unfold hand
  rcases Controller.submit h.controller device x h.buffers with ⟨k, m, _ | ⟨e, y⟩⟩ <;>
    exact ⟨h.batch_setSlot? _ _, congrArg (List.filterMap _) (h.journal_setSlot? _ _)⟩

theorem batch_place (h : Host κ δ) (target : TargetId) (o : Order) :
    (h.place target o).1.batch = h.batch ∧ (h.place target o).1.deliveries = h.deliveries := by
  rcases h.place_cases target o with hn | ⟨e, -, hn⟩ | ⟨device, x, hd⟩
  · rw [hn]
    exact ⟨rfl, rfl⟩
  · rw [hn]
    exact ⟨rfl, rfl⟩
  · rw [place_hand hd]
    exact h.batch_hand device x

theorem deliveries_react (h : Host κ δ) (target : TargetId) (orders : List Order) :
    (h.react target orders).deliveries = h.deliveries := by
  induction orders generalizing h with
  | nil => rfl
  | cons o rest ih =>
    have hplace : (if h.owned then h.place target o else (h, .noHost)).1.deliveries =
        h.deliveries := by
      split
      · exact (h.batch_place target o).2
      · rfl
    exact ((ih _).trans (deliveries_log_answered _ _)).trans hplace

theorem deliveries_respond (h : Host κ δ) (target : TargetId) (r : Reaction) :
    (h.respond target r).deliveries = h.deliveries :=
  h.deliveries_react target r.orders

theorem handed_of_done (hp : h.place target o = (h', .done)) :
    ∃ device x k m, h.Drafts target o device x ∧
      Controller.submit h.controller device x h.buffers = (k, m, none) ∧
      h' = { h.setSlot? x.slot? none with
        nextTransfer := h.nextTransfer + 1, controller := k, buffers := m } := by
  rcases h.place_cases target o with hn | ⟨err, -, hn⟩ | ⟨device, x, hd⟩
  · rw [hp] at hn
    cases hn
  · rw [hp] at hn
    cases hn
  · rw [place_hand hd, hand] at hp
    rcases hs : Controller.submit h.controller device x h.buffers with ⟨k, m, _ | ⟨err, y⟩⟩
    · rw [hs] at hp
      exact ⟨device, x, k, m, hd, hs, (congrArg Prod.fst hp).symm⟩
    · rw [hs] at hp
      cases hp

theorem steps_of_controller (h : Host κ δ) {k : κ}
    (hd : Descends (Controller.held k) (Controller.held h.controller)) :
    Steps h { h with controller := k } :=
  .single (.aside rfl (inFlight_of_controller hd rfl))

theorem steps_drop (h : Host κ δ) {rest : List Transfer} (hr : rest ⊆ h.batch) :
    Steps h { h with batch := rest } :=
  .single (.aside rfl ((Descends.refl _).append (.of_subset hr)))

theorem steps_react (h : Host κ δ) (target : TargetId) (orders : List Order) :
    Steps h (h.react target orders) ∧ (h.react target orders).batch = h.batch := by
  induction orders generalizing h with
  | nil => exact ⟨.refl h, rfl⟩
  | cons o rest ih =>
    have hanswer : ∀ q : Host κ δ × Answer, Steps h q.1 → q.1.batch = h.batch →
        Steps h ((q.1.log (.answered target q.2)).react target rest) ∧
          ((q.1.log (.answered target q.2)).react target rest).batch = h.batch := by
      intro q hq hb
      obtain ⟨hrest, hrb⟩ := ih (q.1.log (.answered target q.2))
      have hlog : Steps q.1 (q.1.log (.answered target q.2)) := .single (.aside rfl (.refl _))
      exact ⟨(hq.trans hlog).trans hrest, hrb.trans hb⟩
    unfold react
    refine hanswer (if h.owned then h.place target o else (h, .noHost)) ?_ ?_
    · split
      · exact .single (.place h target o)
      · exact .refl h
    · split
      · exact (h.batch_place target o).1
      · rfl

theorem steps_respond (h : Host κ δ) (target : TargetId) (r : Reaction) :
    Steps h (h.respond target r) ∧ (h.respond target r).batch = h.batch := by
  obtain ⟨hr, hb⟩ := h.steps_react target r.orders
  exact ⟨hr.trans (.single (.aside rfl (.refl _))), hb⟩

variable [LawfulController κ]

theorem descends_of_lets {k k' : κ} (hl : Lets k k') :
    Descends (Controller.held k') (Controller.held k) := by
  rcases hl with rfl | ⟨device, rfl⟩
  · exact .refl _
  · exact LawfulController.abandoned k device

theorem rearranged_hand (hd : h.Drafts target o device x) :
    Rearranged h (h.hand device x).1 ∧ ∀ y ∈ (h.hand device x).1.inFlight, h.Known y := by
  unfold hand
  rcases hs : Controller.submit h.controller device x h.buffers with ⟨k, m, _ | ⟨e, y⟩⟩
  · refine ⟨.emptied x.slot? rfl, fun y hy => ?_⟩
    have hheld := LawfulController.accepted hs
    rcases List.mem_append.1 hy with hy | hy
    · obtain ⟨z, hz, he⟩ := hheld y hy
      rcases List.mem_cons.1 hz with rfl | hz
      · exact ⟨z, he, .inr ⟨target, o, device, hd⟩⟩
      · exact ⟨z, he, .inl (List.mem_append_left _ hz)⟩
    · rw [batch_setSlot?] at hy
      exact known_of_mem (List.mem_append_right _ hy)
  · obtain ⟨he, hheld⟩ := LawfulController.refused hs
    refine ⟨.filled y ⟨x, he, .inr ⟨target, o, device, hd⟩⟩ ?_, fun z hz => ?_⟩
    · rw [Transfer.slot?_of_frame he]
    · refine known_of_descends (inFlight_of_controller ?_ ?_) hz
      · exact hheld
      · exact h.batch_setSlot? _ _

theorem rearranged_deliver {rest : List Transfer} {p : Pending} (result : Outcome)
    (data : Option Bytes) (hb : h.batch = x :: rest) (hp : x.pending = some p) :
    Rearranged h (Host.deliver { h with batch := rest } x p result data) ∧
      ∀ y ∈ (Host.deliver { h with batch := rest } x p result data).inFlight, h.Known y := by
  obtain ⟨hc, hrest, ht⟩ := Host.deliver_cases { h with batch := rest } x p result data
  have hx : x ∈ h.inFlight := by
    rw [inFlight, hb]
    exact List.mem_append_right _ List.mem_cons_self
  have hslot : x.slot? = p.park := by rw [Transfer.slot?, hp, Option.bind_some]
  constructor
  · split at ht
    · refine .filled x (known_of_mem hx) ?_
      rw [ht, hslot, streams_setSlot?, streams_setSlot?]
    · exact .kept ht
  · intro y hy
    refine known_of_descends ?_ hy
    rw [inFlight, inFlight, hrest, hb]
    exact (descends_of_lets hc).append (.of_subset (List.subset_cons_self x rest))

theorem rearranged_step (hs : Step h h') : Rearranged h h' ∧ ∀ y ∈ h'.inFlight, h.Known y := by
  cases hs with
  | place target o =>
    rcases h.place_cases target o with hn | ⟨e, -, hn⟩ | ⟨device, x, hd⟩
    · rw [hn]
      exact ⟨.kept rfl, fun y hy => known_of_mem hy⟩
    · rw [hn]
      exact ⟨.kept rfl, fun y hy => known_of_mem hy⟩
    · rw [place_hand hd]
      exact rearranged_hand hd
  | allocate t e packets given =>
    rcases h.allocate_outcome t e packets given with
      ⟨err, he⟩ | ⟨device, err, he⟩ | ⟨connection, c, packetLength, -, hp, hl, he⟩
    · rw [he]
      exact ⟨.kept rfl, fun y hy => known_of_mem hy⟩
    · rw [he]
      refine ⟨.kept rfl, fun y hy => known_of_descends (inFlight_of_controller ?_ ?_) hy⟩
      · exact LawfulController.measured _ _ _
      · rfl
    · rw [he]
      refine ⟨.added t e packets packetLength hp (packetSize_pos hl) rfl, fun y hy =>
        known_of_descends (inFlight_of_controller ?_ ?_) hy⟩
      · exact LawfulController.measured _ _ _
      · rfl
  | @poll controller buffers batch timeout hp =>
    refine ⟨.kept rfl, fun y hy => ?_⟩
    have hpolled := LawfulController.polled h.controller h.buffers timeout
    rw [hp] at hpolled
    obtain ⟨x, hx, he⟩ := hpolled y hy
    exact ⟨x, he, .inl (List.mem_append_left _ hx)⟩
  | deliver result data hb hp => exact rearranged_deliver result data hb hp
  | aside ht hf => exact ⟨.kept ht, fun y hy => known_of_descends hf hy⟩

theorem stream_step (hs : Step h h') (hi : h.streams[id]? = some s) :
    ∃ y, h'.streams[id]? = some { s with slot := y } := by
  have hset : ∀ slot y, h'.streams = (h.setSlot? slot y).streams →
      ∃ y, h'.streams[id]? = some { s with slot := y } := by
    intro slot y ht
    rw [ht, getElem?_setSlot?, hi, Option.map_some]
    split
    · exact ⟨y, rfl⟩
    · exact ⟨s.slot, rfl⟩
  rcases (rearranged_step hs).1 with
    ht | ⟨slot, ht⟩ | ⟨x, -, ht⟩ | ⟨t, e, packets, packetLength, -, -, ht⟩
  · exact ⟨s.slot, by rw [ht]; exact hi⟩
  · exact hset slot none ht
  · exact hset x.slot? _ ht
  · have hlt := (List.getElem?_eq_some_iff.1 hi).1
    exact ⟨s.slot, by rw [ht]; exact (List.getElem?_append_left hlt).trans hi⟩

theorem stream_steps (hr : Steps h h') (hi : h.streams[id]? = some s) :
    ∃ y, h'.streams[id]? = some { s with slot := y } := by
  induction hr with
  | refl => exact ⟨s.slot, hi⟩
  | tail _ hs ih =>
    obtain ⟨y, hy⟩ := ih
    obtain ⟨z, hz⟩ := stream_step hs hy
    exact ⟨z, hz⟩

theorem of_stream_step (hs : Step h h') (hi : h'.streams[id]? = some s) :
    (∃ s₀, h.streams[id]? = some s₀ ∧
        (s = s₀ ∨ s = { s₀ with slot := none } ∨
          ∃ x, h.Known x ∧ x.slot? = some id ∧ s = { s₀ with slot := some x.cleared })) ∨
      ∃ x, s.slot = some x ∧ 0 < s.packets ∧ 0 < s.packetLength ∧
        x = Transfer.ofPackets h.nextTransfer s.endpoint s.packets s.packetLength := by
  rcases (rearranged_step hs).1 with
    ht | ⟨slot, ht⟩ | ⟨x, hx, ht⟩ | ⟨t, e, packets, packetLength, hp, hl, ht⟩
  · exact .inl ⟨s, by rw [← ht]; exact hi, .inl rfl⟩
  · rw [ht, getElem?_setSlot?] at hi
    obtain ⟨s₀, hs₀, rfl⟩ := Option.map_eq_some_iff.1 hi
    refine .inl ⟨s₀, hs₀, ?_⟩
    split
    · exact .inr (.inl rfl)
    · exact .inl rfl
  · rw [ht, getElem?_setSlot?] at hi
    obtain ⟨s₀, hs₀, rfl⟩ := Option.map_eq_some_iff.1 hi
    refine .inl ⟨s₀, hs₀, ?_⟩
    split
    · rename_i hslot
      exact .inr (.inr ⟨x, hx, hslot, rfl⟩)
    · exact .inl rfl
  · rw [ht, List.getElem?_append] at hi
    split at hi
    · exact .inl ⟨s, hi, .inl rfl⟩
    · rw [List.getElem?_singleton] at hi
      split at hi
      · obtain rfl := Option.some.inj hi
        exact .inr ⟨_, rfl, hp, hl, rfl⟩
      · cases hi

theorem steps_reap? (h : Host κ δ) (id : Option ConnectionId) :
    Steps h (h.reap? id) ∧ (h.reap? id).batch = h.batch := by
  obtain ⟨k, hk, he⟩ := h.reap?_cases id
  rw [he]
  exact ⟨h.steps_of_controller (descends_of_lets hk), rfl⟩

theorem steps_reapAll (h : Host κ δ) (xs : List Transfer) :
    Steps h (xs.foldl (fun h x => h.reap? x.connection) h) := by
  induction xs generalizing h with
  | nil => exact .refl h
  | cons x xs ih => exact (h.steps_reap? x.connection).1.trans (ih _)

theorem steps_dispatch (reactions : Reactions) {rest : List Transfer} (hb : h.batch = x :: rest) :
    Steps h (dispatch reactions { h with batch := rest } x).1 ∧
      (dispatch reactions { h with batch := rest } x).1.batch = rest := by
  have hdropped : Steps h (({ h with batch := rest } : Host κ δ).reap? x.connection) ∧
      (({ h with batch := rest } : Host κ δ).reap? x.connection).batch = rest := by
    obtain ⟨hr, hrb⟩ := ({ h with batch := rest } : Host κ δ).steps_reap? x.connection
    exact ⟨(h.steps_drop (by rw [hb]; exact List.subset_cons_self x rest)).trans hr, hrb⟩
  rcases hp : x.pending with _ | p
  · simp only [dispatch, hp]
    exact hdropped
  · rcases hs : ({ h with batch := rest } : Host κ δ).settle x with _ | ⟨result, data⟩
    · simp only [dispatch, hp, hs]
      exact hdropped
    · simp only [dispatch, hp, hs]
      have hdeliver := Steps.single (.deliver result data hb hp)
      have hbatch := (Host.deliver_cases { h with batch := rest } x p result data).2.1
      obtain ⟨hr, hrb⟩ := (Host.deliver { h with batch := rest } x p result data).steps_respond
        p.target (Host.reaction reactions
          ((({ h with batch := rest } : Host κ δ).mark p.buffer result).retire x p.park) p x.kind)
      exact ⟨hdeliver.trans hr, hrb.trans hbatch⟩

theorem steps_dispatchAll (reactions : Reactions) (xs : List Transfer) (h : Host κ δ)
    (hb : h.batch = xs) : Steps h (dispatchAll reactions h xs).1 := by
  induction xs generalizing h with
  | nil =>
    have he : ({ h with batch := [] } : Host κ δ) = h := by rw [← hb]
    rw [dispatchAll, he]
    exact .refl h
  | cons x rest ih =>
    obtain ⟨hfirst, hbatch⟩ := steps_dispatch reactions hb
    rw [dispatchAll]
    split
    · rename_i k hk
      rw [hk] at hfirst hbatch
      exact hfirst.trans (ih k hbatch)
    · rename_i k hk
      rw [hk] at hfirst
      have hempty : Steps k { k with batch := [] } := k.steps_drop (List.nil_subset _)
      exact (hfirst.trans hempty).trans (steps_reapAll _ rest)

theorem steps_processEvents (h : Host κ δ) (reactions : Reactions) (timeout : Option Nat) :
    Steps h (h.processEvents reactions timeout).1 := by
  have hpolled := LawfulController.polled h.controller h.buffers timeout
  unfold processEvents
  rcases hp : Controller.poll h.controller h.buffers timeout with ⟨k, m, batch | e | _⟩
  · have hbatch := Steps.single (.poll hp)
    have hall :=
      steps_dispatchAll reactions batch { h with controller := k, buffers := m, batch } rfl
    dsimp only
    split <;> rename_i k hk <;> rw [hk] at hall <;> exact hbatch.trans hall
  · rw [hp] at hpolled
    exact .single (.aside rfl (inFlight_of_controller (fun y hy =>
      hpolled y (List.mem_append_left _ hy)) rfl))
  · rw [hp] at hpolled
    exact .single (.aside rfl (inFlight_of_controller (fun y hy =>
      hpolled y (List.mem_append_left _ hy)) rfl))

end UsbTransfer.Host
