import UsbTransfer.Proofs.Answer
import UsbTransfer.Proofs.Reuse

namespace UsbTransfer

def Order.buffer? : Order → Option BufferId
  | .transfer .. => none
  | .stream _ b _ => some b

def Transfer.lent? (x : Transfer) : Option BufferId :=
  match x.memory with
  | .lent b => some b
  | .owned _ | .blank _ | .unbound => none

theorem Transfer.lent?_eq_some {x : Transfer} {b : BufferId} :
    x.lent? = some b ↔ x.memory = .lent b := by
  unfold lent?
  cases x.memory <;> simp

theorem Transfer.lent?_of_own? {x : Transfer} {bytes : Bytes} (hm : x.own? = some bytes) :
    x.lent? = none := by
  unfold own? at hm
  unfold lent?
  split at hm <;> simp_all

theorem Transfer.lent?_rewrite (x : Transfer) (m : Buffers) (f : Bytes → Bytes) :
    (x.rewrite m f).1.lent? = x.lent? := by
  unfold rewrite
  cases hm : x.memory <;> simp [lent?, hm]

theorem Simulated.lent?_settle (response : Option Response) (x : Transfer) (m : Buffers) :
    (settle response x m).1.lent? = x.lent? := by
  unfold settle
  split
  · rfl
  · exact Transfer.lent?_rewrite _ _ _
  · rfl
  · exact Transfer.lent?_rewrite _ _ _
  · rfl
  · rfl

theorem Transfer.connection_of_frame {x y : Transfer} (h : y.frame = x.frame) :
    y.connection = x.connection := by
  have hc : y.frame.connection = x.frame.connection := by rw [h]
  exact hc

namespace Host

variable {h h' : SimulatedHost} {history later : List Note} {n : Note} {target : TargetId}
    {o : Order}
  {device : UInt32} {x y : Transfer}

structure Carries (h : SimulatedHost) (target : TargetId) (o : Order) (x : Transfer) : Prop where
  id : x.id = h.nextTransfer
  pending : ∃ contracts, h.contracts = some contracts ∧
    x.pending = some { target, contracts, buffer := o.buffer?, park := o.stream? }
  lent : x.lent? = o.buffer?
  kind : o.stream?.isSome → x.kind = .isochronous
  connection : ∃ t id c, h.token? o = some t ∧ h.lookup t = .ok (id, c) ∧ x.connection = some id

theorem lent?_draft (h : SimulatedHost) (target : TargetId) (contracts : Contracts)
    (id : ConnectionId) (r : Request) : (h.draft target contracts id r).lent? = none := by
  obtain ⟨bytes, hown, -⟩ := Transfer.owned_ofRoute h.nextTransfer r
  have hnone := Transfer.lent?_of_own? hown
  exact hnone

theorem Drafts.carries (hs : Slots h) (hd : h.Drafts target o device y) :
    Carries h target o (h.finished device y).1 := by
  have hf := h.frame_finished device y
  have hlent : (h.finished device y).1.lent? = y.lent? := Simulated.lent?_settle _ _ _
  refine ⟨(Transfer.id_of_frame hf).trans hd.id_eq, ?_, ?_, ?_, ?_⟩
  · rw [Transfer.pending_of_frame hf]
    cases hd with
    | transfer ha hr => exact ⟨_, contracts_of_admission ha, rfl⟩
    | stream hs ha hb hslot => exact ⟨_, contracts_of_admission ha, rfl⟩
  · rw [hlent]
    cases hd with
    | transfer ha hr => exact lent?_draft h target _ _ _
    | stream => rfl
  · intro hstream
    rw [Transfer.kind_of_frame hf]
    cases hd with
    | transfer => cases hstream
    | stream hi ha hb hslot => exact (hs.idle hi hslot).1.kind
  · rw [Transfer.connection_of_frame hf]
    cases hd with
    | transfer ha hr => exact ⟨_, _, _, rfl, lookup_of_admission ha, rfl⟩
    | stream hs ha hb hslot =>
      exact ⟨_, _, _, by rw [token?, hs, Option.map_some], lookup_of_admission ha, rfl⟩

theorem Drafts.kind_iff (hs : Slots h) (hd : h.Drafts target o device y) :
    y.kind = .isochronous ↔ o.buffer?.isSome := by
  cases hd with
  | @transfer t r contracts id c ha hr =>
    have hk : (h.draft target contracts id r).kind = r.route.kind :=
      Transfer.kind_ofRoute h.nextTransfer r
    rw [hk]
    cases r.route <;> simp [Route.kind, Order.buffer?]
  | stream hi ha hb hslot => exact iff_of_true (hs.idle hi hslot).1.kind rfl

theorem inFlight_move (hm : Move h n h') (hx : x ∈ h'.inFlight) :
    x ∈ h.inFlight ∨ ∃ target o device y,
      n = .placed h.nextTransfer target o (h.answerKey? o) .done ∧ h.Drafts target o device y ∧
        h.place target o = (h', .done) ∧ h' = h.queued device y ∧ x = (h.finished device y).1 := by
  cases hm with
  | upkeep u =>
    have hq : Quiet h (h.perform u) := quiet_perform u
    rw [hq.inFlight] at hx
    exact .inl hx
  | allocate t e packets given =>
    rcases h.allocate_cases t e packets given with he | ⟨packetLength, he⟩
    · rw [he] at hx
      exact .inl hx
    · rw [he] at hx
      exact .inl hx
  | script device e r => exact .inl hx
  | exchange hc hd hr =>
    obtain ⟨sent, rfl⟩ := run_eq hc hd hr
    exact .inl hx
  | place target o =>
    rcases h.place_outcome target o with
      ⟨hp, -⟩ | ⟨device, y, c, e, -, hc, hp⟩ | ⟨device, y, hd, hp⟩
    · rw [hp] at hx
      exact .inl hx
    · rw [hp, inFlight_turnedAway c e hc] at hx
      exact .inl hx
    · rw [hp] at hx ⊢
      rcases mem_inFlight_queued hx with rfl | hx
      · exact .inr ⟨target, o, device, y, rfl, hd, hp, rfl, rfl⟩
      · exact .inl hx
  | poll hb =>
    left
    rw [inFlight_eq, hb, List.append_nil]
    exact hx
  | deliver hb hp hset =>
    left
    rw [inFlight_deliver] at hx
    rw [inFlight_eq, hb]
    exact (List.sublist_cons_self _ _).append_left _ |>.subset hx

/-- The transfer is a draft that was accepted in the course of a history, as the controller left
it. -/
def DraftedIn (history : List Note) (h : SimulatedHost) (x : Transfer) : Prop :=
  ∃ earlier h₁ target o device y later, Run fresh earlier h₁ ∧ h₁.Drafts target o device y ∧
    h₁.place target o = (h₁.queued device y, .done) ∧ Run (h₁.queued device y) later h ∧
    x = (h₁.finished device y).1 ∧
    history = earlier ++ .placed h₁.nextTransfer target o (h₁.answerKey? o) .done :: later

theorem drafted_in (hr : Run fresh history h) (hx : x ∈ h.inFlight) : DraftedIn history h x := by
  induction hr with
  | refl => simp [inFlight_eq, fresh] at hx
  | snoc hr hm ih =>
    rcases inFlight_move hm hx with hx | ⟨target, o, device, y, rfl, hd, hp, rfl, rfl⟩
    · obtain ⟨earlier, h₁, target, o, device, y, later, hr₁, hd, hp, hlater, he, rfl⟩ := ih hx
      exact ⟨earlier, h₁, target, o, device, y, _, hr₁, hd, hp, hlater.snoc hm, he, by simp⟩
    · exact ⟨_, _, target, o, device, y, [], hr, hd, hp, .refl _, rfl, rfl⟩

def CameFrom (history : List Note) (h : SimulatedHost) (x : Transfer) : Prop :=
  ∃ earlier h₁ h₂ target o later, Run fresh earlier h₁ ∧ Carries h₁ target o x ∧
    h₁.place target o = (h₂, .done) ∧ Run h₂ later h ∧
    history = earlier ++ .placed x.id target o (h₁.answerKey? o) .done :: later

theorem kind_iff {p : Pending} (hr : Run fresh history h) (hx : x ∈ h.inFlight)
    (hp : x.pending = some p) : x.kind = .isochronous ↔ p.buffer.isSome := by
  obtain ⟨earlier, h₁, target, o, device, y, later, hr₁, hd, -, -, rfl, -⟩ := drafted_in hr hx
  have hs := slots_fresh.run hr₁
  obtain ⟨contracts, -, hpend⟩ := (hd.carries hs).pending
  obtain rfl := Option.some.inj (hp.symm.trans hpend)
  rw [Transfer.kind_of_frame (h₁.frame_finished device y)]
  exact hd.kind_iff hs

theorem came_from (hr : Run fresh history h) (hx : x ∈ h.inFlight) : CameFrom history h x := by
  obtain ⟨earlier, h₁, target, o, device, y, later, hr₁, hd, hp, hlater, rfl, rfl⟩ :=
    drafted_in hr hx
  have hc := hd.carries (slots_fresh.run hr₁)
  exact ⟨earlier, h₁, _, target, o, later, hr₁, hc, hp, hlater, by rw [hc.id]⟩

end Host

end UsbTransfer
