import UsbTransfer.Proofs.Origin
import UsbTransfer.Proofs.Stride

namespace UsbTransfer

namespace Buffers

def Extends (m m' : Buffers) : Prop :=
  ∀ (b : BufferId) cell, m[b]? = some cell →
    ∃ cell', m'[b]? = some cell' ∧ cell'.capacity = cell.capacity

variable {m m' m'' : Buffers} {b c : BufferId}

theorem Extends.refl (m : Buffers) : m.Extends m := fun _ cell hc => ⟨cell, hc, rfl⟩

theorem Extends.trans (h : m.Extends m') (h' : m'.Extends m'') : m.Extends m'' := by
  intro b cell hc
  obtain ⟨cell', hc', he'⟩ := h b cell hc
  obtain ⟨cell'', hc'', he''⟩ := h' b cell' hc'
  exact ⟨cell'', hc'', he''.trans he'⟩

theorem extends_append (m : Buffers) (s : Storage) : m.Extends (m ++ [s]) := by
  intro b cell hc
  have hlt := (List.getElem?_eq_some_iff.1 hc).1
  exact ⟨cell, (List.getElem?_append_left hlt).trans hc, rfl⟩

theorem extends_modify (m : Buffers) (c : BufferId) {f : Storage → Storage}
    (hf : ∀ cell, (f cell).capacity = cell.capacity) : m.Extends (m.modify c f) := by
  intro b cell hc
  rw [List.getElem?_modify, hc]
  by_cases hcb : c = b
  · exact ⟨f cell, by simp [hcb], hf cell⟩
  · exact ⟨cell, by simp [hcb], rfl⟩

theorem extends_rewrite (m : Buffers) (c : BufferId) {f : Bytes → Bytes}
    (hf : ∀ bytes, (f bytes).length = bytes.length) : m.Extends (m.rewrite c f) :=
  m.extends_modify c fun cell => hf cell.bytes

theorem extends_setValid (m : Buffers) (c : BufferId) (n : Nat) : m.Extends (m.setValid c n) :=
  m.extends_modify c fun cell => cell.capacity_setValid n

theorem getElem?_setValid {cell : Storage} (hc : m[b]? = some cell) (n : Nat) :
    (m.setValid b n)[b]? = some (cell.setValid n) := by
  simp [setValid, hc]

theorem exists_of_capacity (h : 0 < m.capacity b) :
    ∃ cell, m[b]? = some cell ∧ cell.capacity = m.capacity b := by
  unfold capacity bytes at *
  cases hc : m[b]? with
  | none => simp [hc] at h
  | some cell => exact ⟨cell, rfl, rfl⟩

theorem getElem?_modify_of_ne (m : Buffers) (f : Storage → Storage) (h : c ≠ b) :
    (List.modify m c f)[b]? = m[b]? := by
  simp [h]

end Buffers

theorem Transfer.buffers_rewrite {x : Transfer} (hx : x.lent? = none) (m : Buffers)
    (f : Bytes → Bytes) : (x.rewrite m f).2 = m := by
  unfold rewrite
  split
  · rfl
  · rfl
  · rename_i b hm
    rw [Transfer.lent?_eq_some.2 hm] at hx
    cases hx
  · rfl

theorem Simulated.buffers_settle {x : Transfer} (hx : x.lent? = none) (response : Option Response)
    (m : Buffers) : (settle response x m).2 = m := by
  unfold settle
  split
  · rfl
  · exact Transfer.buffers_rewrite (x := x.mapPackets _) hx m _
  · rfl
  · exact Transfer.buffers_rewrite hx m _
  · rfl
  · rfl

def BoundIn (history : List Note) (id : TransferId) (b : BufferId) : Prop :=
  ∃ target o key, o.buffer? = some b ∧ .placed id target o key .done ∈ history

/-- The step can change what is in a buffer or how much of it is valid. -/
def Note.Alters (history : List Note) (b : BufferId) : Note → Prop
  | .upkeep (.write c _ _) | .upkeep (.setValid c _) => c = b
  | .placed _ _ o _ a => o.buffer? = some b ∧ a = .done
  | .notified d => BoundIn history d.transfer b
  | _ => False

theorem Note.Alters.mono {history history' : List Note} {b : BufferId} {n : Note}
    (h : n.Alters history b) (hs : history ⊆ history') : n.Alters history' b := by
  cases n with
  | notified d =>
    obtain ⟨target, o, key, ho, hm⟩ := h
    exact ⟨target, o, key, ho, hs hm⟩
  | upkeep u => cases u <;> exact h
  | allocated | scripted | exchanged | placed | polled => exact h

namespace Host

variable {h h' : SimulatedHost} {history : List Note} {n : Note} {target : TargetId} {o : Order}
  {device : UInt32} {x y : Transfer} {b : BufferId} {cell : Storage}

inductive Restocked (h h' : SimulatedHost) : Note → Prop
  | kept {n : Note} (hb : h'.buffers = h.buffers) : Restocked h h' n
  | added (s : Storage) (hb : h'.buffers = h.buffers ++ [s]) :
      Restocked h h' (.upkeep (.addBuffer s))
  | written (b : BufferId) (start : Nat) (data : Bytes)
      (hb : h'.buffers = h.buffers.rewrite b (·.patch start data)) :
      Restocked h h' (.upkeep (.write b start data))
  | marked (b : BufferId) (n : Nat) (hb : h'.buffers = h.buffers.setValid b n) :
      Restocked h h' (.upkeep (.setValid b n))
  | filled {key : Option (UInt32 × Endpoint)} (target : TargetId) (o : Order) (b : BufferId)
      (packetLength : Nat) (actual : List UInt32) (ho : o.buffer? = some b)
      (hb : h'.buffers = h.buffers.rewrite b (Simulated.fillPackets packetLength 0 actual)) :
      Restocked h h' (.placed h.nextTransfer target o key .done)
  | concluded (x : Transfer) (p : Pending) (b : BufferId) (result : Outcome) (data : Option Bytes)
      (hx : x ∈ h.inFlight) (hp : x.pending = some p) (ho : p.buffer = some b)
      (hb : h'.buffers = h.buffers.setValid b (result.toOption.getD 0)) :
      Restocked h h' (.notified (h.deliveryOf x p result data))

theorem restocked_perform (u : Upkeep) : Restocked h (h.perform u) (.upkeep u) := by
  cases u with
  | addBuffer s => exact .added s rfl
  | write b start data => exact .written b start data rfl
  | setValid b n => exact .marked b n rfl
  | close t =>
    refine .kept ?_
    simp only [perform, close]
    split
    · rfl
    · rw [reap_eq]
  | resolve | beginDrain | operate | receive | dropTarget | dropReceiver =>
    refine .kept ?_
    simp only [perform, resolve, beginDrain, operate, dropTarget, dropReceiver]
    split <;> rfl
  | adopt | endDrain | refuseNext | setPacketSize | hold | release | disconnect | addTarget | answer
  | leave => exact .kept rfl

theorem buffers_finished (hs : Slots h) (hd : h.Drafts target o device x) :
    (h.finished device x).2 = h.buffers ∨ ∃ b packetLength actual, o.buffer? = some b ∧
      (h.finished device x).2 =
        h.buffers.rewrite b (Simulated.fillPackets packetLength 0 actual) := by
  cases hd with
  | @transfer t r contracts id c ha hr =>
    have hlent : (h.draft target contracts id r).lent? = none := lent?_draft h target contracts id r
    exact .inl (Simulated.buffers_settle hlent _ h.buffers)
  | @stream id b timeout s contracts connection c d hi ha hcap hslot =>
    have hkind : (h.rebind target contracts connection id b timeout d).kind = .isochronous :=
      (hs.idle hi hslot).1.kind
    rcases Simulated.settle_of_isochronous hkind
      (h.controller.take (Simulated.answerKey c.device
        (h.rebind target contracts connection id b timeout d))).2 h.buffers with
      ⟨actual, -, he⟩ | ⟨-, st, n, he⟩
    · exact .inr ⟨b, _, actual, rfl, congrArg Prod.snd he⟩
    · exact .inl (congrArg Prod.snd he)

theorem restocked_move (hs : Slots h) (hm : Move h n h') : Restocked h h' n := by
  cases hm with
  | upkeep u => exact restocked_perform u
  | allocate t e packets given =>
    rcases h.allocate_cases t e packets given with he | ⟨packetLength, he⟩ <;>
      exact .kept (by rw [he])
  | script device e r => exact .kept rfl
  | exchange hc hd hr =>
    obtain ⟨sent, rfl⟩ := run_eq hc hd hr
    exact .kept rfl
  | place target o =>
    rcases h.place_outcome target o with ⟨hp, -⟩ | ⟨device, x, c, e, -, -, hp⟩ | ⟨device, x, hd, hp⟩
    · exact .kept (by rw [hp])
    · rw [hp]
      refine .kept ?_
      cases hx : x.slot? <;> simp only [turnedAway, hx] <;> rfl
    · rw [hp]
      rcases buffers_finished hs hd with hb | ⟨b, packetLength, actual, ho, hb⟩
      · exact .kept hb
      · exact .filled target o b packetLength actual ho hb
  | poll hb => exact .kept rfl
  | @deliver x rest p result data hb hp hset =>
    have hmark := Host.buffers_deliver { h with batch := rest } x p result data
    cases hbuf : p.buffer with
    | none => exact .kept (by rw [hmark, hbuf]; rfl)
    | some b =>
      refine .concluded x p b result data ?_ hp hbuf (by rw [hmark, hbuf]; rfl)
      simp [inFlight_eq, hb]

theorem buffer_run (hs : Slots h) (hr : Run h history h') : h.buffers.Extends h'.buffers := by
  induction hr with
  | refl => exact .refl _
  | snoc hr hm ih =>
    refine ih.trans ?_
    rcases restocked_move (hs.run hr) hm with
      hb | ⟨s, hb⟩ | ⟨b, start, data, hb⟩ | ⟨b, n, hb⟩ | ⟨-, -, b, packetLength, actual, -, hb⟩ |
        ⟨-, -, b, result, -, -, -, -, hb⟩ <;> rw [hb]
    · exact .refl _
    · exact Buffers.extends_append _ s
    · exact Buffers.extends_rewrite _ b fun bytes => Bytes.length_patch bytes data start
    · exact Buffers.extends_setValid _ b n
    · exact Buffers.extends_rewrite _ b fun bytes => Simulated.length_fillPackets _ _ _ bytes
    · exact Buffers.extends_setValid _ b _

theorem bound_in {p : Pending} (hr : Run fresh history h) (hx : x ∈ h.inFlight)
    (hp : x.pending = some p) (hb : p.buffer = some b) : BoundIn history x.id b := by
  obtain ⟨earlier, h₁, h₂, target, o, later, -, hcarry, -, -, rfl⟩ := came_from hr hx
  obtain ⟨contracts, -, hpend⟩ := hcarry.pending
  obtain rfl := Option.some.inj (hp.symm.trans hpend)
  exact ⟨target, o, h₁.answerKey? o, hb, by simp⟩

theorem Restocked.keep (hk : Restocked h h' n) (hr : Run fresh history h)
    (hc : h.buffers[b]? = some cell) (hn : ¬ n.Alters history b) : h'.buffers[b]? = some cell := by
  rcases hk with
    hb | ⟨s, hb⟩ | ⟨c, start, data, hb⟩ | ⟨c, n, hb⟩ |
      ⟨target, o, c, packetLength, actual, ho, hb⟩ | ⟨x, p, c, result, data, hx, hp, ho, hb⟩ <;>
    rw [hb]
  · exact hc
  · exact (List.getElem?_append_left (List.getElem?_eq_some_iff.1 hc).1).trans hc
  · exact (Buffers.getElem?_modify_of_ne _ _ hn).trans hc
  · exact (Buffers.getElem?_modify_of_ne _ _ hn).trans hc
  · refine (Buffers.getElem?_modify_of_ne _ _ ?_).trans hc
    rintro rfl
    exact hn ⟨ho, rfl⟩
  · refine (Buffers.getElem?_modify_of_ne _ _ ?_).trans hc
    rintro rfl
    -- the buffer that is marked is the one of the submission
    exact hn (bound_in hr hx hp ho)

end Host

end UsbTransfer
