import UsbTransfer.Proofs.Course
import UsbTransfer.Proofs.Slot

namespace UsbTransfer

namespace Host

section Streams

variable {κ δ : Type}

/-- What waits in a slot carries nothing over from an earlier submission. -/
def Tidy (h : Host κ δ) : Prop :=
  ∀ (id : StreamId) s x, h.streams[id]? = some s → s.slot = some x → x.cleared = x

def Filled (h : Host κ δ) : Prop :=
  ∀ (id : StreamId) s, h.streams[id]? = some s → 0 < s.packets ∧ 0 < s.packetLength

variable [Controller κ δ] [LawfulController κ] {h h' : Host κ δ}

theorem Tidy.step (ht : Tidy h) (hs : Step h h') : Tidy h' := by
  intro id s x hi hx
  rcases of_stream_step hs hi with ⟨s₀, hs₀, rfl | rfl | ⟨y, -, -, rfl⟩⟩ | ⟨y, hy, -, -, rfl⟩
  · exact ht id s x hs₀ hx
  · cases hx
  · obtain rfl := Option.some.inj hx
    exact y.cleared_cleared
  · obtain rfl := Option.some.inj (hx.symm.trans hy)
    simp [Transfer.ofPackets, Transfer.cleared, Shape.mapPackets, IsoPacket.cleared]

theorem Tidy.steps (ht : Tidy h) (hr : Steps h h') : Tidy h' := by
  induction hr with
  | refl => exact ht
  | tail _ hs ih => exact ih.step hs

theorem Filled.step (hf : Filled h) (hs : Step h h') : Filled h' := by
  intro id s hi
  rcases of_stream_step hs hi with ⟨s₀, hs₀, rfl | rfl | ⟨y, -, -, rfl⟩⟩ | ⟨y, -, hp, hl, -⟩
  · exact hf id s hs₀
  · exact hf id s₀ hs₀
  · exact hf id s₀ hs₀
  · exact ⟨hp, hl⟩

theorem Filled.steps (hf : Filled h) (hr : Steps h h') : Filled h' := by
  induction hr with
  | refl => exact hf
  | tail _ hs ih => exact ih.step hs

end Streams

variable {h h' : SimulatedHost} {history : List Note} {n : Note} {id : StreamId} {s : Stream}
  {x : Transfer}

theorem step_of_move (hm : Move h n h') : Step h h' := by
  have quiet : ∀ {k : SimulatedHost}, k.streams = h.streams → k.inFlight = h.inFlight →
    Step h k := by
    intro k ht hf
    refine .aside ht ?_
    rw [hf]
    exact .refl _
  cases hm with
  | upkeep u =>
    have hq : Quiet h (h.perform u) := quiet_perform u
    exact quiet hq.streams hq.inFlight
  | allocate t e packets given => exact .allocate h t e packets given
  | script device e r => exact quiet rfl rfl
  | exchange hc hd hr =>
    obtain ⟨sent, rfl⟩ := run_eq hc hd hr
    exact quiet rfl rfl
  | place target o => exact .place h target o
  | poll hb => exact .poll (show Controller.poll h.controller h.buffers none = _ from rfl)
  | deliver hb hp _ => exact .deliver _ _ hb hp

theorem steps_of_run (hr : Run h history h') : Steps h h' := by
  induction hr with
  | refl => exact .refl _
  | snoc _ hm ih => exact ih.trans (.single (step_of_move hm))

theorem Tidy.move (ht : Tidy h) (hm : Move h n h') : Tidy h' := ht.step (step_of_move hm)

theorem Tidy.run (hr : Run h history h') (ht : Tidy h) : Tidy h' := ht.steps (steps_of_run hr)

theorem tidy_fresh : Tidy fresh := fun id s x hi => by simp [fresh] at hi

theorem parked_eq (hs : Slots h) (ht : Tidy h) (hi : h.streams[id]? = some s)
    (hx : s.slot = some x) :
    x = { Transfer.ofPackets x.id s.endpoint s.packets s.packetLength with
      timeout := x.timeout } := by
  rw [← (hs.idle hi hx).1, ht id s x hi hx]

theorem stream_run (hr : Run h history h') (hi : h.streams[id]? = some s) :
    ∃ y, h'.streams[id]? = some { s with slot := y } := stream_steps (steps_of_run hr) hi

theorem stream_sized (hr : Run fresh history h) (hi : h.streams[id]? = some s) :
    0 < s.packets ∧ 0 < s.packetLength := by
  have hf : Filled fresh := fun id s hi => by simp [fresh] at hi
  exact hf.steps (steps_of_run hr) id s hi

end Host

end UsbTransfer
