import UsbTransfer.Proofs.Parking

namespace UsbTransfer

namespace Host

section Streams

variable {κ δ : Type}

def Owned (h : Host κ δ) (x : Transfer) : Prop :=
  ∀ id, x.slot? = some id → ∃ s, h.streams[id]? = some s ∧ s.Owns x

theorem Owned.of_frame {h : Host κ δ} {x y : Transfer} (ho : h.Owned x) (hf : y.frame = x.frame) :
    h.Owned y := by
  intro id hy
  rw [Transfer.slot?_of_frame hf] at hy
  obtain ⟨s, hi, hs⟩ := ho id hy
  exact ⟨s, hi, hs.of_frame hf⟩

end Streams

variable {κ δ : Type} [Controller κ δ] {h h' : Host κ δ} {x : Transfer}

structure Provenance (h : Host κ δ) : Prop where
  parked : ∀ (id : StreamId) s x, h.streams[id]? = some s → s.slot = some x → s.Owns x
  flying : ∀ x ∈ h.inFlight, h.Owned x

theorem Provenance.drafted (hp : Provenance h) {target : TargetId} {o : Order} {device : δ}
    (hd : h.Drafts target o device x) : h.Owned x := by
  intro id hx
  rcases hd.slot?_cases with hn | ⟨id', s, d, hx', hi, hslot, hc⟩
  · rw [hn] at hx
    cases hx
  · obtain rfl := Option.some.inj (hx'.symm.trans hx)
    exact ⟨s, hi, (hp.parked id' s d hi hslot).of_cleared hc⟩

theorem Provenance.known (hp : Provenance h) (hx : h.Known x) : h.Owned x := by
  obtain ⟨y, hf, hy | ⟨target, o, device, hd⟩⟩ := hx
  · exact (hp.flying y hy).of_frame hf
  · exact (hp.drafted hd).of_frame hf

variable [LawfulController κ]

theorem Owned.step (ho : h.Owned x) (hs : Step h h') : h'.Owned x := by
  intro id hx
  obtain ⟨s, hi, hown⟩ := ho id hx
  obtain ⟨y, hy⟩ := stream_step hs hi
  exact ⟨_, hy, hown⟩

theorem Provenance.step (hp : Provenance h) (hs : Step h h') : Provenance h' := by
  constructor
  · intro id s x hi hx
    rcases of_stream_step hs hi with ⟨s₀, hs₀, rfl | rfl | ⟨y, hy, hid, rfl⟩⟩ | ⟨y, hy, -, -, rfl⟩
    · exact hp.parked id s x hs₀ hx
    · cases hx
    · obtain rfl := Option.some.inj hx
      obtain ⟨s₁, hs₁, hown⟩ := hp.known hy id hid
      obtain rfl := Option.some.inj (hs₀.symm.trans hs₁)
      have hcleared : s₀.Owns y.cleared := hown.cleared
      exact hcleared
    · obtain rfl := Option.some.inj (hx.symm.trans hy)
      exact s.owns_ofPackets _
  · intro x hx
    exact (hp.known ((rearranged_step hs).2 x hx)).step hs

theorem Provenance.steps (hp : Provenance h) (hr : Steps h h') : Provenance h' := by
  induction hr with
  | refl => exact hp
  | tail _ hs ih => exact ih.step hs

omit [LawfulController κ]

def Vacant (h : Host κ δ) : Prop := h.streams = [] ∧ h.inFlight = []

theorem Vacant.provenance (hv : h.Vacant) : Provenance h := by
  constructor
  · intro id s x hi
    simp [hv.1] at hi
  · intro x hx
    simp [hv.2] at hx

theorem Vacant.filled (hv : h.Vacant) : Filled h := fun id s hi => by simp [hv.1] at hi

theorem Vacant.tidy (hv : h.Vacant) : Tidy h := fun id s x hi => by simp [hv.1] at hi

end Host

end UsbTransfer
