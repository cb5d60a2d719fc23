import UsbTransfer.Proofs.Frame

namespace UsbTransfer

/-- Each of them is one of the others, filled in at most. -/
def Descends (ys xs : List Transfer) : Prop := ∀ y ∈ ys, ∃ x ∈ xs, y.frame = x.frame

variable {xs ys : List Transfer}

theorem Descends.of_subset (h : ys ⊆ xs) : Descends ys xs := fun y hy => ⟨y, h hy, rfl⟩

theorem Descends.refl (xs : List Transfer) : Descends xs xs := .of_subset fun _ hx => hx

theorem Descends.append {ys' xs' : List Transfer} (h : Descends ys xs) (h' : Descends ys' xs') :
    Descends (ys ++ ys') (xs ++ xs') := by
  intro y hy
  rcases List.mem_append.1 hy with hy | hy
  · obtain ⟨x, hx, he⟩ := h y hy
    exact ⟨x, List.mem_append_left _ hx, he⟩
  · obtain ⟨x, hx, he⟩ := h' y hy
    exact ⟨x, List.mem_append_right _ hx, he⟩

def Poll.transfers : Poll → List Transfer
  | finished transfers => transfers
  | failed _ | crashed => []

/-- A controller that makes no transfer up. What it holds or gives back is what it was given, filled
in at most. -/
class LawfulController (κ : Type) {δ : outParam Type} [Controller κ δ] : Prop where
  accepted {k k' : κ} {device : δ} {x : Transfer} {m m' : Buffers}
    (hs : Controller.submit k device x m = (k', m', none)) :
    Descends (Controller.held k') (x :: Controller.held k)
  refused {k k' : κ} {device : δ} {x y : Transfer} {m m' : Buffers} {e : UsbError}
    (hs : Controller.submit k device x m = (k', m', some (e, y))) :
    y.frame = x.frame ∧ Descends (Controller.held k') (Controller.held k)
  polled (k : κ) (m : Buffers) (timeout : Option Nat) :
    Descends (Controller.held (Controller.poll k m timeout).1 ++
      (Controller.poll k m timeout).2.2.transfers) (Controller.held k)
  measured (k : κ) (device : δ) (e : Endpoint) :
    Descends (Controller.held (Controller.maxPacket k device e).1) (Controller.held k)
  abandoned (k : κ) (device : δ) :
    Descends (Controller.held (Controller.abandon k device)) (Controller.held k)

namespace Simulated

instance : LawfulController Simulated where
  accepted {k k' device x m m'} hs := by
    change k.submit device x m = _ at hs
    unfold submit at hs
    rcases hr : k.refusal with ⟨c, _ | e⟩
    · simp only [hr, Prod.mk.injEq] at hs
      obtain ⟨rfl, -, -⟩ := hs
      intro y hy
      rcases List.mem_append.1 hy with hy | hy
      · have hk : y ∈ k.queue := by rwa [← (quiet_refusal hr).queue]
        exact ⟨y, List.mem_cons_of_mem _ hk, rfl⟩
      · obtain rfl := List.mem_singleton.1 hy
        exact ⟨x, List.mem_cons_self, frame_settle _ _ _⟩
    · simp [hr] at hs
  refused {k k' device x y m m' e} hs := by
    change k.submit device x m = _ at hs
    unfold submit at hs
    rcases hr : k.refusal with ⟨c, _ | u⟩
    · simp [hr] at hs
    · simp only [hr, Prod.mk.injEq, Option.some.injEq] at hs
      obtain ⟨rfl, -, -, rfl⟩ := hs
      have hq : c.queue = k.queue := (quiet_refusal hr).queue
      have hd : Descends c.queue k.queue := by
        rw [hq]
        exact .refl _
      exact ⟨rfl, hd⟩
  polled k _ _ := .refl k.queue
  measured k _ _ := .refl _
  abandoned k _ := .refl _

end Simulated

end UsbTransfer
