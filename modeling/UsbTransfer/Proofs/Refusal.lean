import UsbTransfer.Proofs.Parking
import UsbTransfer.Proofs.Reuse
import Mathlib.Data.List.Infix

namespace UsbTransfer

def Simulated.Refuses (s : Simulated) (u : UsbError) : Prop :=
  s.refusals.head? = some u ∨ (s.refusals = [] ∧ s.disconnected = true ∧ u = .noDevice)

theorem Simulated.refuses_of_refusal {s c : Simulated} {u : UsbError}
    (h : s.refusal = (c, some u)) : s.Refuses u ∧ c = { s with refusals := s.refusals.tail } := by
  unfold refusal at h
  split at h
  · rename_i hr
    cases h
    exact ⟨.inl (by rw [hr]; rfl), by rw [hr]; rfl⟩
  · rename_i hr
    obtain ⟨rfl, hu⟩ := Prod.mk.inj h
    split at hu
    · rename_i hd
      cases hu
      exact ⟨.inr ⟨hr, hd, rfl⟩, by rw [hr, List.tail_nil, ← hr]⟩
    · cases hu

def Order.renumber (o : Order) (id : TransferId) (streams : List Stream) : List Stream :=
  match o with
  | .transfer .. => streams
  | .stream i _ timeout => streams.modify i fun s =>
    { s with slot := s.slot.map fun d => { d with id, timeout } }

namespace Host

def refusedBy (h : SimulatedHost) (o : Order) (u : UsbError) : SimulatedHost :=
  { h with
    streams := o.renumber h.nextTransfer h.streams
    nextTransfer := h.nextTransfer + 1
    controller :=
      { h.controller with
        refusals := h.controller.refusals.tail
        rejected := h.controller.rejected ++ [(h.nextTransfer, u)] } }

variable {h h' : SimulatedHost} {history later : List Note} {n : Note} {target : TargetId}
    {o : Order}
  {device : UInt32} {x : Transfer} {u : UsbError} {e : HostError}

theorem streams_setSlot?_of_drafts (ht : Tidy h) (hd : h.Drafts target o device x) :
    (h.setSlot? x.slot? (some x.cleared)).streams = o.renumber h.nextTransfer h.streams := by
  cases hd with
  | transfer ha hr => rfl
  | @stream id b timeout s contracts connection c d hs ha hb hslot =>
    have hclear : (h.rebind target contracts connection id b timeout d).cleared =
        { d.cleared with id := h.nextTransfer, timeout } := rfl
    rw [hclear, ht id s d hs hslot]
    apply List.ext_getElem?
    intro j
    rw [Order.renumber, Transfer.slot?, rebind, Option.bind_some, streams_setSlot?,
      List.getElem?_modify, List.getElem?_modify]
    by_cases hj : id = j
    · subst hj
      simp [hs, hslot]
    · simp [hj]

theorem turnedAway_eq (ht : Tidy h) (hd : h.Drafts target o device x) (u : UsbError) :
    h.turnedAway x { h.controller with refusals := h.controller.refusals.tail } u =
      h.refusedBy o u := by
  have hs := streams_setSlot?_of_drafts ht hd
  unfold turnedAway refusedBy
  rw [hd.id_eq, ← hs]
  cases x.slot? <;> rfl

theorem place_refused (ht : Tidy h) (hp : h.place target o = (h', .refused e)) :
    (h.Barred o e ∧ h' = h) ∨
      ∃ u, e = .usb u ∧ h.controller.Refuses u ∧ h' = h.refusedBy o u := by
  rcases h.place_cases target o with hn | ⟨e', hb, hn⟩ | ⟨device, x, hd⟩
  · rw [hp] at hn
    cases hn
  · rw [hp] at hn
    cases hn
    exact .inl ⟨hb, rfl⟩
  · right
    have hoffer := place_of_drafts hd
    rw [hp, offer] at hoffer
    rcases hc : h.controller.refusal with ⟨c, _ | u⟩
    · rw [hc] at hoffer
      cases hoffer
    · rw [hc] at hoffer
      cases hoffer
      obtain ⟨hu, rfl⟩ := Simulated.refuses_of_refusal hc
      exact ⟨u, rfl, hu, turnedAway_eq ht hd u⟩

theorem rejected_move (hm : Move h n h') : h.controller.rejected <+: h'.controller.rejected := by
  have hkeep : ∀ {c : Simulated}, Simulated.Quiet h.controller c →
      h.controller.rejected <+: c.rejected := fun hq =>
    ⟨[], (List.append_nil _).trans hq.rejected.symm⟩
  cases hm with
  | upkeep u =>
    have hq : Quiet h (h.perform u) := quiet_perform u
    exact hkeep hq.controller
  | allocate t e packets given =>
    rcases h.allocate_cases t e packets given with he | ⟨packetLength, he⟩ <;> rw [he]
  | script device e r => exact List.prefix_refl _
  | exchange hc hd hr =>
    obtain ⟨sent, rfl⟩ := run_eq hc hd hr
    exact List.prefix_refl _
  | place target o =>
    rcases h.place_outcome target o with ⟨hp, -⟩ | ⟨device, x, c, e, -, hc, hp⟩ | ⟨device, x, -, hp⟩
    · rw [hp]
    · rw [hp]
      exact (hkeep hc).trans (List.prefix_append _ _)
    · rw [hp]
      exact List.prefix_refl _
  | poll hb => exact List.prefix_refl _
  | deliver hb hp hs =>
    rw [controller_deliver]

theorem rejected_run (hr : Run h history h') :
    h.controller.rejected <+: h'.controller.rejected := by
  induction hr with
  | refl => exact List.prefix_refl _
  | snoc _ hm ih => exact ih.trans (rejected_move hm)

theorem Ledger.silent (hl : Ledger history h) {r : TransferId × UsbError}
    (hr : r ∈ h.controller.rejected) : ∀ d ∈ h.deliveries, d.transfer ≠ r.1 := by
  intro d hd he
  have ha : r.1 ∈ (accepted history).map (·.1) := by
    rw [hl.ids, ← he]
    exact List.mem_append_left _ (List.mem_map_of_mem hd)
  exact (List.nodup_append.1 hl.nodup).2.2 _ ha _ (List.mem_map_of_mem hr) rfl

/-- A refused order, from the moment it is refused on. -/
structure Undone (history : List Note) (h : SimulatedHost) (o : Order) (e : HostError)
    (h' : SimulatedHost) : Prop where
  outcome : (h.Barred o e ∧ h' = h) ∨ ∃ u, e = .usb u ∧ h.controller.Refuses u ∧
    h' = h.refusedBy o u
  idle : ∀ id, h'.Idle id ↔ h.Idle id
  cleared : ∀ x ∈ h'.parked, x.cleared = x
  silent : ∀ later h'', Run h' later h'' →
    h''.deliveries.map Delivery.tag <+: accepted history ++ accepted later ∧
      (h'.nextTransfer ≠ h.nextTransfer → ∀ d ∈ h''.deliveries, d.transfer ≠ h.nextTransfer)

theorem Tidy.cleared_of_parked (ht : Tidy h) (hx : x ∈ h.parked) : x.cleared = x := by
  obtain ⟨s, hs, hslot⟩ := List.mem_filterMap.1 hx
  obtain ⟨id, hid⟩ := List.getElem?_of_mem hs
  exact ht id s x hid hslot

theorem refused_undone (hr : Run fresh history h) (hp : h.place target o = (h', .refused e)) :
    Undone history h o e h' := by
  have ht := tidy_fresh.run hr
  have hmove := Move.place h target o
  rw [hp] at hmove
  have hout := place_refused ht hp
  refine ⟨hout, fun id => ?_, fun x hx => (ht.move hmove).cleared_of_parked hx, ?_⟩
  · have he : (h.place target o).2 = .refused e := by rw [hp]
    have hi : (h.place target o).1.Idle id ↔ h.Idle id := idle_of_refused he
    rwa [hp] at hi
  · intro later h'' hlater
    have hl := ledger_of_run (hr.trans (.cons hmove hlater))
    have hacc :
      accepted (history ++ .placed h.nextTransfer target o (h.answerKey? o) (.refused e) ::
        later) = accepted history ++ accepted later := by
      rw [accepted_append]
      rfl
    refine ⟨?_, fun hne => ?_⟩
    · rw [← hacc, hl.ordered]
      exact List.prefix_append _ _
    · rcases hout with ⟨-, rfl⟩ | ⟨u, -, -, rfl⟩
      · exact absurd rfl hne
      · have hmem : (h.nextTransfer, u) ∈ (h.refusedBy o u).controller.rejected := by
          simp [refusedBy]
        exact hl.silent ((rejected_run hlater).subset hmem)

def doomed : List Act :=
  [.upkeep (.resolve .standard), .upkeep (.adopt 1), .upkeep (.setPacketSize 1 ⟨0x82⟩ 4),
    .allocate ⟨0, 0⟩ ⟨0x82⟩ 2 none, .upkeep (.addBuffer (.zeroed 8)),
    .upkeep (.addTarget .recorder), .upkeep (.refuseNext .noMemory)]

theorem doomed_undone :
    ∃ history h', Run fresh history (after doomed) ∧
      (after doomed).place 0 (.stream 0 0 7) = (h', .refused (.usb .noMemory)) ∧
      Undone history (after doomed) (.stream 0 0 7) (.usb .noMemory) h' ∧
      h'.controller.rejected = [(2, .noMemory)] ∧ h'.Idle 0 := by
  obtain ⟨history, hr, -⟩ := after_run doomed
  have hp : (after doomed).place 0 (.stream 0 0 7) =
    (((after doomed).place 0 (.stream 0 0 7)).1, .refused (.usb .noMemory)) :=
    Prod.ext rfl (by decide)
  exact ⟨history, _, hr, hp, refused_undone hr hp, by decide, _, rfl, by decide⟩

end Host

end UsbTransfer
