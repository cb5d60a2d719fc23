import UsbTransfer.Proofs.Frame
import Mathlib.Data.List.Nodup

namespace UsbTransfer

namespace Arena

variable {α : Type} {a : Arena α} {v w : α} {t : Token}

theorem get?_eq_some : a.get? t = some v ↔
    ∃ s, a.slots[t.index.toNat]? = some s ∧ s.generation = t.generation ∧ s.value = some v := by
  simp [get?, slot?, Option.bind_eq_some_iff, Option.filter_eq_some_iff, and_assoc]

theorem values_modify {i : Nat} (hi : i < a.slots.length) (f : Slot α → Slot α) :
    ∃ before s after, a.slots[i]? = some s ∧ a.values = before ++ s.value.toList ++ after ∧
      (a.slots.modify i f).filterMap (·.value) = before ++ (f s).value.toList ++ after := by
  obtain ⟨l, s, r, hl, rfl, hm⟩ := List.exists_of_modify f hi
  refine ⟨l.filterMap (·.value), s, r.filterMap (·.value), by simp [hl], ?_, ?_⟩
  · rw [values, hl]
    cases hv : s.value <;> simp [hv]
  · rw [hm]
    cases hv : (f s).value <;> simp [hv]

theorem values_insert (a : Arena α) (v : α) :
    (a.insert v).1.values = a.values ∨
      ∃ before after, (a.insert v).1.values = before ++ v :: after ∧
        (before ++ after).Sublist a.values := by
  unfold insert
  split
  · rename_i i rest hfree
    by_cases hi : i.toNat < a.slots.length
    · obtain ⟨before, s, after, -, hv, hm⟩ := values_modify hi ({ · with value := some v })
      refine .inr ⟨before, after, by simpa [values] using hm, ?_⟩
      rw [hv, List.append_assoc]
      exact (List.sublist_append_right _ _).append_left before
    · left
      rw [values, List.modify_eq_self (by omega)]
      rfl
  · exact .inr ⟨a.values, [], by simp [values], by simp⟩

theorem mem_values_insert (h : w ∈ (a.insert v).1.values) : w = v ∨ w ∈ a.values := by
  rcases a.values_insert v with he | ⟨before, after, he, hs⟩
  · rw [he] at h
    exact .inr h
  · rw [he, List.mem_append, List.mem_cons] at h
    rcases h with h | rfl | h
    · exact .inr (hs.subset (List.mem_append_left _ h))
    · exact .inl rfl
    · exact .inr (hs.subset (List.mem_append_right _ h))

theorem nodup_values_insert (hn : a.values.Nodup) (hv : v ∉ a.values) :
    (a.insert v).1.values.Nodup := by
  rcases a.values_insert v with he | ⟨before, after, he, hs⟩
  · rwa [he]
  · rw [he, List.nodup_middle, List.nodup_cons]
    exact ⟨fun h => hv (hs.subset h), hn.sublist hs⟩

theorem values_remove (h : a.get? t = some v) :
    ∃ before after, a.values = before ++ v :: after ∧ (a.remove t).1.values = before ++ after := by
  obtain ⟨s, hs, -, hv⟩ := get?_eq_some.1 h
  obtain ⟨before, s', after, hs', he, hm⟩ :=
    values_modify (a := a) (List.getElem?_eq_some_iff.1 hs).1
    fun s => { generation := s.generation + 1, value := none }
  obtain rfl : s' = s := by simpa [hs] using hs'.symm
  refine ⟨before, after, by simpa [hv] using he, ?_⟩
  simpa [remove, h, vacate, values] using hm

theorem sublist_values_remove (a : Arena α) (t : Token) :
    (a.remove t).1.values.Sublist a.values := by
  cases h : a.get? t with
  | none => rw [remove_of_get?_eq_none h]
  | some v =>
    obtain ⟨before, after, he, hr⟩ := values_remove h
    rw [he, hr]
    exact (List.sublist_cons_self v after).append_left before

theorem not_mem_values_remove (hn : a.values.Nodup) (h : a.get? t = some v) :
    v ∉ (a.remove t).1.values := by
  obtain ⟨before, after, he, hr⟩ := values_remove h
  rw [he, List.nodup_middle, List.nodup_cons] at hn
  rw [hr]
  exact hn.1

theorem mem_values_of_get? (h : a.get? t = some v) : v ∈ a.values := by
  obtain ⟨before, after, he, -⟩ := values_remove h
  simp [he]

theorem exists_get?_of_mem_values (hb : a.slots.length ≤ UInt32.size) (hv : v ∈ a.values) :
    ∃ t, a.get? t = some v := by
  obtain ⟨s, hs, hval⟩ := List.mem_filterMap.1 hv
  obtain ⟨i, hi⟩ := List.getElem?_of_mem hs
  have hlt := (List.getElem?_eq_some_iff.1 hi).1
  have hidx : (UInt32.ofNat i).toNat = i := UInt32.toNat_ofNat_of_lt' (Nat.lt_of_lt_of_le hlt hb)
  exact ⟨⟨.ofNat i, s.generation⟩, get?_eq_some.2 ⟨s, by rw [hidx]; exact hi, rfl, hval⟩⟩

end Arena

def Note.governs : Note → Bool
  | .upkeep (.resolve _) | .upkeep (.adopt _) | .upkeep (.close _) | .upkeep (.beginDrain _)
  | .upkeep (.endDrain _) => true
  | _ => false

namespace Host

def Open (h : SimulatedHost) (id : ConnectionId) : Prop := id ∈ h.devices.values

instance (h : SimulatedHost) (id : ConnectionId) : Decidable (h.Open id) :=
  inferInstanceAs (Decidable (_ ∈ _))

structure Occupied (h : SimulatedHost) : Prop where
  nodup : h.devices.values.Nodup
  bounded : ∀ id, h.Open id → id < h.connections.length

variable {h h' : SimulatedHost} {history : List Note} {n : Note} {t : Token} {id : ConnectionId}
  {c : Connection UInt32}

theorem lookup_eq_ok : h.lookup t = .ok (id, c) ↔
    h.devices.get? t = some id ∧ h.connections[id]? = some c := by
  constructor
  · intro hl
    refine ⟨?_, connection_of_lookup hl⟩
    unfold lookup at hl
    split at hl
    · cases hl
    · rename_i hd
      split at hl
      · cases hl
      · cases hl
        exact hd
  · rintro ⟨hd, hc⟩
    simp only [lookup, hd, hc]

inductive Reopened (h h' : SimulatedHost) : Prop
  | kept (hd : h'.devices = h.devices) (hc : h'.connections.length = h.connections.length)
  | adopted (device : UInt32) (he : h' = (h.adopt device).1)
  | closed (t : Token) (hd : h'.devices = (h.devices.remove t).1)
      (hc : h'.connections.length = h.connections.length)

theorem devices_close (h : SimulatedHost) (t : Token) :
    (h.close t).1.devices = (h.devices.remove t).1 ∨ (h.close t).1 = h := by
  unfold close
  split
  · exact .inr rfl
  · exact .inl (by rw [reap_eq])

theorem connections_close (h : SimulatedHost) (t : Token) :
    (h.close t).1.connections = h.connections := by
  unfold close
  split
  · rfl
  · rw [reap_eq]

structure Standing (h h' : SimulatedHost) : Prop where
  devices : h'.devices = h.devices
  connections : h'.connections = h.connections
  contracts : h'.contracts = h.contracts

theorem standing_place (h : SimulatedHost) (target : TargetId) (o : Order) :
    Standing h (h.place target o).1 := by
  have hset : ∀ slot y, Standing h (h.setSlot? slot y) := by
    intro slot y
    cases slot <;> exact ⟨rfl, rfl, rfl⟩
  rcases h.place_outcome target o with ⟨hp, -⟩ | ⟨device, x, c, e, -, -, hp⟩ | ⟨device, x, -, hp⟩
  · rw [hp]
    exact ⟨rfl, rfl, rfl⟩
  · rw [hp]
    exact ⟨(hset _ _).devices, (hset _ _).connections, (hset _ _).contracts⟩
  · rw [hp]
    exact ⟨(hset _ _).devices, (hset _ _).connections, (hset _ _).contracts⟩

inductive Governed (h h' : SimulatedHost) : Note → Prop
  | kept {n : Note} (hn : n.governs = false) (hs : Standing h h') : Governed h h' n
  | resolved (r : Registry) (he : h' = (h.resolve r).1) : Governed h h' (.upkeep (.resolve r))
  | adopted (device : UInt32) (he : h' = (h.adopt device).1) :
      Governed h h' (.upkeep (.adopt device))
  | closed (t : Token) (he : h' = (h.close t).1) : Governed h h' (.upkeep (.close t))
  | begun (t : Token) (he : h' = (h.beginDrain t).1) : Governed h h' (.upkeep (.beginDrain t))
  | ended (id : ConnectionId) (he : h' = h.endDrain id) : Governed h h' (.upkeep (.endDrain id))

theorem governed_perform (u : Upkeep) : Governed h (h.perform u) (.upkeep u) := by
  cases u with
  | resolve r => exact .resolved r rfl
  | adopt device => exact .adopted device rfl
  | close t => exact .closed t rfl
  | beginDrain t => exact .begun t rfl
  | endDrain id => exact .ended id rfl
  | operate t op =>
    refine .kept rfl ?_
    simp only [perform, operate]
    split <;> exact ⟨rfl, rfl, rfl⟩
  | receive t =>
    refine .kept rfl ?_
    simp only [perform]
    split <;> exact ⟨rfl, rfl, rfl⟩
  | dropTarget t =>
    refine .kept rfl ?_
    simp only [perform, dropTarget]
    split <;> exact ⟨rfl, rfl, rfl⟩
  | dropReceiver t =>
    refine .kept rfl ?_
    simp only [perform, dropReceiver]
    split <;> exact ⟨rfl, rfl, rfl⟩
  | refuseNext | setPacketSize | hold | release | disconnect | addBuffer | write | setValid
    | addTarget | answer | leave => exact .kept rfl ⟨rfl, rfl, rfl⟩

theorem governed_move (hm : Move h n h') : Governed h h' n := by
  cases hm with
  | upkeep u => exact governed_perform u
  | allocate t e packets given =>
    refine .kept rfl ?_
    rcases h.allocate_cases t e packets given with he | ⟨packetLength, he⟩ <;> rw [he] <;>
      exact ⟨rfl, rfl, rfl⟩
  | script device e r => exact .kept rfl ⟨rfl, rfl, rfl⟩
  | exchange hc hd hr =>
    obtain ⟨sent, rfl⟩ := run_eq hc hd hr
    exact .kept rfl ⟨rfl, rfl, rfl⟩
  | place target o => exact .kept rfl (h.standing_place target o)
  | poll hb => exact .kept rfl ⟨rfl, rfl, rfl⟩
  | deliver hb hp hs =>
    obtain ⟨targets, ht⟩ := Host.deliver_eq _ _ _ _ _
    rw [ht]
    exact .kept rfl ⟨rfl, rfl, rfl⟩

theorem reopened_move (hm : Move h n h') : Reopened h h' := by
  cases governed_move hm with
  | kept hn hs => exact .kept hs.devices (congrArg List.length hs.connections)
  | resolved r he =>
    rw [he, resolve]
    split <;> exact .kept rfl rfl
  | adopted device he => exact .adopted device he
  | closed t he =>
    rw [he]
    rcases h.devices_close t with hd | hkept
    · exact .closed t hd (congrArg List.length (h.connections_close t))
    · exact .kept (congrArg Host.devices hkept) (congrArg (·.connections.length) hkept)
  | begun t he =>
    rw [he, beginDrain]
    split
    · exact .kept rfl rfl
    · exact .kept rfl (List.length_modify ..)
  | ended id he =>
    rw [he]
    exact .kept rfl (List.length_modify ..)

theorem Occupied.move (ho : Occupied h) (hm : Move h n h') : Occupied h' := by
  rcases reopened_move hm with ⟨hd, hc⟩ | ⟨device, rfl⟩ | ⟨t, hd, hc⟩
  · refine ⟨by rw [hd]; exact ho.nodup, fun id hid => ?_⟩
    rw [hc]
    exact ho.bounded id (by rwa [Open, hd] at hid)
  · have hnew : h.connections.length ∉ h.devices.values := fun hmem =>
      Nat.lt_irrefl _ (ho.bounded _ hmem)
    refine ⟨Arena.nodup_values_insert ho.nodup hnew, fun id hid => ?_⟩
    simp only [adopt, List.length_append, List.length_singleton]
    rcases Arena.mem_values_insert hid with rfl | hid
    · exact Nat.lt_succ_self _
    · exact Nat.lt_succ_of_lt (ho.bounded id hid)
  · have hsub := Arena.sublist_values_remove h.devices t
    rw [← hd] at hsub
    refine ⟨ho.nodup.sublist hsub, fun id hid => ?_⟩
    rw [hc]
    exact ho.bounded id (hsub.subset hid)

theorem Occupied.run (hr : Run h history h') (ho : Occupied h) : Occupied h' := by
  induction hr with
  | refl => exact ho
  | snoc _ hm ih => exact ih.move hm

theorem occupied_fresh : Occupied fresh := ⟨.nil, fun id hid => by cases hid⟩

theorem Occupied.count_eq (ho : Occupied h) (id : ConnectionId) :
    h.devices.values.count id = if h.Open id then 1 else 0 := by
  split
  · rename_i hid
    exact List.count_eq_one_of_mem ho.nodup hid
  · rename_i hid
    exact List.count_eq_zero_of_not_mem hid

theorem Occupied.open_iff (ho : Occupied h) (hb : h.devices.slots.length ≤ UInt32.size)
    (id : ConnectionId) : h.Open id ↔ ∃ t c, h.lookup t = .ok (id, c) := by
  constructor
  · intro hid
    obtain ⟨t, ht⟩ := Arena.exists_get?_of_mem_values hb hid
    exact ⟨t, _, lookup_eq_ok.2 ⟨ht, List.getElem?_eq_getElem (ho.bounded id hid)⟩⟩
  · rintro ⟨t, c, hl⟩
    exact Arena.mem_values_of_get? (lookup_eq_ok.1 hl).1

theorem Occupied.devices_close (ho : Occupied h) (t : Token) :
    (h.close t).1.devices = (h.devices.remove t).1 := by
  cases hg : h.devices.get? t with
  | none =>
    have hl : h.lookup t = .error .invalidHandle := by simp only [lookup, hg]
    rw [Arena.remove_of_get?_eq_none hg]
    simp only [close, hl]
  | some id =>
    have hid := ho.bounded id (Arena.mem_values_of_get? hg)
    have hl := lookup_eq_ok.2 ⟨hg, List.getElem?_eq_getElem hid⟩
    simp only [close, hl, reap_eq]

theorem Occupied.not_open_close (ho : Occupied h) (hl : h.lookup t = .ok (id, c)) :
    ¬ (h.close t).1.Open id := by
  have hget := (lookup_eq_ok.1 hl).1
  rw [Open, ho.devices_close]
  exact Arena.not_mem_values_remove ho.nodup hget

end Host

end UsbTransfer
