import UsbTransfer.Proofs.Drain
import UsbTransfer.Proofs.Tenancy

namespace UsbTransfer

namespace Arena

variable {α : Type}

def entries (a : Arena α) : List (Token × α) :=
  a.slots.zipIdx.filterMap fun (s, i) => s.value.map fun v => (⟨.ofNat i, s.generation⟩, v)

/-- What no token names: indices of tokens are words of 32 bits. -/
def unnamed (a : Arena α) : List α := (a.slots.drop UInt32.size).filterMap (·.value)

def removeAll (a : Arena α) (ts : List Token) : Arena α := ts.foldl (fun a t => (a.remove t).1) a

variable {a : Arena α} {s : Slot α} {t : Token} {v : α} {i : Nat} {ts : List Token}

theorem values_eq_entries (a : Arena α) : a.values = a.entries.map (·.2) := by
  have hslots : a.slots = a.slots.zipIdx.map (·.1) := by simp
  rw [values, hslots, List.filterMap_map, entries, List.map_filterMap]
  simp [Function.comp_def]

theorem tokens_eq_entries (a : Arena α) : a.tokens = a.entries.map (·.1) := by
  rw [tokens, entries, List.map_filterMap]
  simp [Function.comp_def]

theorem mem_entries : (t, v) ∈ a.entries ↔
    ∃ i s, a.slots[i]? = some s ∧ t = ⟨.ofNat i, s.generation⟩ ∧ s.value = some v := by
  simp only [entries, List.mem_filterMap, Prod.exists, List.mk_mem_zipIdx_iff_getElem?,
    Option.map_eq_some_iff, Prod.mk.injEq]
  constructor
  · rintro ⟨s, i, hs, w, hw, rfl, rfl⟩
    exact ⟨i, s, hs, rfl, hw⟩
  · rintro ⟨i, s, hs, rfl, hw⟩
    exact ⟨s, i, hs, v, hw, rfl, rfl⟩

section Named

variable (hb : a.slots.length ≤ UInt32.size)
include hb

theorem toNat_ofNat_of_slot (hs : a.slots[i]? = some s) : (UInt32.ofNat i).toNat = i :=
  UInt32.toNat_ofNat_of_lt' (Nat.lt_of_lt_of_le (List.getElem?_eq_some_iff.1 hs).1 hb)

theorem mem_entries_iff_get? : (t, v) ∈ a.entries ↔ a.get? t = some v := by
  rw [mem_entries, get?_eq_some]
  constructor
  · rintro ⟨i, s, hs, rfl, hv⟩
    exact ⟨s, by rw [toNat_ofNat_of_slot hb hs]; exact hs, rfl, hv⟩
  · rintro ⟨s, hs, hg, hv⟩
    exact ⟨_, s, hs, by rw [UInt32.ofNat_toNat, hg], hv⟩

theorem nodup_entries : (a.entries.map (·.1)).Nodup := by
  have hidx : a.slots.zipIdx.Pairwise fun x y => x.2 ≠ y.2 := by
    rw [← List.pairwise_map, List.zipIdx_map_snd]
    exact List.nodup_range'
  rw [List.Nodup, List.pairwise_map, entries, List.pairwise_filterMap]
  refine hidx.imp_of_mem ?_
  rintro ⟨s, i⟩ ⟨u, j⟩ hi hj hne x hx y hy he
  obtain ⟨v, -, rfl⟩ := Option.map_eq_some_iff.1 hx
  obtain ⟨w, -, rfl⟩ := Option.map_eq_some_iff.1 hy
  have hi := toNat_ofNat_of_slot hb (List.mk_mem_zipIdx_iff_getElem?.1 hi)
  have hj := toNat_ofNat_of_slot hb (List.mk_mem_zipIdx_iff_getElem?.1 hj)
  have hij : UInt32.ofNat i = UInt32.ofNat j := congrArg Token.index he
  exact hne (by rw [← hi, ← hj, hij])

theorem unnamed_eq_nil : a.unnamed = [] := by
  rw [unnamed, List.drop_eq_nil_of_le hb, List.filterMap_nil]

end Named

structure Tidy (a : Arena α) : Prop where
  vacant : ∀ i ∈ a.free, ∃ s, a.slots[i.toNat]? = some s ∧ s.value = none
  nodup : a.free.Nodup

theorem Tidy.values_insert (ht : Tidy a) (v : α) : ∃ before after,
    a.values = before ++ after ∧ (a.insert v).1.values = before ++ v :: after := by
  unfold insert
  split
  · rename_i i rest hfree
    obtain ⟨s, hs, hv⟩ := ht.vacant i (by simp [hfree])
    obtain ⟨before, x, after, hx, he, hm⟩ :=
      values_modify (List.getElem?_eq_some_iff.1 hs).1 ({ · with value := some v })
    obtain rfl : x = s := Option.some.inj (hx.symm.trans hs)
    exact ⟨before, after, by simpa [hv] using he, by simpa [values] using hm⟩
  · exact ⟨a.values, [], by simp, by simp [values]⟩

theorem Tidy.insert (ht : Tidy a) (v : α) : Tidy (a.insert v).1 := by
  unfold Arena.insert
  split
  · rename_i i rest hfree
    have hn := ht.nodup
    rw [hfree, List.nodup_cons] at hn
    refine ⟨fun j hj => ?_, hn.2⟩
    obtain ⟨s, hs, hv⟩ := ht.vacant j (by rw [hfree]; exact List.mem_cons_of_mem _ hj)
    have hne : i.toNat ≠ j.toNat := fun he => hn.1 (UInt32.toNat.inj he ▸ hj)
    exact ⟨s, by simp [hne, hs], hv⟩
  · rename_i hfree
    rw [hfree]
    exact ⟨by simp, .nil⟩

theorem Tidy.remove (ht : Tidy a) (t : Token) : Tidy (a.remove t).1 := by
  cases hg : a.get? t with
  | none => rwa [remove_of_get?_eq_none hg]
  | some v =>
    have hr := removes_of_get? hg
    have hnot : t.index ∉ a.free := fun hm => by
      obtain ⟨s, hs, hnone⟩ := ht.vacant _ hm
      obtain rfl := Option.some.inj (hr.filled.symm.trans hs)
      cases hnone
    constructor
    · intro i hi
      rw [hr.slots]
      split
      · exact ⟨_, rfl, rfl⟩
      · rename_i hne
        rw [hr.free, List.mem_cons] at hi
        exact ht.vacant i (hi.resolve_left fun he => hne (congrArg _ he))
    · rw [hr.free, List.nodup_cons]
      exact ⟨hnot, ht.nodup⟩

theorem slot_remove (a : Arena α) (t : Token) (i : Nat) :
    (a.remove t).1.slots[i]? = a.slots[i]? ∨
      i = t.index.toNat ∧ ∃ s, (a.remove t).1.slots[i]? = some s ∧ s.value = none := by
  cases hg : a.get? t with
  | none =>
    rw [remove_of_get?_eq_none hg]
    exact .inl rfl
  | some v =>
    rw [(removes_of_get? hg).slots]
    split
    · rename_i hi
      exact .inr ⟨hi, _, rfl, rfl⟩
    · exact .inl rfl

theorem removeAll_cons (a : Arena α) (t : Token) (ts : List Token) :
    a.removeAll (t :: ts) = (a.remove t).1.removeAll ts := rfl

theorem length_removeAll (a : Arena α) (ts : List Token) :
    (a.removeAll ts).slots.length = a.slots.length := by
  induction ts generalizing a with
  | nil => rfl
  | cons t ts ih => rw [removeAll_cons, ih, length_remove]

theorem vacant_removeAll (hs : a.slots[i]? = some s) (hv : s.value = none) :
    ∃ x, (a.removeAll ts).slots[i]? = some x ∧ x.value = none := by
  induction ts generalizing a s with
  | nil => exact ⟨s, hs, hv⟩
  | cons t ts ih =>
    rcases a.slot_remove t i with he | ⟨-, x, hx, hxv⟩
    · exact ih (he.trans hs) hv
    · exact ih hx hxv

theorem vacant_of_mem (hs : a.slots[i]? = some s) (hi : (UInt32.ofNat i).toNat = i)
    (hm : ⟨.ofNat i, s.generation⟩ ∈ ts) :
    ∃ x, (a.removeAll ts).slots[i]? = some x ∧ x.value = none := by
  induction ts generalizing a with
  | nil => cases hm
  | cons t ts ih =>
    rcases List.mem_cons.1 hm with rfl | hm
    · cases hv : s.value with
      | none => exact vacant_removeAll hs hv
      | some v =>
        have hg : a.get? ⟨.ofNat i, s.generation⟩ = some v :=
          get?_eq_some.2 ⟨s, by rw [hi]; exact hs, rfl, hv⟩
        have hnew := (removes_of_get? hg).slots i
        rw [if_pos hi.symm] at hnew
        rw [removeAll_cons]
        exact vacant_removeAll hnew rfl
    · rw [removeAll_cons]
      rcases a.slot_remove t i with he | ⟨-, x, hx, hxv⟩
      · exact ih (he.trans hs) hm
      · exact vacant_removeAll hx hxv

theorem slot_removeAll_of_le (hi : UInt32.size ≤ i) :
    (a.removeAll ts).slots[i]? = a.slots[i]? := by
  induction ts generalizing a with
  | nil => rfl
  | cons t ts ih =>
    rcases a.slot_remove t i with he | ⟨he, -⟩
    · exact ih.trans he
    · have hlt := t.index.toNat_lt
      have hsize : UInt32.size = 2 ^ 32 := rfl
      omega

theorem values_of_vacant {b : Arena α}
    (hv : ∀ i s, i < UInt32.size → b.slots[i]? = some s → s.value = none)
    (hd : ∀ i, UInt32.size ≤ i → b.slots[i]? = a.slots[i]?) : b.values = a.unnamed := by
  have htake : (b.slots.take UInt32.size).filterMap (·.value) = [] := by
    rw [List.filterMap_eq_nil_iff]
    intro s hs
    obtain ⟨i, hi⟩ := List.getElem?_of_mem hs
    rw [List.getElem?_take] at hi
    split at hi
    · rename_i hlt
      exact hv i s hlt hi
    · cases hi
  have hdrop : b.slots.drop UInt32.size = a.slots.drop UInt32.size := by
    refine List.ext_getElem? fun i => ?_
    rw [List.getElem?_drop, List.getElem?_drop, hd _ (Nat.le_add_right _ _)]
  rw [values, ← List.take_append_drop UInt32.size b.slots, List.filterMap_append, htake, hdrop]
  rfl

theorem values_removeAll_tokens (a : Arena α) : (a.removeAll a.tokens).values = a.unnamed := by
  refine values_of_vacant (fun i s hi hs => ?_) fun i hi => slot_removeAll_of_le hi
  have hlt := (List.getElem?_eq_some_iff.1 hs).1
  rw [length_removeAll] at hlt
  have hold : a.slots[i]? = some a.slots[i] := List.getElem?_eq_getElem hlt
  have hvacant : ∃ x, (a.removeAll a.tokens).slots[i]? = some x ∧ x.value = none := by
    cases hv : a.slots[i].value with
    | none => exact vacant_removeAll hold hv
    | some v =>
      refine vacant_of_mem hold (UInt32.toNat_ofNat_of_lt' hi) ?_
      rw [tokens_eq_entries]
      exact List.mem_map.2 ⟨(_, v), mem_entries.2 ⟨i, _, hold, rfl, hv⟩, rfl⟩
  obtain ⟨x, hx, hnone⟩ := hvacant
  obtain rfl := Option.some.inj (hx.symm.trans hs)
  exact hnone

end Arena

def Note.adopts (d : UInt32) : Note → Bool
  | .upkeep (.adopt device) => device = d
  | _ => false

def adoptions (history : List Note) (d : UInt32) : Nat := history.countP (·.adopts d)

theorem adoptions_snoc (history : List Note) (n : Note) (d : UInt32) :
    adoptions (history ++ [n]) d = adoptions history d + if n.adopts d then 1 else 0 := by
  rw [adoptions, List.countP_append, List.countP_singleton]
  rfl

namespace Host

variable {h h' : SimulatedHost} {history : List Note} {n : Note} {t : Token} {d : UInt32}

def closes (h : SimulatedHost) (d : UInt32) : Nat := h.controller.ops.count (.closed d)

def deviceOf (h : SimulatedHost) (id : ConnectionId) : Option UInt32 :=
  h.connections[id]?.map (·.device)

def openTokens (h : SimulatedHost) (d : UInt32) : List Token :=
  (h.devices.entries.filter fun e => h.deviceOf e.2 = some d).map (·.1)

def among (h : SimulatedHost) (d : UInt32) (ids : List ConnectionId) : Nat :=
  ids.countP fun id => h.deviceOf id = some d

theorem length_openTokens (h : SimulatedHost) (d : UInt32) :
    (h.openTokens d).length = h.among d h.devices.values := by
  rw [openTokens, List.length_map, ← List.countP_eq_length_filter, among, Arena.values_eq_entries,
    List.countP_map]
  rfl

theorem among_congr {ids : List ConnectionId} (he : ∀ id ∈ ids, h'.deviceOf id = h.deviceOf id) :
    h'.among d ids = h.among d ids :=
  List.countP_congr fun id hid => by rw [he id hid]

theorem closes_operate (h : SimulatedHost) (t : Token) (op : DeviceOp) (d : UInt32) :
    (h.operate t op).1.closes d = h.closes d := by
  rcases hl : h.lookup t with e | ⟨id, c⟩
  · simp only [operate, hl]
  · have hop : Controller.operate h.controller c.device op = h.controller.operate c.device op := rfl
    simp only [operate, hl, hop, Simulated.operate]
    split
    · rfl
    · split
      · rfl
      · simp [closes, List.count_append]

theorem closes_move (hm : Move h n h') (hn : ∀ t, n ≠ .upkeep (.close t)) (d : UInt32) :
    h'.closes d = h.closes d := by
  cases hm with
  | upkeep u =>
    cases u with
    | close t => exact absurd rfl (hn t)
    | operate t op => exact h.closes_operate t op d
    | resolve r =>
      simp only [perform, resolve]
      split <;> rfl
    | beginDrain t =>
      simp only [perform, beginDrain]
      split <;> rfl
    | receive t =>
      simp only [perform]
      split <;> rfl
    | dropTarget t =>
      simp only [perform, dropTarget]
      split <;> rfl
    | dropReceiver t =>
      simp only [perform, dropReceiver]
      split <;> rfl
    | adopt | endDrain | refuseNext | setPacketSize | hold | release | disconnect | addBuffer
      | write | setValid | addTarget | answer | leave => rfl
  | allocate t e packets given =>
    rcases h.allocate_cases t e packets given with he | ⟨packetLength, he⟩
    · rw [he]
    · rw [he]
      rfl
  | script device e r => rfl
  | exchange hc hd hr =>
    obtain ⟨sent, rfl⟩ := run_eq hc hd hr
    rfl
  | place target o => rw [closes, (h.steady_place target o).ops]; rfl
  | poll hb => rfl
  | deliver hb hp hs => rw [closes, controller_deliver]; rfl

theorem balance_close (ho : Occupied h) (t : Token) (d : UInt32) :
    (h.close t).1.closes d + (h.close t).1.among d (h.close t).1.devices.values =
      h.closes d + h.among d h.devices.values := by
  rcases hl : h.lookup t with e | ⟨id, c⟩
  · simp only [close, hl]
  · obtain ⟨hg, hc⟩ := lookup_eq_ok.1 hl
    obtain ⟨before, after, he, hr⟩ := Arena.values_remove hg
    have hcloses : (h.close t).1.closes d = h.closes d + if c.device = d then 1 else 0 := by
      have hops : (h.close t).1.controller.ops = h.controller.ops ++ [.closed c.device] := by
        simp only [close, hl, reap_eq]
        rfl
      rw [closes, hops, List.count_append, List.count_singleton]
      simp [closes]
    have hdev : ∀ j, (h.close t).1.deviceOf j = h.deviceOf j := fun j => by
      rw [deviceOf, connections_close, deviceOf]
    have hid : h.deviceOf id = some c.device := by rw [deviceOf, hc]; rfl
    rw [hcloses, among_congr fun j _ => hdev j, ho.devices_close, hr, he, among, among,
      List.countP_append, List.countP_append, List.countP_cons, hid]
    simp only [Option.some.injEq, decide_eq_true_eq]
    omega

structure Reckoned (history : List Note) (h : SimulatedHost) : Prop where
  tidy : h.devices.Tidy
  counted : ∀ d, adoptions history d = h.closes d + h.among d h.devices.values

theorem Reckoned.kept (hk : Reckoned history h) (hm : Move h n h')
    (hn : ∀ t, n ≠ .upkeep (.close t)) (ha : ∀ d, n.adopts d = false) (hd : h'.devices = h.devices)
    (hc : ∀ id, h'.deviceOf id = h.deviceOf id) : Reckoned (history ++ [n]) h' := by
  refine ⟨by rw [hd]; exact hk.tidy, fun d => ?_⟩
  rw [adoptions_snoc, ha, closes_move hm hn, hd, among_congr fun id _ => hc id, hk.counted]
  rfl

theorem Reckoned.adopt (hk : Reckoned history h) (ho : Occupied h) (device : UInt32) :
    Reckoned (history ++ [.upkeep (.adopt device)]) (h.adopt device).1 := by
  refine ⟨hk.tidy.insert _, fun d => ?_⟩
  obtain ⟨before, after, he, hv⟩ := hk.tidy.values_insert h.connections.length
  have hold : ∀ id ∈ before ++ after, (h.adopt device).1.deviceOf id = h.deviceOf id := by
    intro id hid
    rw [← he] at hid
    simp only [deviceOf, Host.adopt]
    rw [List.getElem?_append_left (ho.bounded id hid)]
  have hnew : (h.adopt device).1.deviceOf h.connections.length = some device := by
    simp [deviceOf, Host.adopt]
  have hvalues : (h.adopt device).1.devices.values = before ++ h.connections.length :: after := hv
  have hcloses : (h.adopt device).1.closes d = h.closes d := rfl
  have hcount := among_congr (d := d) hold
  rw [adoptions_snoc, hk.counted, hcloses, hvalues, he, ← hcount, among, among, List.countP_append,
    List.countP_append, List.countP_cons, hnew]
  simp only [Note.adopts, Option.some.injEq, decide_eq_true_eq]
  omega

theorem Reckoned.close (hk : Reckoned history h) (ho : Occupied h) (t : Token) :
    Reckoned (history ++ [.upkeep (.close t)]) (h.close t).1 := by
  refine ⟨by rw [ho.devices_close]; exact hk.tidy.remove t, fun d => ?_⟩
  rw [adoptions_snoc, hk.counted, balance_close ho]
  rfl

theorem deviceOf_of_modify {id : ConnectionId} {f : Connection UInt32 → Connection UInt32}
    (hc : h'.connections = h.connections.modify id f) (hf : ∀ c, (f c).device = c.device)
    (j : ConnectionId) : h'.deviceOf j = h.deviceOf j := by
  rw [deviceOf, deviceOf, hc, List.getElem?_modify]
  cases h.connections[j]? with
  | none => rfl
  | some c =>
    by_cases hj : id = j
    · simp [hj, hf c]
    · simp [hj]

theorem Reckoned.move (hk : Reckoned history h) (ho : Occupied h) (hm : Move h n h') :
    Reckoned (history ++ [n]) h' := by
  cases governed_move hm with
  | kept hn hs =>
    refine hk.kept hm ?_ ?_ hs.devices fun id => by rw [deviceOf, hs.connections, deviceOf]
    · rintro t rfl
      cases hn
    · intro d
      unfold Note.adopts
      split
      · cases hn
      · rfl
  | resolved r he =>
    refine hk.kept hm (by simp) (fun _ => rfl) ?_ fun id => ?_ <;> rw [he, resolve]
    · split <;> rfl
    · split <;> rfl
  | adopted device he =>
    rw [he]
    exact hk.adopt ho device
  | closed t he =>
    rw [he]
    exact hk.close ho t
  | begun t he =>
    have hf : ∀ c : Connection UInt32,
      ({ c with draining := c.draining + 1 } : Connection UInt32).device = c.device := fun _ => rfl
    refine hk.kept hm (by simp) (fun _ => rfl) ?_ fun id => ?_ <;> rw [he, beginDrain]
    · split <;> rfl
    · split
      · rfl
      · exact deviceOf_of_modify rfl hf id
  | ended id he =>
    have hf : ∀ c : Connection UInt32,
      ({ c with draining := c.draining - 1 } : Connection UInt32).device = c.device := fun _ => rfl
    refine hk.kept hm (by simp) (fun _ => rfl) ?_ fun j => ?_ <;> rw [he, endDrain]
    exact deviceOf_of_modify rfl hf j

theorem reckoned_of_run (hr : Run fresh history h) : Reckoned history h := by
  induction hr with
  | refl => exact ⟨⟨by simp [fresh], .nil⟩, fun d => rfl⟩
  | snoc hr hm ih => exact ih.move (occupied_fresh.run hr) hm

def closeAll (h : SimulatedHost) (ts : List Token) : SimulatedHost :=
  ts.foldl (fun h t => (h.close t).1) h

theorem closeAll_cons (h : SimulatedHost) (t : Token) (ts : List Token) :
    h.closeAll (t :: ts) = (h.close t).1.closeAll ts := rfl

theorem Occupied.close (ho : Occupied h) (t : Token) : Occupied (h.close t).1 :=
  ho.move (.upkeep h (.close t))

theorem devices_closeAll (ho : Occupied h) (ts : List Token) :
    (h.closeAll ts).devices = h.devices.removeAll ts := by
  induction ts generalizing h with
  | nil => rfl
  | cons t ts ih => rw [closeAll_cons, ih (ho.close t), ho.devices_close, Arena.removeAll_cons]

theorem balance_closeAll (ho : Occupied h) (ts : List Token) (d : UInt32) :
    (h.closeAll ts).closes d + (h.closeAll ts).among d (h.closeAll ts).devices.values =
      h.closes d + h.among d h.devices.values := by
  induction ts generalizing h with
  | nil => rfl
  | cons t ts ih => rw [closeAll_cons, ih (ho.close t), balance_close ho]

theorem closes_shutDown (hr : Run fresh history h) (d : UInt32) :
    adoptions history d = h.shutDown.closes d + h.among d h.devices.unnamed := by
  have ho := occupied_fresh.run hr
  have hb := balance_closeAll ho h.devices.tokens d
  have hdev : ∀ id, (h.closeAll h.devices.tokens).deviceOf id = h.deviceOf id := fun id => by
    rw [deviceOf, deviceOf, ← h.connections_shutDown]
    rfl
  rw [devices_closeAll ho, Arena.values_removeAll_tokens, among_congr fun id _ => hdev id] at hb
  rw [(reckoned_of_run hr).counted, ← hb]
  rfl

structure ClosedOnce (history : List Note) (h : SimulatedHost) : Prop where
  counted : ∀ d, adoptions history d = h.closes d + (h.openTokens d).length
  -- indices of tokens are words of 32 bits
  tokens : h.devices.slots.length ≤ UInt32.size → ∀ d, (h.openTokens d).Nodup ∧
    ∀ t, t ∈ h.openTokens d ↔ ∃ id c, h.lookup t = .ok (id, c) ∧ c.device = d
  unnamed : ∀ d, adoptions history d = h.shutDown.closes d + h.among d h.devices.unnamed
  -- the last reference goes with the owner, with a callback or with a call that waited
  dropped : h.devices.slots.length ≤ UInt32.size → ∀ s : Session Simulated UInt32, s.host = h →
    s.alive = true → h.owned = false → s.blocked = 0 →
      ∀ d, s.letGo.host.closes d = adoptions history d

theorem openTokens_of_bounded (hb : h.devices.slots.length ≤ UInt32.size) (d : UInt32) :
    (h.openTokens d).Nodup ∧
      ∀ t, t ∈ h.openTokens d ↔ ∃ id c, h.lookup t = .ok (id, c) ∧ c.device = d := by
  refine ⟨(Arena.nodup_entries hb).sublist (List.Sublist.map _ List.filter_sublist), fun t => ?_⟩
  simp only [openTokens, List.mem_map, List.mem_filter, decide_eq_true_eq, Prod.exists]
  constructor
  · rintro ⟨u, id, ⟨he, hd⟩, rfl⟩
    obtain ⟨c, hc, hcd⟩ := Option.map_eq_some_iff.1 hd
    exact ⟨id, c, lookup_eq_ok.2 ⟨(Arena.mem_entries_iff_get? hb).1 he, hc⟩, hcd⟩
  · rintro ⟨id, c, hl, rfl⟩
    obtain ⟨hg, hc⟩ := lookup_eq_ok.1 hl
    exact ⟨t, id, ⟨(Arena.mem_entries_iff_get? hb).2 hg, by rw [deviceOf, hc]; rfl⟩, rfl⟩

theorem closed_exactly_once (hr : Run fresh history h) : ClosedOnce history h := by
  have hleft := closes_shutDown hr
  refine ⟨fun d => ?_, openTokens_of_bounded, hleft, ?_⟩
  · rw [length_openTokens]
    exact (reckoned_of_run hr).counted d
  · rintro hb s rfl ha ho hw d
    have hgone : s.letGo.host = s.host.shutDown := congrArg Session.host (if_pos ⟨ha, ho, hw⟩)
    rw [hgone, hleft, Arena.unnamed_eq_nil hb]
    rfl

/-- A slot used twice, a token closed twice, a transfer in flight, the devices gone and the
owner. -/
def unplugged : List Act :=
  [.upkeep (.resolve .standard), .upkeep (.adopt 1), .upkeep (.adopt 2), .upkeep (.close ⟨0, 0⟩),
    .upkeep (.close ⟨0, 0⟩), .upkeep (.adopt 1), .upkeep (.addTarget .recorder),
    .place 0 (.transfer ⟨0, 1⟩
      { route := .bulk ⟨0x81⟩, buffer := [], offset := 0, length := 4, timeout := 0 }),
    .upkeep .disconnect, .upkeep .leave]

theorem unplugged_closed_once :
    ∃ history, Run fresh history (after unplugged) ∧ ClosedOnce history (after unplugged) ∧
      (after unplugged).controller.queue.length = 1 ∧ adoptions history 1 = 2 ∧
      (after unplugged).closes 1 = 1 ∧ (after unplugged).openTokens 1 = [⟨0, 1⟩] ∧
      (Session.letGo { host := after unplugged }).host.closes 1 = 2 := by
  obtain ⟨history, hr, -⟩ := after_run unplugged
  have hc := closed_exactly_once hr
  have hcloses : (after unplugged).closes 1 = 1 := by decide
  have hopen : (after unplugged).openTokens 1 = [⟨0, 1⟩] := by decide
  have hadopted : adoptions history 1 = 2 := by rw [hc.counted, hcloses, hopen]; rfl
  have hdropped := hc.dropped (by decide) { host := after unplugged } rfl rfl (by decide) rfl 1
  exact ⟨history, hr, hc, by decide, hadopted, hcloses, hopen, hdropped.trans hadopted⟩

end Host

end UsbTransfer
