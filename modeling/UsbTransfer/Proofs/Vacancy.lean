import UsbTransfer.Proofs.ClosedOnce

namespace UsbTransfer

namespace Arena

variable {α : Type}

inductive Call (α : Type) where
  | insert (v : α)
  | get (t : Token)
  | remove (t : Token)

inductive Outcome (α : Type) where
  | issued (t : Token)
  | found (v : Option α)
  | taken (v : Option α)

def Call.inserts : Call α → Bool
  | insert _ => true
  | _ => false

def Outcome.removed : Outcome α → Bool
  | taken v => v.isSome
  | _ => false

def call (a : Arena α) : Call α → Arena α × Outcome α
  | .insert v => ((a.insert v).1, .issued (a.insert v).2)
  | .get t => (a, .found (a.get? t))
  | .remove t => ((a.remove t).1, .taken (a.remove t).2)

def callAll (a : Arena α) : List (Call α) → Arena α × List (Outcome α)
  | [] => (a, [])
  | c :: cs => (((a.call c).1.callAll cs).1, (a.call c).2 :: ((a.call c).1.callAll cs).2)

structure Accounted (a : Arena α) : Prop where
  tidy : a.Tidy
  listed : ∀ j s, a.slots[j]? = some s → s.value = none → j ∈ a.free.map UInt32.toNat
  length : a.free.length + a.values.length = a.slots.length

variable {a : Arena α} {s : Slot α} {t : Token} {v : α} {i : UInt32} {j : Nat}

theorem Accounted.insert (ha : Accounted a) (v : α) : Accounted (a.insert v).1 := by
  obtain ⟨before, after, he, hv⟩ := ha.tidy.values_insert v
  have hlength := ha.length
  refine ⟨ha.tidy.insert v, ?listed, ?length⟩
  case listed =>
    intro j s hs hnone
    unfold Arena.insert at hs ⊢
    split at hs <;> rename_i hfree
    · rename_i i rest
      dsimp only at hs
      rw [List.getElem?_modify] at hs
      by_cases hj : i.toNat = j
      · -- the slot that was taken from the list is the one that was filled
        obtain ⟨u, -, rfl⟩ := Option.map_eq_some_iff.1 hs
        simp [hj] at hnone
      · have hold := ha.listed j s (by simpa [hj] using hs) hnone
        rw [hfree, List.map_cons, List.mem_cons] at hold
        simpa [hfree] using hold.resolve_left (Ne.symm hj)
    · dsimp only at hs
      rw [List.getElem?_append] at hs
      split at hs
      · exact ha.listed j s hs hnone
      · rw [List.getElem?_singleton] at hs
        split at hs
        · cases hs
          cases hnone
        · cases hs
  case length =>
    rw [hv, List.length_append, List.length_cons]
    rw [he, List.length_append] at hlength
    unfold Arena.insert
    split <;> rename_i hfree
    · rw [hfree, List.length_cons] at hlength
      simp only [List.length_modify]
      omega
    · simp only [List.length_append, List.length_singleton]
      omega

theorem Accounted.remove (ha : Accounted a) (t : Token) : Accounted (a.remove t).1 := by
  cases hg : a.get? t with
  | none => rwa [remove_of_get?_eq_none hg]
  | some v =>
    have hr := removes_of_get? hg
    refine ⟨ha.tidy.remove t, ?listed, ?length⟩
    case listed =>
      intro j s hs hnone
      rw [hr.free, List.map_cons, List.mem_cons]
      rw [hr.slots] at hs
      split at hs
      · rename_i hj
        exact .inl hj
      · exact .inr (ha.listed j s hs hnone)
    case length =>
      obtain ⟨before, after, he, hv⟩ := values_remove hg
      have hlength := ha.length
      rw [he, List.length_append, List.length_cons] at hlength
      rw [hr.free, hr.length, hv, List.length_cons, List.length_append]
      omega

theorem Accounted.call (ha : Accounted a) (c : Call α) : Accounted (a.call c).1 := by
  cases c with
  | insert v => exact ha.insert v
  | get t => exact ha
  | remove t => exact ha.remove t

theorem accounted_empty : Accounted ({} : Arena α) :=
  ⟨⟨by simp, .nil⟩, fun j s hs => by simp at hs, rfl⟩

theorem Accounted.callAll (ha : Accounted a) (cs : List (Call α)) : Accounted (a.callAll cs).1 := by
  induction cs generalizing a with
  | nil => exact ha
  | cons c cs ih => exact ih (ha.call c)

theorem Accounted.size_eq (ha : Accounted a) : a.size = a.values.length := by
  have hlength := ha.length
  rw [size]
  omega

theorem Accounted.mem_free_iff (ha : Accounted a) :
    j ∈ a.free.map UInt32.toNat ↔ ∃ s, a.slots[j]? = some s ∧ s.value = none := by
  constructor
  · intro hj
    obtain ⟨i, hi, rfl⟩ := List.mem_map.1 hj
    exact ha.tidy.vacant i hi
  · rintro ⟨s, hs, hnone⟩
    exact ha.listed j s hs hnone

theorem Accounted.slot_insert (ha : Accounted a) (hs : a.slots[j]? = some s)
    (hv : s.value.isSome) (w : α) : (a.insert w).1.slots[j]? = some s := by
  unfold Arena.insert
  split <;> rename_i hfree
  · rename_i i rest
    obtain ⟨u, hu, hnone⟩ := ha.tidy.vacant i (by simp [hfree])
    have hne : i.toNat ≠ j := by
      rintro rfl
      obtain rfl := Option.some.inj (hu.symm.trans hs)
      simp [hnone] at hv
    simp [hne, hs]
  · dsimp only
    rw [List.getElem?_append_left (List.getElem?_eq_some_iff.1 hs).1, hs]

theorem Accounted.length_call (ha : Accounted a) (c : Call α) :
    (a.call c).1.values.length + (if (a.call c).2.removed then 1 else 0) =
      a.values.length + if c.inserts then 1 else 0 := by
  cases c with
  | insert v =>
    obtain ⟨before, after, he, hv⟩ := ha.tidy.values_insert v
    simp only [Arena.call, Outcome.removed, Call.inserts, he, hv, List.length_append,
      List.length_cons]
    simp
    omega
  | get t => simp [Arena.call, Outcome.removed, Call.inserts]
  | remove t =>
    simp only [Arena.call, Outcome.removed, Call.inserts, snd_remove]
    cases hg : a.get? t with
    | none => simp [remove_of_get?_eq_none hg]
    | some v =>
      obtain ⟨before, after, he, hv⟩ := values_remove hg
      simp only [he, hv, List.length_append, List.length_cons]
      simp
      omega

theorem Accounted.length_callAll (ha : Accounted a) (cs : List (Call α)) :
    (a.callAll cs).1.values.length + (a.callAll cs).2.countP (·.removed) =
      a.values.length + cs.countP (·.inserts) := by
  induction cs generalizing a with
  | nil => rfl
  | cons c cs ih =>
    have hrest := ih (ha.call c)
    have hcall := ha.length_call c
    simp only [Arena.callAll, List.countP_cons]
    omega

theorem length_tokens (a : Arena α) : a.tokens.length = a.values.length := by
  rw [tokens_eq_entries, values_eq_entries, List.length_map, List.length_map]

theorem tokens_increasing (hb : a.slots.length ≤ UInt32.size) :
    a.tokens.Pairwise fun t u => t.index < u.index := by
  have hidx : a.slots.zipIdx.Pairwise fun x y => x.2 < y.2 := by
    rw [← List.pairwise_map, List.zipIdx_map_snd]
    exact List.pairwise_lt_range'
  rw [tokens, List.pairwise_filterMap]
  refine hidx.imp_of_mem ?_
  rintro ⟨s, i⟩ ⟨u, j⟩ hi hj hlt x hx y hy
  obtain ⟨v, -, rfl⟩ := Option.map_eq_some_iff.1 hx
  obtain ⟨w, -, rfl⟩ := Option.map_eq_some_iff.1 hy
  rw [UInt32.lt_iff_toNat_lt, toNat_ofNat_of_slot hb (List.mk_mem_zipIdx_iff_getElem?.1 hi),
    toNat_ofNat_of_slot hb (List.mk_mem_zipIdx_iff_getElem?.1 hj)]
  exact hlt

theorem mem_tokens_iff (hb : a.slots.length ≤ UInt32.size) :
    t ∈ a.tokens ↔ (a.get? t).isSome := by
  rw [tokens_eq_entries, List.mem_map, Option.isSome_iff_exists]
  constructor
  · rintro ⟨⟨u, v⟩, hm, rfl⟩
    exact ⟨v, (mem_entries_iff_get? hb).1 hm⟩
  · rintro ⟨v, hv⟩
    exact ⟨(t, v), (mem_entries_iff_get? hb).2 hv, rfl⟩

structure Consistent (cs : List (Call α)) (outcomes : List (Outcome α)) (a : Arena α) : Prop where
  nodup : a.free.Nodup
  free_iff : ∀ j, j ∈ a.free.map UInt32.toNat ↔ ∃ s : Slot α, a.slots[j]? = some s ∧ s.value = none
  insert : ∀ (v : α) (j : Nat) (s : Slot α), a.slots[j]? = some s → s.value.isSome →
    (a.insert v).1.slots[j]? = some s
  fits : a.free.length ≤ a.slots.length
  size : a.size + outcomes.countP (·.removed) = cs.countP (·.inserts)
  length : a.size = a.tokens.length
  distinct : a.tokens.Nodup
  increasing : a.tokens.Pairwise fun t u => t.index < u.index
  resolves : ∀ t, (a.get? t).isSome ↔ t ∈ a.tokens

theorem consistent_callAll (cs : List (Call α))
    (hb : (callAll {} cs).1.slots.length < UInt32.size) :
    Consistent cs (callAll {} cs).2 (callAll {} cs).1 := by
  have ha := accounted_empty.callAll cs
  have hcount := accounted_empty.length_callAll cs
  have hb := Nat.le_of_lt hb
  have hlength := ha.length
  constructor
  case nodup => exact ha.tidy.nodup
  case free_iff => exact fun j => ha.mem_free_iff
  case insert => exact fun v j s hs hv => ha.slot_insert hs hv v
  case fits => omega
  case size =>
    rw [ha.size_eq, hcount]
    simp [values]
  case length => rw [ha.size_eq, length_tokens]
  case distinct => exact tokens_eq_entries _ ▸ nodup_entries hb
  case increasing => exact tokens_increasing hb
  case resolves => exact fun t => (mem_tokens_iff hb).symm

def calls : List (Call Nat) :=
  [.insert 5, .insert 6, .insert 7, .remove ⟨1, 0⟩, .remove ⟨1, 0⟩, .get ⟨1, 0⟩, .insert 8,
    .remove ⟨0, 0⟩]

theorem calls_consistent :
    (callAll {} calls).1.slots.length < UInt32.size ∧
      Consistent calls (callAll {} calls).2 (callAll {} calls).1 ∧
      (callAll {} calls).1.free = [0] ∧
      (callAll {} calls).1.size = 2 ∧ (callAll {} calls).1.tokens = [⟨1, 1⟩, ⟨2, 0⟩] := by
  have hb : (callAll {} calls).1.slots.length < UInt32.size := by decide
  exact ⟨hb, consistent_callAll calls hb, by decide, by decide, by decide⟩

end Arena

end UsbTransfer
