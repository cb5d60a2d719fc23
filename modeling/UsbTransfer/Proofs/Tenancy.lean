import UsbTransfer.Proofs.Occupancy
import Mathlib.Data.UInt

namespace UsbTransfer

namespace Arena

variable {α : Type}

inductive Step (α : Type) where
  | inserted (t : Token) (v : α)
  | removed (t : Token) (v : Option α)

inductive History : List (Step α) → Arena α → Prop
  | nil : History [] {}
  | insert {steps : List (Step α)} {a : Arena α} (h : History steps a) (v : α) :
      History (steps ++ [.inserted (a.insert v).2 v]) (a.insert v).1
  | remove {steps : List (Step α)} {a : Arena α} (h : History steps a) (t : Token) :
      History (steps ++ [.removed t (a.remove t).2]) (a.remove t).1

namespace Step

def vacates (i : UInt32) : Step α → Bool
  | removed t (some _) => t.index = i
  | _ => false

def value? (i : UInt32) : Step α → Option α
  | inserted t v => if t.index = i then some v else none
  | removed .. => none

def token? : Step α → Option Token
  | inserted t _ => some t
  | removed .. => none

end Step

def vacations (steps : List (Step α)) (i : UInt32) : Nat := steps.countP (·.vacates i)

def latest? (steps : List (Step α)) (i : UInt32) : Option α :=
  (steps.filterMap (·.value? i)).getLast?

def issued (steps : List (Step α)) : List Token := steps.filterMap Step.token?

def Filled (a : Arena α) (i : UInt32) : Prop := ∃ s, a.slots[i.toNat]? = some s ∧ s.value.isSome

variable {a a' : Arena α} {steps : List (Step α)} {s : Slot α} {i : UInt32} {t u : Token} {v w : α}

theorem vacations_append (before after : List (Step α)) (i : UInt32) :
    vacations (before ++ after) i = vacations before i + vacations after i :=
  List.countP_append

theorem vacations_inserted (steps : List (Step α)) (t : Token) (v : α) (i : UInt32) :
    vacations (steps ++ [.inserted t v]) i = vacations steps i := by
  simp [vacations, Step.vacates]

theorem vacations_removed (steps : List (Step α)) (t : Token) (v : α) (i : UInt32) :
    vacations (steps ++ [.removed t (some v)]) i =
      vacations steps i + if t.index = i then 1 else 0 := by
  simp [vacations, Step.vacates, List.countP_cons]

theorem vacations_missed (steps : List (Step α)) (t : Token) (i : UInt32) :
    vacations (steps ++ [.removed t none]) i = vacations steps i := by
  simp [vacations, Step.vacates]

theorem latest?_inserted (steps : List (Step α)) (t : Token) (v : α) (i : UInt32) :
    latest? (steps ++ [.inserted t v]) i = if t.index = i then some v else latest? steps i := by
  unfold latest?
  rw [List.filterMap_append]
  by_cases h : t.index = i <;> simp [Step.value?, h]

theorem latest?_removed (steps : List (Step α)) (t : Token) (v : Option α) (i : UInt32) :
    latest? (steps ++ [.removed t v]) i = latest? steps i := by
  simp [latest?, Step.value?]

theorem issued_inserted (steps : List (Step α)) (t : Token) (v : α) :
    issued (steps ++ [.inserted t v]) = issued steps ++ [t] := by
  simp [issued, Step.token?]

theorem issued_removed (steps : List (Step α)) (t : Token) (v : Option α) :
    issued (steps ++ [.removed t v]) = issued steps := by
  simp [issued, Step.token?]

/-- What is stored, read off the history. A vacant slot is on the free list once. -/
structure Sound (steps : List (Step α)) (a : Arena α) : Prop where
  generation : ∀ (i : UInt32) s, a.slots[i.toNat]? = some s →
    s.generation.toNat = vacations steps i % UInt32.size
  value : ∀ (i : UInt32) s v, a.slots[i.toNat]? = some s → s.value = some v →
    latest? steps i = some v
  beyond : ∀ i : UInt32, a.slots.length ≤ i.toNat → vacations steps i = 0
  vacant : ∀ i ∈ a.free, ∃ s, a.slots[i.toNat]? = some s ∧ s.value = none
  nodup : a.free.Nodup

structure Inserts (a : Arena α) (t : Token) (v : α) (a' : Arena α) : Prop where
  slots : ∀ j, a'.slots[j]? =
    if j = t.index.toNat then some ⟨t.generation, some v⟩ else a.slots[j]?
  length : a.slots.length ≤ a'.slots.length
  place : (a.slots[t.index.toNat]? = some ⟨t.generation, none⟩ ∧ a.free = t.index :: a'.free) ∨
    (a.slots.length = t.index.toNat ∧ t.generation = 0 ∧ a.free = [] ∧ a'.free = [])

structure Removes (a : Arena α) (t : Token) (v : α) (a' : Arena α) : Prop where
  filled : a.slots[t.index.toNat]? = some ⟨t.generation, some v⟩
  slots : ∀ j, a'.slots[j]? =
    if j = t.index.toNat then some ⟨t.generation + 1, none⟩ else a.slots[j]?
  length : a'.slots.length = a.slots.length
  free : a'.free = t.index :: a.free

theorem Sound.inserts (hs : Sound steps a) (hb : (a.insert v).1.slots.length ≤ UInt32.size) :
    Inserts a (a.insert v).2 v (a.insert v).1 := by
  unfold insert at *
  split at *
  · rename_i i rest hfree
    obtain ⟨⟨g, x⟩, hi, rfl⟩ := hs.vacant i (by simp [hfree])
    refine ⟨fun j => ?_, by simp, .inl ⟨by simp [hi], hfree⟩⟩
    simp only [List.getElem?_modify, hi]
    by_cases hj : j = i.toNat
    · subst hj
      simp [hi]
    · simp [hj, Ne.symm hj]
  · rename_i hfree
    rw [List.length_append, List.length_singleton] at hb
    have hi : (UInt32.ofNat a.slots.length).toNat = a.slots.length := UInt32.toNat_ofNat_of_lt' hb
    refine ⟨fun j => ?_, by simp, .inr ⟨hi.symm, rfl, hfree, hfree⟩⟩
    dsimp only
    rw [hi]
    rcases Nat.lt_trichotomy j a.slots.length with hj | rfl | hj
    · rw [List.getElem?_append_left hj, if_neg (Nat.ne_of_lt hj)]
    · simp
    · rw [if_neg (Nat.ne_of_gt hj), List.getElem?_eq_none (Nat.le_of_lt hj),
        List.getElem?_eq_none (by simpa using Nat.succ_le_of_lt hj)]

theorem removes_of_get? (h : a.get? t = some v) : Removes a t v (a.remove t).1 := by
  obtain ⟨⟨g, x⟩, hi, rfl, rfl⟩ := get?_eq_some.1 h
  simp only [remove, h]
  refine ⟨hi, fun j => ?_, List.length_modify .., rfl⟩
  simp only [vacate, List.getElem?_modify]
  by_cases hj : j = t.index.toNat
  · subst hj
    simp [hi]
  · simp [hj, Ne.symm hj]

theorem toNat_ne (h : i ≠ u.index) : i.toNat ≠ u.index.toNat := fun he => h (UInt32.toNat.inj he)

theorem slot_cases {x : Slot α}
    (h : ∀ j, a'.slots[j]? = if j = u.index.toNat then some x else a.slots[j]?)
    (hs : a'.slots[i.toNat]? = some s) :
    (i = u.index ∧ s = x) ∨ (i ≠ u.index ∧ a.slots[i.toNat]? = some s) := by
  rw [h] at hs
  by_cases hi : i = u.index
  · rw [if_pos (congrArg _ hi)] at hs
    exact .inl ⟨hi, (Option.some.inj hs).symm⟩
  · rw [if_neg (toNat_ne hi)] at hs
    exact .inr ⟨hi, hs⟩

theorem Sound.generation_of_inserts (hs : Sound steps a) (hi : Inserts a t v a') :
    vacations steps t.index % UInt32.size = t.generation.toNat := by
  rcases hi.place with ⟨hslot, -⟩ | ⟨hlen, hzero, -⟩
  · exact (hs.generation _ _ hslot).symm
  · rw [hs.beyond _ (Nat.le_of_eq hlen), hzero]
    rfl

theorem Sound.vacant_of_inserts (hs : Sound steps a) (hi : Inserts a t v a') (hm : i ∈ a'.free) :
    ∃ s, a'.slots[i.toNat]? = some s ∧ s.value = none := by
  rcases hi.place with ⟨-, hfree⟩ | ⟨-, -, -, hfree⟩
  · -- the slot that was filled stood on the list once
    have hnd := hs.nodup
    rw [hfree, List.nodup_cons] at hnd
    have hne : i ≠ t.index := by
      rintro rfl
      exact hnd.1 hm
    rw [hi.slots, if_neg (toNat_ne hne)]
    exact hs.vacant i (by rw [hfree]; exact List.mem_cons_of_mem _ hm)
  · rw [hfree] at hm
    cases hm

theorem Sound.of_inserts (hs : Sound steps a) (hi : Inserts a t v a') :
    Sound (steps ++ [.inserted t v]) a' := by
  constructor
  case generation =>
    intro i s hslot
    rw [vacations_inserted]
    rcases slot_cases hi.slots hslot with ⟨rfl, rfl⟩ | ⟨-, hold⟩
    · exact (hs.generation_of_inserts hi).symm
    · exact hs.generation i s hold
  case value =>
    intro i s w hslot hw
    rw [latest?_inserted]
    rcases slot_cases hi.slots hslot with ⟨rfl, rfl⟩ | ⟨hne, hold⟩
    · rw [if_pos rfl]
      exact hw
    · rw [if_neg (Ne.symm hne)]
      exact hs.value i s w hold hw
  case beyond =>
    intro i hlen
    rw [vacations_inserted]
    exact hs.beyond i (Nat.le_trans hi.length hlen)
  case vacant => exact fun i hm => hs.vacant_of_inserts hi hm
  case nodup =>
    rcases hi.place with ⟨-, hfree⟩ | ⟨-, -, -, hfree⟩
    · have hnd := hs.nodup
      rw [hfree] at hnd
      exact hnd.of_cons
    · rw [hfree]
      exact .nil

theorem Sound.of_removes (hs : Sound steps a) (hr : Removes a t v a') :
    Sound (steps ++ [.removed t (some v)]) a' := by
  constructor
  case generation =>
    intro i s hslot
    rw [vacations_removed]
    rcases slot_cases hr.slots hslot with ⟨rfl, rfl⟩ | ⟨hne, hold⟩
    · rw [if_pos rfl, UInt32.toNat_add, hs.generation _ _ hr.filled]
      exact Nat.mod_add_mod _ _ _
    · rw [if_neg (Ne.symm hne)]
      exact hs.generation i s hold
  case value =>
    intro i s w hslot hw
    rw [latest?_removed]
    rcases slot_cases hr.slots hslot with ⟨rfl, rfl⟩ | ⟨-, hold⟩
    · cases hw
    · exact hs.value i s w hold hw
  case beyond =>
    intro i hlen
    have hlt := (List.getElem?_eq_some_iff.1 hr.filled).1
    rw [hr.length] at hlen
    have hne : t.index ≠ i := by
      rintro rfl
      omega
    rw [vacations_removed, if_neg hne]
    exact hs.beyond i hlen
  case vacant =>
    intro i hm
    rw [hr.free, List.mem_cons] at hm
    rw [hr.slots]
    split
    · exact ⟨_, rfl, rfl⟩
    · rename_i hne
      rcases hm with rfl | hm
      · exact absurd rfl hne
      · exact hs.vacant i hm
  case nodup =>
    rw [hr.free, List.nodup_cons]
    refine ⟨?_, hs.nodup⟩
    intro hm
    obtain ⟨s, hslot, hnone⟩ := hs.vacant _ hm
    obtain rfl := Option.some.inj (hr.filled.symm.trans hslot)
    cases hnone

theorem Sound.missed (hs : Sound steps a) (t : Token) : Sound (steps ++ [.removed t none]) a := by
  refine ⟨fun i s hi => ?_, fun i s v hi hv => ?_, fun i hi => ?_, hs.vacant, hs.nodup⟩
  · rw [vacations_missed]
    exact hs.generation i s hi
  · rw [latest?_removed]
    exact hs.value i s v hi hv
  · rw [vacations_missed]
    exact hs.beyond i hi

theorem length_insert_le (a : Arena α) (v : α) : a.slots.length ≤ (a.insert v).1.slots.length := by
  unfold insert
  split <;> simp

theorem length_remove (a : Arena α) (t : Token) : (a.remove t).1.slots.length = a.slots.length := by
  cases h : a.get? t with
  | none => rw [remove_of_get?_eq_none h]
  | some v => exact (removes_of_get? h).length

theorem History.sound (h : History steps a) (hb : a.slots.length ≤ UInt32.size) :
    Sound steps a := by
  induction h with
  | nil => exact ⟨by simp, by simp, fun _ _ => rfl, by simp, .nil⟩
  | @insert steps a h v ih =>
    have hs := ih (Nat.le_trans (a.length_insert_le v) hb)
    exact hs.of_inserts (hs.inserts hb)
  | @remove steps a h t ih =>
    rw [length_remove] at hb
    have hs := ih hb
    rw [snd_remove]
    cases hg : a.get? t with
    | none =>
      rw [remove_of_get?_eq_none hg]
      exact hs.missed t
    | some v => exact hs.of_removes (removes_of_get? hg)

theorem Sound.latest?_of_get? (hs : Sound steps a) (h : a.get? t = some v) :
    latest? steps t.index = some v := by
  obtain ⟨s, hi, -, hv⟩ := get?_eq_some.1 h
  exact hs.value _ s v hi hv

/-- A token resolves while its slot is filled and was vacated, up to the width of a word, as often
as when the token was issued. -/
theorem Sound.isSome_get?_iff (hs : Sound steps a) : (a.get? t).isSome ↔
    a.Filled t.index ∧ vacations steps t.index % UInt32.size = t.generation.toNat := by
  constructor
  · intro h
    obtain ⟨v, hv⟩ := Option.isSome_iff_exists.1 h
    obtain ⟨s, hi, hg, hv⟩ := get?_eq_some.1 hv
    exact ⟨⟨s, hi, by rw [hv]; rfl⟩, by rw [← hs.generation _ s hi, hg]⟩
  · rintro ⟨⟨s, hi, hfilled⟩, hg⟩
    obtain ⟨v, hv⟩ := Option.isSome_iff_exists.1 hfilled
    have hget : a.get? t = some v :=
      get?_eq_some.2 ⟨s, hi, UInt32.toNat.inj ((hs.generation _ s hi).trans hg), hv⟩
    rw [hget]
    rfl

theorem Sound.vacations_of_get? (hs : Sound steps a) (h : a.get? t = some v) :
    vacations steps t.index % UInt32.size = t.generation.toNat :=
  (hs.isSome_get?_iff.1 (by rw [h]; rfl)).2

/-- Until a slot has been vacated as often as a word counts, no token is issued twice, and one is
either removed or resolves to what it was issued for. -/
structure Lasting (steps : List (Step α)) (a : Arena α) : Prop where
  lapsed : ∀ t v, .removed t (some v) ∈ steps → t.generation.toNat < vacations steps t.index
  tenure : ∀ t v, .inserted t v ∈ steps →
    (∃ w, .removed t (some w) ∈ steps) ∨ a.get? t = some v
  nodup : (issued steps).Nodup

theorem Inserts.get?_self (hi : Inserts a t v a') : a'.get? t = some v :=
  get?_eq_some.2 ⟨_, by rw [hi.slots, if_pos rfl], rfl, rfl⟩

theorem Inserts.get?_eq_none (hi : Inserts a t v a') : a.get? t = none := by
  rw [Option.eq_none_iff_forall_ne_some]
  intro w hw
  obtain ⟨s, hslot, -, hsome⟩ := get?_eq_some.1 hw
  rcases hi.place with ⟨hnone, -⟩ | ⟨hlen, -⟩
  · obtain rfl := Option.some.inj (hslot.symm.trans hnone)
    cases hsome
  · have hlt := (List.getElem?_eq_some_iff.1 hslot).1
    omega

theorem Inserts.get?_of_get? (hi : Inserts a t v a') (hu : a.get? u = some w) :
    a'.get? u = some w := by
  obtain ⟨s, hslot, hg, hw⟩ := get?_eq_some.1 hu
  refine get?_eq_some.2 ⟨s, ?_, hg, hw⟩
  rw [hi.slots, if_neg, hslot]
  -- the slot of a token that resolves is not the one that was vacant
  intro he
  rw [he] at hslot
  rcases hi.place with ⟨hnone, -⟩ | ⟨hlen, -⟩
  · obtain rfl := Option.some.inj (hslot.symm.trans hnone)
    cases hw
  · have hlt := (List.getElem?_eq_some_iff.1 hslot).1
    omega

theorem Removes.get?_of_ne (hr : Removes a t v a') (hu : a.get? u = some w) (hne : u ≠ t) :
    a'.get? u = some w := by
  obtain ⟨s, hslot, hg, hw⟩ := get?_eq_some.1 hu
  refine get?_eq_some.2 ⟨s, ?_, hg, hw⟩
  rw [hr.slots, if_neg, hslot]
  intro he
  rw [he] at hslot
  obtain rfl := Option.some.inj (hslot.symm.trans hr.filled)
  obtain ⟨i, g⟩ := u
  obtain ⟨j, k⟩ := t
  obtain rfl : i = j := UInt32.toNat.inj he
  obtain rfl : k = g := hg
  exact hne rfl

theorem Removes.get?_self (hr : Removes a t v a') : a.get? t = some v :=
  get?_eq_some.2 ⟨_, hr.filled, rfl, rfl⟩

section Lasting

variable (hs : Sound steps a) (hl : Lasting steps a)
include hs hl

theorem Lasting.get?_eq_none (hb : ∀ i, vacations steps i < UInt32.size)
    (hm : .removed t (some w) ∈ steps) : a.get? t = none := by
  rw [Option.eq_none_iff_forall_ne_some]
  intro v hv
  have hg := hs.vacations_of_get? hv
  rw [Nat.mod_eq_of_lt (hb _)] at hg
  exact Nat.ne_of_gt (hl.lapsed t w hm) hg

theorem Lasting.not_mem_issued (hb : ∀ i, vacations steps i < UInt32.size)
    (hi : Inserts a t v a') : t ∉ issued steps := by
  intro hm
  obtain ⟨x, hx, hxt⟩ := List.mem_filterMap.1 hm
  cases x with
  | removed => cases hxt
  | inserted t' w =>
    obtain rfl : t' = t := Option.some.inj hxt
    rcases hl.tenure _ w hx with ⟨w', hrem⟩ | hget
    · -- the slot has been vacated since, so that its next token has another generation
      have hlt := hl.lapsed _ w' hrem
      have hgen := hs.generation_of_inserts hi
      rw [Nat.mod_eq_of_lt (hb _)] at hgen
      omega
    · rw [hi.get?_eq_none] at hget
      cases hget

theorem Lasting.of_inserts (hb : ∀ i, vacations steps i < UInt32.size) (hi : Inserts a t v a') :
    Lasting (steps ++ [.inserted t v]) a' := by
  constructor
  case lapsed =>
    intro t' w hm
    rw [vacations_inserted]
    exact hl.lapsed t' w (by simpa using hm)
  case tenure =>
    intro t' w hm
    rcases List.mem_append.1 hm with hm | hm
    · rcases hl.tenure t' w hm with ⟨w', hrem⟩ | hget
      · exact .inl ⟨w', List.mem_append_left _ hrem⟩
      · exact .inr (hi.get?_of_get? hget)
    · simp only [List.mem_singleton, Step.inserted.injEq] at hm
      obtain ⟨rfl, rfl⟩ := hm
      exact .inr hi.get?_self
  case nodup =>
    rw [issued_inserted, List.nodup_append]
    refine ⟨hl.nodup, by simp, ?_⟩
    intro x hx y hy he
    rw [List.mem_singleton.1 hy] at he
    exact hl.not_mem_issued hs hb hi (he ▸ hx)

theorem Lasting.of_removes (hb : ∀ i, vacations steps i < UInt32.size) (hr : Removes a t v a') :
    Lasting (steps ++ [.removed t (some v)]) a' := by
  constructor
  · intro t' w hm
    rw [vacations_removed]
    rcases List.mem_append.1 hm with hm | hm
    · exact Nat.lt_add_right _ (hl.lapsed t' w hm)
    · simp only [List.mem_singleton, Step.removed.injEq] at hm
      obtain ⟨rfl, -⟩ := hm
      have hg := hs.vacations_of_get? hr.get?_self
      rw [Nat.mod_eq_of_lt (hb _)] at hg
      rw [if_pos rfl]
      omega
  · intro t' w hm
    have hm : .inserted t' w ∈ steps := by simpa using hm
    rcases hl.tenure t' w hm with ⟨w', hrem⟩ | hget
    · exact .inl ⟨w', List.mem_append_left _ hrem⟩
    · by_cases ht : t' = t
      · subst ht
        exact .inl ⟨v, by simp⟩
      · exact .inr (hr.get?_of_ne hget ht)
  · rw [issued_removed]
    exact hl.nodup

end Lasting

theorem Lasting.missed (hl : Lasting steps a) (t : Token) :
    Lasting (steps ++ [.removed t none]) a := by
  refine ⟨fun t' w hm => ?_, fun t' w hm => ?_, ?_⟩
  · rw [vacations_missed]
    exact hl.lapsed t' w (by simpa using hm)
  · rcases hl.tenure t' w (by simpa using hm) with ⟨w', hrem⟩ | hget
    · exact .inl ⟨w', List.mem_append_left _ hrem⟩
    · exact .inr hget
  · rw [issued_removed]
    exact hl.nodup

theorem History.lasting (h : History steps a) (hb : a.slots.length ≤ UInt32.size)
    (hw : ∀ i, vacations steps i < UInt32.size) : Lasting steps a := by
  induction h with
  | nil => exact ⟨by simp, by simp, .nil⟩
  | @insert steps a h v ih =>
    have hb' := Nat.le_trans (a.length_insert_le v) hb
    have hw' : ∀ i, vacations steps i < UInt32.size := fun i => by
      have hi := hw i
      rwa [vacations_inserted] at hi
    have hs := h.sound hb'
    exact (ih hb' hw').of_inserts hs hw' (hs.inserts hb)
  | @remove steps a h t ih =>
    rw [length_remove] at hb
    have hw' : ∀ i, vacations steps i < UInt32.size := fun i => by
      have hi := hw i
      rw [vacations_append] at hi
      omega
    have hs := h.sound hb
    rw [snd_remove]
    cases hg : a.get? t with
    | none =>
      rw [remove_of_get?_eq_none hg]
      exact (ih hb hw').missed t
    | some v => exact (ih hb hw').of_removes hs hw' (removes_of_get? hg)

theorem split_snoc {x y : Step α} {before after : List (Step α)}
    (he : steps ++ [x] = before ++ y :: after) :
    (steps = before ∧ x = y) ∨ ∃ after', steps = before ++ y :: after' := by
  rcases List.eq_nil_or_concat after with rfl | ⟨after', z, rfl⟩
  · obtain ⟨rfl, hx⟩ := List.append_inj' he rfl
    exact .inl ⟨rfl, List.singleton_inj.1 hx⟩
  · rw [List.concat_eq_append, ← List.cons_append, ← List.append_assoc] at he
    exact .inr ⟨after', (List.append_inj' he rfl).1⟩

theorem History.vacations_of_issued {before after : List (Step α)} (h : History steps a)
    (hb : a.slots.length ≤ UInt32.size) (he : steps = before ++ .inserted t v :: after) :
    vacations before t.index % UInt32.size = t.generation.toNat := by
  induction h generalizing after with
  | nil => simp at he
  | @insert steps a h w ih =>
    have hb' := Nat.le_trans (a.length_insert_le w) hb
    rcases split_snoc he with ⟨rfl, hx⟩ | ⟨after', he'⟩
    · rw [Step.inserted.injEq] at hx
      obtain ⟨rfl, rfl⟩ := hx
      have hs := h.sound hb'
      have hi := hs.inserts hb
      have hg := (hs.of_inserts hi).vacations_of_get? hi.get?_self
      rwa [vacations_inserted] at hg
    · exact ih hb' he'
  | @remove steps a h u ih =>
    rw [length_remove] at hb
    rcases split_snoc he with ⟨-, hx⟩ | ⟨after', he'⟩
    · cases hx
    · exact ih hb he'

/-- Whether a token resolves depends on how often its slot was vacated since it was issued. -/
theorem History.isSome_get?_iff_since {before after : List (Step α)} (h : History steps a)
    (hb : a.slots.length ≤ UInt32.size) (he : steps = before ++ .inserted t v :: after) :
    (a.get? t).isSome ↔ a.Filled t.index ∧ UInt32.size ∣ vacations after t.index := by
  have hv : vacations steps t.index = vacations before t.index + vacations after t.index := by
    rw [he, List.append_cons, vacations_append, vacations_inserted]
  have hdvd : (vacations before t.index + vacations after t.index) % UInt32.size =
      vacations before t.index % UInt32.size ↔ UInt32.size ∣ vacations after t.index := by
    simp only [UInt32.size]
    omega
  rw [(h.sound hb).isSome_get?_iff, hv, ← h.vacations_of_issued hb he, hdvd]

theorem Removes.insert (hr : Removes a t v a') (w : α) :
    (a'.insert w).2 = ⟨t.index, t.generation + 1⟩ ∧
      (a'.insert w).1.slots.length = a.slots.length := by
  unfold Arena.insert
  rw [hr.free]
  simp [hr.slots, hr.length]

theorem History.recycle (h : History steps a) (hb : a.slots.length ≤ UInt32.size)
    (hg : a.get? t = some v) (w : α) :
    ∃ a', History (steps ++ [.removed t (some v), .inserted ⟨t.index, t.generation + 1⟩ w]) a' ∧
      a'.slots.length = a.slots.length ∧ a'.get? ⟨t.index, t.generation + 1⟩ = some w := by
  have hr := removes_of_get? hg
  obtain ⟨htoken, hlen⟩ := hr.insert w
  have hrem := h.remove t
  rw [snd_remove, hg] at hrem
  have hi := (hrem.sound (by rw [hr.length]; exact hb)).inserts (v := w) (by rw [hlen]; exact hb)
  have hins := hrem.insert w
  rw [htoken] at hi hins
  exact ⟨_, by simpa using hins, hlen, hi.get?_self⟩

theorem History.recycle_many (h : History steps a) (hb : a.slots.length ≤ UInt32.size)
    (hg : a.get? t = some v) (w : α) (n : Nat) :
    ∃ later a', History (steps ++ .removed t (some v) :: later) a' ∧
      a'.slots.length = a.slots.length ∧
      vacations (.removed t (some v) :: later) t.index = n + 1 ∧
      a'.get? ⟨t.index, t.generation + .ofNat (n + 1)⟩ = some w := by
  induction n with
  | zero =>
    obtain ⟨a', h', hlen, hget⟩ := h.recycle hb hg w
    exact ⟨_, a', h', hlen, by simp [vacations, Step.vacates], hget⟩
  | succ n ih =>
    obtain ⟨later, b, hl, hlen, hv, hget⟩ := ih
    obtain ⟨a', h', hlen', hget'⟩ := hl.recycle (by rw [hlen]; exact hb) hget w
    rw [List.append_assoc, List.cons_append] at h'
    refine ⟨_, a', h', hlen'.trans hlen, ?_, ?_⟩
    · rw [← List.cons_append, vacations_append, hv]
      simp [vacations, Step.vacates]
    · rw [UInt32.ofNat_add (n + 1) 1, ← UInt32.add_assoc]
      exact hget'

structure TokenLaw (steps : List (Step α)) (a : Arena α) : Prop where
  resolves : ∀ t, (a.get? t).isSome ↔
    a.Filled t.index ∧ vacations steps t.index % UInt32.size = t.generation.toNat
  value : ∀ t v, a.get? t = some v → latest? steps t.index = some v
  distinct : (∀ i, vacations steps i < UInt32.size) → (issued steps).Nodup
  live : (∀ i, vacations steps i < UInt32.size) → ∀ t v, .inserted t v ∈ steps →
    (∀ w, .removed t (some w) ∉ steps) → a.get? t = some v
  dead : (∀ i, vacations steps i < UInt32.size) → ∀ t v, .removed t (some v) ∈ steps →
    a.get? t = none ∧ a.remove t = (a, none)
  -- a removed token comes back when its slot was vacated once for every number of a word
  since : ∀ before t v after, steps = before ++ .inserted t v :: after →
    ((a.get? t).isSome ↔ a.Filled t.index ∧ UInt32.size ∣ vacations after t.index)
  revived : ∀ t v, a.get? t = some v → ∀ w, ∃ later a',
    History (steps ++ .removed t (some v) :: later) a' ∧ a'.slots.length = a.slots.length ∧
      vacations (.removed t (some v) :: later) t.index = UInt32.size ∧ a'.get? t = some w

theorem token_law (h : History steps a) (hb : a.slots.length ≤ UInt32.size) : TokenLaw steps a := by
  have hs := h.sound hb
  refine ⟨fun t => hs.isSome_get?_iff, fun t v => hs.latest?_of_get?,
    fun hw => (h.lasting hb hw).nodup, fun hw t v hm hlive => ?_, fun hw t v hm => ?_,
    fun before t v after he => h.isSome_get?_iff_since hb he, fun t v hg w => ?_⟩
  · rcases (h.lasting hb hw).tenure t v hm with ⟨w, hrem⟩ | hget
    · exact absurd hrem (hlive w)
    · exact hget
  · have hnone := (h.lasting hb hw).get?_eq_none hs hw hm
    exact ⟨hnone, remove_of_get?_eq_none hnone⟩
  · obtain ⟨later, a', h', hlen, hv, hget⟩ := h.recycle_many hb hg w (UInt32.size - 1)
    refine ⟨later, a', h', hlen, hv, ?_⟩
    -- as many generations as a word counts are none
    have hwrap : t.generation + .ofNat (UInt32.size - 1 + 1) = t.generation := UInt32.add_zero _
    rwa [hwrap] at hget

theorem reused_token_law :
    ∃ (steps : List (Step Nat)) (a : Arena Nat), History steps a ∧ a.slots.length ≤ UInt32.size ∧
      TokenLaw steps a ∧ issued steps = [⟨0, 0⟩, ⟨1, 0⟩, ⟨0, 1⟩] ∧
      a.get? ⟨0, 0⟩ = none ∧ a.get? ⟨0, 1⟩ = some 7 ∧ a.get? ⟨1, 0⟩ = some 6 := by
  have h := (((History.nil.insert 5).insert 6).remove ⟨0, 0⟩).insert 7
  have hb :
      ((((((({} : Arena Nat).insert 5).1.insert 6).1).remove ⟨0, 0⟩).1).insert 7).1.slots.length ≤
        UInt32.size := by decide
  exact ⟨_, _, h, hb, token_law h hb, by decide, by decide, by decide, by decide⟩

end Arena

end UsbTransfer
