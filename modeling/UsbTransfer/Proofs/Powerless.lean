import UsbTransfer.Proofs.Drain
import UsbTransfer.Proofs.Tenancy

namespace UsbTransfer

namespace Arena

variable {α : Type} {a : Arena α} {steps : List (Step α)} {s : Slot α} {i : UInt32} {t u : Token}
  {v w : α}

theorem slot_insert (hs : (a.insert v).1.slots[i.toNat]? = some s) :
    (∃ x, a.slots[i.toNat]? = some x ∧ x.generation = s.generation) ∨
      (a.slots.length ≤ i.toNat ∧ s.generation = 0) := by
  unfold insert at hs
  split at hs
  · rename_i j rest hfree
    simp only [List.getElem?_modify] at hs
    obtain ⟨x, hx, rfl⟩ := Option.map_eq_some_iff.1 hs
    refine .inl ⟨x, hx, ?_⟩
    split <;> rfl
  · rcases Nat.lt_or_ge i.toNat a.slots.length with hi | hi
    · rw [List.getElem?_append_left hi] at hs
      exact .inl ⟨s, hs, rfl⟩
    · rw [List.getElem?_append_right hi] at hs
      obtain rfl := List.mem_singleton.1 (List.mem_of_getElem? hs)
      exact .inr ⟨hi, rfl⟩

theorem get?_insert (h : (a.insert v).1.get? t = some w) :
    a.get? t = some w ∨ (a.insert v).2 = t := by
  obtain ⟨s, hs, hg, hw⟩ := get?_eq_some.1 h
  unfold insert at hs ⊢
  split at hs
  · rename_i j rest hfree
    simp only [List.getElem?_modify] at hs
    obtain ⟨x, hx, rfl⟩ := Option.map_eq_some_iff.1 hs
    by_cases hj : j.toNat = t.index.toNat
    · obtain rfl : j = t.index := UInt32.toNat.inj hj
      rw [if_pos rfl] at hg
      right
      simp only [hx, Option.map_some, Option.getD_some]
      exact congrArg (Token.mk t.index) hg
    · rw [if_neg hj] at hg hw
      exact .inl (get?_eq_some.2 ⟨x, hx, hg, hw⟩)
  · rename_i hfree
    rcases Nat.lt_or_ge t.index.toNat a.slots.length with hi | hi
    · rw [List.getElem?_append_left hi] at hs
      exact .inl (get?_eq_some.2 ⟨s, hs, hg, hw⟩)
    · rw [List.getElem?_append_right hi] at hs
      have hlt : t.index.toNat - a.slots.length < 1 := (List.getElem?_eq_some_iff.1 hs).1
      have hlen : a.slots.length = t.index.toNat := by omega
      obtain rfl := List.mem_singleton.1 (List.mem_of_getElem? hs)
      right
      simp only [hlen, UInt32.ofNat_toNat]
      exact congrArg (Token.mk t.index) hg

theorem get?_remove (h : (a.remove u).1.get? t = some w) : a.get? t = some w := by
  cases hu : a.get? u with
  | none => rwa [remove_of_get?_eq_none hu] at h
  | some v =>
    obtain ⟨s, hs, hg, hw⟩ := get?_eq_some.1 h
    rcases slot_cases (removes_of_get? hu).slots hs with ⟨-, rfl⟩ | ⟨-, hold⟩
    · cases hw
    · exact get?_eq_some.2 ⟨s, hold, hg, hw⟩

structure Dated (steps : List (Step α)) (a : Arena α) : Prop where
  generation : ∀ (i : UInt32) s, a.slots[i.toNat]? = some s →
    s.generation.toNat = vacations steps i % UInt32.size
  beyond : ∀ i : UInt32, a.slots.length ≤ i.toNat → vacations steps i = 0

theorem Dated.vacations_of_get? (hd : Dated steps a) (hw : vacations steps t.index < UInt32.size)
    (h : a.get? t = some v) : t.generation.toNat = vacations steps t.index := by
  obtain ⟨s, hs, hg, -⟩ := get?_eq_some.1 h
  rw [← hg, hd.generation _ s hs, Nat.mod_eq_of_lt hw]

theorem Dated.insert (hd : Dated steps a) (v : α) :
    Dated (steps ++ [.inserted (a.insert v).2 v]) (a.insert v).1 := by
  constructor
  · intro i s hs
    rw [vacations_inserted]
    rcases slot_insert hs with ⟨x, hx, hg⟩ | ⟨hi, hg⟩
    · rw [← hg]
      exact hd.generation i x hx
    · rw [hg, hd.beyond i hi]
      rfl
  · intro i hi
    rw [vacations_inserted]
    exact hd.beyond i (Nat.le_trans (a.length_insert_le v) hi)

theorem Dated.remove (hd : Dated steps a) (t : Token) :
    Dated (steps ++ [.removed t (a.remove t).2]) (a.remove t).1 := by
  rw [snd_remove]
  cases hg : a.get? t with
  | none =>
    rw [remove_of_get?_eq_none hg]
    refine ⟨fun i s hs => ?_, fun i hi => ?_⟩ <;> rw [vacations_missed]
    · exact hd.generation i s hs
    · exact hd.beyond i hi
  | some v =>
    have hr := removes_of_get? hg
    refine ⟨fun i s hs => ?_, fun i hi => ?_⟩ <;> rw [vacations_removed]
    · rcases slot_cases hr.slots hs with ⟨rfl, rfl⟩ | ⟨hne, hold⟩
      · rw [if_pos rfl, UInt32.toNat_add, hd.generation _ _ hr.filled]
        exact Nat.mod_add_mod _ _ _
      · rw [if_neg (Ne.symm hne)]
        exact hd.generation i s hold
    · have hlt := (List.getElem?_eq_some_iff.1 hr.filled).1
      rw [hr.length] at hi
      have hne : t.index ≠ i := by
        rintro rfl
        omega
      rw [if_neg hne]
      exact hd.beyond i hi

theorem History.dated (h : History steps a) : Dated steps a := by
  induction h with
  | nil => exact ⟨by simp, fun _ _ => rfl⟩
  | insert _ v ih => exact ih.insert v
  | remove _ t ih => exact ih.remove t

theorem History.lapsed (h : History steps a) (hw : ∀ i, vacations steps i < UInt32.size)
    (hm : .removed t (some v) ∈ steps) : t.generation.toNat < vacations steps t.index := by
  induction h with
  | nil => cases hm
  | @insert steps a h w ih =>
    simp only [vacations_inserted] at hw ⊢
    exact ih hw (by simpa using hm)
  | @remove steps a h u ih =>
    have hw' : ∀ i, vacations steps i < UInt32.size := fun i => by
      have hi := hw i
      rw [vacations_append] at hi
      omega
    rcases List.mem_append.1 hm with hm | hm
    · rw [vacations_append]
      exact Nat.lt_add_right _ (ih hw' hm)
    · simp only [List.mem_singleton, Step.removed.injEq] at hm
      obtain ⟨rfl, hv⟩ := hm
      have hg : a.get? t = some v := by rw [← snd_remove, ← hv]
      rw [← hv, vacations_removed, if_pos rfl, h.dated.vacations_of_get? (hw' _) hg]
      exact Nat.lt_succ_self _

theorem History.issued (h : History steps a) (hg : a.get? t = some v) :
    ∃ w, .inserted t w ∈ steps := by
  induction h generalizing v with
  | nil => simp [get?, slot?] at hg
  | insert _ w ih =>
    rcases get?_insert hg with hg | rfl
    · obtain ⟨x, hx⟩ := ih hg
      exact ⟨x, List.mem_append_left _ hx⟩
    · exact ⟨w, by simp⟩
  | remove _ u ih =>
    obtain ⟨x, hx⟩ := ih (get?_remove hg)
    exact ⟨x, List.mem_append_left _ hx⟩

def Leased (steps : List (Step α)) (t : Token) : Prop :=
  (∃ v, .inserted t v ∈ steps) ∧ ∀ v, .removed t (some v) ∉ steps

theorem History.leased_of_get? (h : History steps a) (hw : ∀ i, vacations steps i < UInt32.size)
    (hg : a.get? t = some v) : Leased steps t := by
  refine ⟨h.issued hg, fun w hm => ?_⟩
  have hlt := h.lapsed hw hm
  rw [h.dated.vacations_of_get? (hw _) hg] at hlt
  exact Nat.lt_irrefl _ hlt

end Arena

structure Lettings where
  devices : Arena ConnectionId := {}
  adopted : Nat := 0
  steps : List (Arena.Step ConnectionId) := []

namespace Lettings

def read (l : Lettings) : Note → Lettings
  | .upkeep (.adopt _) =>
    { devices := (l.devices.insert l.adopted).1
      adopted := l.adopted + 1
      steps := l.steps ++ [.inserted (l.devices.insert l.adopted).2 l.adopted] }
  | .upkeep (.close t) =>
    { l with
      devices := (l.devices.remove t).1
      steps := l.steps ++ [.removed t (l.devices.remove t).2] }
  | _ => l

def of (history : List Note) : Lettings := history.foldl read {}

theorem of_snoc (history : List Note) (n : Note) : of (history ++ [n]) = (of history).read n := by
  simp [of]

theorem read_of_not_governs {n : Note} (hn : n.governs = false) (l : Lettings) : l.read n = l := by
  unfold read
  split
  · cases hn
  · cases hn
  · rfl

theorem history_of (history : List Note) :
    Arena.History (of history).steps (of history).devices := by
  induction history using List.reverseRecOn with
  | nil => exact .nil
  | append_singleton history n ih =>
    rw [of_snoc]
    unfold read
    split
    · exact ih.insert _
    · exact ih.remove _
    · exact ih

end Lettings

namespace Host

variable {h h' : SimulatedHost} {history : List Note} {n : Note} {t : Token}

structure Accounted (history : List Note) (h : SimulatedHost) : Prop where
  devices : h.devices = (Lettings.of history).devices
  adopted : h.connections.length = (Lettings.of history).adopted

theorem Accounted.move (ht : Accounted history h) (ho : Occupied h) (hm : Move h n h') :
    Accounted (history ++ [n]) h' := by
  have hd := ht.devices
  have ha := ht.adopted
  cases governed_move hm with
  | kept hn hs =>
    constructor <;> rw [Lettings.of_snoc, Lettings.read_of_not_governs hn]
    · exact hs.devices.trans hd
    · exact (congrArg List.length hs.connections).trans ha
  | resolved r he =>
    constructor <;> rw [he, Lettings.of_snoc, resolve]
    · split <;> exact hd
    · split <;> exact ha
  | adopted device he =>
    constructor <;> rw [he, Lettings.of_snoc] <;> simp only [adopt, Lettings.read]
    · rw [hd, ha]
    · rw [List.length_append, ha, List.length_singleton]
  | closed t he =>
    constructor <;> rw [he, Lettings.of_snoc]
    · rw [ho.devices_close, hd]
      rfl
    · rw [connections_close]
      exact ha
  | begun t he =>
    constructor <;> rw [he, Lettings.of_snoc, beginDrain]
    · split <;> exact hd
    · split
      · exact ha
      · exact (List.length_modify ..).trans ha
  | ended id he =>
    constructor <;> rw [he, Lettings.of_snoc]
    · exact hd
    · exact (List.length_modify ..).trans ha

theorem accounted_of_run (hr : Run fresh history h) : Accounted history h := by
  induction hr with
  | refl => exact ⟨rfl, rfl⟩
  | snoc hr hm ih => exact ih.move (occupied_fresh.run hr) hm

/-- A submission asks for the contracts before it asks for the device. -/
def missing (h : SimulatedHost) : HostError :=
  match h.contracts with
  | none => .notInitialized
  | some _ => .invalidHandle

/-- Every call with the token fails and leaves all as it was. -/
structure Powerless (h : SimulatedHost) (t : Token) : Prop where
  close : h.close t = (h, .error .invalidHandle)
  beginDrain : h.beginDrain t = (h, .error .invalidHandle)
  exchange : ∀ r, h.exchange t r = some (h, r.buffer, .error .invalidHandle)
  submit : ∀ target r, h.submit target t r = (h, .error h.missing)
  submitStream : ∀ target id s buffer timeout, s.token = t →
    h.submitStream target id s buffer timeout = (h, .error h.missing)
  place : ∀ target o, h.token? o = some t → h.place target o = (h, .refused h.missing)
  allocate : ∀ e packets given, h.allocate t e packets given = (h, .error .invalidHandle)
  operate : ∀ op, h.operate t op = (h, .error .invalidHandle)
  maxPacket : ∀ e, h.maxPacket t e = (h, .error .invalidHandle)

theorem admission_of_stale (hl : h.lookup t = .error .invalidHandle) :
    h.admission t = .error h.missing := by
  cases hc : h.contracts <;> simp only [admission, missing, hc, hl]

theorem powerless_of_lookup (hl : h.lookup t = .error .invalidHandle) : Powerless h t := by
  have ha := admission_of_stale hl
  constructor
  case submitStream =>
    rintro target id s buffer timeout rfl
    simp only [Host.submitStream, ha]
  case place => exact fun target o ho => place_of_admission_error ho ha
  case close => simp only [Host.close, hl]
  case beginDrain => simp only [Host.beginDrain, hl]
  case exchange =>
    intro r
    simp only [Host.exchange, call, hl]
  case submit =>
    intro target r
    simp only [Host.submit, ha]
  case allocate =>
    intro e packets given
    simp only [Host.allocate, hl]
  case operate =>
    intro op
    simp only [Host.operate, hl]
  case maxPacket =>
    intro e
    simp only [Host.maxPacket, hl]

theorem lookup_of_get?_eq_none (hg : h.devices.get? t = none) :
    h.lookup t = .error .invalidHandle := by
  simp only [lookup, hg]

structure Lapse (history : List Note) (h : SimulatedHost) : Prop where
  dead : ∀ t, ¬ Arena.Leased (Lettings.of history).steps t → Powerless h t
  -- indices of tokens are words of 32 bits
  live : h.devices.slots.length ≤ UInt32.size → ∀ t, Arena.Leased (Lettings.of history).steps t →
    ∃ id c, h.lookup t = .ok (id, c)

theorem powerless_unless_leased (hr : Run fresh history h)
    (hw : ∀ i, Arena.vacations (Lettings.of history).steps i < UInt32.size) : Lapse history h := by
  have ht := accounted_of_run hr
  have hh : Arena.History (Lettings.of history).steps h.devices := by
    rw [ht.devices]
    exact Lettings.history_of history
  constructor
  · intro t hn
    refine powerless_of_lookup (lookup_of_get?_eq_none ?_)
    rw [Option.eq_none_iff_forall_ne_some]
    exact fun id hid => hn (hh.leased_of_get? hw hid)
  · rintro hb t ⟨⟨id, hm⟩, hlive⟩
    rcases (hh.lasting hb hw).tenure t id hm with ⟨w, hrem⟩ | hid
    · exact absurd hrem (hlive w)
    · have hlt := (occupied_fresh.run hr).bounded id (Arena.mem_values_of_get? hid)
      exact ⟨id, _, lookup_eq_ok.2 ⟨hid, List.getElem?_eq_getElem hlt⟩⟩

def reopened : List Note :=
  [.upkeep (.adopt 1), .upkeep (.close ⟨0, 0⟩), .upkeep (.adopt 2)]

theorem reopened_powerless :
    ∃ h, Run fresh reopened h ∧
      (∀ i, Arena.vacations (Lettings.of reopened).steps i < UInt32.size) ∧ Lapse reopened h ∧
      Powerless h ⟨0, 0⟩ ∧ Powerless h ⟨7, 3⟩ ∧ h.lookup ⟨0, 1⟩ = .ok (1, ⟨2, 0⟩) := by
  have hr : Run fresh reopened _ :=
    .cons (.upkeep _ (.adopt 1))
      (.cons (.upkeep _ (.close ⟨0, 0⟩)) (.single (.upkeep _ (.adopt 2))))
  have hw : ∀ i, Arena.vacations (Lettings.of reopened).steps i < UInt32.size := fun i =>
    Nat.lt_of_le_of_lt List.countP_le_length (by decide)
  have hl := powerless_unless_leased hr hw
  have hc : (Lettings.of reopened).steps[1]? = some (.removed ⟨0, 0⟩ (some 0)) := rfl
  refine ⟨_, hr, hw, hl, hl.dead ⟨0, 0⟩ ?_, hl.dead ⟨7, 3⟩ ?_, by decide⟩
  · exact fun hn => hn.2 0 (List.mem_of_getElem? hc)
  · rintro ⟨⟨v, hm⟩, -⟩
    have hi : (⟨7, 3⟩ : Token) ∈ Arena.issued (Lettings.of reopened).steps :=
      List.mem_filterMap.2 ⟨_, hm, rfl⟩
    revert hi
    decide

end Host

end UsbTransfer
