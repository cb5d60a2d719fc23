import UsbTransfer.Proofs.Crew

namespace UsbTransfer.Crew

variable {m m' : Crew} {n : Beat} {a : Agent} {i j : Nat} {s t : Spot} {h : PumpHandle} {p : Pump}
  {f : Pump → Pump} {d : Drop}

/-- What holds of every crew: the pump of the host runs, every handle is with the host, with a
caller or being dropped, and nobody but a drop of its handle stops a pump of the host. -/
structure Sane (m : Crew) : Prop where
  length : m.spots.length = m.pumps.length
  slot : ∀ i, m.slot = some i → ∃ h, m.pumps[i]? = some h ∧ h.own = true ∧ h.pump.Running
  held : ∀ i h, m.pumps[i]? = some h → h.held = true → h.own = false ∧ ∀ d ∈ m.drops, d.pump ≠ i
  drops : ∀ d ∈ m.drops, d.pump < m.pumps.length ∧ m.slot ≠ some d.pump
  once : (m.drops.map (·.pump)).Nodup
  told : ∀ d ∈ m.drops, d.told = true → ∃ p, m.pump? d.pump = some p ∧ p.stopped = true
  ended : ∀ i p, m.pump? i = some p → p.ended = true → p.stopped = true ∨ m.holders = 0
  known : ∀ i h, m.pumps[i]? = some h → h.own = true →
    m.slot = some i ∨ h.pump.stopped = true ∨ ∃ d ∈ m.drops, d.pump = i

theorem Sane.slot_ne (hs : Sane m) (hh : m.pumps[i]? = some h) (ho : h.own = false) :
    m.slot ≠ some i := by
  intro hi
  obtain ⟨x, hx, hxo, -⟩ := hs.slot i hi
  obtain rfl := Option.some.inj (hh.symm.trans hx)
  rw [ho] at hxo
  cases hxo

theorem Sane.stop (hs : Sane m) (a : Agent) : Sane (m.stop a) := by
  cases hslot : m.slot with
  | none =>
    rw [stop_of_none hslot]
    exact hs
  | some k =>
    obtain ⟨h, hk, hown, hrun⟩ := hs.slot k hslot
    have hd : (m.stop a).drops = m.drops ++ [⟨a, k, false⟩] := by simp [Crew.stop, hslot]
    have hlt := (List.getElem?_eq_some_iff.1 hk).1
    constructor
    case length => exact hs.length
    case slot =>
      intro i hi
      cases hi
    case held =>
      intro i x hx hheld
      obtain ⟨hno, hnd⟩ := hs.held i x hx hheld
      refine ⟨hno, fun d hm => ?_⟩
      rw [hd] at hm
      rcases List.mem_append.1 hm with hm | hm
      · exact hnd d hm
      · rw [List.mem_singleton.1 hm]
        rintro rfl
        obtain rfl := Option.some.inj (hk.symm.trans hx)
        simp [hown] at hno
    case drops =>
      intro d hm
      rw [hd] at hm
      refine ⟨?_, fun hi => by cases hi⟩
      rcases List.mem_append.1 hm with hm | hm
      · exact (hs.drops d hm).1
      · rw [List.mem_singleton.1 hm]
        exact hlt
    case once =>
      rw [hd, List.map_append, List.nodup_append]
      refine ⟨hs.once, by simp, ?_⟩
      intro x hx y hy he
      obtain ⟨d, hm, rfl⟩ := List.mem_map.1 hx
      rw [List.map_singleton, List.mem_singleton] at hy
      exact (hs.drops d hm).2 (by rw [hslot, he, hy])
    case told =>
      intro d hm ht
      rw [hd] at hm
      rcases List.mem_append.1 hm with hm | hm
      · exact hs.told d hm ht
      · rw [List.mem_singleton.1 hm] at ht
        cases ht
    case ended => exact hs.ended
    case known =>
      intro i x hx hox
      right
      rcases hs.known i x hx hox with hi | hi | ⟨d, hm, hi⟩
      · obtain rfl : k = i := Option.some.inj (hslot.symm.trans hi)
        exact .inr ⟨⟨a, k, false⟩, by simp [hd], rfl⟩
      · exact .inl hi
      · exact .inr ⟨d, by rw [hd]; exact List.mem_append_left _ hm, hi⟩

theorem Sane.move (hs : Sane m) (hl : m'.spots.length = m.spots.length) (hp : m'.pumps = m.pumps)
    (hslot : m'.slot = m.slot) (hd : m'.drops = m.drops) (hh : m.holders = 0 → m'.holders = 0) :
    Sane m' := by
  have hpump : ∀ i, m'.pump? i = m.pump? i := fun i => by rw [pump?, hp, pump?]
  constructor
  · rw [hl, hp, hs.length]
  · rw [hslot, hp]
    exact hs.slot
  · rw [hp, hd]
    exact hs.held
  · rw [hd, hp, hslot]
    exact hs.drops
  · rw [hd]
    exact hs.once
  · intro d hm
    rw [hd] at hm
    rw [hpump]
    exact hs.told d hm
  · intro i p hi he
    rw [hpump] at hi
    exact (hs.ended i p hi he).imp_right hh
  · rw [hp, hslot, hd]
    exact hs.known

theorem pump?_setPump (m : Crew) (i : Nat) (f : Pump → Pump) (j : Nat) :
    (m.setPump i f).pump? j = if i = j then (m.pump? j).map f else m.pump? j := by
  rw [pump?, getElem?_setPump, pump?]
  split
  · rw [Option.map_map, Option.map_map]
    rfl
  · rfl

theorem Sane.setPump (hs : Sane m) (hi : m.slot ≠ some i)
    (hstop : ∀ p, p.stopped = true → (f p).stopped = true)
    (hend : ∀ p, m.pump? i = some p → (f p).ended = true →
      (f p).stopped = true ∨ m.holders = 0) : Sane (m.setPump i f) := by
  have hkeep : ∀ (j : Nat) (x : PumpHandle), (m.setPump i f).pumps[j]? = some x →
      ∃ h : PumpHandle, m.pumps[j]? = some h ∧
      x.own = h.own ∧ x.held = h.held ∧ (h.pump.stopped = true → x.pump.stopped = true) := by
    intro j x hx
    rw [getElem?_setPump] at hx
    split at hx
    · obtain ⟨h, hh, rfl⟩ := Option.map_eq_some_iff.1 hx
      exact ⟨h, hh, rfl, rfl, hstop h.pump⟩
    · exact ⟨x, hx, rfl, rfl, id⟩
  constructor
  · exact hs.length.trans (List.length_modify ..).symm
  · intro j hj
    have hne : i ≠ j := fun he => hi (he ▸ hj)
    rw [getElem?_setPump, if_neg hne]
    exact hs.slot j hj
  · intro j x hx hheld
    obtain ⟨h, hh, hown, hx, -⟩ := hkeep j x hx
    rw [hown]
    exact hs.held j h hh (hx ▸ hheld)
  · intro d hm
    refine ⟨?_, (hs.drops d hm).2⟩
    rw [Crew.setPump, List.length_modify]
    exact (hs.drops d hm).1
  · exact hs.once
  · intro d hm ht
    obtain ⟨p, hp, hps⟩ := hs.told d hm ht
    rw [pump?_setPump, hp]
    split
    · exact ⟨f p, rfl, hstop p hps⟩
    · exact ⟨p, rfl, hps⟩
  · intro j p hj he
    rw [pump?_setPump] at hj
    split at hj
    · rename_i hij
      obtain ⟨q, hq, rfl⟩ := Option.map_eq_some_iff.1 hj
      exact hend q (hij ▸ hq) he
    · exact hs.ended j p hj he
  · intro j x hx hown
    obtain ⟨h, hh, ho, -, hst⟩ := hkeep j x hx
    rcases hs.known j h hh (ho ▸ hown) with hj | hj | hj
    · exact .inl hj
    · exact .inr (.inl (hst hj))
    · exact .inr (.inr hj)

theorem Sane.finish (hs : Sane m) (hp : m.pump? i = some p)
    (hw : p.stopped = true ∨ (m.holders = 0 ∧ m.slot = none)) : Sane (m.finish i) := by
  refine hs.setPump ?_ (fun _ h => h) fun q hq _ => ?_
  · intro hi
    obtain ⟨h, hh, -, hrun⟩ := hs.slot i hi
    rw [pump?_eq hh] at hp
    obtain rfl := Option.some.inj hp
    rcases hw with hst | ⟨-, hnone⟩
    · rw [hrun.1] at hst
      cases hst
    · rw [hnone] at hi
      cases hi
  · obtain rfl := Option.some.inj (hq.symm.trans hp)
    exact hw.imp id And.left

theorem Sane.mark (hs : Sane m) (hp : m.pump? i = some p) (hst : p.stopped = true) :
    Sane (m.mark i) := by
  have hpumps : (m.mark i).drops.map (·.pump) = m.drops.map (·.pump) := by
    simp only [Crew.mark, List.map_map]
    refine List.map_congr_left fun d _ => ?_
    simp only [Function.comp_apply]
    split <;> rfl
  have hold : ∀ d ∈ (m.mark i).drops, ∃ e ∈ m.drops, e.pump = d.pump ∧ (d.told = true →
      e.told = true ∨ d.pump = i) := by
    intro d hm
    obtain ⟨e, he, rfl⟩ := List.mem_map.1 hm
    refine ⟨e, he, ?_⟩
    split
    · rename_i hi
      exact ⟨rfl, fun _ => .inr hi⟩
    · exact ⟨rfl, .inl⟩
  have hnew : ∀ d ∈ m.drops, ∃ e ∈ (m.mark i).drops, e.pump = d.pump := fun d hm => by
    have hmem : d.pump ∈ (m.mark i).drops.map (·.pump) := by
      rw [hpumps]
      exact List.mem_map_of_mem hm
    exact List.mem_map.1 hmem
  constructor
  · exact hs.length
  · exact hs.slot
  · intro j h hj hheld
    refine ⟨(hs.held j h hj hheld).1, fun d hm => ?_⟩
    obtain ⟨e, he, hed, -⟩ := hold d hm
    rw [← hed]
    exact (hs.held j h hj hheld).2 e he
  · intro d hm
    obtain ⟨e, he, hed, -⟩ := hold d hm
    rw [← hed]
    exact hs.drops e he
  · rw [hpumps]
    exact hs.once
  · intro d hm ht
    obtain ⟨e, he, hed, hwhy⟩ := hold d hm
    rcases hwhy ht with het | hi
    · rw [← hed]
      exact hs.told e he het
    · rw [hi]
      exact ⟨p, hp, hst⟩
  · exact hs.ended
  · intro j h hj hown
    rcases hs.known j h hj hown with hk | hk | ⟨d, hm, hd⟩
    · exact .inl hk
    · exact .inr (.inl hk)
    · obtain ⟨e, he, hed⟩ := hnew d hm
      exact .inr (.inr ⟨e, he, hed.trans hd⟩)

theorem Sane.settle (hs : Sane m) (hd : d ∈ m.drops) (ht : d.told = true) :
    Sane (m.settle d.pump) := by
  have hold : ∀ e ∈ (m.settle d.pump).drops, e ∈ m.drops := fun e he => (List.mem_filter.1 he).1
  constructor
  · exact hs.length
  · exact hs.slot
  · exact fun j h hj hheld => ⟨(hs.held j h hj hheld).1, fun e he =>
      (hs.held j h hj hheld).2 e (hold e he)⟩
  · exact fun e he => hs.drops e (hold e he)
  · exact hs.once.sublist (List.Sublist.map _ List.filter_sublist)
  · exact fun e he => hs.told e (hold e he)
  · exact hs.ended
  · intro j h hj hown
    rcases hs.known j h hj hown with hk | hk | ⟨e, he, hej⟩
    · exact .inl hk
    · exact .inr (.inl hk)
    · by_cases hde : e.pump = d.pump
      · -- the pump was told before its thread was waited for
        obtain ⟨p, hp, hst⟩ := hs.told d hd ht
        have hj : m.pumps[j]? = some h := hj
        rw [← hde, hej, pump?_eq hj] at hp
        obtain rfl := Option.some.inj hp
        exact .inr (.inl hst)
      · exact .inr (.inr ⟨e, List.mem_filter.2 ⟨he, by simpa using hde⟩, hej⟩)

theorem getElem?_enlist (m : Crew) (h : PumpHandle) (i : Nat) :
    (m.enlist h).pumps[i]? = if i = m.pumps.length then some h else m.pumps[i]? := by
  simp only [enlist]
  rcases Nat.lt_trichotomy i m.pumps.length with hi | rfl | hi
  · rw [List.getElem?_append_left hi, if_neg (Nat.ne_of_lt hi)]
  · simp
  · rw [if_neg (Nat.ne_of_gt hi), List.getElem?_eq_none (Nat.le_of_lt hi),
      List.getElem?_eq_none (by simpa using Nat.succ_le_of_lt hi)]

theorem Sane.fresh (hs : Sane m) :
    m.slot ≠ some m.pumps.length ∧ ∀ d ∈ m.drops, d.pump ≠ m.pumps.length := by
  refine ⟨fun hi => ?_, fun d hm he => ?_⟩
  · obtain ⟨h, hh, -⟩ := hs.slot _ hi
    exact Nat.lt_irrefl _ (List.getElem?_eq_some_iff.1 hh).1
  · have hlt := (hs.drops d hm).1
    omega

theorem holders_enlist (m : Crew) (h : PumpHandle) : (m.enlist h).holders = m.holders := by
  simp [holders, Crew.enlist, Spot.holds]

theorem holders_hire (m : Crew) (p : Pump) : (m.hire p).holders = m.holders := by
  simp [holders, Crew.hire, Crew.enlist, Spot.holds]

theorem pump?_enlist (m : Crew) (h : PumpHandle) (i : Nat) :
    (m.enlist h).pump? i = if i = m.pumps.length then some h.pump else m.pump? i := by
  rw [pump?, getElem?_enlist, pump?]
  split <;> rfl

theorem Sane.enlist (hs : Sane m) {slot : Option Nat} (he : h.pump.ended = false)
    (hslot : slot = m.slot ∨
      slot = some m.pumps.length ∧ m.slot = none ∧ h.own = true ∧ h.pump.Running)
    (hheld : h.held = true → h.own = false)
    (hknown : h.own = true → slot = some m.pumps.length) : Sane { m.enlist h with slot } := by
  obtain ⟨hfresh, hnew⟩ := hs.fresh
  have hold : ∀ {i x}, m.pumps[i]? = some x → i ≠ m.pumps.length := fun hx =>
    Nat.ne_of_lt (List.getElem?_eq_some_iff.1 hx).1
  constructor
  case length => simp [Crew.enlist, hs.length]
  case slot =>
    intro i hi
    dsimp only at hi ⊢
    rw [getElem?_enlist]
    rcases hslot with rfl | ⟨rfl, -, hown, hrun⟩
    · obtain ⟨x, hx, hown, hrun⟩ := hs.slot i hi
      exact ⟨x, by rw [if_neg (hold hx), hx], hown, hrun⟩
    · obtain rfl := Option.some.inj hi
      exact ⟨h, if_pos rfl, hown, hrun⟩
  case held =>
    intro i x hx hxh
    dsimp only at hx
    rw [getElem?_enlist] at hx
    split at hx
    · rename_i hi
      obtain rfl := Option.some.inj hx
      exact ⟨hheld hxh, fun d hm => hi ▸ hnew d hm⟩
    · exact hs.held i x hx hxh
  case drops =>
    intro d hm
    obtain ⟨hlt, hne⟩ := hs.drops d hm
    refine ⟨by simp [Crew.enlist]; omega, ?_⟩
    rcases hslot with rfl | ⟨rfl, -⟩
    · exact hne
    · exact fun hd => hnew d hm (Option.some.inj hd).symm
  case once => exact hs.once
  case told =>
    intro d hm ht
    obtain ⟨p, hp, hst⟩ := hs.told d hm ht
    exact ⟨p, (pump?_enlist m h d.pump).trans (by rw [if_neg (hnew d hm), hp]), hst⟩
  case ended =>
    intro i p hp hpe
    have hp : (m.enlist h).pump? i = some p := hp
    have hh : Crew.holders { m.enlist h with slot } = m.holders := m.holders_enlist h
    rw [hh]
    rw [pump?_enlist] at hp
    split at hp
    · obtain rfl := Option.some.inj hp
      rw [he] at hpe
      cases hpe
    · exact hs.ended i p hp hpe
  case known =>
    intro i x hx hown
    dsimp only at hx ⊢
    rw [getElem?_enlist] at hx
    split at hx
    · rename_i hi
      obtain rfl := Option.some.inj hx
      exact .inl (by rw [hknown hown, hi])
    · rcases hs.known i x hx hown with hk | hk
      · rcases hslot with rfl | ⟨-, hnone, -⟩
        · exact .inl hk
        · rw [hnone] at hk
          cases hk
      · exact .inr hk

theorem Sane.drop (hs : Sane m) (hi : m.pumps[i]? = some h) (hh : h.held = true) (a : Agent) :
    Sane (m.drop a i) := by
  obtain ⟨hown, hnd⟩ := hs.held i h hi hh
  have hlt := (List.getElem?_eq_some_iff.1 hi).1
  have hnot := hs.slot_ne hi hown
  have hget := m.getElem?_drop a i
  have hpump := m.pump?_drop a i
  have hmem : ∀ d ∈ (m.drop a i).drops, d ∈ m.drops ∨ d = ⟨a, i, false⟩ := fun d hm =>
    (List.mem_append.1 hm).imp_right List.mem_singleton.1
  constructor
  case length => exact hs.length.trans (List.length_modify ..).symm
  case slot =>
    intro j hj
    have hne : i ≠ j := fun he => hnot (he ▸ hj)
    rw [hget, if_neg hne]
    exact hs.slot j hj
  case held =>
    intro j x hx hxh
    rw [hget] at hx
    split at hx
    · obtain ⟨y, -, rfl⟩ := Option.map_eq_some_iff.1 hx
      cases hxh
    · rename_i hne
      obtain ⟨ho, hd⟩ := hs.held j x hx hxh
      refine ⟨ho, fun d hm => ?_⟩
      rcases hmem d hm with hm | rfl
      · exact hd d hm
      · exact hne
  case drops =>
    intro d hm
    rw [Crew.drop, List.length_modify]
    rcases hmem d hm with hm | rfl
    · exact hs.drops d hm
    · exact ⟨hlt, hnot⟩
  case once =>
    rw [Crew.drop, List.map_append, List.nodup_append]
    refine ⟨hs.once, by simp, ?_⟩
    intro x hx y hy he
    obtain ⟨d, hm, rfl⟩ := List.mem_map.1 hx
    rw [List.map_singleton, List.mem_singleton] at hy
    exact hnd d hm (he.trans hy)
  case told =>
    intro d hm ht
    rw [hpump]
    rcases hmem d hm with hm | rfl
    · exact hs.told d hm ht
    · cases ht
  case ended =>
    intro j p hp
    rw [hpump] at hp
    exact hs.ended j p hp
  case known =>
    intro j x hx hxo
    rw [hget] at hx
    split at hx
    · rename_i hij
      obtain ⟨y, hy, rfl⟩ := Option.map_eq_some_iff.1 hx
      rw [← hij, hi] at hy
      obtain rfl := Option.some.inj hy
      rw [hown] at hxo
      cases hxo
    · rcases hs.known j x hx hxo with hk | hk | ⟨d, hm, hd⟩
      · exact .inl hk
      · exact .inr (.inl hk)
      · exact .inr (.inr ⟨d, List.mem_append_left _ hm, hd⟩)

def Housed (m : Crew) : Prop := m.slot ≠ none → 0 < m.holders

theorem Sane.letGo (hs : Sane m) (a : Agent) : Sane (m.letGo a) ∧ Housed (m.letGo a) := by
  unfold Crew.letGo
  split
  · exact ⟨hs.stop a, fun hn => absurd rfl hn⟩
  · rename_i hh
    exact ⟨hs, fun _ => Nat.pos_of_ne_zero hh⟩

theorem slotPump_of_sane (hs : Sane m) : m.slotPump.any (·.Running) = m.slot.isSome := by
  cases hslot : m.slot with
  | none => simp [slotPump, hslot]
  | some k =>
    obtain ⟨h, hk, -, hrun⟩ := hs.slot k hslot
    simp [slotPump, hslot, pump?, hk, hrun]

theorem start_of_sane (hs : Sane m) (a : Agent) :
    m.start a = if m.slot.isSome then m else m.hire { interval := m.interval } := by
  unfold Crew.start
  rw [slotPump_of_sane hs]
  cases hslot : m.slot with
  | some k => rfl
  | none =>
    rw [stop_of_none hslot]
    simp [slotPump, hslot, Pump.start]

theorem setPump_afterPass (m : Crew) (i : Nat) {pass : Pass} (hp : pass ≠ .crashed) :
    m.setPump i (·.afterPass pass) = m := by
  have hid : ∀ p : Pump, p.afterPass pass = p := by
    intro p
    cases pass with
    | done | failed e => rfl
    | crashed => exact absurd rfl hp
  have hmod : m.pumps.modify i (fun h => { h with pump := h.pump.afterPass pass }) = m.pumps := by
    simp only [hid]
    exact List.modify_id i m.pumps
  rw [setPump, hmod]

theorem holders_stand_eq (hs : m.spots[i]? = some s) (he : t.holds = s.holds) :
    (m.stand i t).holders = m.holders := by
  have := holders_stand (t := t) hs
  rw [he] at this
  omega

theorem holders_take (hs : m.spots[i]? = some s) (hn : s.holds = false) (hy : t.holds = true) :
    (m.stand i t).holders = m.holders + 1 := by
  have := holders_stand (t := t) hs
  rw [hn, hy, if_pos rfl] at this
  exact this

theorem holders_release {pass : Pass} (hs : m.spots[i]? = some (.passed pass)) :
    m.holders = (m.stand i (.after pass)).holders + 1 := by
  have := holders_stand (t := .after pass) hs
  rw [Spot.holds_after, Spot.holds, if_pos rfl] at this
  exact this.symm

theorem Sane.stand (hs : Sane m) (i : Nat) (t : Spot)
    (hh : m.holders = 0 → (m.stand i t).holders = 0) : Sane (m.stand i t) :=
  hs.move (List.length_set ..) rfl rfl rfl hh

theorem Sane.tell (hs : Sane m) (hd : d ∈ m.drops) : Sane (m.tell d.pump) := by
  obtain ⟨hlt, hslot⟩ := hs.drops d hd
  have hset : Sane (m.setPump d.pump .stop) :=
    hs.setPump hslot (fun _ _ => rfl) fun _ _ _ => .inl rfl
  have hp := pump?_eq (List.getElem?_eq_getElem hlt)
  refine hset.mark (p := (m.pumps[d.pump]).pump.stop) ?_ rfl
  rw [pump?_setPump, if_pos rfl, hp, Option.map_some]

theorem Sane.step (hs : Sane m) (hh : Housed m) (h : Step m n m') : Sane m' ∧ Housed m' := by
  cases h with
  | look hg _ =>
    have he := holders_stand_eq (t := .asking) hg.spot rfl
    exact ⟨hs.stand _ _ (he.trans ·), fun hn => he ▸ hh hn⟩
  | see hg hf => exact ⟨hs.finish hg.pump (.inl hf), hh⟩
  | begin hg hpos =>
    have he := holders_take (t := .passing) hg.spot rfl rfl
    exact ⟨hs.stand _ _ fun hz => absurd hz (Nat.ne_of_gt hpos), fun _ => he ▸ Nat.succ_pos _⟩
  | miss hg hz =>
    have hnone : m.slot = none := Decidable.byContradiction fun hn => Nat.ne_of_gt (hh hn) hz
    exact ⟨hs.finish hg.pump (.inr ⟨hz, hnone⟩), hh⟩
  | @pass _ _ pass hg hp =>
    rw [setPump_afterPass _ _ hp]
    have he := holders_stand_eq (t := .passed pass) hg.spot rfl
    exact ⟨hs.stand _ _ (he.trans ·), fun hn => he ▸ hh hn⟩
  | @release _ _ pass hg =>
    have he := holders_release hg.spot
    exact (hs.stand _ _ fun hz => absurd hz (he ▸ Nat.succ_ne_zero _)).letGo _
  | wake hg =>
    have he := holders_stand_eq (t := .top) hg.spot rfl
    exact ⟨hs.stand _ _ (he.trans ·), fun hn => he ▸ hh hn⟩
  | keep _ _ hr =>
    rw [Crew.start, if_pos hr]
    exact ⟨hs, hh⟩
  | start hpos _ hr =>
    rw [slotPump_of_sane hs, Bool.not_eq_true, Option.isSome_eq_false_iff,
      Option.isNone_iff_eq_none] at hr
    rw [start_of_sane hs, hr, Option.isSome_none, if_neg Bool.false_ne_true]
    exact ⟨hs.enlist rfl (.inr ⟨rfl, hr, rfl, rfl, rfl⟩) nofun fun _ => rfl,
      fun _ => Nat.lt_of_lt_of_eq hpos (m.holders_hire _).symm⟩
  | stop _ _ => exact ⟨hs.stop _, fun hn => absurd rfl hn⟩
  | tell hd _ => exact ⟨hs.tell hd, hh⟩
  | detach hd ht _ => exact ⟨hs.settle hd ht, hh⟩
  | join hd ht _ _ _ => exact ⟨hs.settle hd ht, hh⟩
  | share hpos _ =>
    exact ⟨hs.move rfl rfl rfl rfl fun hz => absurd hz (Nat.ne_of_gt hpos),
      fun _ => Nat.lt_of_lt_of_le hpos (Nat.add_le_add_right (Nat.le_succ _) _)⟩
  | leave hr _ =>
    have hleft : Sane { m with refs := m.refs - 1 } := by
      refine hs.move rfl rfl rfl rfl fun hz => ?_
      unfold holders at hz
      omega
    exact hleft.letGo _
  | launch _ _ =>
    exact ⟨hs.enlist rfl (.inl rfl) (fun _ => rfl) nofun, fun hn =>
      Nat.lt_of_lt_of_eq (hh hn) (m.holders_enlist _).symm⟩
  | shutdown _ hi hheld =>
    have hslot := hs.slot_ne hi (hs.held _ _ hi hheld).1
    exact ⟨hs.setPump hslot (fun _ _ => rfl) fun _ _ _ => .inl rfl, hh⟩
  | drop _ hi hheld => exact ⟨hs.drop hi hheld _, hh⟩

theorem Run.sane {interval refs : Nat} {history : List Beat}
    (hr : Run { interval, refs } history m) : Sane m ∧ Housed m := by
  induction hr with
  | refl => exact ⟨⟨rfl, nofun, nofun, nofun, .nil, nofun, nofun, nofun⟩, fun hn => absurd rfl hn⟩
  | snoc _ hstep ih => exact ih.1.step ih.2 hstep

end UsbTransfer.Crew
