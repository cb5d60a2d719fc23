import UsbTransfer.Proofs.PumpStop

namespace UsbTransfer

def PumpHandle.shown (h : PumpHandle) : Option Pump := if h.held then some h.pump else none

namespace Crew

def others (m : Crew) : List (Option Pump) := (m.pumps.filter fun h => !h.own).map (·.shown)

/-- No call is under way, and every loop that goes on is between two passes. -/
structure Rests (m : Crew) : Prop where
  drops : m.drops = []
  top : ∀ i p, m.pump? i = some p → p.ended = false → m.spots[i]? = some .top
  free : m.spots.countP Spot.holds = 0

variable {m m' : Crew} {n : Beat} {a : Agent} {i j r : Nat} {s t : Spot} {h : PumpHandle} {p : Pump}
  {f : PumpHandle → PumpHandle} {d : Drop} {history rest : List Beat}

theorem Rests.holders (hr : m.Rests) : m.holders = m.refs := by
  rw [Crew.holders, hr.free, Nat.add_zero]

section Filter

variable {α : Type} {l : List α} {q : α → Bool} {x : α} {g : α → α}

theorem filter_modify (hg : ∀ y, q (g y) = q y) (hx : (l.filter q)[i]? = some x) :
    ∃ j : Nat, l[j]? = some x ∧ (l.modify j g).filter q = (l.filter q).modify i g := by
  induction l generalizing i with
  | nil => cases hx
  | cons y l ih =>
    cases hq : q y with
    | false =>
      rw [List.filter_cons_of_neg (by simp [hq])] at hx ⊢
      obtain ⟨j, hj, hm⟩ := ih hx
      refine ⟨j + 1, hj, ?_⟩
      rw [List.modify_succ_cons, List.filter_cons_of_neg (by simp [hq]), hm]
    | true =>
      rw [List.filter_cons_of_pos hq] at hx ⊢
      cases i with
      | zero =>
        refine ⟨0, hx, ?_⟩
        rw [List.modify_zero_cons, List.modify_zero_cons, List.filter_cons_of_pos ((hg y).trans hq)]
      | succ i =>
        obtain ⟨j, hj, hm⟩ := ih hx
        refine ⟨j + 1, hj, ?_⟩
        rw [List.modify_succ_cons, List.modify_succ_cons, List.filter_cons_of_pos hq, hm]

theorem filter_modify_of_neg (hg : ∀ y, q (g y) = q y) (hx : l[j]? = some x) (hq : q x = false) :
    (l.modify j g).filter q = l.filter q := by
  induction l generalizing j with
  | nil => simp at hx
  | cons y l ih =>
    cases j with
    | zero =>
      obtain rfl : y = x := Option.some.inj hx
      have hy : ¬ q y = true := by simp [hq]
      rw [List.modify_zero_cons, List.filter_cons_of_neg hy, List.filter_cons_of_neg (hg y ▸ hy)]
    | succ j => rw [List.modify_succ_cons, List.filter_cons, List.filter_cons, ih hx]

end Filter

def shut (p : Pump) : Pump := p.stop.hostGone

theorem tell_eq (hd : m.drops = [⟨a, i, false⟩]) :
    m.tell i = { m.setPump i .stop with drops := [⟨a, i, true⟩] } := by
  simp [tell, mark, setPump, hd]

theorem settle_eq (hd : m.drops = [⟨a, i, true⟩]) : m.settle i = { m with drops := [] } := by
  simp [settle, hd]

theorem setPump_setPump (m : Crew) (i : Nat) (f g : Pump → Pump) :
    (m.setPump i f).setPump i g = m.setPump i (g ∘ f) := by
  simp only [setPump, List.modify_modify_eq]
  rfl

theorem setPump_congr {f g : Pump → Pump} (hp : m.pump? i = some p) (hfg : f p = g p) :
    m.setPump i f = m.setPump i g := by
  have hpumps : (m.setPump i f).pumps = (m.setPump i g).pumps := by
    refine List.ext_getElem? fun j => ?_
    rw [getElem?_setPump, getElem?_setPump]
    by_cases hij : i = j
    · subst hij
      obtain ⟨h, hh, rfl⟩ := Option.map_eq_some_iff.1 hp
      simp [hh, hfg]
    · rw [if_neg hij, if_neg hij]
  exact congrArg (fun pumps => { m with pumps }) hpumps

theorem Run.dropped (hd : m.drops = [⟨a, i, false⟩]) (ha : a ≠ .pump i) (hp : m.pump? i = some p)
    (ht : p.ended = false → m.spots[i]? = some .top) :
    ∃ rest, Run m rest { m.setPump i shut with drops := [] } := by
  have hmem : ∀ {t : Bool} {k : Crew}, k.drops = [⟨a, i, t⟩] → ⟨a, i, t⟩ ∈ k.drops := fun hk => by
    rw [hk]
    exact List.mem_singleton.2 rfl
  have htold : Run m [.told i] { m.setPump i .stop with drops := [⟨a, i, true⟩] } := by
    rw [← tell_eq hd]
    exact .single (.tell (hmem hd) rfl)
  have hpump : (m.setPump i .stop).pump? i = some p.stop := by
    rw [pump?_setPump, if_pos rfl, hp, Option.map_some]
  cases he : p.ended with
  | true =>
    have hjoin := htold.snoc (.join (hmem rfl) rfl ha hpump he)
    rw [settle_eq (a := a) rfl] at hjoin
    rw [setPump_congr (g := shut) hp (by rw [shut, Pump.hostGone, Pump.stop, he])] at hjoin
    exact ⟨_, hjoin⟩
  | false =>
    have hsee := htold.snoc (.see ⟨ht he, hpump, he, by simpa [Free] using ha⟩ rfl)
    have hgone : Crew.pump? (Crew.finish { m.setPump i .stop with drops := [⟨a, i, true⟩] } i) i =
        some (shut p) := by
      rw [finish, pump?_setPump, if_pos rfl]
      exact congrArg (Option.map Pump.hostGone) hpump
    have hjoin := hsee.snoc (.join (hmem rfl) rfl ha hgone rfl)
    rw [settle_eq (a := a) rfl] at hjoin
    have hshut :=
      congrArg (fun k : Crew => { k with drops := [] }) (m.setPump_setPump i .stop .hostGone)
    exact ⟨_, hshut ▸ hjoin⟩

theorem Run.detached (hd : m.drops = [⟨.pump i, i, false⟩]) :
    ∃ rest, Run m rest { m.setPump i .stop with drops := [] } := by
  have htold : Run m [.told i] { m.setPump i .stop with drops := [⟨.pump i, i, true⟩] } := by
    rw [← tell_eq hd]
    exact .single (.tell (hd ▸ List.mem_singleton.2 rfl) rfl)
  have hdone := htold.snoc (.detach (List.mem_singleton.2 rfl) rfl rfl)
  rw [settle_eq (a := .pump i) rfl] at hdone
  exact ⟨_, hdone⟩

theorem others_setPump (hh : m.pumps[i]? = some h) (ho : h.own = true) (g : Pump → Pump) :
    (m.setPump i g).others = m.others := by
  have hf := filter_modify_of_neg (q := fun h : PumpHandle => !h.own)
    (g := fun h => { h with pump := g h.pump }) (fun _ => rfl) hh (by simp [ho])
  rw [others, setPump, hf, others]

structure Loosened (m : Crew) (a : Agent) (m' : Crew) : Prop where
  interval : m'.interval = m.interval
  refs : m'.refs = m.refs
  spots : m'.spots = m.spots
  drops : m'.drops = []
  slot : m'.slot = none
  others : m'.others = m.others
  back : ∀ j p', m'.pump? j = some p' → p'.ended = false →
    ∃ p, m.pump? j = some p ∧ p.ended = false
  self : ∀ j p, a = .pump j → m.pump? j = some p → p.ended = false →
    ∃ p', m'.pump? j = some p' ∧ p'.ended = false

theorem Loosened.setPump {g : Pump → Pump} (hh : m.pumps[i]? = some h) (ho : h.own = true)
    (hback : ∀ p, (g p).ended = false → p.ended = false)
    (hself : a = .pump i → ∀ p, p.ended = false → (g p).ended = false) :
    Loosened m a { m.setPump i g with slot := none, drops := [] } := by
  have hpump : ∀ j, Crew.pump? { m.setPump i g with slot := none, drops := [] } j =
      if i = j then (m.pump? j).map g else m.pump? j := pump?_setPump m i g
  refine ⟨rfl, rfl, rfl, rfl, rfl, others_setPump hh ho g, fun j p' hp' he => ?_,
    fun j p ha hp he => ?_⟩
  · rw [hpump] at hp'
    split at hp'
    · obtain ⟨p, hp, rfl⟩ := Option.map_eq_some_iff.1 hp'
      exact ⟨p, hp, hback p he⟩
    · exact ⟨p', hp', he⟩
  · rw [hpump, hp]
    split
    · rename_i hij
      exact ⟨g p, rfl, hself (hij ▸ ha) p he⟩
    · exact ⟨p, rfl, he⟩

theorem Loosened.rests (hl : m.Loosened a m') (hr : m.Rests) : m'.Rests :=
  ⟨hl.drops, fun i p' hp' he => by
    obtain ⟨p, hp, he⟩ := hl.back i p' hp' he
    rw [hl.spots]
    exact hr.top i p hp he, hl.spots ▸ hr.free⟩

theorem Run.loosened (hs : Sane m) (hd : m.drops = [])
    (ht : ∀ i p, m.slot = some i → a ≠ .pump i → m.pump? i = some p → p.ended = false →
      m.spots[i]? = some .top) :
    ∃ rest m', Run (m.stop a) rest m' ∧ Loosened m a m' := by
  cases hslot : m.slot with
  | none =>
    rw [stop_of_none hslot]
    exact ⟨[], m, .refl m, rfl, rfl, rfl, hd, hslot, rfl, fun _ p hp he => ⟨p, hp, he⟩,
      fun _ p _ hp he => ⟨p, hp, he⟩⟩
  | some i =>
    obtain ⟨h, hh, hown, -⟩ := hs.slot i hslot
    have hdrops : (m.stop a).drops = [⟨a, i, false⟩] := by simp [Crew.stop, hslot, hd]
    have hp := pump?_eq hh
    by_cases ha : a = .pump i
    · subst ha
      obtain ⟨rest, hr⟩ := Run.detached hdrops
      exact ⟨rest, _, hr, .setPump hh hown (fun _ => id) fun _ _ => id⟩
    · obtain ⟨rest, hr⟩ := Run.dropped hdrops ha hp (ht i h.pump hslot ha hp)
      exact ⟨rest, _, hr, .setPump hh hown (fun p he => by cases he) fun he => absurd he ha⟩

theorem set_of_getElem? {α : Type} {l : List α} {x : α} (h : l[i]? = some x) : l.set i x = l := by
  obtain ⟨hi, rfl⟩ := List.getElem?_eq_some_iff.1 h
  exact List.set_getElem_self hi

theorem Run.woken {spots : List Spot} {pass : Pass} (hd : m.drops = []) (hp : m.pump? i = some p)
    (he : p.ended = false) (hm : m.spots = spots.set i (.after pass)) (hi : spots[i]? = some .top) :
    ∃ rest, Run m rest { m with spots } := by
  have hlt := (List.getElem?_eq_some_iff.1 hi).1
  have hback : m.spots.set i .top = spots := by rw [hm, List.set_set, set_of_getElem? hi]
  by_cases htop : Spot.after pass = .top
  · rw [hm, htop, List.set_set] at hback
    rw [htop, hback] at hm
    rw [← hm]
    exact ⟨[], .refl m⟩
  · have hrest : Spot.after pass = .resting := by
      cases pass with
      | failed e =>
        simp only [Spot.after] at htop ⊢
        split
        · rename_i he
          exact absurd (if_pos he) htop
        · rfl
      | done | crashed => exact absurd rfl htop
    have hspot : m.spots[i]? = some .resting := by rw [hm, hrest]; simp [hlt]
    have hwake := Run.single (.wake ⟨hspot, hp, he, by simp [Free, hd]⟩)
    rw [stand, hback] at hwake
    exact ⟨_, hwake⟩

structure Wound (m : Crew) (l : List Nat) (m' : Crew) : Prop where
  interval : m'.interval = m.interval
  refs : m'.refs = m.refs
  slot : m'.slot = m.slot
  drops : m'.drops = m.drops
  pumps : ∀ j : Nat, m'.pumps[j]? =
    m.pumps[j]?.map fun h => if j ∈ l then { h with pump := h.pump.hostGone } else h
  spots : ∀ j ∉ l, m'.spots[j]? = m.spots[j]?
  free : m'.spots.countP Spot.holds = m.spots.countP Spot.holds

theorem Run.ended (hz : m.holders = 0) (hd : m.drops = []) (hp : m.pump? i = some p)
    (he : p.ended = false) (ht : m.spots[i]? = some .top) :
    ∃ rest m', Run m rest m' ∧ Wound m [i] m' := by
  have hpumps : ∀ j : Nat, (m.finish i).pumps[j]? = m.pumps[j]?.map fun h =>
      if j ∈ [i] then { h with pump := h.pump.hostGone } else h := by
    intro j
    rw [finish, getElem?_setPump]
    by_cases hij : i = j
    · subst hij
      simp
    · have hj : j ∉ [i] := by simpa [eq_comm] using hij
      simp only [if_neg hij, if_neg hj]
      cases m.pumps[j]? <;> rfl
  have hg : m.Goes i .top p := ⟨ht, hp, he, by simp [Free, hd]⟩
  cases hf : p.stopped with
  | true =>
    exact ⟨_, _, .single (.see hg hf), rfl, rfl, rfl, rfl, hpumps, fun _ _ => rfl, rfl⟩
  | false =>
    have hz' := (holders_stand_eq (t := .asking) ht rfl).trans hz
    have hmiss := (Run.single (.look hg hf)).snoc (.miss (hg.stand .asking) hz')
    refine ⟨_, _, hmiss, rfl, rfl, rfl, rfl, hpumps, fun j hj => ?_, ?_⟩
    · exact List.getElem?_set_ne (fun he => hj (by simp [he]))
    · exact Nat.add_left_cancel (hz'.trans hz.symm)

theorem Run.wound (hz : m.holders = 0) (hr : m.Rests) (l : List Nat) (hl : l.Nodup) :
    ∃ rest m', Run m rest m' ∧ Wound m l m' := by
  induction l with
  | nil =>
    refine ⟨[], m, .refl m, rfl, rfl, rfl, rfl, fun j => ?_, fun _ _ => rfl, rfl⟩
    cases m.pumps[j]? <;> simp
  | cons i l ih =>
    obtain ⟨hi, hl⟩ := List.nodup_cons.1 hl
    obtain ⟨rest, k, hrun, hk⟩ := ih hl
    have hsame : k.pump? i = m.pump? i := by
      rw [pump?, hk.pumps, pump?]
      simp [hi]
    by_cases hgo : ∃ p, m.pump? i = some p ∧ p.ended = false
    · obtain ⟨p, hp, he⟩ := hgo
      have hzk : k.holders = 0 := by rw [Crew.holders, hk.refs, hk.free]; exact hz
      obtain ⟨more, m', hmore, hm'⟩ := Run.ended hzk (hk.drops.trans hr.drops) (hsame.trans hp) he
        ((hk.spots i hi).trans (hr.top i p hp he))
      refine ⟨_, m', hrun.append hmore, hm'.interval.trans hk.interval, hm'.refs.trans hk.refs,
        hm'.slot.trans hk.slot, hm'.drops.trans hk.drops, fun j => ?_, fun j hj => ?_,
        hm'.free.trans hk.free⟩
      · rw [hm'.pumps, hk.pumps]
        by_cases hij : j = i
        · subst hij
          simp [hi]
        · cases m.pumps[j]? <;> simp [hij]
      · rw [hm'.spots j (by simpa using List.ne_of_not_mem_cons hj),
          hk.spots j (List.not_mem_of_not_mem_cons hj)]
    · -- there is no such pump, or its loop has ended before
      refine ⟨rest, k, hrun, hk.interval, hk.refs, hk.slot, hk.drops, fun j => ?_,
        fun j hj => hk.spots j (List.not_mem_of_not_mem_cons hj), hk.free⟩
      rw [hk.pumps]
      by_cases hij : j = i
      · subst hij
        cases hj : m.pumps[j]? with
        | none => rfl
        | some h =>
          have he : h.pump.ended = true := by
            cases he : h.pump.ended with
            | true => rfl
            | false => exact absurd ⟨h.pump, pump?_eq hj, he⟩ hgo
          have hsame : h.pump.hostGone = h.pump := by
            cases hpump : h.pump
            rw [hpump] at he
            subst he
            rfl
          simp [hi, hsame]
      · simp [hij]

structure Departed (m m' : Crew) : Prop where
  interval : m'.interval = m.interval
  rests : m'.Rests
  refs : m'.refs = 0
  slot : m'.slot = none
  others : m'.others = m.others.map (·.map .hostGone)
  ended : ∀ i p, m'.pump? i = some p → p.ended = true

theorem Run.departed (hr : m.Rests) (hn : m.refs = 0) (hslot : m.slot = none) :
    ∃ rest m', Run m rest m' ∧ Departed m m' := by
  obtain ⟨rest, m', hrun, hw⟩ := Run.wound (hr.holders.trans hn) hr (List.range m.pumps.length)
    List.nodup_range
  have hpumps : m'.pumps = m.pumps.map fun h => { h with pump := h.pump.hostGone } := by
    refine List.ext_getElem? fun j => ?_
    rw [hw.pumps, List.getElem?_map]
    cases hj : m.pumps[j]? with
    | none => rfl
    | some h =>
      have hlt := (List.getElem?_eq_some_iff.1 hj).1
      rw [Option.map_some, Option.map_some, if_pos (List.mem_range.2 hlt)]
  have hended : ∀ i p, m'.pump? i = some p → p.ended = true := by
    intro i p hp
    rw [pump?, hpumps, List.getElem?_map, Option.map_map] at hp
    obtain ⟨h, -, rfl⟩ := Option.map_eq_some_iff.1 hp
    rfl
  refine ⟨rest, m', hrun, hw.interval, ⟨hw.drops.trans hr.drops, fun i p hp he => ?_,
    hw.free.trans hr.free⟩, hw.refs.trans hn, hw.slot.trans hslot, ?_, hended⟩
  · rw [hended i p hp] at he
    cases he
  · simp only [Crew.others, hpumps, List.filter_map, List.map_map]
    refine List.map_congr_left fun h _ => ?_
    simp only [Function.comp_apply, PumpHandle.shown]
    split <;> rfl

theorem Run.sharing (hc : m.Calls a) (hh : 0 < m.holders) (n : Nat) :
    ∃ rest, Run m rest { m with refs := m.refs + n } := by
  induction n with
  | zero => exact ⟨[], .refl m⟩
  | succ n ih =>
    obtain ⟨rest, hr⟩ := ih
    have hpos : 0 < Crew.holders { m with refs := m.refs + n } := by
      unfold holders at hh ⊢
      dsimp only
      omega
    exact ⟨_, hr.snoc (.share (a := a) hpos (by cases a <;> exact hc))⟩

theorem Run.leaving (hc : m.Calls a) (hn : j ≤ m.refs)
    (hh : 0 < m.refs - j + m.spots.countP Spot.holds) :
    ∃ rest, Run m rest { m with refs := m.refs - j } := by
  induction j with
  | zero => exact ⟨[], .refl m⟩
  | succ j ih =>
    obtain ⟨rest, hr⟩ := ih (by omega) (by omega)
    have hpos : 0 < m.refs - j := by omega
    have hleft := hr.snoc (.leave (a := a) hpos (by cases a <;> exact hc))
    have hstay : ({ m with refs := m.refs - j - 1 } : Crew).letGo a =
        { m with refs := m.refs - (j + 1) } := by
      rw [Nat.sub_sub]
      exact if_neg (Nat.ne_of_gt hh)
    rw [hstay] at hleft
    exact ⟨_, hleft⟩

theorem Run.counting (hc : m.Calls a) (hh : 0 < m.holders)
    (hr : 0 < r + m.spots.countP Spot.holds) : ∃ rest, Run m rest { m with refs := r } := by
  rcases Nat.le_total m.refs r with hle | hle
  · obtain ⟨rest, h⟩ := Run.sharing hc hh (r - m.refs)
    rw [Nat.add_sub_cancel' hle] at h
    exact ⟨rest, h⟩
  · obtain ⟨rest, h⟩ := Run.leaving (j := m.refs - r) hc (Nat.sub_le ..)
      (by rw [Nat.sub_sub_self hle]; exact hr)
    rw [Nat.sub_sub_self hle] at h
    exact ⟨rest, h⟩

structure Left (m : Crew) (r : Nat) (m' : Crew) : Prop where
  kept : 0 < r → m' = { m with refs := r }
  gone : r = 0 → Departed m m'

theorem Run.left_outside (hs : Sane m) (hr : m.Rests) (hh : 0 < m.refs) (r : Nat) :
    ∃ rest m', Run m rest m' ∧ m.Left r m' := by
  have hc : m.Calls (.outside 0) := by simp [Calls, Free, hr.drops]
  rcases Nat.eq_zero_or_pos r with rfl | hpos
  · obtain ⟨rest, hone⟩ := Run.counting (r := 1) hc (holders_pos hh) (by omega)
    have hleft := hone.snoc (.leave (a := .outside 0) Nat.one_pos hc)
    have hgo : ({ m with refs := 1 - 1 } : Crew).letGo (.outside 0) =
        ({ m with refs := 0 } : Crew).stop (.outside 0) := if_pos (by simp [Crew.holders, hr.free])
    rw [hgo] at hleft
    obtain ⟨more, k, hk, hl⟩ := Run.loosened (m := { m with refs := 0 }) (a := .outside 0)
      (hs.move rfl rfl rfl rfl fun hz => absurd hz (Nat.ne_of_gt (holders_pos hh))) hr.drops
      fun i p _ _ => hr.top i p
    have hrests : k.Rests := hl.rests ⟨hr.drops, hr.top, hr.free⟩
    obtain ⟨last, m', hm', hd⟩ := Run.departed hrests hl.refs hl.slot
    exact ⟨_, m', (hleft.append hk).append hm', fun h => absurd h (Nat.lt_irrefl 0), fun _ =>
      ⟨hd.interval.trans hl.interval, hd.rests, hd.refs, hd.slot,
        hd.others.trans (by rw [hl.others]; rfl), hd.ended⟩⟩
  · obtain ⟨rest, h⟩ := Run.counting (r := r) hc (holders_pos hh) (by omega)
    exact ⟨rest, _, h, fun _ => rfl, fun h => absurd h (Nat.ne_of_gt hpos)⟩

/-- A pump looks round, makes its pass while the users bring the count of references to `r`, and
releases its own. -/
theorem Run.through_pass {pass : Pass} (hg : m.Goes i .top p) (hrun : p.Running)
    (hpass : pass ≠ .crashed) (hh : 0 < m.refs) (r : Nat) :
    ∃ rest, Run m rest
      (Crew.letGo { m with refs := r, spots := m.spots.set i (.after pass) } (.pump i)) := by
  have htop := hg.spot
  have hlt := (List.getElem?_eq_some_iff.1 htop).1
  have halive : 0 < (m.stand i .asking).holders :=
    Nat.lt_of_lt_of_eq (holders_pos hh) (holders_stand_eq (t := .asking) htop rfl).symm
  have hbegun := (Run.single (.look hg hrun.1)).snoc (.begin (hg.stand .asking) halive)
  have hset : (m.stand i .asking).stand i .passing = m.stand i .passing := by
    simp [stand]
  rw [hset] at hbegun
  have hheld : 0 < (m.stand i .passing).spots.countP Spot.holds :=
    List.countP_pos_iff.2 ⟨.passing, by simp [stand, List.mem_set hlt], rfl⟩
  have hcall : (m.stand i .passing).Calls (.pump i) := ⟨by simp [stand, hlt], hg.free⟩
  obtain ⟨rest, hcount⟩ := Run.counting (r := r) hcall
    (Nat.lt_of_lt_of_le hheld (Nat.le_add_left ..)) (Nat.add_pos_right _ hheld)
  have hg' : Crew.Goes { m.stand i .passing with refs := r } i .passing p :=
    ⟨by simp [stand, hlt], hg.pump, hrun.2, hg.free⟩
  have hdone := ((hbegun.append hcount).snoc (.of_pass hg' hpass)).snoc
    (.release (hg'.stand (.passed pass)))
  have hset' : (Crew.stand { m.stand i .passing with refs := r } i (.passed pass)).stand i
      (.after pass) = { m with refs := r, spots := m.spots.set i (.after pass) } := by
    simp [stand]
  rw [hset'] at hdone
  exact ⟨_, hdone⟩

theorem Run.left_pass {pass : Pass} (hs : Sane m) (hr : m.Rests) (hh : 0 < m.refs)
    (hp : m.pump? i = some p) (hrun : p.Running) (hpass : pass ≠ .crashed) (r : Nat) :
    ∃ rest m', Run m rest m' ∧ m.Left r m' := by
  have htop := hr.top i p hp hrun.2
  have hg : m.Goes i .top p := ⟨htop, hp, hrun.2, by simp [Free, hr.drops]⟩
  obtain ⟨rest, hover⟩ := Run.through_pass hg hrun hpass hh r
  have hzero : (m.spots.set i (.after pass)).countP Spot.holds = 0 := by
    have := (holders_stand_eq (t := .after pass) htop (Spot.holds_after pass)).trans hr.holders
    exact Nat.add_eq_left.1 this
  rcases Nat.eq_zero_or_pos r with rfl | hpos
  · have hgo : ({ m with refs := 0, spots := m.spots.set i (.after pass) } : Crew).letGo (.pump i) =
        ({ m with refs := 0, spots := m.spots.set i (.after pass) } : Crew).stop (.pump i) :=
      if_pos (by simp [Crew.holders, hzero])
    rw [hgo] at hover
    obtain ⟨more, k, hk, hl⟩ := Run.loosened (a := .pump i)
      (m := { m with refs := 0, spots := m.spots.set i (.after pass) })
      (hs.move (List.length_set ..) rfl rfl rfl
        fun hz => absurd hz (Nat.ne_of_gt (holders_pos hh))) hr.drops
      fun j q hj hne hq he => by
        have hij : i ≠ j := fun h => hne (by rw [h])
        exact (List.getElem?_set_ne hij).trans (hr.top j q hq he)
    obtain ⟨p', hp', he'⟩ := hl.self i p rfl hp hrun.2
    obtain ⟨wait, hwoken⟩ := Run.woken hl.drops hp' he' hl.spots htop
    have hrests : Crew.Rests { k with spots := m.spots } := ⟨hl.drops, fun j q' hq' he => by
      obtain ⟨q, hq, he⟩ := hl.back j q' hq' he
      exact hr.top j q hq he, hr.free⟩
    obtain ⟨last, m', hm', hd⟩ := Run.departed hrests hl.refs hl.slot
    exact ⟨_, m', ((hover.append hk).append hwoken).append hm', fun h => absurd h (Nat.lt_irrefl 0),
      fun _ => ⟨hd.interval.trans hl.interval, hd.rests, hd.refs, hd.slot,
        hd.others.trans (congrArg (List.map _) hl.others), hd.ended⟩⟩
  · rw [letGo_of_refs
      (m := { m with refs := r, spots := m.spots.set i (.after pass) }) hpos] at hover
    obtain ⟨wait, hwoken⟩ := Run.woken
      (m := { m with refs := r, spots := m.spots.set i (.after pass) }) hr.drops hp hrun.2 rfl htop
    exact ⟨_, _, hover.append hwoken, fun _ => rfl, fun h => absurd h (Nat.ne_of_gt hpos)⟩

end Crew

end UsbTransfer
