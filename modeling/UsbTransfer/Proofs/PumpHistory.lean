import UsbTransfer.Proofs.CrewSane

namespace UsbTransfer

namespace Beat

def act : Beat → Nat → Pump → Pump
  | .told j, i, p => if j = i then p.stop else p
  | .finished j, i, p => if j = i then p.hostGone else p
  | _, _, p => p

def Quiet : Beat → Prop
  | told _ | finished _ | started .. | launched .. => False
  | _ => True

variable {n : Beat}

theorem act_stopped (n : Beat) (i : Nat) (p : Pump) :
    (n.act i p).stopped = true ↔ p.stopped = true ∨ n = .told i := by
  cases n with
  | told j => by_cases hj : j = i <;> simp [act, hj, Pump.stop]
  | finished j => by_cases hj : j = i <;> simp [act, hj, Pump.hostGone]
  | _ => simp [act]

theorem act_ended (n : Beat) (i : Nat) (p : Pump) :
    (n.act i p).ended = true ↔ p.ended = true ∨ n = .finished i := by
  cases n with
  | told j => by_cases hj : j = i <;> simp [act, hj, Pump.stop]
  | finished j => by_cases hj : j = i <;> simp [act, hj, Pump.hostGone]
  | _ => simp [act]

theorem Quiet.act (hq : n.Quiet) (i : Nat) (p : Pump) : n.act i p = p := by
  cases n <;> first | rfl | exact hq.elim

theorem Quiet.stir (hq : n.Quiet) (i : Nat) :
    n ≠ .told i ∧ n ≠ .finished i ∧ ∀ a, n ≠ .started a i := by
  refine ⟨?_, ?_, fun a => ?_⟩ <;> rintro rfl <;> exact hq

end Beat

namespace Crew

def Told (m : Crew) (i : Nat) : Prop := ∃ h, m.pumps[i]? = some h ∧ h.pump.stopped = true

def Over (m : Crew) (i : Nat) : Prop := ∃ h, m.pumps[i]? = some h ∧ h.pump.ended = true

def Own (m : Crew) (i : Nat) : Prop := ∃ h, m.pumps[i]? = some h ∧ h.own = true

variable {m m' : Crew} {n : Beat} {a : Agent} {i j : Nat} {s t : Spot} {h : PumpHandle} {p : Pump}
  {f : Pump → Pump} {d : Drop} {history rest : List Beat} {interval refs : Nat}

structure Follows (m : Crew) (n : Beat) (m' : Crew) : Prop where
  kept : ∀ i x, m.pumps[i]? = some x → (∀ a, n ≠ .started a i) ∧
    ∃ y, m'.pumps[i]? = some y ∧ y.own = x.own ∧ y.pump = n.act i x.pump
  absent : ∀ i, m.pumps[i]? = none → n ≠ .told i ∧ n ≠ .finished i
  fresh : ∀ i y, m.pumps[i]? = none → m'.pumps[i]? = some y →
    y.pump.Running ∧ (y.own = true ↔ ∃ a, n = .started a i)
  started : ∀ a i, n = .started a i → m'.Own i

theorem Follows.told (hf : Follows m n m') : m'.Told i ↔ m.Told i ∨ n = .told i := by
  cases hi : m.pumps[i]? with
  | some x =>
    obtain ⟨-, y, hy, -, hp⟩ := hf.kept i x hi
    simp [Told, hi, hy, hp, Beat.act_stopped]
  | none =>
    cases hi' : m'.pumps[i]? with
    | none => simp [Told, hi, hi', (hf.absent i hi).1]
    | some y => simp [Told, hi, hi', (hf.absent i hi).1, (hf.fresh i y hi hi').1.1]

theorem Follows.over (hf : Follows m n m') : m'.Over i ↔ m.Over i ∨ n = .finished i := by
  cases hi : m.pumps[i]? with
  | some x =>
    obtain ⟨-, y, hy, -, hp⟩ := hf.kept i x hi
    simp [Over, hi, hy, hp, Beat.act_ended]
  | none =>
    cases hi' : m'.pumps[i]? with
    | none => simp [Over, hi, hi', (hf.absent i hi).2]
    | some y => simp [Over, hi, hi', (hf.absent i hi).2, (hf.fresh i y hi hi').1.2]

theorem Follows.own (hf : Follows m n m') : m'.Own i ↔ m.Own i ∨ ∃ a, n = .started a i := by
  refine ⟨fun ⟨y, hy, hown⟩ => ?_, ?_⟩
  · cases hi : m.pumps[i]? with
    | some x =>
      obtain ⟨-, z, hz, ho, -⟩ := hf.kept i x hi
      obtain rfl := Option.some.inj (hy.symm.trans hz)
      exact .inl ⟨x, hi, ho ▸ hown⟩
    | none => exact .inr ((hf.fresh i y hi hy).2.1 hown)
  · rintro (⟨x, hx, hown⟩ | ⟨a, ha⟩)
    · obtain ⟨-, y, hy, ho, -⟩ := hf.kept i x hx
      exact ⟨y, hy, ho.trans hown⟩
    · exact hf.started a i ha

theorem Follows.of_quiet (hq : n.Quiet)
    (hk : ∀ i : Nat, m'.pumps[i]? = m.pumps[i]? ∨
      m'.pumps[i]? = m.pumps[i]?.map fun h => { h with held := false }) : Follows m n m' := by
  constructor
  · intro i x hx
    refine ⟨(hq.stir i).2.2, ?_⟩
    rw [hq.act]
    rcases hk i with h | h <;> rw [h, hx]
    · exact ⟨x, rfl, rfl, rfl⟩
    · exact ⟨_, rfl, rfl, rfl⟩
  · exact fun i _ => ⟨(hq.stir i).1, (hq.stir i).2.1⟩
  · intro i y hx hy
    rcases hk i with h | h <;> rw [h, hx] at hy <;> cases hy
  · exact fun a i he => absurd he ((hq.stir i).2.2 a)

theorem Follows.same (hq : n.Quiet) (hp : m'.pumps = m.pumps) : Follows m n m' :=
  .of_quiet hq fun i => .inl (by rw [hp])

theorem Follows.enlist (hp : m'.pumps = (m.enlist h).pumps) (he : h.pump.Running)
    (hn : (∃ a, n = .started a m.pumps.length ∧ h.own = true) ∨
      ∃ a, n = .launched a m.pumps.length ∧ h.own = false) :
    Follows m n m' := by
  have hact : ∀ i p, n.act i p = p := by
    rcases hn with ⟨a, rfl, -⟩ | ⟨a, rfl, -⟩ <;> exact fun _ _ => rfl
  have hstir : ∀ i, n ≠ .told i ∧ n ≠ .finished i := by
    rcases hn with ⟨a, rfl, -⟩ | ⟨a, rfl, -⟩ <;> exact fun _ => ⟨nofun, nofun⟩
  have hstart : ∀ a i, n = .started a i → i = m.pumps.length ∧ h.own = true := by
    rcases hn with ⟨b, rfl, ho⟩ | ⟨b, rfl, -⟩
    · rintro a i he
      cases he
      exact ⟨rfl, ho⟩
    · exact nofun
  constructor
  · intro i x hx
    have hlt := (List.getElem?_eq_some_iff.1 hx).1
    refine ⟨fun a ha => Nat.ne_of_lt hlt (hstart a i ha).1, x, ?_, rfl, (hact i _).symm⟩
    rw [hp, getElem?_enlist, if_neg (Nat.ne_of_lt hlt), hx]
  · exact fun i _ => hstir i
  · intro i y hx hy
    rw [hp, getElem?_enlist, hx] at hy
    split at hy
    · rename_i hi
      obtain rfl := Option.some.inj hy
      refine ⟨he, fun ho => ?_, fun ⟨a, ha⟩ => (hstart a i ha).2⟩
      rcases hn with ⟨b, hb, -⟩ | ⟨b, -, hno⟩
      · exact ⟨b, hi ▸ hb⟩
      · rw [hno] at ho
        cases ho
    · cases hy
  · intro a i ha
    obtain ⟨rfl, ho⟩ := hstart a i ha
    exact ⟨h, by rw [hp, getElem?_enlist, if_pos rfl], ho⟩

theorem Follows.setPump (hj : j < m.pumps.length)
    (hn : (n = .told j ∧ f = .stop) ∨ (n = .finished j ∧ f = .hostGone))
    (hp : m'.pumps = (m.setPump j f).pumps) : Follows m n m' := by
  have hact : ∀ i p, n.act i p = if j = i then f p else p := by
    rcases hn with ⟨rfl, rfl⟩ | ⟨rfl, rfl⟩ <;> exact fun _ _ => rfl
  have hstir : ∀ i, n = .told i ∨ n = .finished i → j = i := by
    rcases hn with ⟨rfl, -⟩ | ⟨rfl, -⟩ <;> rintro i (he | he) <;> cases he <;> rfl
  have hstart : ∀ a i, n ≠ .started a i := by
    rcases hn with ⟨rfl, -⟩ | ⟨rfl, -⟩ <;> exact nofun
  have hget : ∀ i, m'.pumps[i]? = m.pumps[i]?.map
      fun (h : PumpHandle) => { h with pump := n.act i h.pump } := by
    intro i
    rw [hp, getElem?_setPump]
    simp only [hact]
    split
    · rfl
    · cases m.pumps[i]? <;> rfl
  constructor
  · intro i x hx
    refine ⟨fun a => hstart a i, { x with pump := n.act i x.pump }, ?_, rfl, rfl⟩
    rw [hget, hx, Option.map_some]
  · intro i hi
    have hne : j ≠ i := by
      rintro rfl
      rw [List.getElem?_eq_none_iff] at hi
      omega
    exact ⟨fun he => hne (hstir i (.inl he)), fun he => hne (hstir i (.inr he))⟩
  · intro i y hx hy
    rw [hget, hx] at hy
    cases hy
  · exact fun a i he => absurd he (hstart a i)

theorem pumps_letGo (m : Crew) (a : Agent) : (m.letGo a).pumps = m.pumps := by
  unfold Crew.letGo
  split <;> rfl

theorem Goes.lt (hg : m.Goes i s p) : i < m.pumps.length := by
  obtain ⟨h, hh, -⟩ := Option.map_eq_some_iff.1 hg.pump
  exact (List.getElem?_eq_some_iff.1 hh).1

theorem Goes.handle (hg : m.Goes i s p) (hh : m.pumps[i]? = some h) : h.pump = p :=
  Option.some.inj ((pump?_eq hh).symm.trans hg.pump)

theorem Step.follows (hs : Sane m) (h : Step m n m') : Follows m n m' := by
  cases h with
  | look | begin | wake | stop | detach | join | share => exact .same trivial rfl
  | see hg _ | miss hg _ => exact .setPump hg.lt (.inr ⟨rfl, rfl⟩) rfl
  | pass hg hp =>
    rw [setPump_afterPass _ _ hp]
    exact .same trivial rfl
  | release | leave => exact .same trivial (pumps_letGo ..)
  | keep _ _ hr =>
    rw [Crew.start, if_pos hr]
    exact .same trivial rfl
  | start _ _ hr =>
    rw [Crew.start, if_neg hr]
    exact .enlist rfl (Pump.running_start ..) (.inl ⟨_, rfl, rfl⟩)
  | tell hd _ => exact .setPump (hs.drops _ hd).1 (.inl ⟨rfl, rfl⟩) rfl
  | launch => exact .enlist rfl ⟨rfl, rfl⟩ (.inr ⟨_, rfl, rfl⟩)
  | shutdown _ hi _ => exact .setPump (List.getElem?_eq_some_iff.1 hi).1 (.inl ⟨rfl, rfl⟩) rfl
  | drop =>
    refine .of_quiet trivial fun i => ?_
    rw [getElem?_drop]
    split
    · exact .inr rfl
    · exact .inl rfl

theorem Run.append {m₁ m₂ m₃ : Crew} (hr : Run m₁ history m₂) (hq : Run m₂ rest m₃) :
    Run m₁ (history ++ rest) m₃ := by
  induction hq with
  | refl => rwa [List.append_nil]
  | snoc _ hstep ih => rw [← List.append_assoc]; exact ih.snoc hstep

theorem Run.sane_of_sane (hs : Sane m ∧ Housed m) (hr : Run m history m') :
    Sane m' ∧ Housed m' := by
  induction hr with
  | refl => exact hs
  | snoc _ hstep ih => exact ih.1.step ih.2 hstep

theorem Run.told (hr : Run { interval, refs } history m) : m.Told i ↔ .told i ∈ history := by
  induction hr with
  | refl => simp [Told]
  | snoc hr hstep ih =>
    rw [(hstep.follows hr.sane.1).told, ih, List.mem_append, List.mem_singleton, eq_comm]

theorem Run.over (hr : Run { interval, refs } history m) : m.Over i ↔ .finished i ∈ history := by
  induction hr with
  | refl => simp [Over]
  | snoc hr hstep ih =>
    rw [(hstep.follows hr.sane.1).over, ih, List.mem_append, List.mem_singleton, eq_comm]

theorem Run.own (hr : Run { interval, refs } history m) :
    m.Own i ↔ ∃ a, .started a i ∈ history := by
  induction hr with
  | refl => simp [Own]
  | snoc hr hstep ih =>
    rw [(hstep.follows hr.sane.1).own, ih]
    simp only [List.mem_append, List.mem_singleton, exists_or, eq_comm]

theorem holders_letGo (m : Crew) (a : Agent) : (m.letGo a).holders = m.holders := by
  unfold Crew.letGo
  split <;> rfl

theorem Step.gone (h : Step m n m') (hz : m.holders = 0) :
    m'.holders = 0 ∧ ∀ i, n ≠ .began i := by
  cases h with
  | look hg _ => exact ⟨(holders_stand_eq (t := .asking) hg.spot rfl).trans hz, nofun⟩
  | wake hg => exact ⟨(holders_stand_eq (t := .top) hg.spot rfl).trans hz, nofun⟩
  | see | miss | tell | detach | join | shutdown | drop => exact ⟨hz, nofun⟩
  | begin _ hh | keep hh | start hh | stop hh | share hh => exact absurd hz (Nat.ne_of_gt hh)
  | @pass _ _ pass hg hp =>
    rw [setPump_afterPass _ _ hp]
    exact ⟨(holders_stand_eq (t := .passed pass) hg.spot rfl).trans hz, nofun⟩
  | release hg => exact absurd hz (holders_release hg.spot ▸ Nat.succ_ne_zero _)
  | leave hr =>
    unfold holders at hz
    omega
  | launch => exact ⟨(m.holders_enlist _).trans hz, nofun⟩

theorem Run.gone (hr : Run m rest m') (hz : m.holders = 0) :
    m'.holders = 0 ∧ ∀ i, .began i ∉ rest := by
  induction hr with
  | refl => exact ⟨hz, nofun⟩
  | snoc _ hstep ih =>
    obtain ⟨hz', hn⟩ := hstep.gone ih.1
    refine ⟨hz', fun i hi => ?_⟩
    rcases List.mem_append.1 hi with hi | hi
    · exact ih.2 i hi
    · exact hn i (List.mem_singleton.1 hi).symm

theorem Run.over_of_over (hs : Sane m ∧ Housed m) (hr : Run m rest m') (ho : m.Over i) :
    m'.Over i ∧ .began i ∉ rest := by
  induction hr with
  | refl => exact ⟨ho, nofun⟩
  | snoc hr hstep ih =>
    refine ⟨(hstep.follows (hr.sane_of_sane hs).1).over.2 (.inl ih.1), fun hi => ?_⟩
    rcases List.mem_append.1 hi with hi | hi
    · exact ih.2 hi
    · obtain rfl := List.mem_singleton.1 hi
      obtain ⟨h, hh, he⟩ := ih.1
      cases hstep with
      | begin hg _ =>
        rw [hg.handle hh, hg.going] at he
        cases he

/-- The passes that a thread may yet begin after its pump was told to stop. -/
def due (m : Crew) (i : Nat) : Nat := if m.spots[i]? = some .asking then 1 else 0

theorem due_le (hm : m'.spots[i]? = some .asking → m.spots[i]? = some .asking) :
    m'.due i ≤ m.due i := by
  unfold due
  split
  · rename_i hi
    exact Nat.le_of_eq (if_pos (hm hi)).symm
  · exact Nat.zero_le _

theorem due_stand (hs : t ≠ .asking) (i j : Nat) : (m.stand j t).due i ≤ m.due i := by
  refine due_le fun hi => ?_
  simp only [stand, List.getElem?_set] at hi
  split at hi
  · split at hi
    · exact absurd (Option.some.inj hi) hs
    · cases hi
  · exact hi

theorem due_letGo (m : Crew) (a : Agent) (i : Nat) : (m.letGo a).due i = m.due i := by
  unfold Crew.letGo
  split <;> rfl

theorem due_append (hm : m'.spots = m.spots ++ [.top]) (i : Nat) : m'.due i ≤ m.due i := by
  refine due_le fun hi => ?_
  rw [hm, List.getElem?_append] at hi
  split at hi
  · exact hi
  · rw [List.getElem?_singleton] at hi
    split at hi <;> cases hi

theorem Step.due_le (h : Step m n m') (ht : m.Told i) (hn : n ≠ .began i) : m'.due i ≤ m.due i := by
  cases h with
  | @look j p hg hf =>
    refine Crew.due_le fun hi => ?_
    have hne : j ≠ i := by
      rintro rfl
      obtain ⟨h, hh, hst⟩ := ht
      rw [hg.handle hh, hf] at hst
      cases hst
    simpa [stand, List.getElem?_set_ne hne] using hi
  | see | miss | stop | tell | detach | join | share | shutdown | drop => exact Nat.le_refl _
  | begin => exact due_stand (by simp) i _
  | @pass j _ pass hg hp =>
    rw [setPump_afterPass _ _ hp]
    exact due_stand (by simp) i j
  | @release j _ pass _ =>
    have hne : Spot.after pass ≠ .asking := by
      cases pass with
      | failed e => by_cases he : e = .interrupted <;> simp [Spot.after, he]
      | done | crashed => simp [Spot.after]
    exact Nat.le_trans (Nat.le_of_eq (due_letGo ..)) (due_stand hne i j)
  | wake => exact due_stand (by simp) i _
  | keep _ _ hr =>
    refine Nat.le_of_eq ?_
    rw [Crew.start, if_pos hr]
  | start _ _ hr =>
    rw [Crew.start, if_neg hr]
    exact due_append rfl i
  | leave => exact Nat.le_of_eq (due_letGo ..)
  | launch => exact due_append rfl i

theorem Step.due (h : Step m n m') (ht : m.Told i) :
    (if n = .began i then 1 else 0) + m'.due i ≤ m.due i := by
  by_cases hn : n = .began i
  · subst hn
    cases h with
    | begin hg _ =>
      obtain ⟨hlt, hat⟩ := List.getElem?_eq_some_iff.1 hg.spot
      simp [Crew.due, stand, hat, hlt]
  · rw [if_neg hn, Nat.zero_add]
    exact h.due_le ht hn

/-- A pump that was told to stop begins a pass only if it had looked before. -/
theorem Run.count_began (hs : Sane m ∧ Housed m) (hr : Run m rest m') (ht : m.Told i) :
    rest.count (.began i) + m'.due i ≤ m.due i := by
  suffices m'.Told i ∧ rest.count (.began i) + m'.due i ≤ m.due i from this.2
  induction hr with
  | refl => exact ⟨ht, Nat.le_of_eq (Nat.zero_add _)⟩
  | snoc hr hstep ih =>
    refine ⟨(hstep.follows (hr.sane_of_sane hs).1).told.2 (.inl ih.1), ?_⟩
    have hd := hstep.due ih.1
    rw [List.count_append, List.count_singleton]
    simp only [beq_iff_eq]
    have := ih.2
    omega

end Crew

end UsbTransfer
