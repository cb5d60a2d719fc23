import Mathlib.Data.List.Nodup
import UsbTransfer.Proofs.PumpHistory

namespace UsbTransfer.Crew

variable {m m' : Crew} {n : Beat} {a : Agent} {i j : Nat} {s t : Spot} {h : PumpHandle} {p : Pump}
  {f : Pump → Pump} {d : Drop} {history rest : List Beat} {interval refs : Nat}

theorem Step.slot (hs : Sane m) (h : Step m n m') (hi : m.slot = some i) :
    m'.slot = some i ∨ (∃ a, n = .stopping a (some i)) ∨ m'.holders = 0 := by
  have letGo : ∀ (k : Crew) (a : Agent), k.slot = m.slot →
      (k.letGo a).slot = some i ∨ (k.letGo a).holders = 0 := by
    intro k a hk
    rw [holders_letGo]
    unfold Crew.letGo
    split
    · exact .inr ‹_›
    · exact .inl (hk.trans hi)
  cases h with
  | look | see | begin | miss | pass | wake | tell | detach | join | share | launch | shutdown
  | drop => exact .inl hi
  | @release j _ pass => exact (letGo (m.stand j (.after pass)) (.pump j) rfl).imp_right .inr
  | @leave a => exact (letGo { m with refs := m.refs - 1 } a rfl).imp_right .inr
  | keep _ _ hr =>
    rw [Crew.start, if_pos hr]
    exact .inl hi
  | start _ _ hr =>
    rw [slotPump_of_sane hs, hi] at hr
    exact absurd rfl hr
  | stop => exact .inr (.inl ⟨_, by rw [hi]⟩)

theorem Step.slot_started (h : Step m (.started a i) m') (hs : Sane m) :
    m.slot = none ∧ 0 < m.holders ∧ i = m.pumps.length ∧
      m' = m.hire { interval := m.interval } := by
  cases h with
  | start hh _ hr =>
    rw [slotPump_of_sane hs, Bool.not_eq_true, Option.isSome_eq_false_iff,
      Option.isNone_iff_eq_none] at hr
    refine ⟨hr, hh, rfl, ?_⟩
    rw [start_of_sane hs, hr, Option.isSome_none, if_neg Bool.false_ne_true]

theorem Step.slot_stopping {slot : Option Nat} (h : Step m (.stopping a slot) m') :
    m.slot = slot := by
  cases h with
  | stop => rfl

theorem Run.slot (hr : Run { interval, refs } history m) (ho : m.Own i) :
    m.slot = some i ∨ (∃ a, .stopping a (some i) ∈ history) ∨ m.holders = 0 := by
  induction hr with
  | refl => exact absurd ho (by simp [Own])
  | @snoc m₂ _ _ n hr hstep ih =>
    have hsane := hr.sane.1
    rcases (hstep.follows hsane).own.1 ho with ho | ⟨a, rfl⟩
    · rcases ih ho with hi | ⟨a, ha⟩ | hz
      · rcases hstep.slot hsane hi with hi | ⟨a, rfl⟩ | hz
        · exact .inl hi
        · exact .inr (.inl ⟨a, by simp⟩)
        · exact .inr (.inr hz)
      · exact .inr (.inl ⟨a, List.mem_append_left _ ha⟩)
      · exact .inr (.inr (hstep.gone hz).1)
    · obtain ⟨-, -, rfl, rfl⟩ := hstep.slot_started hsane
      exact .inl rfl

def Unfinished (m : Crew) (i : Nat) : Prop := m.Own i ∧ ¬ m.Over i

/-- Another thread has taken the pump from its owner and waits for its end. -/
def Awaited (m : Crew) (i : Nat) : Prop := ∃ d ∈ m.drops, d.pump = i ∧ d.agent ≠ .pump i

def AtLarge (m : Crew) (i : Nat) : Prop := m.Unfinished i ∧ ¬ m.Awaited i

theorem Step.unfinished (hs : Sane m) (h : Step m n m') (hu : m'.Unfinished i) :
    m.Unfinished i ∨ ∃ a, n = .started a i := by
  have hf := h.follows hs
  have ho : ¬ m.Over i := fun ho => hu.2 (hf.over.2 (.inl ho))
  exact (hf.own.1 hu.1).imp_left fun h => ⟨h, ho⟩

theorem Step.drops (hs : Sane m) (h : Step m n m') (hd : d ∈ m.drops) :
    (∃ e ∈ m'.drops, e.agent = d.agent ∧ e.pump = d.pump) ∨
      m.Over d.pump ∨ d.agent = .pump d.pump := by
  have stop : ∀ {k : Crew} {a : Agent}, k.drops = m.drops → d ∈ (k.stop a).drops := by
    intro k a hk
    exact List.mem_append_left _ (hk ▸ hd)
  have letGo : ∀ {k : Crew} {a : Agent}, k.drops = m.drops → d ∈ (k.letGo a).drops := by
    intro k a hk
    unfold Crew.letGo
    split
    · exact stop hk
    · exact hk ▸ hd
  have settle : ∀ {e : Drop}, e ∈ m.drops → (m.Over e.pump ∨ e.agent = .pump e.pump) →
      (∃ e' ∈ (m.settle e.pump).drops, e'.agent = d.agent ∧ e'.pump = d.pump) ∨
        m.Over d.pump ∨ d.agent = .pump d.pump := by
    intro e he hwhy
    by_cases hde : d.pump = e.pump
    · obtain rfl : d = e := List.inj_on_of_nodup_map hs.once hd he hde
      exact .inr hwhy
    · exact .inl ⟨d, List.mem_filter.2 ⟨hd, by simpa using hde⟩, rfl, rfl⟩
  cases h with
  | look | see | begin | miss | pass | wake | share | launch | shutdown =>
    exact .inl ⟨d, hd, rfl, rfl⟩
  | release => exact .inl ⟨d, letGo rfl, rfl, rfl⟩
  | leave => exact .inl ⟨d, letGo rfl, rfl, rfl⟩
  | keep _ _ hr =>
    rw [Crew.start, if_pos hr]
    exact .inl ⟨d, hd, rfl, rfl⟩
  | start _ _ hr =>
    rw [Crew.start, if_neg hr]
    exact .inl ⟨d, stop rfl, rfl, rfl⟩
  | stop => exact .inl ⟨d, stop rfl, rfl, rfl⟩
  | tell =>
    refine .inl ⟨_, List.mem_map_of_mem hd, ?_⟩
    split <;> exact ⟨rfl, rfl⟩
  | detach he _ ha => exact settle he (.inr ha)
  | join he _ _ hp hend =>
    obtain ⟨h, hh, rfl⟩ := Option.map_eq_some_iff.1 hp
    exact settle he (.inl ⟨h, hh, hend⟩)
  | drop => exact .inl ⟨d, List.mem_append_left _ hd, rfl, rfl⟩

theorem Step.atLarge (hs : Sane m) (h : Step m n m') (hi : m'.AtLarge i) :
    m.AtLarge i ∨ ∃ a, n = .started a i := by
  refine (h.unfinished hs hi.1).imp_left fun hu => ⟨hu, ?_⟩
  rintro ⟨d, hd, rfl, ha⟩
  rcases h.drops hs hd with ⟨e, he, hag, hep⟩ | ho | hself
  · exact hi.2 ⟨e, he, hep, hag ▸ ha⟩
  · exact hu.2 ho
  · exact ha hself

/-- No pump is at large but that of the host, and one after the host. -/
def Guarded (m : Crew) : Prop :=
  (∀ i, m.AtLarge i → m.slot = some i) ∨
    m.holders = 0 ∧ m.slot = none ∧ ∃ r, ∀ i, m.AtLarge i → i = r

theorem Guarded.unique (hg : Guarded m) (hi : m.AtLarge i) (hj : m.AtLarge j) : i = j := by
  rcases hg with hg | ⟨-, -, r, hr⟩
  · exact Option.some.inj ((hg i hi).symm.trans (hg j hj))
  · exact (hr i hi).trans (hr j hj).symm

theorem Guarded.awaited (hg : Guarded m) (hi : m.Unfinished i) (hj : m.Unfinished j) (hne : i ≠ j) :
    m.Awaited i ∨ m.Awaited j := by
  by_contra hno
  obtain ⟨hni, hnj⟩ := not_or.1 hno
  exact hne (hg.unique ⟨hi, hni⟩ ⟨hj, hnj⟩)

theorem Guarded.keep (hg : Guarded m) (hl : ∀ i, m'.AtLarge i → m.AtLarge i)
    (hs : m'.slot = m.slot) (hh : m.holders = 0 → m'.holders = 0) : Guarded m' := by
  rcases hg with hg | ⟨hz, hn, r, hr⟩
  · exact .inl fun i hi => hs.trans (hg i (hl i hi))
  · exact .inr ⟨hh hz, hs.trans hn, r, fun i hi => hr i (hl i hi)⟩

theorem AtLarge.of_stop (hi : (m.stop a).AtLarge i) :
    m.AtLarge i ∧ (m.slot = some i → a = .pump i) := by
  refine ⟨⟨hi.1, fun ⟨d, hd, hw⟩ => hi.2 ⟨d, List.mem_append_left _ hd, hw⟩⟩, fun hs => ?_⟩
  by_contra ha
  exact hi.2 ⟨⟨a, i, false⟩, List.mem_append_right _ (by simp [hs]), rfl, ha⟩

theorem Guarded.stop (hg : Guarded m) (ha : ∀ i, m.slot = some i → a ≠ .pump i) :
    Guarded (m.stop a) := by
  rcases hg with hg | ⟨hz, hn, r, hr⟩
  · refine .inl fun i hi => ?_
    obtain ⟨hl, hself⟩ := hi.of_stop
    exact absurd (hself (hg i hl)) (ha i (hg i hl))
  · exact .inr ⟨hz, rfl, r, fun i hi => hr i hi.of_stop.1⟩

theorem Guarded.letGo (hg : Guarded m) (a : Agent) : Guarded (m.letGo a) := by
  unfold Crew.letGo
  split
  · rename_i hz
    rcases hg with hg | ⟨-, hn, r, hr⟩
    · refine .inr ⟨hz, rfl, m.slot.getD 0, fun i hi => ?_⟩
      rw [hg i hi.of_stop.1, Option.getD_some]
    · exact .inr ⟨hz, rfl, r, fun i hi => hr i hi.of_stop.1⟩
  · exact hg

theorem Guarded.step (hg : Guarded m) (hs : Sane m) (h : Step m n m')
    (hn : ∀ i, n ≠ .stopping (.pump i) (some i)) : Guarded m' := by
  have moved : ∀ {k : Crew}, k.pumps = m.pumps → k.drops = m.drops → k.slot = m.slot →
      (m.holders = 0 → k.holders = 0) → Guarded k := by
    intro k hp hd hsl hh
    refine hg.keep (fun i hi => ?_) hsl hh
    unfold AtLarge Unfinished Own Over Awaited at hi ⊢
    rwa [hp, hd] at hi
  by_cases hst : ∃ a i, n = .started a i
  · obtain ⟨a, i, rfl⟩ := hst
    obtain ⟨hnone, hpos, rfl, rfl⟩ := h.slot_started hs
    refine .inl fun i hi => ?_
    rcases h.atLarge hs hi with hi | ⟨b, hb⟩
    · rcases hg with hg | ⟨hz, -⟩
      · rw [hg i hi] at hnone
        cases hnone
      · exact absurd hz (Nat.ne_of_gt hpos)
    · cases hb
      rfl
  · have hl : ∀ i, m'.AtLarge i → m.AtLarge i := fun i hi =>
      (h.atLarge hs hi).resolve_right fun ⟨a, ha⟩ => hst ⟨a, i, ha⟩
    have hh : m.holders = 0 → m'.holders = 0 := fun hz => (h.gone hz).1
    cases h with
    | look | see | begin | miss | pass | wake | tell | detach | join | share | launch | shutdown
    | drop => exact hg.keep hl rfl hh
    | keep _ _ hr =>
      rw [Crew.start, if_pos hr]
      exact hg
    | start => exact absurd ⟨_, _, rfl⟩ hst
    | @stop a =>
      refine hg.stop fun i hi ha => hn i ?_
      rw [ha, hi]
    | @release j _ pass hg' =>
      have hm : Guarded (m.stand j (.after pass)) := moved rfl rfl rfl fun hz =>
        absurd hz (holders_release hg'.spot ▸ Nat.succ_ne_zero _)
      exact hm.letGo _
    | leave hr =>
      have hm : Guarded { m with refs := m.refs - 1 } := moved rfl rfl rfl fun hz => by
        unfold holders at hz
        omega
      exact hm.letGo _

theorem Run.guarded (hr : Run { interval, refs } history m)
    (hn : ∀ i, .stopping (.pump i) (some i) ∉ history) : Guarded m := by
  induction hr with
  | refl => exact .inl fun i hi => absurd hi.1.1 (by simp [Own])
  | snoc hr hstep ih =>
    refine (ih fun i hi => hn i (List.mem_append_left _ hi)).step hr.sane.1 hstep fun i hi =>
      hn i ?_
    rw [hi]
    exact List.mem_append_right _ (List.mem_singleton.2 rfl)

def await (pumps : List Nat) : Beat → List Nat
  | .stopping _ (some i) => i :: pumps
  | .joined _ i => pumps.filter (· ≠ i)
  | _ => pumps

def underWay (history : List Beat) : List Nat := history.foldl await []

/-- Nothing is started while a stop is under way. -/
def Sequential (history : List Beat) : Prop :=
  ∀ past a i rest, history = past ++ .started a i :: rest → underWay past = []

theorem underWay_concat (history : List Beat) (n : Beat) :
    underWay (history ++ [n]) = await (underWay history) n := List.foldl_concat ..

theorem Sequential.of_append (hs : Sequential (history ++ rest)) : Sequential history := by
  intro past a i tail he
  exact hs past a i (tail ++ rest) (by rw [he, List.append_assoc, List.cons_append])

theorem Step.joined (h : Step m (.joined a i) m') : m.Over i ∧ a ≠ .pump i := by
  cases h with
  | join _ _ ha hp he =>
    obtain ⟨h, hh, rfl⟩ := Option.map_eq_some_iff.1 hp
    exact ⟨⟨h, hh, he⟩, ha⟩

theorem Run.unfinished (hr : Run { interval, refs } history m) (hu : m.Unfinished i) :
    m.slot = some i ∨ i ∈ underWay history ∨ m.holders = 0 := by
  induction hr with
  | refl => exact absurd hu.1 (by simp [Own])
  | @snoc m₂ _ _ n hr hstep ih =>
    have hsane := hr.sane.1
    rcases hstep.unfinished hsane hu with hu' | ⟨a, rfl⟩
    · rw [underWay_concat]
      rcases ih hu' with hi | hi | hz
      · rcases hstep.slot hsane hi with hi | ⟨a, rfl⟩ | hz
        · exact .inl hi
        · exact .inr (.inl List.mem_cons_self)
        · exact .inr (.inr hz)
      · refine .inr (.inl ?_)
        unfold await
        split
        · exact List.mem_cons_of_mem _ hi
        · rename_i a j
          refine List.mem_filter.2 ⟨hi, decide_eq_true ?_⟩
          rintro rfl
          exact hu'.2 hstep.joined.1
        · exact hi
      · exact .inr (.inr (hstep.gone hz).1)
    · obtain ⟨-, -, rfl, rfl⟩ := hstep.slot_started hsane
      exact .inl rfl

theorem Run.alone (hr : Run { interval, refs } history m) (hs : Sequential history)
    (hi : m.Unfinished i) (hj : m.Unfinished j) : i = j := by
  induction hr with
  | refl => exact absurd hi.1 (by simp [Own])
  | @snoc m₂ m₃ past n hr hstep ih =>
    have hsane := hr.sane.1
    by_cases hn : ∃ a k, n = .started a k
    · obtain ⟨a, k, rfl⟩ := hn
      obtain ⟨hnone, hpos, -⟩ := hstep.slot_started hsane
      have hidle : underWay past = [] := hs past a k [] rfl
      have new : ∀ l, m₂.Unfinished l → False := by
        intro l hl
        rcases hr.unfinished hl with h | h | h
        · rw [hnone] at h
          cases h
        · rw [hidle] at h
          cases h
        · exact Nat.ne_of_gt hpos h
      have own : ∀ l, m₃.Unfinished l → l = k := by
        intro l hl
        rcases hstep.unfinished hsane hl with h | ⟨b, hb⟩
        · exact (new l h).elim
        · exact (Beat.started.inj hb).2.symm
      exact (own i hi).trans (own j hj).symm
    · have old : ∀ l, m₃.Unfinished l → m₂.Unfinished l := by
        intro l hl
        rcases hstep.unfinished hsane hl with h | ⟨a, ha⟩
        · exact h
        · exact absurd ⟨a, l, ha⟩ hn
      exact ih hs.of_append (old i hi) (old j hj)

/-- The host started the second pump after it had let go of the first for a stop. -/
def Replaced (history : List Beat) (i j : Nat) : Prop :=
  ∃ past a b rest, history = past ++ .started b j :: rest ∧ .stopping a (some i) ∈ past

theorem Replaced.append (hc : Replaced history i j) (rest : List Beat) :
    Replaced (history ++ rest) i j := by
  obtain ⟨past, a, b, tail, rfl, ha⟩ := hc
  exact ⟨past, a, b, tail ++ rest, by rw [List.append_assoc, List.cons_append], ha⟩

theorem Run.own_of_stopping (hr : Run { interval, refs } history m)
    (ha : .stopping a (some i) ∈ history) : m.Own i := by
  induction hr with
  | refl => cases ha
  | @snoc m₂ _ _ n hr hstep ih =>
    have hsane := hr.sane.1
    refine (hstep.follows hsane).own.2 (.inl ?_)
    rcases List.mem_append.1 ha with ha | ha
    · exact ih ha
    · obtain rfl := List.mem_singleton.1 ha
      obtain ⟨h, hh, hown, -⟩ := hsane.slot i hstep.slot_stopping
      exact ⟨h, hh, hown⟩

theorem Run.stopping_of_unfinished (hr : Run { interval, refs } history m)
    (hstep : Step m (.started a j) m') (hu : m.Unfinished i) :
    ∃ b, .stopping b (some i) ∈ history := by
  obtain ⟨hnone, hpos, -⟩ := hstep.slot_started hr.sane.1
  rcases hr.slot hu.1 with hi | hb | hz
  · rw [hnone] at hi
    cases hi
  · exact hb
  · exact absurd hz (Nat.ne_of_gt hpos)

theorem Run.replaced (hr : Run { interval, refs } history m) (hi : m.Unfinished i)
    (hj : m.Unfinished j) (hne : i ≠ j) : Replaced history i j ∨ Replaced history j i := by
  induction hr with
  | refl => exact absurd hi.1 (by simp [Own])
  | @snoc m₂ m₃ past n hr hstep ih =>
    have hsane := hr.sane.1
    rcases hstep.unfinished hsane hi with hi' | ⟨a, rfl⟩
    · rcases hstep.unfinished hsane hj with hj' | ⟨b, rfl⟩
      · exact (ih hi' hj').imp (·.append _) (·.append _)
      · obtain ⟨a, ha⟩ := hr.stopping_of_unfinished hstep hi'
        exact .inl ⟨past, a, b, [], rfl, ha⟩
    · rcases hstep.unfinished hsane hj with hj' | ⟨b, hb⟩
      · obtain ⟨b, hb⟩ := hr.stopping_of_unfinished hstep hj'
        exact .inr ⟨past, b, a, [], rfl, hb⟩
      · exact absurd (Beat.started.inj hb).2 hne

theorem Run.own_of_replaced (hr : Run { interval, refs } history m) (hc : Replaced history i j) :
    m.Own i ∧ m.Own j := by
  obtain ⟨past, a, b, rest, rfl, ha⟩ := hc
  exact ⟨hr.own_of_stopping (List.mem_append_left _ ha), hr.own.2 ⟨b, by simp⟩⟩

/-- Two pumps of the host are unfinished just when one replaced the other and neither has
finished. -/
theorem Run.unfinished_pair (hr : Run { interval, refs } history m) (hne : i ≠ j) :
    m.Unfinished i ∧ m.Unfinished j ↔ (Replaced history i j ∨ Replaced history j i) ∧
      .finished i ∉ history ∧ .finished j ∉ history := by
  constructor
  · rintro ⟨hi, hj⟩
    exact ⟨hr.replaced hi hj hne, mt hr.over.2 hi.2, mt hr.over.2 hj.2⟩
  · rintro ⟨hc, hi, hj⟩
    obtain ⟨hown, hown'⟩ : m.Own i ∧ m.Own j :=
      hc.elim hr.own_of_replaced fun hc => (hr.own_of_replaced hc).symm
    exact ⟨⟨hown, mt hr.over.1 hi⟩, hown', mt hr.over.1 hj⟩

theorem Goes.stand (hg : m.Goes i s p) (t : Spot) : (m.stand i t).Goes i t p := by
  obtain ⟨hlt, -⟩ := List.getElem?_eq_some_iff.1 hg.spot
  exact ⟨by simp [Crew.stand, hlt], hg.pump, hg.going, hg.free⟩

theorem holders_pos (hr : 0 < m.refs) : 0 < m.holders := Nat.lt_of_lt_of_le hr (Nat.le_add_right ..)

theorem letGo_of_refs (hr : 0 < m.refs) (a : Agent) : m.letGo a = m :=
  if_neg (Nat.ne_of_gt (holders_pos hr))

theorem Run.single (h : Step m n m') : Run m [n] m' := (Run.refl m).snoc h

theorem Step.of_pass {pass : Pass} (hg : m.Goes i .passing p) (hp : pass ≠ .crashed) :
    Step m (.passed i pass) (m.stand i (.passed pass)) := by
  have h := Step.pass hg hp
  rwa [setPump_afterPass _ _ hp] at h

/-- A loop that nobody told to stop goes on with the next pass, whatever has come of the last. -/
theorem Goes.begins (hg : m.Goes i s p) (hf : p.stopped = false) (hr : 0 < m.refs) :
    ∃ rest m', Run m rest m' ∧ .began i ∈ rest := by
  have asking : ∀ {k : Crew}, k.Goes i .asking p → 0 < k.refs →
      ∃ rest m', Run k rest m' ∧ .began i ∈ rest := fun hg hr =>
    ⟨_, _, .single (.begin hg (holders_pos hr)), List.mem_singleton.2 rfl⟩
  have further : ∀ {k l : Crew} {n : Beat}, Step k n l →
      (∃ rest m', Run l rest m' ∧ .began i ∈ rest) →
        ∃ rest m', Run k rest m' ∧ .began i ∈ rest := by
    rintro k l n h ⟨rest, m', hr, hb⟩
    exact ⟨_, m', (Run.single h).append hr, List.mem_append_right _ hb⟩
  have top : ∀ {k : Crew}, k.Goes i .top p → 0 < k.refs →
      ∃ rest m', Run k rest m' ∧ .began i ∈ rest := fun hg hr =>
    further (.look hg hf) (asking (hg.stand _) hr)
  have resting : ∀ {k : Crew}, k.Goes i .resting p → 0 < k.refs →
      ∃ rest m', Run k rest m' ∧ .began i ∈ rest := fun hg hr =>
    further (.wake hg) (top (hg.stand _) hr)
  have passed : ∀ {k : Crew} {pass : Pass}, k.Goes i (.passed pass) p → 0 < k.refs →
      ∃ rest m', Run k rest m' ∧ .began i ∈ rest := by
    intro k pass hg hr
    refine further (.release hg) ?_
    rw [letGo_of_refs (m := k.stand i (.after pass)) hr]
    have hg' := hg.stand (.after pass)
    cases pass with
    | failed e =>
      by_cases he : e = .interrupted
      · simp only [Spot.after, if_pos he] at hg' ⊢
        exact top hg' hr
      · simp only [Spot.after, if_neg he] at hg' ⊢
        exact resting hg' hr
    | done | crashed => exact top hg' hr
  cases s with
  | top => exact top hg hr
  | asking => exact asking hg hr
  | passing =>
    exact further (.of_pass hg (by decide : Pass.done ≠ .crashed)) (passed (hg.stand _) hr)
  | passed pass => exact passed hg hr
  | resting => exact resting hg hr

end UsbTransfer.Crew
