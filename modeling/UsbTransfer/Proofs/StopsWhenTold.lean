import UsbTransfer.Proofs.Run
import UsbTransfer.Proofs.CrewSession
import UsbTransfer.Proofs.Tolerance

namespace UsbTransfer.Crew

variable {m m' : Crew} {a : Agent} {i j interval refs : Nat} {history : List Beat}

theorem Run.lets_go {d : Drop} (hd : d ∈ m.drops) (ha : d.agent = .pump d.pump) :
    ∃ rest m', Run m rest m' ∧ .detached d.pump ∈ rest := by
  cases ht : d.told with
  | true => exact ⟨_, _, .single (.detach hd ht ha), List.mem_singleton.2 rfl⟩
  | false =>
    have hd' : { d with told := true } ∈ (m.tell d.pump).drops :=
      List.mem_map.2 ⟨d, hd, if_pos rfl⟩
    have htold : Run m [.told d.pump] (m.tell d.pump) := .single (.tell hd ht)
    exact ⟨_, _, htold.snoc (.detach hd' rfl ha),
      List.mem_append_right _ (List.mem_singleton.2 rfl)⟩

theorem Run.not_joined (hr : Run { interval, refs } history m) (i : Nat) :
    .joined (.pump i) i ∉ history := by
  induction hr with
  | refl => exact nofun
  | snoc _ hstep ih =>
    intro hi
    rcases List.mem_append.1 hi with hi | hi
    · exact ih hi
    · obtain rfl := List.mem_singleton.1 hi
      exact hstep.joined.2 rfl

theorem Sane.slot_of_unfinished (hs : Sane m) (hu : m.Unfinished i) (ht : ¬ m.Told i)
    (hd : ∀ d ∈ m.drops, d.pump ≠ i) : m.slot = some i := by
  obtain ⟨⟨h, hh, hown⟩, -⟩ := hu
  rcases hs.known i h hh hown with hi | hst | ⟨d, hm, hi⟩
  · exact hi
  · exact absurd ⟨h, hh, hst⟩ ht
  · exact absurd hi (hd d hm)

theorem Sane.not_told (hs : Sane m) (hi : m.slot = some i) : ¬ m.Told i := by
  rintro ⟨h, hh, hst⟩
  obtain ⟨x, hx, -, hrun⟩ := hs.slot i hi
  obtain rfl := Option.some.inj (hh.symm.trans hx)
  rw [hrun.1] at hst
  cases hst

theorem Sane.start_running (hs : Sane m) (a : Agent) : (m.start a).slotPump.any (·.Running) := by
  rw [start_of_sane hs]
  split
  · rw [slotPump_of_sane hs]
    assumption
  · have hp : (m.hire { interval := m.interval }).slotPump = some { interval := m.interval } :=
      (pump?_enlist ..).trans (if_pos rfl)
    rw [hp]
    rfl

/-- How the pumps of a host stop, after a history and in all that may follow. -/
structure StopsWhenTold (history : List Beat) (m : Crew) : Prop where
  told : ∀ i, m.Told i ↔ .told i ∈ history
  finished : ∀ i, m.Over i ↔ .finished i ∈ history
  own : ∀ i, m.Own i ↔ ∃ a, .started a i ∈ history
  ends : ∀ i, m.Over i → m.Told i ∨ m.holders = 0
  stopped : ∀ i, m.Own i → m.Told i → (∃ a, .stopping a (some i) ∈ history) ∨ m.holders = 0
  last : ∀ i, m.Over i → ∀ rest m', Run m rest m' → .began i ∉ rest
  due : ∀ i, m.Told i → ∀ rest m', Run m rest m' → rest.count (.began i) ≤ m.due i
  gone : m.holders = 0 → ∀ rest m', Run m rest m' → m'.holders = 0 ∧ ∀ i, .began i ∉ rest
  goes : ∀ i s p, m.Goes i s p → p.stopped = false → 0 < m.refs →
    ∃ rest m', Run m rest m' ∧ .began i ∈ rest
  joins : ∀ i, .joined (.pump i) i ∉ history
  detaches : ∀ d ∈ m.drops, d.agent = .pump d.pump →
    ∃ rest m', Run m rest m' ∧ .detached d.pump ∈ rest
  /-- A start within a stop gives the host a second pump before the first has ended. -/
  pairs : ∀ i j, i ≠ j → (m.Unfinished i ∧ m.Unfinished j ↔
    (Replaced history i j ∨ Replaced history j i) ∧ .finished i ∉ history ∧ .finished j ∉ history)
  awaited : (∀ i, .stopping (.pump i) (some i) ∉ history) →
    ∀ i j, i ≠ j → m.Unfinished i → m.Unfinished j → m.Awaited i ∨ m.Awaited j
  alone : Sequential history → ∀ i j, m.Unfinished i → m.Unfinished j → i = j
  kept : ∀ i, m.Unfinished i → ¬ m.Told i → (∀ d ∈ m.drops, d.pump ≠ i) → ∀ a, m.start a = m
  running : ∀ a, (m.start a).slotPump.any (·.Running)
  anew : ∀ a b, ((m.stop a).start b).slot = some m.pumps.length ∧
    ∀ c, .started c m.pumps.length ∉ history
  /-- A crew whose calls do not overlap is a session. -/
  sessions : ∀ (κ δ : Type) [Controller κ δ] (s s' : Session κ δ), m.Shows s →
    Relation.ReflTransGen Session.Act s s' → ∃ rest m', Run m rest m' ∧ m'.Shows s'

theorem pump_stops_when_told (hr : Run { interval, refs } history m) : StopsWhenTold history m := by
  have hs := hr.sane
  constructor
  case told => exact fun i => hr.told
  case finished => exact fun i => hr.over
  case own => exact fun i => hr.own
  case ends =>
    rintro i ⟨h, hh, he⟩
    refine (hs.1.ended i h.pump (pump?_eq hh) he).imp_left fun hst => ?_
    exact ⟨h, hh, hst⟩
  case stopped => exact fun i ho ht => (hr.slot ho).resolve_left fun hi => hs.1.not_told hi ht
  case last => exact fun i ho rest m' hq => (hq.over_of_over hs ho).2
  case due => exact fun i ht rest m' hq => Nat.le_trans (Nat.le_add_right ..) (hq.count_began hs ht)
  case gone => exact fun hz rest m' hq => hq.gone hz
  case goes => exact fun i s p hg hf hp => hg.begins hf hp
  case joins => exact hr.not_joined
  case detaches => exact fun d hd ha => Run.lets_go hd ha
  case pairs => exact fun i j hne => hr.unfinished_pair hne
  case awaited => exact fun hn i j hne hi hj => (hr.guarded hn).awaited hi hj hne
  case alone => exact fun hq i j => hr.alone hq
  case kept =>
    intro i hu ht hd a
    rw [start_of_sane hs.1, hs.1.slot_of_unfinished hu ht hd]
    rfl
  case running => exact hs.1.start_running
  case anew =>
    intro a b
    refine ⟨?_, fun c hc => ?_⟩
    · rw [start_of_sane (hs.1.stop a)]
      rfl
    · obtain ⟨h, hh, -⟩ := hr.own.2 ⟨c, hc⟩
      exact Nat.lt_irrefl _ (List.getElem?_eq_some_iff.1 hh).1
  case sessions => exact fun κ δ _ s s' hm ha => hm.acts hs ha

theorem told_within_pass :
    Run {} [.started (.outside 0) 0, .looked 0, .began 0, .stopping (.outside 0) (some 0), .told 0]
      { pumps := [⟨{ stopped := true }, true, false⟩], spots := [.passing]
        drops := [⟨.outside 0, 0, true⟩] } := by
  have began : Run {} [.started (.outside 0) 0, .looked 0, .began 0]
      { slot := some 0, pumps := [⟨{}, true, false⟩], spots := [.passing] } :=
    ((Run.single (.start (a := .outside 0) (by decide) (by decide) (by decide))).snoc
      (.look (i := 0) (p := {}) ⟨rfl, rfl, rfl, by decide⟩ rfl)).snoc
      (.begin (i := 0) (p := {}) ⟨rfl, rfl, rfl, by decide⟩ (by decide))
  exact (began.snoc (.stop (a := .outside 0) (by decide) (by decide))).snoc
    (.tell (d := ⟨.outside 0, 0, false⟩) (by decide) rfl)

/-- Another thread starts a pump while a stop waits for the first one, which is within a pass. And a
count that the dispatcher cannot take ends a pump that nobody told to stop. -/
theorem second_unfinished :
    (∃ history m, Run {} history m ∧ (∀ i slot, .stopping (.pump i) slot ∉ history) ∧
      m.Unfinished 0 ∧ m.Unfinished 1) ∧
    ∃ (host : Host Dictated UInt32) (s : Session Dictated UInt32),
      Host.ended (wordSize - 8) = some host ∧
      Session.pumpOnce (fun _ _ => {}) (Session.startPump { host }) = some s ∧
      s.alive = true ∧ s.host.owned = true ∧ s.pump = some { stopped := false, ended := true } := by
  have again : Run {} _
      { slot := some 1, spots := [.passing, .top], drops := [⟨.outside 0, 0, true⟩]
        pumps := [⟨{ stopped := true }, true, false⟩, ⟨{}, true, false⟩] } :=
    told_within_pass.snoc (.start (a := .outside 1) (by decide) (by decide) (by decide))
  refine ⟨⟨_, _, again, by simp, ⟨⟨_, rfl, rfl⟩, ?_⟩, ⟨_, rfl, rfl⟩, ?_⟩,
    _, _, rfl, rfl, rfl, rfl, rfl⟩
  all_goals
    rintro ⟨h, hh, he⟩
    cases hh
    cases he

/-- A pump is stopped within a pass that fails. A callback of its successor drops the last
reference, so the host goes on the thread of the pump. -/
theorem restarted_stops_when_told :
    ∃ history m, ({} : Crew).Shows ({ host := Host.fresh } : Session Simulated UInt32) ∧
      Run {} history m ∧ StopsWhenTold history m ∧
      history.count (.began 0) = 1 ∧ .joined (.outside 0) 0 ∈ history ∧
      history.count (.began 1) = 1 ∧ .detached 1 ∈ history ∧ m.holders = 0 ∧ m.drops = [] := by
  have joined : Run {} _
      { pumps := [⟨{ stopped := true, ended := true }, true, false⟩], spots := [.top] } :=
    ((((told_within_pass.snoc (.of_pass (i := 0) (p := { stopped := true })
      ⟨rfl, rfl, rfl, by decide⟩ (by decide : Pass.failed .io ≠ .crashed))).snoc
      (.release (i := 0) (p := { stopped := true }) ⟨rfl, rfl, rfl, by decide⟩)).snoc
      (.wake (i := 0) (p := { stopped := true }) ⟨rfl, rfl, rfl, by decide⟩)).snoc
      (.see (i := 0) (p := { stopped := true }) ⟨rfl, rfl, rfl, by decide⟩ rfl)).snoc
      (.join (d := ⟨.outside 0, 0, true⟩) (p := { stopped := true, ended := true })
        (by decide) rfl (by decide) rfl rfl)
  have again : Run {} _
      { slot := some 1, spots := [.top, .passing]
        pumps := [⟨{ stopped := true, ended := true }, true, false⟩, ⟨{}, true, false⟩] } :=
    ((joined.snoc (.start (a := .outside 0) (by decide) (by decide) (by decide))).snoc
      (.look (i := 1) (p := {}) ⟨rfl, rfl, rfl, by decide⟩ rfl)).snoc
      (.begin (i := 1) (p := {}) ⟨rfl, rfl, rfl, by decide⟩ (by decide))
  have left : Run {} _
      { refs := 0, slot := some 1, spots := [.top, .passing]
        pumps := [⟨{ stopped := true, ended := true }, true, false⟩, ⟨{}, true, false⟩] } :=
    again.snoc (.leave (a := .pump 1) (by decide) (by decide))
  have released := (left.snoc
    (.of_pass (i := 1) (p := {}) ⟨rfl, rfl, rfl, by decide⟩
      (by decide : Pass.done ≠ .crashed))).snoc
    (.release (i := 1) (p := {}) ⟨rfl, rfl, rfl, by decide⟩)
  have gone : Run {} _
      { refs := 0, spots := [.top, .top], drops := [⟨.pump 1, 1, false⟩]
        pumps := [⟨{ stopped := true, ended := true }, true, false⟩, ⟨{}, true, false⟩] } :=
    released
  have finished : Run {} _
      { refs := 0, spots := [.top, .top]
        pumps := [⟨{ stopped := true, ended := true }, true, false⟩,
          ⟨{ stopped := true, ended := true }, true, false⟩] } :=
    ((gone.snoc (.tell (d := ⟨.pump 1, 1, false⟩) (by decide) rfl)).snoc
      (.detach (d := ⟨.pump 1, 1, true⟩) (by decide) rfl rfl)).snoc
      (.see (i := 1) (p := { stopped := true }) ⟨rfl, rfl, rfl, by decide⟩ rfl)
  exact ⟨_, _, shows_fresh _ rfl _, finished, pump_stops_when_told finished, by decide, by decide,
    by decide, by decide, rfl, rfl⟩

end UsbTransfer.Crew
