import Mathlib.Logic.Relation
import UsbTransfer.Proofs.CrewRest

namespace UsbTransfer

namespace Session

variable {κ δ : Type}

def refs (s : Session κ δ) : Nat := s.host.owned.toNat + s.blocked

variable [Controller κ δ]

/-- What a session does that concerns its pumps or the references to the host. No pass crashes. -/
inductive Act : Session κ δ → Session κ δ → Prop
  | start {s : Session κ δ} (ho : s.host.owned = true) : Act s s.startPump
  | stop {s : Session κ δ} (ho : s.host.owned = true) : Act s s.stopPump
  | launch (s : Session κ δ) (interval : Nat) : Act s (s.addPump interval).1
  | shutdown (s : Session κ δ) (i : Nat) : Act s (s.updatePump i .stop)
  | drop (s : Session κ δ) (i : Nat) : Act s (s.dropPump i)
  | leave (s : Session κ δ) : Act s s.dropHost
  | events {s : Session κ δ} (reactions : Reactions) (timeout : Option Nat)
      (ho : s.host.owned = true) : Act s (s.processEvents reactions timeout).1
  | pass {s s' : Session κ δ} (reactions : Reactions)
      (hp : ∀ timeout, (s.host.processEvents reactions timeout).2 ≠ .crashed)
      (hs : s.pumpOnce reactions = some s') : Act s s'
  | spawn {s : Session κ δ} (t : Token) (r : Request) (ho : s.host.owned = true) :
      Act s (s.spawn t r).1
  | resume {s : Session κ δ} (ha : s.alive = true) : Act s s.resume

end Session

namespace Crew

/-- The session is what the crew looks like between two calls. -/
structure Shows {κ δ : Type} (m : Crew) (s : Session κ δ) : Prop where
  rests : m.Rests
  interval : m.interval = s.interval
  refs : m.refs = s.refs
  alive : s.alive = true ↔ 0 < m.refs
  pump : m.slotPump = s.pump
  others : m.others = s.others

variable {κ δ : Type} {m m' : Crew} {s s' : Session κ δ} {a : Agent} {h : PumpHandle} {i r : Nat}

theorem slotPump_of_slot (h : m.slot = none) : m.slotPump = none := by
  rw [slotPump, h, Option.bind_none]

theorem Shows.alive_of_owned (hm : m.Shows s) (ho : s.host.owned = true) : 0 < m.refs := by
  rw [hm.refs, Session.refs, ho]
  exact Nat.lt_of_lt_of_le Nat.one_pos (Nat.le_add_right ..)

theorem calls_outside (hr : m.Rests) (n : Nat) : m.Calls (.outside n) := by
  simp [Calls, Free, hr.drops]

theorem Left.shows [Controller κ δ] (hm : m.Shows s) (ha : s.alive = true)
    (hi : s'.interval = s.interval) (ha' : s'.alive = s.alive) (hp : s'.pump = s.pump)
    (ho : s'.others = s.others) (hl : m.Left s'.refs m') : m'.Shows s'.letGo := by
  rcases Nat.eq_zero_or_pos s'.refs with hz | hpos
  · have hd := hl.gone hz
    obtain ⟨howned, hblocked⟩ := Nat.add_eq_zero_iff.1 hz
    have howned : s'.host.owned = false := by
      cases h : s'.host.owned with
      | false => rfl
      | true => rw [h] at howned; cases howned
    have hgo : s'.letGo = { s' with
        host := s'.host.shutDown, alive := false, pump := none
        others := s'.others.map (·.map .hostGone) } := if_pos ⟨ha'.trans ha, howned, hblocked⟩
    rw [hgo]
    refine ⟨hd.rests, (hd.interval.trans hm.interval).trans hi.symm, ?_, ?_,
      slotPump_of_slot hd.slot, ?_⟩
    · rw [hd.refs]
      exact hblocked.symm.trans (Nat.zero_add _).symm
    · simp [hd.refs]
    · rw [hd.others, hm.others, ho]
  · obtain rfl := hl.kept hpos
    have hstay : s'.letGo = s' := by
      refine if_neg fun ⟨_, howned, hblocked⟩ => ?_
      rw [Session.refs, howned, hblocked] at hpos
      exact absurd hpos (Nat.lt_irrefl 0)
    rw [hstay]
    exact ⟨⟨hm.rests.drops, hm.rests.top, hm.rests.free⟩, hm.interval.trans hi.symm, rfl,
      by simp [ha', ha, hpos], hm.pump.trans hp.symm, hm.others.trans ho.symm⟩

theorem others_append (m : Crew) (h : PumpHandle) : (m.enlist h).others =
    if h.own then m.others else m.others ++ [h.shown] := by
  simp only [Crew.others, Crew.enlist, List.filter_append, List.map_append]
  cases ho : h.own <;> simp [ho]

theorem Rests.enlist (hr : m.Rests) (hs : Sane m) (h : PumpHandle) : (m.enlist h).Rests := by
  refine ⟨hr.drops, fun i p hp he => ?_, ?_⟩
  · rw [pump?_enlist] at hp
    simp only [Crew.enlist]
    split at hp
    · rename_i hi
      rw [hi, ← hs.length, List.getElem?_concat_length]
    · have hspot := hr.top i p hp he
      rw [List.getElem?_append_left (List.getElem?_eq_some_iff.1 hspot).1, hspot]
  · simp [Crew.enlist, hr.free, Spot.holds]

theorem Shows.start (hm : m.Shows s) (hs : Sane m) (ho : s.host.owned = true) :
    ∃ rest m', Run m rest m' ∧ m'.Shows s.startPump := by
  have hh := holders_pos (hm.alive_of_owned ho)
  have hc := calls_outside hm.rests 0
  refine ⟨_, m.start (.outside 0), .single (n := if m.slotPump.any (·.Running) then
    .kept (.outside 0) else .started (.outside 0) m.pumps.length) ?_, ?_⟩
  · split
    · exact .keep hh hc ‹_›
    · exact .start hh hc ‹_›
  · rw [start_of_sane hs]
    cases hslot : m.slot with
    | some k =>
      have hany := slotPump_of_sane hs
      rw [hslot, hm.pump] at hany
      rw [Option.isSome_some, if_pos rfl]
      refine ⟨hm.rests, hm.interval, hm.refs, hm.alive, ?_, hm.others⟩
      obtain ⟨p, hp, hrun⟩ := (Option.any_eq_true _ _).1 hany
      rw [hm.pump, Session.startPump, hp]
      exact congrArg some (if_pos (of_decide_eq_true hrun)).symm
    | none =>
      rw [Option.isSome_none, if_neg Bool.false_ne_true]
      have hrests := hm.rests.enlist hs ⟨{ interval := m.interval }, true, false⟩
      refine ⟨⟨hrests.drops, hrests.top, hrests.free⟩, hm.interval, hm.refs, hm.alive, ?_,
        (m.others_append _).trans hm.others⟩
      have hpump : s.pump = none := hm.pump.symm.trans (slotPump_of_slot hslot)
      rw [Session.startPump, hpump, ← hm.interval]
      exact (pump?_enlist ..).trans (if_pos rfl)

theorem Shows.stop (hm : m.Shows s) (hs : Sane m) (ho : s.host.owned = true) :
    ∃ rest m', Run m rest m' ∧ m'.Shows s.stopPump := by
  have hstop := Run.single (.stop (holders_pos (hm.alive_of_owned ho)) (calls_outside hm.rests 0))
  obtain ⟨rest, m', hr, hl⟩ := Run.loosened (a := .outside 0) hs hm.rests.drops
    fun i p _ _ => hm.rests.top i p
  exact ⟨_, m', hstop.append hr, hl.rests hm.rests, hl.interval.trans hm.interval,
    hl.refs.trans hm.refs, by rw [hl.refs]; exact hm.alive, slotPump_of_slot hl.slot,
    hl.others.trans hm.others⟩

theorem slotPump_of_pump? (hs : m'.slot = m.slot)
    (hp : ∀ i, m.slot = some i → m'.pump? i = m.pump? i) : m'.slotPump = m.slotPump := by
  rw [slotPump, slotPump, hs]
  cases hi : m.slot with
  | none => rfl
  | some i => exact hp i hi

theorem Shows.launch (hm : m.Shows s) (hs : Sane m) (interval : Nat) :
    ∃ rest m', Run m rest m' ∧ m'.Shows (s.addPump interval).1 := by
  have hlaunch := Run.single (.launch interval (calls_outside hm.rests 0))
  have hrests := hm.rests.enlist hs ⟨{ interval }, false, true⟩
  have hold : ∀ i, m.slot = some i → i ≠ m.pumps.length := fun i hi he => hs.fresh.1 (he ▸ hi)
  cases ha : s.alive with
  | true =>
    refine ⟨_, _, hlaunch, hrests, hm.interval, hm.refs, hm.alive, ?_, ?_⟩
    · refine (slotPump_of_pump? (m := m) (by rfl) fun i hi => ?_).trans hm.pump
      rw [pump?_enlist, if_neg (hold i hi)]
    · rw [others_append, hm.others, Session.addPump, ha]
      rfl
  | false =>
    -- the loop finds no host
    have hz : m.refs = 0 := by simpa [ha] using hm.alive
    have hp := (pump?_enlist m ⟨{ interval }, false, true⟩ m.pumps.length).trans (if_pos rfl)
    obtain ⟨rest, m', hr, hw⟩ := Run.ended (i := m.pumps.length)
      ((m.holders_enlist _).trans (hm.rests.holders.trans hz)) hrests.drops hp rfl
      (hrests.top _ _ hp rfl)
    have hpumps : m'.pumps = (m.enlist ⟨{ interval, ended := true }, false, true⟩).pumps := by
      refine List.ext_getElem? fun j => ?_
      rw [hw.pumps, getElem?_enlist, getElem?_enlist]
      by_cases hj : j = m.pumps.length
      · simp [hj, Pump.hostGone]
      · cases m.pumps[j]? <;> simp [hj]
    have hpump : ∀ j, m'.pump? j = if j = m.pumps.length then some { interval, ended := true }
        else m.pump? j := by
      intro j
      rw [pump?, hpumps]
      exact pump?_enlist ..
    refine ⟨_, m', hlaunch.append hr, ⟨hw.drops.trans hm.rests.drops, fun j q hq he => ?_,
      hw.free.trans hrests.free⟩, hw.interval.trans hm.interval, hw.refs.trans hm.refs, ?_, ?_, ?_⟩
    · rw [hpump] at hq
      split at hq
      · cases hq
        cases he
      · rename_i hj
        have hold := hm.rests.top j q hq he
        rw [hw.spots j (by simpa using hj)]
        exact (List.getElem?_append_left (List.getElem?_eq_some_iff.1 hold).1).trans hold
    · rw [hw.refs]
      exact hm.alive
    · refine (slotPump_of_pump? (m := m) hw.slot fun i hi => ?_).trans hm.pump
      rw [hpump, if_neg (hold i hi)]
    · rw [Crew.others, hpumps]
      refine (m.others_append _).trans ?_
      rw [hm.others, Session.addPump, ha]
      rfl

theorem exists_held {p : Pump} (ho : m.others[i]? = some (some p))
    {g : PumpHandle → PumpHandle} (hg : ∀ h, (g h).own = h.own) :
    ∃ j h, m.pumps[j]? = some h ∧ h.held = true ∧ h.own = false ∧ h.pump = p ∧
      ((m.pumps.modify j g).filter fun h => !h.own).map (·.shown) =
        m.others.set i (g h).shown := by
  rw [Crew.others, List.getElem?_map] at ho
  obtain ⟨h, hh, hshown⟩ := Option.map_eq_some_iff.1 ho
  obtain ⟨j, hj, hm⟩ := filter_modify (g := g) (fun y => by rw [hg]) hh
  have hown : h.own = false := by
    simpa using List.getElem?_filter (List.getElem?_eq_some_iff.1 hh).1 hh
  have hheld : h.held = true ∧ h.pump = p := by
    unfold PumpHandle.shown at hshown
    split at hshown
    · exact ⟨‹_›, Option.some.inj hshown⟩
    · cases hshown
  refine ⟨j, h, hj, hheld.1, hown, hheld.2, ?_⟩
  rw [hm, Crew.others, List.modify_eq_set_getElem?, hh]
  simp

theorem absent {α : Type} {l : List (Option α)} (hi : ¬ ∃ x, l[i]? = some (some x)) :
    l[i]? = none ∨ l[i]? = some none := by
  cases h : l[i]? with
  | none => exact .inl rfl
  | some o =>
    cases o with
    | none => exact .inr rfl
    | some x => exact absurd ⟨x, h⟩ hi

theorem Shows.shutdown (hm : m.Shows s) (hs : Sane m) (i : Nat) :
    ∃ rest m', Run m rest m' ∧ m'.Shows (s.updatePump i .stop) := by
  by_cases hi : ∃ p, m.others[i]? = some (some p)
  · obtain ⟨p, hp⟩ := hi
    obtain ⟨j, h, hh, hheld, hown, rfl, hothers⟩ :=
      exists_held hp (g := fun h => { h with pump := h.pump.stop }) fun _ => rfl
    refine ⟨_, _, .single (.shutdown (calls_outside hm.rests 0) hh hheld),
      ⟨hm.rests.drops, fun k q hq he => ?_, hm.rests.free⟩, hm.interval, hm.refs, hm.alive, ?_, ?_⟩
    · rw [pump?_setPump] at hq
      split at hq
      · obtain ⟨x, hx, rfl⟩ := Option.map_eq_some_iff.1 hq
        exact hm.rests.top k x hx he
      · exact hm.rests.top k q hq he
    · refine (slotPump_of_pump? (m := m) (by rfl) fun k hk => ?_).trans hm.pump
      have hne : j ≠ k := by
        rintro rfl
        exact hs.slot_ne hh hown hk
      rw [pump?_setPump, if_neg hne]
    · refine hothers.trans ?_
      rw [Session.updatePump, hm.others, List.modify_eq_set_getElem?, ← hm.others, hp]
      simp [PumpHandle.shown, hheld]
  · have hsame : s.updatePump i .stop = s := by
      rw [Session.updatePump, List.modify_eq_set_getElem?, ← hm.others]
      rcases absent hi with hn | hn
      · rw [hn, hm.others]
        rfl
      · rw [hn]
        have hset : m.others.set i none = s.others := (set_of_getElem? hn).trans hm.others
        exact congrArg (fun others => { s with others }) hset
    rw [hsame]
    exact ⟨[], m, .refl m, hm⟩

theorem Shows.drop (hm : m.Shows s) (hs : Sane m) (i : Nat) :
    ∃ rest m', Run m rest m' ∧ m'.Shows (s.dropPump i) := by
  by_cases hi : ∃ p, m.others[i]? = some (some p)
  · obtain ⟨p, hp⟩ := hi
    obtain ⟨j, h, hh, hheld, hown, rfl, hothers⟩ :=
      exists_held hp (g := fun h => { h with pump := shut h.pump, held := false }) fun _ => rfl
    have hdrop := Run.single (.drop (calls_outside hm.rests 0) hh hheld)
    have hdrops : (m.drop (.outside 0) j).drops = [⟨.outside 0, j, false⟩] := by
      simp [Crew.drop, hm.rests.drops]
    have hget := m.pump?_drop (.outside 0) j
    have hpump := pump?_eq hh
    obtain ⟨rest, hr⟩ :=
      Run.dropped hdrops (by simp) ((hget j).trans hpump) (hm.rests.top j h.pump hpump)
    refine ⟨_, _, hdrop.append hr, ⟨rfl, fun k q hq he => ?_, hm.rests.free⟩, hm.interval, hm.refs,
      hm.alive, ?_, ?_⟩
    · have hq := (pump?_setPump (m.drop (.outside 0) j) j shut k).symm.trans hq
      rw [hget] at hq
      split at hq
      · obtain ⟨x, -, rfl⟩ := Option.map_eq_some_iff.1 hq
        cases he
      · exact hm.rests.top k q hq he
    · refine (slotPump_of_pump? (m := m) (by rfl) fun k hk => ?_).trans hm.pump
      have hne : j ≠ k := by
        rintro rfl
        exact hs.slot_ne hh hown hk
      exact (pump?_setPump (m.drop (.outside 0) j) j shut k).trans (by rw [if_neg hne, hget])
    · refine Eq.trans ?_ (hothers.trans (by rw [hm.others]; rfl))
      rw [Crew.others]
      simp only [setPump, Crew.drop, List.modify_modify_eq]
      rfl
  · have hsame : s.dropPump i = s := by
      rw [Session.dropPump, ← hm.others]
      rcases absent hi with hn | hn
      · rw [List.set_eq_of_length_le (List.getElem?_eq_none_iff.1 hn), hm.others]
      · rw [set_of_getElem? hn, hm.others]
    rw [hsame]
    exact ⟨[], m, .refl m, hm⟩

end Crew

namespace Session

variable {κ δ : Type} [Controller κ δ] {s : Session κ δ} {reactions : Reactions} {p : Pump}

theorem passOf_eq (put : Pump → Session κ δ → Session κ δ)
    (hc : (s.host.processEvents reactions (some p.interval)).2 ≠ .crashed) :
    s.passOf reactions p put =
      letGo (put p { s with host := (s.host.processEvents reactions (some p.interval)).1 }) := by
  unfold passOf
  generalize s.host.processEvents reactions (some p.interval) = answer at hc
  obtain ⟨host, pass⟩ := answer
  cases pass with
  | done | failed e => rfl
  | crashed => exact absurd rfl hc

theorem enter_eq (s : Session κ δ) (c : Call) :
    ∃ host, (s.enter c).1 = { s with host } ∧ host.owned = s.host.owned := by
  unfold enter
  split
  · exact ⟨s.host, rfl, rfl⟩
  · rename_i host buffer result hr
    refine ⟨host, rfl, ?_⟩
    unfold Host.run at hr
    split at hr
    · cases hr
      rfl
    · obtain ⟨x, -, hx⟩ := Option.map_eq_some_iff.1 hr
      cases hx
      rfl

theorem spawn_eq (s : Session κ δ) (t : Token) (r : Request) :
    ∃ host threads, (s.spawn t r).1 = { s with host, threads } ∧ host.owned = s.host.owned := by
  unfold spawn
  cases s.host.call t r with
  | error e => exact ⟨s.host, _, rfl, rfl⟩
  | ok c =>
    obtain ⟨host, he, ho⟩ := s.enter_eq c
    exact ⟨host, _, by dsimp only; rw [he], ho⟩

theorem resume_eq (s : Session κ δ) :
    ∃ host threads, s.resume = letGo { s with host, threads } := by
  refine Exists.imp (fun host => Exists.imp fun threads he => congrArg letGo he) ?_
  refine List.foldlRecOn (motive := fun k : Session κ δ => ∃ host threads,
    k = { s with host, threads }) _ _
    ⟨s.host, s.threads, rfl⟩ ?_
  rintro k ⟨host, threads, rfl⟩ i -
  dsimp only
  split
  · rename_i c _
    obtain ⟨host', he, -⟩ := enter_eq { s with host, threads } c
    exact ⟨host', _, by rw [he]⟩
  · exact ⟨host, threads, rfl⟩

end Session

namespace Crew

variable {κ δ : Type} [Controller κ δ] {m m' : Crew} {s s' : Session κ δ} {i r : Nat}
  {reactions : Reactions}

theorem Shows.letGo (hm : m.Shows s) (hs : Sane m) (ha : s.alive = true) (host : Host κ δ)
    (threads : List Thread) :
    ∃ rest m', Run m rest m' ∧ m'.Shows (Session.letGo { s with host, threads }) := by
  obtain ⟨rest, m', hr, hl⟩ := Run.left_outside hs hm.rests (hm.alive.1 ha)
    (Session.refs { s with host, threads })
  exact ⟨rest, m', hr, hl.shows hm ha rfl rfl rfl rfl⟩

theorem Shows.leave (hm : m.Shows s) (hs : Sane m) :
    ∃ rest m', Run m rest m' ∧ m'.Shows s.dropHost := by
  cases ha : s.alive with
  | true => exact hm.letGo hs ha { s.host with owned := false } s.threads
  | false =>
    have hz : s.refs = 0 := by
      rw [← hm.refs]
      simpa [ha] using hm.alive
    have hgo : s.dropHost = { s with host := { s.host with owned := false } } := by
      refine if_neg fun h => ?_
      rw [ha] at h
      cases h.1
    rw [hgo]
    refine ⟨[], m, .refl m, hm.rests, hm.interval, ?_, hm.alive, hm.pump, hm.others⟩
    rw [hm.refs, hz]
    exact ((Nat.add_eq_zero_iff.1 hz).2.symm.trans (Nat.zero_add _).symm)

theorem Shows.spawn (hm : m.Shows s) (hs : Sane m) (t : Token) (r : Request)
    (ho : s.host.owned = true) : ∃ rest m', Run m rest m' ∧ m'.Shows (s.spawn t r).1 := by
  have hpos := hm.alive_of_owned ho
  have ha := hm.alive.2 hpos
  obtain ⟨host, threads, he, howned⟩ := s.spawn_eq t r
  obtain ⟨rest, m', hr, hm'⟩ := hm.letGo hs ha host threads
  have hstay : Session.letGo { s with host, threads } = { s with host, threads } := by
    refine if_neg fun h => ?_
    rw [howned, ho] at h
    cases h.2.1
  rw [he]
  exact ⟨rest, m', hr, hstay ▸ hm'⟩

theorem Shows.passed {p : Pump} {pass : Pass} (hm : m.Shows s) (hs : Sane m)
    (ha : s.alive = true) (hp : m.pump? i = some p) (hrun : p.Running) (hc : pass ≠ .crashed)
    (host : Host κ δ) :
    ∃ rest m', Run m rest m' ∧ m'.Shows (Session.letGo { s with host }) := by
  obtain ⟨rest, m', hr, hl⟩ := Run.left_pass hs hm.rests (hm.alive.1 ha) hp hrun hc
    (Session.refs { s with host })
  exact ⟨rest, m', hr, hl.shows hm ha rfl rfl rfl rfl⟩

theorem Shows.pass (hm : m.Shows s) (hs : Sane m)
    (hc : ∀ timeout, (s.host.processEvents reactions timeout).2 ≠ .crashed)
    (hp : s.pumpOnce reactions = some s') : ∃ rest m', Run m rest m' ∧ m'.Shows s' := by
  unfold Session.pumpOnce at hp
  split at hp
  · cases hp
  · rename_i hready
    have ha : s.alive = true := by
      cases h : s.alive with
      | true => rfl
      | false => exact absurd (.inl h) hready
    split at hp
    · rename_i p hfilter
      obtain rfl := Option.some.inj hp
      obtain ⟨hpump, hrun⟩ := Option.filter_eq_some_iff.1 hfilter
      obtain ⟨i, -, hi⟩ := Option.bind_eq_some_iff.1 (hm.pump.trans hpump)
      rw [Session.passOf_eq _ (hc _), ← hpump]
      exact hm.passed hs ha hi (of_decide_eq_true hrun) (hc (some p.interval)) _
    · obtain ⟨i, hfind, hp⟩ := Option.bind_eq_some_iff.1 hp
      obtain ⟨p, hother, rfl⟩ := Option.map_eq_some_iff.1 hp
      obtain ⟨hlt, hany, -⟩ := List.findIdx?_eq_some_iff_getElem.1 hfind
      have hi : s.others[i]? = some (some p) := Option.join_eq_some_iff.1 hother
      have hget : s.others[i] = some p :=
        Option.some.inj ((List.getElem?_eq_getElem hlt).symm.trans hi)
      have hrun : p.Running := by simpa [hget] using hany
      obtain ⟨j, h, hh, -, -, rfl, -⟩ := exists_held (g := id) (hm.others ▸ hi) fun _ => rfl
      have hsame : s.others.modify i (·.map fun _ => h.pump) = s.others := by
        rw [List.modify_eq_set_getElem?, hi]
        exact set_of_getElem? hi
      rw [Session.passOf_eq _ (hc _), Session.updatePump]
      dsimp only
      rw [hsame]
      exact hm.passed hs ha (pump?_eq hh) hrun (hc (some h.pump.interval)) _

theorem Shows.act (hm : m.Shows s) (hs : Sane m) (h : s.Act s') :
    ∃ rest m', Run m rest m' ∧ m'.Shows s' := by
  cases h with
  | start ho => exact hm.start hs ho
  | stop ho => exact hm.stop hs ho
  | launch interval => exact hm.launch hs interval
  | shutdown i => exact hm.shutdown hs i
  | drop i => exact hm.drop hs i
  | leave => exact hm.leave hs
  | events reactions timeout ho =>
    exact hm.letGo hs (hm.alive.2 (hm.alive_of_owned ho)) _ s.threads
  | pass reactions hc hp => exact hm.pass hs hc hp
  | spawn t r ho => exact hm.spawn hs t r ho
  | resume ha =>
    obtain ⟨host, threads, he⟩ := s.resume_eq
    rw [he]
    exact hm.letGo hs ha host threads

theorem Shows.acts (hm : m.Shows s) (hs : Sane m ∧ Housed m)
    (h : Relation.ReflTransGen Session.Act s s') : ∃ rest m', Run m rest m' ∧ m'.Shows s' := by
  induction h with
  | refl => exact ⟨[], m, .refl m, hm⟩
  | tail _ hact ih =>
    obtain ⟨rest, k, hr, hk⟩ := ih
    obtain ⟨more, m', hmore, hm'⟩ := hk.act (hr.sane_of_sane hs).1 hact
    exact ⟨rest ++ more, m', hr.append hmore, hm'⟩

omit [Controller κ δ] in
theorem shows_fresh (host : Host κ δ) (ho : host.owned = true) (interval : Nat) :
    ({ interval } : Crew).Shows ({ host, interval } : Session κ δ) := by
  refine ⟨⟨rfl, nofun, rfl⟩, rfl, ?_, by simp, rfl, rfl⟩
  simp [Session.refs, Session.blocked, ho]

end Crew

end UsbTransfer
