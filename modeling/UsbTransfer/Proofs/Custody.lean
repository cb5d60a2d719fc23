import UsbTransfer.Native.Link
import UsbTransfer.Proofs.Settlement
import Mathlib.Data.List.Nodup
import Mathlib.Data.List.Perm.Basic

namespace UsbTransfer

namespace Bus

structure Aside (b b' : Bus) : Prop where
  pending : b'.pending = b.pending
  done : b'.done = b.done
  lost : b'.lost = b.lost
  allocated : b'.allocated = b.allocated
  released : b'.released = b.released

variable {b b' b'' : Bus}

theorem Aside.refl (b : Bus) : Aside b b := ⟨rfl, rfl, rfl, rfl, rfl⟩

theorem Aside.trans (h : Aside b b') (h' : Aside b' b'') : Aside b b'' :=
  ⟨h'.pending.trans h.pending, h'.done.trans h.done, h'.lost.trans h.lost,
    h'.allocated.trans h.allocated, h'.released.trans h.released⟩

theorem Aside.outstanding (h : Aside b b') : b'.outstanding = b.outstanding := by
  rw [Bus.outstanding, Bus.outstanding, h.pending, h.done, h.lost]

theorem mem_outstanding {n : NativeTransfer} :
    n ∈ b.outstanding ↔ n ∈ b.pending ∨ n ∈ b.done ∨ n ∈ b.lost := by
  simp [outstanding]

theorem aside_take (b : Bus) (c : NativeCall) : Aside b (b.take c).1 := ⟨rfl, rfl, rfl, rfl, rfl⟩

theorem aside_call (b : Bus) (c : NativeCall) (e : NativeEntry) : Aside b (b.call c e).1 :=
  ⟨rfl, rfl, rfl, rfl, rfl⟩

theorem aside_code (b : Bus) (c : NativeCall) (e : NativeEntry) : Aside b (b.code c e).1 :=
  aside_call b c e

theorem submit_cases (b : Bus) (x : NativeTransfer) (m : Buffers) :
    ∃ bus code, Aside b bus ∧
      bus.log = b.log ++ [.submitted x (x.owner.leading m x.length.toNat)] ∧ b.submit x m =
        (if 0 ≤ code then { bus with pending := bus.pending ++ [x] } else bus, code) :=
  ⟨_, _, aside_code b .submitTransfer (.submitted x (x.owner.leading m x.length.toNat)), rfl, rfl⟩

end Bus

namespace NativeTransfer

def holding (x : NativeTransfer) : Nat × Transfer := (x.raw, x.owner.frame)

theorem holding_finish (x : NativeTransfer) (m : Buffers) (r : NativeReport) :
    (x.finish m r).1.holding = x.holding := by
  have hf := Transfer.frame_rewrite x.owner m
    (·.patch (r.start.getD x.dataStart) (r.data.take (x.length.toNat - r.start.getD x.dataStart)))
  exact congrArg (Prod.mk x.raw) hf

theorem map_cleared_reported (rs : List (UInt32 × TransferStatus)) (ps : List IsoPacket) :
    (IsoPacket.report rs ps).map IsoPacket.cleared = ps.map IsoPacket.cleared := by
  induction rs generalizing ps with
  | nil => cases ps <;> rfl
  | cons r rs ih =>
    cases ps with
    | nil => rfl
    | cons p ps =>
      simp only [IsoPacket.report, List.map_cons, ih]
      rfl

theorem frame_completed (x : NativeTransfer) : x.completed.frame = x.owner.frame := by
  unfold completed Transfer.record Transfer.mapPackets Transfer.frame
  cases x.owner.shape <;> simp [Shape.mapPackets, map_cleared_reported]

end NativeTransfer

inductive Crossing where
  | submitted (raw : Nat) (x : Transfer)
  | refused (x back : Transfer) (error : UsbError)
  | completed (raw : Nat) (x : Transfer)
  | aside

def entered (es : List Crossing) : List (Nat × Transfer) :=
  es.filterMap fun
    | .submitted raw x => some (raw, x.frame)
    | _ => none

def reclaimed (es : List Crossing) : List (Nat × Transfer) :=
  es.filterMap fun
    | .completed raw x => some (raw, x)
    | _ => none

namespace Link

/-- One step of a controller and its library. A callback runs for finished transfers only, and once
for each; between two of them anything may be submitted. -/
inductive Cross : Link → Crossing → Link → Prop
  | submit {l l' : Link} {d : Nat} {x : Transfer} {m m' : Buffers}
      (hs : l.submit d x m = (l', m', none)) : Cross l (.submitted l.bus.allocated x) l'
  | refuse {l l' : Link} {d : Nat} {x y : Transfer} {m m' : Buffers} {e : UsbError}
      (hs : l.submit d x m = (l', m', some (e, y))) : Cross l (.refused x y e) l'
  | finish {l : Link} {bus : Bus} {m m' : Buffers} {i : Nat} {r : NativeReport}
      (hf : l.bus.finish m i r = some (bus, m')) : Cross l .aside { l with bus }
  | complete {l : Link} {x : NativeTransfer} {rest : List NativeTransfer} {bus : Bus} {y : Transfer}
      (hd : l.bus.done = x :: rest)
      (hc : Bus.complete { l.bus with done := rest } (some x) = (bus, some y)) :
      Cross l (.completed x.raw y) { l with bus }
  | lose {l : Link} {x : NativeTransfer} {rest : List NativeTransfer} {bus : Bus}
      (hd : l.bus.done = x :: rest)
      (hc : Bus.complete { l.bus with done := rest } (some x) = (bus, none)) :
      Cross l .aside { l with bus := { bus with lost := bus.lost ++ [x] } }
  | aside {l l' : Link} (ha : Bus.Aside l.bus l'.bus) : Cross l .aside l'

inductive Crossings : Link → List Crossing → Link → Prop
  | refl (l : Link) : Crossings l [] l
  | snoc {l₁ l₂ l₃ : Link} {es : List Crossing} {e : Crossing} :
      Crossings l₁ es l₂ → Cross l₂ e l₃ → Crossings l₁ (es ++ [e]) l₃

variable {l l' l₁ l₂ l₃ : Link} {es later : List Crossing} {e : Crossing} {d : Nat} {x y : Transfer}
  {m m' : Buffers} {u : UsbError}

theorem Crossings.single (hc : Cross l e l') : Crossings l [e] l' := (Crossings.refl l).snoc hc

theorem Crossings.trans (h : Crossings l₁ es l₂) (h' : Crossings l₂ later l₃) :
    Crossings l₁ (es ++ later) l₃ := by
  induction h' with
  | refl => simpa using h
  | snoc _ hc ih =>
    rw [← List.append_assoc]
    exact ih.snoc hc

theorem submit_cases (l : Link) (d : Nat) (x : Transfer) (m : Buffers) :
    (∃ bus u, Bus.Aside l.bus bus ∧ l.submit d x m = ({ l with bus }, m, some (u, x))) ∨
      ∃ bus, Bus.Aside { l.bus with allocated := l.bus.allocated + 1 } bus ∧
        bus.log = l.bus.log ++ [.submitted (l.native l.bus.allocated d x m)
          (x.leading m (l.native l.bus.allocated d x m).length.toNat)] ∧
        ((∃ u, l.submit d x m = ({ l with bus := bus.free l.bus.allocated }, m, some (u, x))) ∨
          l.submit d x m =
            ({ l with
              bus := { bus with pending := bus.pending ++ [l.native l.bus.allocated d x m] } },
              m, none)) := by
  unfold submit
  split
  · exact .inl ⟨l.bus, _, .refl _, rfl⟩
  · unfold Bus.allocate
    split
    · rename_i hb
      split at hb
      · cases hb
        exact .inl ⟨_, _, Bus.aside_call _ _ _, rfl⟩
      · cases hb
    · rename_i hb
      split at hb
      · cases hb
      · cases hb
        right
        obtain ⟨bus, code, ha, hlog, hs⟩ := Bus.submit_cases
          { l.bus with allocated := l.bus.allocated + 1 } (l.native l.bus.allocated d x m) m
        refine ⟨bus, ha, hlog, ?_⟩
        rw [hs]
        by_cases hc : code < 0
        · exact .inl ⟨.ofCode code, by simp only [if_pos hc, if_neg (Int.not_le.2 hc)]⟩
        · exact .inr (by simp only [if_neg hc, if_pos (Int.not_lt.1 hc)])

theorem submit_refused (hs : l.submit d x m = (l', m', some (u, y))) :
    y = x ∧ l'.bus.outstanding = l.bus.outstanding ∧
      ((l'.bus.allocated = l.bus.allocated ∧ l'.bus.released = l.bus.released) ∨
        (l'.bus.allocated = l.bus.allocated + 1 ∧
          l'.bus.released = l.bus.released ++ [l.bus.allocated])) := by
  rcases l.submit_cases d x m with ⟨bus, u, ha, hx⟩ | ⟨bus, ha, -, ⟨u, hx⟩ | hx⟩ <;>
    rw [hs] at hx <;> cases hx
  · exact ⟨rfl, ha.outstanding, .inl ⟨ha.allocated, ha.released⟩⟩
  · exact ⟨rfl, ha.outstanding, .inr ⟨ha.allocated, congrArg (· ++ [_]) ha.released⟩⟩

theorem submit_accepted (hs : l.submit d x m = (l', m', none)) :
    ∃ n : NativeTransfer, n.holding = (l.bus.allocated, x.frame) ∧ n.actual = 0 ∧
      l'.bus.pending = l.bus.pending ++ [n] ∧ l'.bus.done = l.bus.done ∧
      l'.bus.lost = l.bus.lost ∧ l'.bus.allocated = l.bus.allocated + 1 ∧
      l'.bus.released = l.bus.released := by
  rcases l.submit_cases d x m with ⟨bus, u, ha, hx⟩ | ⟨bus, ha, -, ⟨u, hx⟩ | hx⟩ <;>
    rw [hs] at hx <;> cases hx
  exact ⟨_, rfl, rfl, congrArg (· ++ [_]) ha.pending, ha.done, ha.lost, ha.allocated, ha.released⟩

def holdings (l : Link) : List (Nat × Transfer) := l.bus.outstanding.map (·.holding)

theorem holdings_eq (l : Link) : l.holdings = l.bus.pending.map (·.holding) ++
    l.bus.done.map (·.holding) ++ l.bus.lost.map (·.holding) := by
  simp [holdings, Bus.outstanding]

inductive Shifted (l l' : Link) : Crossing → Prop
  | entered (x : Transfer) (hh : l'.holdings.Perm ((l.bus.allocated, x.frame) :: l.holdings))
      (ha : l'.bus.allocated = l.bus.allocated + 1) (hr : l'.bus.released = l.bus.released) :
      Shifted l l' (.submitted l.bus.allocated x)
  | turnedAway (x : Transfer) (u : UsbError) (hh : l'.holdings = l.holdings)
      (hr : (l'.bus.allocated = l.bus.allocated ∧ l'.bus.released = l.bus.released) ∨
        (l'.bus.allocated = l.bus.allocated + 1 ∧
          l'.bus.released = l.bus.released ++ [l.bus.allocated])) : Shifted l l' (.refused x x u)
  | reclaimed (raw : Nat) (y : Transfer) (hh : l.holdings.Perm ((raw, y.frame) :: l'.holdings))
      (ha : l'.bus.allocated = l.bus.allocated) (hr : l'.bus.released = l.bus.released ++ [raw]) :
      Shifted l l' (.completed raw y)
  | kept (hh : l'.holdings.Perm l.holdings) (ha : l'.bus.allocated = l.bus.allocated)
      (hr : l'.bus.released = l.bus.released) : Shifted l l' .aside

theorem finish_eq_some {b bus : Bus} {i : Nat} {r : NativeReport}
    (hf : b.finish m i r = some (bus, m')) :
    ∃ x, b.pending[i]? = some x ∧ bus =
      { b with pending := b.pending.eraseIdx i, done := b.done ++ [(x.finish m r).1] } := by
  obtain ⟨x, hx, he⟩ := Option.bind_eq_some_iff.1 hf
  exact ⟨x, hx, (congrArg Prod.fst (Option.some.inj he)).symm⟩

theorem complete_eq_some {b bus : Bus} {n : NativeTransfer}
    (hc : b.complete (some n) = (bus, some y)) :
    n.orphan = false ∧ bus = b.free n.raw ∧ y = n.completed := by
  cases ho : n.orphan <;> simp only [Bus.complete, ho] at hc
  · obtain ⟨rfl, hy⟩ := Prod.mk.inj hc
    exact ⟨rfl, rfl, (Option.some.inj hy).symm⟩
  · cases hc

theorem complete_eq_none {b bus : Bus} {n : NativeTransfer}
    (hc : b.complete (some n) = (bus, none)) : n.orphan = true ∧ bus = b := by
  cases ho : n.orphan <;> simp only [Bus.complete, ho] at hc
  · cases hc
  · exact ⟨rfl, (congrArg Prod.fst hc).symm⟩

theorem shifted_of_cross (hc : Cross l e l') : Shifted l l' e := by
  cases hc with
  | submit hs =>
    obtain ⟨n, hn, -, hp, hd, hl, ha, hr⟩ := submit_accepted hs
    refine .entered _ ?_ ha hr
    rw [holdings_eq, holdings_eq, hp, hd, hl, List.map_append, List.map_singleton, hn]
    simp only [List.append_assoc, List.singleton_append]
    exact List.perm_middle
  | refuse hs =>
    obtain ⟨rfl, ho, hr⟩ := submit_refused hs
    exact .turnedAway _ _ (congrArg (List.map _) ho) hr
  | finish hf =>
    obtain ⟨n, hn, rfl⟩ := finish_eq_some hf
    refine .kept ?_ rfl rfl
    obtain ⟨hi, rfl⟩ := List.getElem?_eq_some_iff.1 hn
    have hp := (List.getElem_cons_eraseIdx_perm hi).map (·.holding)
    rw [holdings_eq, holdings_eq, List.map_append, List.map_singleton,
      NativeTransfer.holding_finish, ← List.append_assoc]
    exact ((List.perm_append_singleton _ _).trans (hp.append_right _)).append_right _
  | complete hd hc =>
    obtain ⟨-, rfl, rfl⟩ := complete_eq_some hc
    refine .reclaimed _ _ ?_ rfl rfl
    rw [holdings_eq, holdings_eq, hd, NativeTransfer.frame_completed]
    simp only [List.map_cons, List.append_assoc, List.cons_append]
    exact List.perm_middle
  | lose hd hc =>
    obtain ⟨-, rfl⟩ := complete_eq_none hc
    refine .kept ?_ rfl rfl
    rw [holdings_eq, holdings_eq, hd]
    simp only [List.map_append, List.map_cons, List.map_nil, List.append_assoc, List.cons_append]
    refine List.Perm.append_left _ ?_
    rw [← List.append_assoc]
    exact List.perm_append_singleton _ _
  | aside ha => exact .kept (by rw [holdings, holdings, ha.outstanding]) ha.allocated ha.released

theorem perm_taken_in {α : Type} {a : α} {held held' out all : List α}
    (hh : held'.Perm (a :: held)) (hb : (held ++ out).Perm all) :
    (held' ++ out).Perm (all ++ [a]) :=
  calc
    (held' ++ out).Perm (a :: (held ++ out)) := hh.append_right out
    List.Perm _ (held ++ out ++ [a]) := (List.perm_append_singleton a _).symm
    List.Perm _ (all ++ [a]) := hb.append_right [a]

theorem perm_taken_out {α : Type} {a : α} {held held' out all : List α}
    (hh : held.Perm (a :: held')) (hb : (held ++ out).Perm all) :
    (held' ++ (out ++ [a])).Perm all := by
  rw [← List.append_assoc]
  calc
    (held' ++ out ++ [a]).Perm (a :: (held' ++ out)) := List.perm_append_singleton a _
    List.Perm _ (held ++ out) := (hh.append_right out).symm
    List.Perm _ all := hb

/-- Every allocation is held or freed, once, and every descriptor that was taken in is held by one
allocation or was taken out of it once. -/
structure Balanced (es : List Crossing) (l : Link) : Prop where
  raws : (l.holdings.map (·.1) ++ l.bus.released).Perm (List.range l.bus.allocated)
  owners : (l.holdings ++ (reclaimed es).map fun p => (p.1, p.2.frame)).Perm (entered es)

theorem raws_step
    (hraws : (l.holdings.map (·.1) ++ l.bus.released).Perm (List.range l.bus.allocated))
    (hs : Shifted l l' e) :
    (l'.holdings.map (·.1) ++ l'.bus.released).Perm (List.range l'.bus.allocated) := by
  cases hs with
  | entered x hh ha hr =>
    rw [hr, ha, List.range_succ]
    exact perm_taken_in (hh.map _) hraws
  | turnedAway x u hh hr =>
    rw [hh]
    rcases hr with ⟨ha, hr⟩ | ⟨ha, hr⟩
    · rw [ha, hr]
      exact hraws
    · rw [ha, hr, List.range_succ, ← List.append_assoc]
      exact hraws.append_right _
  | reclaimed raw y hh ha hr =>
    rw [ha, hr]
    exact perm_taken_out (hh.map _) hraws
  | kept hh ha hr =>
    rw [ha, hr]
    exact ((hh.map _).append_right _).trans hraws

theorem owners_step {first : List (Nat × Transfer)}
    (howners : (l.holdings ++ (reclaimed es).map fun p => (p.1, p.2.frame)).Perm
      (first ++ entered es)) (hs : Shifted l l' e) :
    (l'.holdings ++ (reclaimed (es ++ [e])).map fun p => (p.1, p.2.frame)).Perm
      (first ++ entered (es ++ [e])) := by
  cases hs with
  | entered x hh ha hr => simpa [reclaimed, entered] using perm_taken_in hh howners
  | turnedAway x u hh hr => simpa [reclaimed, entered, hh] using howners
  | reclaimed raw y hh ha hr => simpa [reclaimed, entered] using perm_taken_out hh howners
  | kept hh ha hr => simpa [reclaimed, entered] using (hh.append_right _).trans howners

theorem owners_of_crossings (hc : Crossings l es l') :
    (l'.holdings ++ (reclaimed es).map fun p => (p.1, p.2.frame)).Perm
      (l.holdings ++ entered es) := by
  induction hc with
  | refl => exact .refl _
  | snoc _ hs ih => exact owners_step ih (shifted_of_cross hs)

structure Numbered (es : List Crossing) (l : Link) : Prop where
  nodup : ((entered es).map (·.1)).Nodup
  drawn : ∀ p ∈ entered es, p.1 < l.bus.allocated

theorem entered_append (es later : List Crossing) :
    entered (es ++ later) = entered es ++ entered later := List.filterMap_append

theorem reclaimed_append (es later : List Crossing) :
    reclaimed (es ++ later) = reclaimed es ++ reclaimed later := List.filterMap_append

theorem Numbered.keep (hn : Numbered es l) (he : entered [e] = [])
    (ha : l.bus.allocated ≤ l'.bus.allocated) : Numbered (es ++ [e]) l' := by
  constructor <;> rw [entered_append, he, List.append_nil]
  · exact hn.nodup
  · exact fun p hp => Nat.lt_of_lt_of_le (hn.drawn p hp) ha

theorem Numbered.step (hn : Numbered es l) (hs : Shifted l l' e) : Numbered (es ++ [e]) l' := by
  cases hs with
  | entered x hh ha hr =>
    have he : entered [.submitted l.bus.allocated x] = [(l.bus.allocated, x.frame)] := rfl
    constructor
    · rw [entered_append, he, List.map_append, List.map_singleton]
      refine List.nodup_append.2 ⟨hn.nodup, List.nodup_singleton _, ?_⟩
      intro a ha b hb
      obtain ⟨p, hp, rfl⟩ := List.mem_map.1 ha
      rw [List.mem_singleton.1 hb]
      exact Nat.ne_of_lt (hn.drawn p hp)
    · intro p hp
      rw [entered_append, he, List.mem_append, List.mem_singleton] at hp
      rw [ha]
      rcases hp with hp | rfl
      · exact Nat.lt_succ_of_lt (hn.drawn p hp)
      · exact Nat.lt_succ_self _
  | turnedAway x u hh hr =>
    refine hn.keep rfl ?_
    rcases hr with ⟨ha, -⟩ | ⟨ha, -⟩ <;> omega
  | reclaimed raw y hh ha hr => exact hn.keep rfl (Nat.le_of_eq ha.symm)
  | kept hh ha hr => exact hn.keep rfl (Nat.le_of_eq ha.symm)

def Untouched (l : Link) : Prop :=
  l.bus.outstanding = [] ∧ l.bus.allocated = 0 ∧ l.bus.released = []

theorem balanced_of_crossings (hu : l.Untouched) (hc : Crossings l es l') :
    Balanced es l' ∧ Numbered es l' := by
  obtain ⟨ho, ha, hr⟩ := hu
  have hnone : l.holdings = [] := by simp [holdings, ho]
  have howners := owners_of_crossings hc
  rw [hnone, List.nil_append] at howners
  suffices h : (l'.holdings.map (·.1) ++ l'.bus.released).Perm (List.range l'.bus.allocated) ∧
      Numbered es l' from ⟨⟨h.1, howners⟩, h.2⟩
  clear howners
  induction hc with
  | refl => exact ⟨by simp [hnone, ha, hr], .nil, fun p hp => by cases hp⟩
  | snoc _ hs ih =>
    have hshift := shifted_of_cross hs
    obtain ⟨hraws, hn⟩ := ih
    exact ⟨raws_step hraws hshift, hn.step hshift⟩

theorem released_of_reclaimed (hb : Balanced es l) (hn : Numbered es l) {p : Nat × Transfer}
    (hp : p ∈ reclaimed es) : p.1 ∈ l.bus.released := by
  have hraws := hb.owners.map (·.1)
  rw [List.map_append, List.map_map] at hraws
  have hin : p.1 ∈ (reclaimed es).map (Prod.fst ∘ fun p => (p.1, p.2.frame)) :=
    List.mem_map_of_mem hp
  have hentered := hraws.subset (List.mem_append_right _ hin)
  obtain ⟨q, hq, hqp⟩ := List.mem_map.1 hentered
  have hlt : p.1 < l.bus.allocated := hqp ▸ hn.drawn q hq
  rcases List.mem_append.1 (hb.raws.symm.subset (List.mem_range.2 hlt)) with hheld | hfreed
  · -- it took in one descriptor, which would be held and taken out
    exact absurd rfl ((List.nodup_append.1 (hraws.nodup_iff.2 hn.nodup)).2.2 _ hheld _ hin)
  · exact hfreed

/-- Counts of bytes are integers of 32 bits. -/
def Tame (l : Link) : Prop := ∀ n ∈ l.bus.outstanding, n.actual < UInt32.size

theorem actual_finish_lt (n : NativeTransfer) (m : Buffers) (r : NativeReport) :
    (n.finish m r).1.actual < UInt32.size := by
  have hlt : Int.bmod (r.actual.getD (n.length - n.dataStart)) UInt32.size <
      ((UInt32.size : Int) + 1) / 2 := Int.bmod_lt (by decide)
  have hsize : UInt32.size = 2 ^ 32 := rfl
  change Int.bmod (r.actual.getD (n.length - n.dataStart)) UInt32.size < _
  omega

theorem Tame.cross (ht : l.Tame) (hc : Cross l e l') : l'.Tame := by
  have hold : ∀ n, n ∈ l.bus.pending ∨ n ∈ l.bus.done ∨ n ∈ l.bus.lost → n.actual < UInt32.size :=
    fun n hn => ht n (Bus.mem_outstanding.2 hn)
  intro k hk
  rw [Bus.mem_outstanding] at hk
  cases hc with
  | submit hs =>
    obtain ⟨n, -, hn, hp, hd, hl, -⟩ := submit_accepted hs
    rw [hp, hd, hl, List.mem_append, List.mem_singleton] at hk
    rcases hk with (hk | rfl) | hk
    · exact hold k (.inl hk)
    · rw [hn]
      decide
    · exact hold k (.inr hk)
  | refuse hs =>
    rw [← Bus.mem_outstanding, (submit_refused hs).2.1] at hk
    exact ht k hk
  | finish hf =>
    obtain ⟨n, -, rfl⟩ := finish_eq_some hf
    rw [List.mem_append, List.mem_singleton] at hk
    rcases hk with hk | (hk | rfl) | hk
    · exact hold k (.inl (List.mem_of_mem_eraseIdx hk))
    · exact hold k (.inr (.inl hk))
    · exact actual_finish_lt _ _ _
    · exact hold k (.inr (.inr hk))
  | complete hd hc =>
    obtain ⟨-, rfl, -⟩ := complete_eq_some hc
    rw [hd] at hold
    rcases hk with hk | hk | hk
    · exact hold k (.inl hk)
    · exact hold k (.inr (.inl (List.mem_cons_of_mem _ hk)))
    · exact hold k (.inr (.inr hk))
  | lose hd hc =>
    obtain ⟨-, rfl⟩ := complete_eq_none hc
    rw [hd] at hold
    rw [List.mem_append, List.mem_singleton] at hk
    rcases hk with hk | hk | hk | rfl
    · exact hold k (.inl hk)
    · exact hold k (.inr (.inl (List.mem_cons_of_mem _ hk)))
    · exact hold k (.inr (.inr hk))
    · exact hold _ (.inr (.inl List.mem_cons_self))
  | aside ha =>
    rw [← Bus.mem_outstanding, ha.outstanding] at hk
    exact ht k hk

theorem Tame.crossings (hc : Crossings l es l') (ht : l.Tame) : l'.Tame := by
  induction hc with
  | refl => exact ht
  | snoc _ hs ih => exact ih.cross hs

theorem Untouched.tame (hu : l.Untouched) : l.Tame := by
  intro n hn
  rw [hu.1] at hn
  cases hn

theorem refused_unchanged (hc : Crossings l es l') (he : .refused x y u ∈ es) : y = x := by
  induction hc with
  | refl => cases he
  | snoc _ hs ih =>
    rcases List.mem_append.1 he with he | he
    · exact ih he
    · obtain rfl := List.mem_singleton.1 he
      cases shifted_of_cross hs
      rfl

end Link

end UsbTransfer
