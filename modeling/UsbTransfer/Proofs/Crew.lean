import UsbTransfer.Session

namespace UsbTransfer

inductive Spot where
  /-- About to look whether it was told to stop. -/
  | top
  /-- It was not; about to ask for the host. -/
  | asking
  | passing
  /-- The pass is over, and the host is still held. -/
  | passed (pass : Pass)
  /-- Waits after a failure. -/
  | resting
  deriving DecidableEq, Repr

namespace Spot

def holds : Spot → Bool
  | passing | passed _ => true
  | top | asking | resting => false

def after : Pass → Spot
  | .failed e => if e = .interrupted then top else resting
  | .done | .crashed => top

@[simp] theorem holds_after (pass : Pass) : (after pass).holds = false := by
  cases pass with
  | failed e => by_cases he : e = .interrupted <;> simp [after, he, holds]
  | done | crashed => rfl

end Spot

structure PumpHandle where
  pump : Pump
  own : Bool
  held : Bool
  deriving DecidableEq, Repr

/-- Who makes a call: some thread, or that of a pump from inside a callback. -/
inductive Agent where
  | outside (n : Nat)
  | pump (i : Nat)
  deriving DecidableEq, Repr

/-- A handle that is being dropped: the pump is told first, then its thread is waited for. -/
structure Drop where
  agent : Agent
  pump : Nat
  told : Bool := false
  deriving DecidableEq, Repr

/-- A host that threads share, with the pumps that were ever started for it. -/
structure Crew where
  interval : Nat := 100
  /-- References to the host other than those of the pumps. -/
  refs : Nat := 1
  slot : Option Nat := none
  pumps : List PumpHandle := []
  spots : List Spot := []
  drops : List Drop := []
  deriving DecidableEq, Repr

inductive Beat where
  | looked (i : Nat)
  | began (i : Nat)
  | passed (i : Nat) (pass : Pass)
  | released (i : Nat)
  | woke (i : Nat)
  | finished (i : Nat)
  | kept (agent : Agent)
  | started (agent : Agent) (i : Nat)
  | stopping (agent : Agent) (slot : Option Nat)
  | told (i : Nat)
  | detached (i : Nat)
  | joined (agent : Agent) (i : Nat)
  | shared (agent : Agent)
  | left (agent : Agent)
  | launched (agent : Agent) (i : Nat)
  | dropping (agent : Agent) (i : Nat)
  deriving DecidableEq, Repr

namespace Crew

section Operations

variable (m : Crew)

def holders : Nat := m.refs + m.spots.countP Spot.holds

def pump? (i : Nat) : Option Pump := m.pumps[i]?.map (·.pump)

def slotPump : Option Pump := m.slot.bind m.pump?

def Free (a : Agent) : Prop := ∀ d ∈ m.drops, d.agent ≠ a

instance (a : Agent) : Decidable (m.Free a) :=
  inferInstanceAs (Decidable (∀ d ∈ m.drops, d.agent ≠ a))

def Calls : Agent → Prop
  | .outside n => m.Free (.outside n)
  | .pump i => m.spots[i]? = some .passing ∧ m.Free (.pump i)

instance : (a : Agent) → Decidable (m.Calls a)
  | .outside _ => inferInstanceAs (Decidable (m.Free _))
  | .pump _ => inferInstanceAs (Decidable (_ ∧ _))

structure Goes (i : Nat) (s : Spot) (p : Pump) : Prop where
  spot : m.spots[i]? = some s
  pump : m.pump? i = some p
  going : p.ended = false
  free : m.Free (.pump i)

def stand (i : Nat) (s : Spot) : Crew := { m with spots := m.spots.set i s }

def setPump (i : Nat) (f : Pump → Pump) : Crew :=
  { m with pumps := m.pumps.modify i fun h => { h with pump := f h.pump } }

def finish (i : Nat) : Crew := m.setPump i .hostGone

/-- The host lets go of its pump; the agent drops the handle. -/
def stop (a : Agent) : Crew :=
  { m with slot := none, drops := m.drops ++ (m.slot.map fun i => ⟨a, i, false⟩).toList }

/-- The host goes with the last reference, and lets go of its pump then. -/
def letGo (a : Agent) : Crew := if m.holders = 0 then m.stop a else m

def enlist (h : PumpHandle) : Crew := { m with pumps := m.pumps ++ [h], spots := m.spots ++ [.top] }

def hire (p : Pump) : Crew :=
  { m.enlist { pump := p, own := true, held := false } with slot := some m.pumps.length }

/-- A pump that runs is kept; a new one takes the place of any other. -/
def start (a : Agent) : Crew :=
  if m.slotPump.any (·.Running) then m else (m.stop a).hire (.start m.interval m.slotPump)

def mark (i : Nat) : Crew :=
  { m with drops := m.drops.map fun d => if d.pump = i then { d with told := true } else d }

def tell (i : Nat) : Crew := (m.setPump i .stop).mark i

def settle (i : Nat) : Crew := { m with drops := m.drops.filter fun d => d.pump ≠ i }

def drop (a : Agent) (i : Nat) : Crew :=
  { m with
    pumps := m.pumps.modify i fun h => { h with held := false }
    drops := m.drops ++ [⟨a, i, false⟩] }

end Operations

/-- One step of one thread. Calls that go through the host need it alive. -/
inductive Step : Crew → Beat → Crew → Prop
  | look {m : Crew} {i : Nat} {p : Pump} (hg : m.Goes i .top p) (hf : p.stopped = false) :
      Step m (.looked i) (m.stand i .asking)
  | see {m : Crew} {i : Nat} {p : Pump} (hg : m.Goes i .top p) (hf : p.stopped = true) :
      Step m (.finished i) (m.finish i)
  | begin {m : Crew} {i : Nat} {p : Pump} (hg : m.Goes i .asking p) (hh : 0 < m.holders) :
      Step m (.began i) (m.stand i .passing)
  | miss {m : Crew} {i : Nat} {p : Pump} (hg : m.Goes i .asking p) (hh : m.holders = 0) :
      Step m (.finished i) (m.finish i)
  | pass {m : Crew} {i : Nat} {p : Pump} {pass : Pass} (hg : m.Goes i .passing p)
      (hp : pass ≠ .crashed) :
      Step m (.passed i pass) ((m.setPump i (·.afterPass pass)).stand i (.passed pass))
  | release {m : Crew} {i : Nat} {p : Pump} {pass : Pass} (hg : m.Goes i (.passed pass) p) :
      Step m (.released i) ((m.stand i (.after pass)).letGo (.pump i))
  | wake {m : Crew} {i : Nat} {p : Pump} (hg : m.Goes i .resting p) :
      Step m (.woke i) (m.stand i .top)
  | keep {m : Crew} {a : Agent} (hh : 0 < m.holders) (hc : m.Calls a)
      (hr : m.slotPump.any (·.Running)) : Step m (.kept a) (m.start a)
  | start {m : Crew} {a : Agent} (hh : 0 < m.holders) (hc : m.Calls a)
      (hr : ¬ m.slotPump.any (·.Running)) : Step m (.started a m.pumps.length) (m.start a)
  | stop {m : Crew} {a : Agent} (hh : 0 < m.holders) (hc : m.Calls a) :
      Step m (.stopping a m.slot) (m.stop a)
  | tell {m : Crew} {d : Drop} (hd : d ∈ m.drops) (ht : d.told = false) :
      Step m (.told d.pump) (m.tell d.pump)
  -- the thread of the pump would wait for itself
  | detach {m : Crew} {d : Drop} (hd : d ∈ m.drops) (ht : d.told = true)
      (ha : d.agent = .pump d.pump) : Step m (.detached d.pump) (m.settle d.pump)
  | join {m : Crew} {d : Drop} {p : Pump} (hd : d ∈ m.drops) (ht : d.told = true)
      (ha : d.agent ≠ .pump d.pump) (hp : m.pump? d.pump = some p) (he : p.ended = true) :
      Step m (.joined d.agent d.pump) (m.settle d.pump)
  | share {m : Crew} {a : Agent} (hh : 0 < m.holders) (hc : m.Calls a) :
      Step m (.shared a) { m with refs := m.refs + 1 }
  | leave {m : Crew} {a : Agent} (hr : 0 < m.refs) (hc : m.Calls a) :
      Step m (.left a) (Crew.letGo { m with refs := m.refs - 1 } a)
  | launch {m : Crew} {a : Agent} (interval : Nat) (hc : m.Calls a) :
      Step m (.launched a m.pumps.length)
        (m.enlist { pump := { interval }, own := false, held := true })
  | shutdown {m : Crew} {a : Agent} {i : Nat} {h : PumpHandle} (hc : m.Calls a)
      (hi : m.pumps[i]? = some h) (hh : h.held = true) : Step m (.told i) (m.setPump i .stop)
  | drop {m : Crew} {a : Agent} {i : Nat} {h : PumpHandle} (hc : m.Calls a)
      (hi : m.pumps[i]? = some h) (hh : h.held = true) : Step m (.dropping a i) (m.drop a i)

inductive Run : Crew → List Beat → Crew → Prop
  | refl (m : Crew) : Run m [] m
  | snoc {m₁ m₂ m₃ : Crew} {history : List Beat} {n : Beat} :
      Run m₁ history m₂ → Step m₂ n m₃ → Run m₁ (history ++ [n]) m₃

variable {m m' : Crew} {n : Beat} {a : Agent} {i j : Nat} {s t : Spot} {h : PumpHandle} {p : Pump}
  {f : Pump → Pump} {d : Drop}

theorem holders_stand (hs : m.spots[i]? = some s) :
    (m.stand i t).holders + (if s.holds then 1 else 0) = m.holders + if t.holds then 1 else 0 := by
  obtain ⟨hi, rfl⟩ := List.getElem?_eq_some_iff.1 hs
  have hc := List.countP_set (p := Spot.holds) (l := m.spots) (a := t) hi
  have hpos : m.spots[i].holds = true → 0 < m.spots.countP Spot.holds := fun h =>
    List.countP_pos_iff.2 ⟨_, List.getElem_mem hi, h⟩
  simp only [holders, stand, hc]
  by_cases hb : m.spots[i].holds = true
  · have := hpos hb
    simp only [hb, if_true]
    omega
  · have hb : m.spots[i].holds = false := by simpa using hb
    simp only [hb, Bool.false_eq_true, if_false]
    omega

theorem getElem?_setPump (m : Crew) (i : Nat) (f : Pump → Pump) (j : Nat) :
    (m.setPump i f).pumps[j]? =
      if i = j then m.pumps[j]?.map fun h => { h with pump := f h.pump } else m.pumps[j]? := by
  simp only [setPump, List.getElem?_modify]
  split
  · rfl
  · cases m.pumps[j]? <;> rfl

theorem pump?_eq (hh : m.pumps[i]? = some h) : m.pump? i = some h.pump := by
  rw [pump?, hh, Option.map_some]

theorem stop_of_none (hs : m.slot = none) (a : Agent) : m.stop a = m := by
  simp only [stop, hs, Option.map_none, Option.toList_none, List.append_nil]
  rw [← hs]

theorem getElem?_drop (m : Crew) (a : Agent) (i j : Nat) : (m.drop a i).pumps[j]? =
    if i = j then m.pumps[j]?.map fun h => { h with held := false } else m.pumps[j]? := by
  simp only [drop, List.getElem?_modify]
  split
  · rfl
  · cases m.pumps[j]? <;> rfl

theorem pump?_drop (m : Crew) (a : Agent) (i j : Nat) : (m.drop a i).pump? j = m.pump? j := by
  rw [pump?, getElem?_drop, pump?]
  split
  · cases m.pumps[j]? <;> rfl
  · rfl

end Crew

end UsbTransfer
