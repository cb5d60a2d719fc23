import UsbTransfer.Native.Link

namespace UsbTransfer

inductive InterfaceCall where
  | claim
  | release
  | detach
  | attach
  deriving DecidableEq, Repr

namespace InterfaceCall

def native : InterfaceCall → NativeCall
  | claim => .claimInterface
  | release => .releaseInterface
  | detach => .detachKernelDriver
  | attach => .attachKernelDriver

def entry (handle : Nat) (i : UInt8) : InterfaceCall → NativeEntry
  | claim => .claim handle i
  | release => .release handle i
  | detach => .detach handle i
  | attach => .attach handle i

theorem entry_injective {handle : Nat} {i j : UInt8} {c c' : InterfaceCall}
    (h : c.entry handle i = c'.entry handle j) : c = c' ∧ i = j := by
  cases c <;> cases c' <;> simp_all [entry]

end InterfaceCall

structure Reply where
  call : InterfaceCall
  interface : UInt8
  result : Except UsbError Unit

def called (c : InterfaceCall) (ys : List Reply) : List UInt8 :=
  (ys.filter (·.call = c)).map (·.interface)

theorem called_eq {c : InterfaceCall} {ys : List Reply} {zs : List (InterfaceCall × UInt8)}
    (hy : ys.map (fun y => (y.call, y.interface)) = zs) :
    called c ys = (zs.filter (·.1 = c)).map (·.2) := by
  rw [← hy, List.filter_map, List.map_map]
  rfl

namespace Bus

def ask (b : Bus) (handle : Nat) (c : InterfaceCall) (i : UInt8) : Bus × Except UsbError Unit :=
  b.status c.native (c.entry handle i)

/-- From one state of the library to another by these calls, answered like that. -/
def Calls (handle : Nat) : Bus → List Reply → Bus → Prop
  | b, [], b' => b' = b
  | b, y :: ys, b' =>
    ∃ bus, b.ask handle y.call y.interface = (bus, y.result) ∧ Calls handle bus ys b'

variable {b b' : Bus} {handle : Nat} {xs ys : List Reply} {x : Reply}

theorem log_ask {c : InterfaceCall} {i : UInt8} {r : Except UsbError Unit}
    (ha : b.ask handle c i = (b', r)) : b'.log = b.log ++ [c.entry handle i] := by
  have hb : (b.ask handle c i).1.log = b.log ++ [c.entry handle i] := rfl
  rw [ha] at hb
  exact hb

theorem Calls.log (hc : Calls handle b xs b') :
    b'.log = b.log ++ xs.map fun x => x.call.entry handle x.interface := by
  induction xs generalizing b with
  | nil =>
    have he : b' = b := hc
    simp [he]
  | cons x xs ih =>
    obtain ⟨bus, ha, hrest⟩ := hc
    rw [ih hrest, log_ask ha, List.map_cons, List.append_assoc]
    rfl

theorem Calls.unique (hx : Calls handle b xs b') (hy : Calls handle b ys b') : xs = ys := by
  induction xs generalizing b ys with
  | nil =>
    have he : b' = b := hx
    have hlog := hy.log
    rw [he, List.self_eq_append_right, List.map_eq_nil_iff] at hlog
    exact hlog.symm
  | cons x xs ih =>
    have hlog := hx.log.symm.trans hy.log
    cases ys with
    | nil => simp at hlog
    | cons y ys =>
      obtain ⟨bus, ha, hxs⟩ := hx
      obtain ⟨bus', ha', hys⟩ := hy
      obtain ⟨c, i, r⟩ := x
      obtain ⟨c', i', r'⟩ := y
      rw [List.append_cancel_left_eq, List.map_cons, List.map_cons] at hlog
      obtain ⟨rfl, rfl⟩ := InterfaceCall.entry_injective (List.cons.inj hlog).1
      obtain ⟨rfl, rfl⟩ := Prod.mk.inj (ha.symm.trans ha')
      rw [ih hxs hys]

theorem Calls.single {c : InterfaceCall} {i : UInt8} {r : Except UsbError Unit}
    (ha : b.ask handle c i = (b', r)) : Calls handle b [⟨c, i, r⟩] b' := ⟨b', ha, rfl⟩

end Bus

namespace Link

def tableOf (l : Link) (d : Nat) : List (UInt8 × Bool) := (l.devices[d]?.map (·.table)).getD []

def Opened (l : Link) (d : Nat) : Prop := d < l.devices.length

structure Asked (l : Link) (d : Nat) (y : Reply) (l' : Link) : Prop where
  ask : l.bus.ask (l.handleOf d) y.call y.interface = (l'.bus, y.result)
  handle : l'.handleOf d = l.handleOf d
  table : l'.tableOf d = l.tableOf d
  opened : l.Opened d → l'.Opened d

variable {l l' l₁ l₂ : Link} {d : Nat} {i : UInt8} {ys : List Reply}

theorem getElem?_setDevice (l : Link) (d : Nat) (f : NativeDevice → NativeDevice) :
    (l.setDevice d f).devices[d]? = l.devices[d]?.map f := by
  simp [setDevice]

theorem opened_setDevice (ho : l.Opened d) (f : NativeDevice → NativeDevice) :
    (l.setDevice d f).Opened d := by
  rw [Opened] at ho ⊢
  simpa [setDevice] using ho

theorem handleOf_setDevice {f : NativeDevice → NativeDevice} (hf : ∀ x, (f x).handle = x.handle) :
    (l.setDevice d f).handleOf d = l.handleOf d := by
  rw [handleOf, handleOf, getElem?_setDevice, Option.map_map]
  exact congrArg (fun g => (l.devices[d]?.map g).getD 0) (funext hf)

theorem tableOf_setDevice (ho : l.Opened d) {f : NativeDevice → NativeDevice}
    (g : List (UInt8 × Bool) → List (UInt8 × Bool)) (hf : ∀ x, (f x).table = g x.table) :
    (l.setDevice d f).tableOf d = g (l.tableOf d) := by
  have hd := List.getElem?_eq_getElem ho
  rw [tableOf, tableOf, getElem?_setDevice, hd]
  exact hf _

theorem asked_status (l : Link) (d : Nat) (c : InterfaceCall) (i : UInt8) :
    Asked l d ⟨c, i, (l.status c.native (c.entry (l.handleOf d) i)).2⟩
      (l.status c.native (c.entry (l.handleOf d) i)).1 := ⟨rfl, rfl, rfl, id⟩

theorem Asked.remembering {y : Reply} (ha : Asked l d y l') (f : List UInt8 → List UInt8) :
    Asked l d y (l'.setDevice d fun x => { x with remembered := f x.remembered }) := by
  refine ⟨ha.ask, ?_, ?_, fun ho => opened_setDevice (ha.opened ho) _⟩
  · rw [← ha.handle]
    exact handleOf_setDevice fun _ => rfl
  · rw [← ha.table, tableOf, tableOf, getElem?_setDevice, Option.map_map]
    rfl

theorem asked_claimOnce (l : Link) (d : Nat) (i : UInt8) :
    Asked l d ⟨.claim, i, (l.claimOnce d i).2⟩ (l.claimOnce d i).1 := by
  have ha : Asked l d ⟨.claim, i, (l.status .claimInterface (.claim (l.handleOf d) i)).2⟩
      (l.status .claimInterface (.claim (l.handleOf d) i)).1 := l.asked_status d .claim i
  unfold claimOnce
  rcases hs : l.status .claimInterface (.claim (l.handleOf d) i) with ⟨k, e | _⟩ <;> rw [hs] at ha
  · exact ha
  · exact ha.remembering (·.insert i)

theorem asked_releaseOnce (l : Link) (d : Nat) (i : UInt8) :
    Asked l d ⟨.release, i, (l.releaseOnce d i).2⟩ (l.releaseOnce d i).1 := by
  have ha : Asked l d ⟨.release, i, (l.status .releaseInterface (.release (l.handleOf d) i)).2⟩
      (l.status .releaseInterface (.release (l.handleOf d) i)).1 := l.asked_status d .release i
  unfold releaseOnce
  rcases hs : l.status .releaseInterface (.release (l.handleOf d) i) with ⟨k, e | _⟩ <;>
    rw [hs] at ha
  · exact ha
  · exact ha.remembering (·.erase i)

theorem tableOf_enter (ho : l.Opened d) (detached : Bool) :
    (l.enter d i detached).tableOf d = l.tableOf d ++ [(i, detached)] :=
  tableOf_setDevice ho (· ++ [(i, detached)]) fun _ => rfl

inductive Claimed (i : UInt8) (force : Bool) :
    List Reply → Except UsbError Unit → List (UInt8 × Bool) → Prop
  | free : Claimed i force [⟨.claim, i, .ok ()⟩] (.ok ()) [(i, false)]
  | refused {e : UsbError} (hn : ¬ (e = .busy ∧ force)) :
      Claimed i force [⟨.claim, i, .error e⟩] (.error e) []
  | forced (hf : force) (detached : Except UsbError Unit) :
      Claimed i force
        [⟨.claim, i, .error .busy⟩, ⟨.detach, i, detached⟩, ⟨.claim, i, .ok ()⟩] (.ok ())
        [(i, detached.isOk)]
  | failed (hf : force) (detached : Except UsbError Unit) (e : UsbError) :
      Claimed i force
        [⟨.claim, i, .error .busy⟩, ⟨.detach, i, detached⟩, ⟨.claim, i, .error e⟩] (.error e) []

theorem Asked.cons {y : Reply} {b : Bus} (ha : Asked l d y l₁)
    (hc : Bus.Calls (l₁.handleOf d) l₁.bus ys b) : Bus.Calls (l.handleOf d) l.bus (y :: ys) b := by
  rw [ha.handle] at hc
  exact ⟨l₁.bus, ha.ask, hc⟩

theorem claim_cases (ho : l.Opened d) (i : UInt8) (force : Bool) :
    ∃ ys entered, Claimed i force ys (l.claim d i force).2 entered ∧
      Bus.Calls (l.handleOf d) l.bus ys (l.claim d i force).1.bus ∧
      (l.claim d i force).1.tableOf d = l.tableOf d ++ entered ∧
      (l.claim d i force).1.Opened d := by
  have hfirst := l.asked_claimOnce d i
  have ho₁ := hfirst.opened ho
  unfold claim
  rcases hc : l.claimOnce d i with ⟨l₁, e | _⟩ <;> rw [hc] at hfirst ho₁
  · by_cases hbusy : e = .busy ∧ force
    · obtain ⟨rfl, hforce⟩ := hbusy
      have hsecond : Asked l₁ d
          ⟨.detach, i, (l₁.status .detachKernelDriver (.detach (l₁.handleOf d) i)).2⟩
          (l₁.status .detachKernelDriver (.detach (l₁.handleOf d) i)).1 :=
        l₁.asked_status d .detach i
      dsimp only
      rw [if_pos ⟨rfl, hforce⟩]
      generalize l₁.status .detachKernelDriver (.detach (l₁.handleOf d) i) = q at hsecond ⊢
      obtain ⟨l₂, detached⟩ := q
      have hthird := l₂.asked_claimOnce d i
      have ho₂ := hthird.opened (hsecond.opened ho₁)
      have htable := hthird.table.trans (hsecond.table.trans hfirst.table)
      dsimp only
      rcases hc' : l₂.claimOnce d i with ⟨l₃, e' | _⟩ <;> rw [hc'] at hthird ho₂ htable
      · refine ⟨_, _, .failed hforce detached e', hfirst.cons (hsecond.cons (hthird.cons rfl)),
          ?_, ho₂⟩
        rw [List.append_nil]
        exact htable
      · refine ⟨_, _, .forced hforce detached, hfirst.cons (hsecond.cons (hthird.cons rfl)), ?_,
          opened_setDevice ho₂ _⟩
        rw [← htable]
        exact tableOf_enter ho₂ _
    · dsimp only
      rw [if_neg hbusy]
      refine ⟨_, _, .refused hbusy, hfirst.cons rfl, ?_, ho₁⟩
      rw [List.append_nil]
      exact hfirst.table
  · refine ⟨_, _, .free, hfirst.cons rfl, ?_, opened_setDevice ho₁ _⟩
    rw [← hfirst.table]
    exact tableOf_enter ho₁ _

theorem release_cases (l : Link) (ho : l.Opened d) (i : UInt8) :
    Bus.Calls (l.handleOf d) l.bus [⟨.release, i, (l.release d i).2⟩] (l.release d i).1.bus ∧
      (l.release d i).1.tableOf d =
        (if (l.release d i).2.isOk then (l.tableOf d).filter (·.1 ≠ i) else l.tableOf d) ∧
      (l.release d i).1.Opened d := by
  have hfirst := l.asked_releaseOnce d i
  have ho₁ := hfirst.opened ho
  unfold release
  rcases hc : l.releaseOnce d i with ⟨l₁, e | _⟩ <;> rw [hc] at hfirst ho₁
  · exact ⟨hfirst.cons rfl, hfirst.table, ho₁⟩
  · refine ⟨hfirst.cons rfl, ?_, opened_setDevice ho₁ _⟩
    rw [← hfirst.table]
    exact tableOf_setDevice ho₁ (·.filter (·.1 ≠ i)) fun _ => rfl

def dues (table : List (UInt8 × Bool)) : List (InterfaceCall × UInt8) :=
  table.flatMap fun p => (.release, p.1) :: if p.2 then [(.attach, p.1)] else []

theorem release_of_dues (table : List (UInt8 × Bool)) :
    ((dues table).filter (·.1 = .release)).map (·.2) = table.map (·.1) := by
  induction table with
  | nil => rfl
  | cons p table ih =>
    rw [dues, List.flatMap_cons, List.filter_append, List.map_append, ← dues, ih, List.map_cons]
    cases p.2 <;> rfl

theorem attach_of_dues (table : List (UInt8 × Bool)) :
    ((dues table).filter (·.1 = .attach)).map (·.2) = (table.filter (·.2)).map (·.1) := by
  induction table with
  | nil => rfl
  | cons p table ih =>
    rw [dues, List.flatMap_cons, List.filter_append, List.map_append, ← dues, ih]
    cases hp : p.2 <;> simp [hp]

theorem giveBack_cases (l : Link) (d : Nat) (table : List (UInt8 × Bool)) :
    ∃ ys, Bus.Calls (l.handleOf d) l.bus ys (l.giveBack d table).bus ∧
      ys.map (fun y => (y.call, y.interface)) = dues table ∧
      (l.giveBack d table).tableOf d = l.tableOf d := by
  induction table generalizing l with
  | nil => exact ⟨[], rfl, rfl, rfl⟩
  | cons p table ih =>
    obtain ⟨i, detached⟩ := p
    have hrelease := l.asked_releaseOnce d i
    cases detached with
    | false =>
      obtain ⟨ys, hc, hy, ht⟩ := ih (l.releaseOnce d i).1
      exact ⟨_, hrelease.cons hc, congrArg (_ :: ·) hy, ht.trans hrelease.table⟩
    | true =>
      have hattach := (l.releaseOnce d i).1.asked_status d .attach i
      obtain ⟨ys, hc, hy, ht⟩ := ih ((l.releaseOnce d i).1.status .attachKernelDriver
        (.attach ((l.releaseOnce d i).1.handleOf d) i)).1
      exact ⟨_, hrelease.cons (hattach.cons hc), congrArg (_ :: _ :: ·) hy,
        ht.trans (hattach.table.trans hrelease.table)⟩

theorem close_cases (l : Link) (d : Nat) :
    ∃ ys, Bus.Calls (l.handleOf d) l.bus ys (l.close d).bus ∧
      ys.map (fun y => (y.call, y.interface)) = dues (l.tableOf d) ∧
        (l.close d).tableOf d = [] := by
  have hhandle : (l.setDevice d fun x => { x with table := [] }).handleOf d = l.handleOf d :=
    handleOf_setDevice fun _ => rfl
  have hempty : (l.setDevice d fun x => { x with table := [] }).tableOf d = [] := by
    rw [tableOf, getElem?_setDevice]
    cases l.devices[d]? <;> rfl
  obtain ⟨ys, hc, hy, ht⟩ := (l.setDevice d fun x => { x with table := [] }).giveBack_cases d
    (l.tableOf d)
  rw [hhandle] at hc
  exact ⟨ys, hc, hy, ht.trans hempty⟩

end Link

end UsbTransfer
