import UsbTransfer.Proofs.Interface
import Mathlib.Data.List.DropRight
import Mathlib.Data.List.Nodup

namespace UsbTransfer

inductive InterfaceOp where
  | claim (interface : UInt8) (force : Bool)
  | release (interface : UInt8)
  deriving DecidableEq, Repr

def InterfaceOp.deviceOp : InterfaceOp → DeviceOp
  | claim i force => .claim i force
  | release i => .release i

structure Operation where
  op : InterfaceOp
  result : Except UsbError Unit
  replies : List Reply

namespace Operation

def claims (i : UInt8) (x : Operation) : Bool :=
  match x.op with
  | .claim j _ => j == i && x.result.isOk
  | .release _ => false

def releases (i : UInt8) (x : Operation) : Bool :=
  match x.op with
  | .claim .. => false
  | .release j => j == i && x.result.isOk

def detaches (i : UInt8) (x : Operation) : Bool :=
  x.replies.any fun y => y.call == .detach && y.interface == i && y.result.isOk

theorem releases_eq_false {i : UInt8} {x : Operation} (h : x.claims i) : x.releases i = false := by
  cases hop : x.op with
  | claim => simp [releases, hop]
  | release => simp [claims, hop] at h

end Operation

/-- What was done after the last release of the interface that succeeded. -/
def since (i : UInt8) (xs : List Operation) : List Operation :=
  xs.rtakeWhile fun x => !x.releases i

variable {i j : UInt8} {xs : List Operation} {x : Operation}

theorem since_concat_of_releases (h : x.releases i) : since i (xs ++ [x]) = [] := by
  simp [since, h]

theorem since_concat (h : x.releases i = false) : since i (xs ++ [x]) = since i xs ++ [x] := by
  simp [since, h]

theorem mem_since : x ∈ since i xs ↔ x.releases i = false ∧
    ∃ earlier later, xs = earlier ++ x :: later ∧ ∀ z ∈ later, z.releases i = false := by
  constructor
  · intro hx
    obtain ⟨first, hfirst⟩ := List.rtakeWhile_suffix (fun x : Operation => !x.releases i) xs
    obtain ⟨middle, later, hmiddle⟩ := List.append_of_mem hx
    have hall : ∀ z ∈ since i xs, z.releases i = false := fun z hz => by
      simpa using List.mem_rtakeWhile_imp hz
    refine ⟨hall x hx, first ++ middle, later, ?_, fun z hz => hall z ?_⟩
    · rw [List.append_assoc, ← hmiddle]
      exact hfirst.symm
    · rw [hmiddle]
      exact List.mem_append_right _ (List.mem_cons_of_mem _ hz)
  · rintro ⟨hx, earlier, later, rfl, hall⟩
    -- each later operation is appended to what there is since the last release
    induction later using List.reverseRecOn with
    | nil =>
      rw [since_concat hx]
      exact List.mem_append_right _ (List.mem_singleton_self x)
    | append_singleton later z ih =>
      have hz := hall z (List.mem_append_right _ (List.mem_singleton_self z))
      rw [← List.cons_append, ← List.append_assoc, since_concat hz]
      exact List.mem_append_left _ (ih fun y hy => hall y (List.mem_append_left _ hy))

def lastOf (i : UInt8) (xs : List Operation) : Option Operation :=
  (xs.filter fun x => x.claims i || x.releases i).getLast?

theorem any_lastOf : (lastOf i xs).any (·.claims i) ↔ ∃ x ∈ since i xs, x.claims i := by
  induction xs using List.reverseRecOn with
  | nil => simp [lastOf, since]
  | append_singleton xs x ih =>
    cases hclaims : x.claims i with
    | true =>
      have hreleases := Operation.releases_eq_false hclaims
      rw [since_concat hreleases]
      simp [lastOf, List.filter_append, hreleases, hclaims]
    | false =>
      cases hreleases : x.releases i with
      | true =>
        rw [since_concat_of_releases hreleases]
        simp [lastOf, List.filter_append, hreleases, hclaims]
      | false =>
        have hsame : lastOf i (xs ++ [x]) = lastOf i xs := by
          simp [lastOf, List.filter_append, hreleases, hclaims]
        rw [since_concat hreleases, hsame, ih]
        simp [hclaims]

namespace Link

/-- Operations on one device. Between them anything may happen that leaves it alone. -/
inductive Operated (d : Nat) : Link → List Operation → Link → Prop
  | refl (l : Link) : Operated d l [] l
  | snoc {l₁ l₂ l₃ : Link} {xs : List Operation} {op : InterfaceOp} {r : Except UsbError Unit}
      {ys : List Reply} (h : Operated d l₁ xs l₂) (he : l₂.operate d op.deviceOp = (l₃, r))
      (hc : Bus.Calls (l₂.handleOf d) l₂.bus ys l₃.bus) : Operated d l₁ (xs ++ [⟨op, r, ys⟩]) l₃
  | aside {l₁ l₂ l₃ : Link} {xs : List Operation} (h : Operated d l₁ xs l₂)
      (hd : l₃.devices[d]? = l₂.devices[d]?) : Operated d l₁ xs l₃

inductive Performed : Operation → List (UInt8 × Bool) → List (UInt8 × Bool) → Prop
  | claimed {i : UInt8} {force : Bool} {ys : List Reply} {r : Except UsbError Unit}
      {entered : List (UInt8 × Bool)} (h : Claimed i force ys r entered)
      (table : List (UInt8 × Bool)) : Performed ⟨.claim i force, r, ys⟩ table (table ++ entered)
  | released (i : UInt8) (table : List (UInt8 × Bool)) :
      Performed ⟨.release i, .ok (), [⟨.release, i, .ok ()⟩]⟩ table (table.filter (·.1 ≠ i))
  | kept (i : UInt8) (e : UsbError) (table : List (UInt8 × Bool)) :
      Performed ⟨.release i, .error e, [⟨.release, i, .error e⟩]⟩ table table

inductive PerformedAll : List Operation → List (UInt8 × Bool) → List (UInt8 × Bool) → Prop
  | nil (table : List (UInt8 × Bool)) : PerformedAll [] table table
  | snoc {xs : List Operation} {x : Operation} {table table' table'' : List (UInt8 × Bool)}
      (h : PerformedAll xs table table') (hx : Performed x table' table'') :
      PerformedAll (xs ++ [x]) table table''

variable {l₀ l l' : Link} {d : Nat} {op : InterfaceOp} {r : Except UsbError Unit} {ys : List Reply}
  {table table' : List (UInt8 × Bool)} {vendor product : UInt16}

theorem operate_cases (ho : l.Opened d) (op : InterfaceOp) :
    ∃ ys, Bus.Calls (l.handleOf d) l.bus ys (l.operate d op.deviceOp).1.bus ∧
      Performed ⟨op, (l.operate d op.deviceOp).2, ys⟩ (l.tableOf d)
        ((l.operate d op.deviceOp).1.tableOf d) ∧ (l.operate d op.deviceOp).1.Opened d := by
  cases op with
  | claim i force =>
    obtain ⟨ys, entered, hentered, hc, ht, ho'⟩ := claim_cases ho i force
    refine ⟨ys, hc, ?_, ho'⟩
    have hp := Performed.claimed hentered (l.tableOf d)
    rw [← ht] at hp
    exact hp
  | release i =>
    obtain ⟨hc, ht, ho'⟩ := l.release_cases ho i
    refine ⟨_, hc, ?_, ho'⟩
    change Performed ⟨.release i, (l.release d i).2, _⟩ _ ((l.release d i).1.tableOf d)
    rw [ht]
    rcases (l.release d i).2 with e | _
    · exact .kept i e _
    · exact .released i _

theorem performed_of_operate (ho : l.Opened d) (he : l.operate d op.deviceOp = (l', r))
    (hc : Bus.Calls (l.handleOf d) l.bus ys l'.bus) :
    Performed ⟨op, r, ys⟩ (l.tableOf d) (l'.tableOf d) ∧ l'.Opened d := by
  obtain ⟨ys', hc', hp, ho'⟩ := operate_cases ho op
  rw [he] at hc' hp ho'
  obtain rfl := hc.unique hc'
  exact ⟨hp, ho'⟩

theorem Performed.refused {e : UsbError} (hp : Performed ⟨op, .error e, ys⟩ table table') :
    table' = table := by
  cases hp with
  | claimed h => cases h <;> exact List.append_nil _
  | kept => rfl

/-- The entries for an interface are the claims since its last release, each with what was detached
for it. -/
def Recorded (xs : List Operation) (table : List (UInt8 × Bool)) : Prop :=
  ∀ i, table.filter (·.1 = i) = ((since i xs).filter (·.claims i)).map fun x => (i, x.detaches i)

theorem Recorded.count (hr : Recorded xs table) (i : UInt8) :
    (table.map (·.1)).count i = (since i xs).countP (·.claims i) := by
  have hentries := congrArg List.length (hr i)
  rw [List.length_map] at hentries
  rw [List.countP_eq_length_filter, ← hentries, List.count, List.countP_map,
    List.countP_eq_length_filter]
  rfl

theorem Claimed.entered_eq {force : Bool} {entered : List (UInt8 × Bool)}
    (h : Claimed i force ys r entered) :
    entered = if r.isOk then [(i, Operation.detaches i ⟨.claim i force, r, ys⟩)] else [] := by
  cases h <;> simp [Operation.detaches, Except.isOk, Except.toBool]

theorem Recorded.step (hr : Recorded xs table) (hp : Performed x table table') :
    Recorded (xs ++ [x]) table' := by
  intro j
  cases hp with
  | @claimed i force ys r entered h =>
    have hnone : Operation.releases j ⟨.claim i force, r, ys⟩ = false := rfl
    rw [since_concat hnone, List.filter_append, List.filter_append, List.map_append, hr j,
      h.entered_eq]
    congr 1
    by_cases hij : i = j
    · subst hij
      cases hok : r.isOk <;> simp [Operation.claims, hok]
    · cases hok : r.isOk <;> simp [Operation.claims, hok, hij]
  | released i =>
    by_cases hij : i = j
    -- the count starts again for this interface, however many entries it had
    · subst hij
      rw [since_concat_of_releases (by simp [Operation.releases, Except.isOk, Except.toBool])]
      simp only [List.filter_filter, List.filter_nil, List.map_nil, List.filter_eq_nil_iff]
      intro p _
      by_cases hp : p.1 = i <;> simp [hp]
    · have hkept : ∀ p : UInt8 × Bool,
          (decide (p.1 = j) && decide (p.1 ≠ i)) = decide (p.1 = j) := by
        intro p
        by_cases hp : p.1 = j
        · simp [hp, Ne.symm hij]
        · simp [hp]
      rw [since_concat (by simp [Operation.releases, hij]), List.filter_append, List.map_append,
        ← hr j, List.filter_filter]
      simp only [hkept]
      exact (List.append_nil _).symm
  | kept i e =>
    rw [since_concat (by simp [Operation.releases, Except.isOk, Except.toBool]), List.filter_append,
      List.map_append, ← hr j]
    exact (List.append_nil _).symm

theorem PerformedAll.recorded (hall : PerformedAll xs [] table) : Recorded xs table := by
  generalize ht : ([] : List (UInt8 × Bool)) = start at hall
  induction hall with
  | nil =>
    subst ht
    exact fun _ => rfl
  | snoc _ hx ih => exact (ih ht).step hx

theorem PerformedAll.of_mem (hall : PerformedAll xs table table') (hx : x ∈ xs) :
    ∃ before after, Performed x before after := by
  induction hall with
  | nil => cases hx
  | snoc _ hz ih =>
    rcases List.mem_append.mp hx with hmem | hmem
    · exact ih hmem
    · rw [List.mem_singleton.mp hmem]
      exact ⟨_, _, hz⟩

/-- What the table of a device says after these operations: an interface is in it when the last
success was a claim, and as often as it was claimed since. Closing makes a call for each entry. -/
structure Held (d : Nat) (xs : List Operation) (l : Link) : Prop where
  mem : ∀ i, i ∈ (l.tableOf d).map (·.1) ↔ (lastOf i xs).any (·.claims i)
  count : ∀ i, ((l.tableOf d).map (·.1)).count i = (since i xs).countP (·.claims i)
  nodup : ((l.tableOf d).map (·.1)).Nodup ↔ ∀ i, (since i xs).countP (·.claims i) ≤ 1
  refused : ∀ op l' e, l.operate d op = (l', .error e) → l'.tableOf d = l.tableOf d
  closing : ∃ ys, Bus.Calls (l.handleOf d) l.bus ys (l.close d).bus ∧
    called .release ys = (l.tableOf d).map (·.1) ∧ (l.close d).tableOf d = []
  /-- Whatever is asked for next, these operations go on. -/
  further : ∀ ops, ∃ ys l', Operated d l ys l' ∧ ys.map (·.op) = ops

theorem operate_refused (ho : l.Opened d) {op : DeviceOp} {e : UsbError}
    (he : l.operate d op = (l', .error e)) : l'.tableOf d = l.tableOf d := by
  have hinterface : ∀ o : InterfaceOp, o.deviceOp = op → l'.tableOf d = l.tableOf d := by
    rintro o rfl
    obtain ⟨ys, -, hp, -⟩ := operate_cases ho o
    rw [he] at hp
    exact hp.refused
  cases op with
  | claim i force => exact hinterface (.claim i force) rfl
  | release i => exact hinterface (.release i) rfl
  | reset | clearHalt | setInterface | setConfiguration =>
    have hl : (l.operate d _).1 = l' := congrArg Prod.fst he
    rw [← hl]
    rfl

theorem open_cases (ho : l₀.open? vendor product = (l, .ok d)) : l.Opened d ∧ l.tableOf d = [] := by
  unfold open? at ho
  cases hb : l₀.bus.open? vendor product with
  | none =>
    rw [hb] at ho
    cases ho
  | some q =>
    obtain ⟨bus, handle⟩ := q
    rw [hb] at ho
    cases ho
    constructor
    · simp [Opened]
    · simp [tableOf]

theorem performedAll_of_operated (ht : Operated d l xs l') (ho : l.Opened d) :
    l'.Opened d ∧ PerformedAll xs (l.tableOf d) (l'.tableOf d) := by
  induction ht with
  | refl => exact ⟨ho, .nil _⟩
  | snoc h he hc ih =>
    obtain ⟨ho₂, hall⟩ := ih
    obtain ⟨hp, ho₃⟩ := performed_of_operate ho₂ he hc
    exact ⟨ho₃, hall.snoc hp⟩
  | aside h hd ih =>
    obtain ⟨ho₂, hall⟩ := ih
    constructor
    · have hsome := hd.trans (List.getElem?_eq_getElem ho₂)
      exact (List.getElem?_eq_some_iff.mp hsome).1
    · rwa [tableOf, tableOf, hd]

theorem exists_operated (l : Link) (ho : l.Opened d) (ops : List InterfaceOp) :
    ∃ xs l', Operated d l xs l' ∧ xs.map (·.op) = ops := by
  induction ops using List.reverseRecOn with
  | nil => exact ⟨[], l, .refl l, rfl⟩
  | append_singleton ops op ih =>
    obtain ⟨xs, l₁, ht, hops⟩ := ih
    obtain ⟨ys, hc, -⟩ := operate_cases (performedAll_of_operated ht ho).1 op
    refine ⟨_, _, ht.snoc rfl hc, ?_⟩
    rw [List.map_append, hops]
    rfl

theorem held_interfaces (ho : l₀.open? vendor product = (l, .ok d)) (ht : Operated d l xs l') :
    Held d xs l' := by
  obtain ⟨hopened, hempty⟩ := open_cases ho
  obtain ⟨hopened', hall⟩ := performedAll_of_operated ht hopened
  rw [hempty] at hall
  have hr := hall.recorded
  refine ⟨fun i => ?_, hr.count, ?_, fun _ _ _ => operate_refused hopened', ?_,
    exists_operated l' hopened'⟩
  · rw [any_lastOf, ← List.countP_pos_iff, ← hr.count, List.count_pos_iff]
  · rw [List.nodup_iff_count_le_one]
    exact forall_congr' fun i => by rw [hr.count]
  · obtain ⟨ys, hc, hy, hempty'⟩ := l'.close_cases d
    exact ⟨ys, hc, (called_eq hy).trans (release_of_dues _), hempty'⟩

def lenient : Link := { bus := { plugged := [(1, 2)] } }

def lenientOpened : Link := (lenient.open? 1 2).1

def claimedOnce : Link := (lenientOpened.claim 0 3 false).1

def claimedTwice : Link := (claimedOnce.claim 0 3 false).1

def granted (i : UInt8) : Operation := ⟨.claim i false, .ok (), [⟨.claim, i, .ok ()⟩]⟩

theorem operated_claimedTwice : Operated 0 lenientOpened [granted 3, granted 3] claimedTwice := by
  have hfirst : Operated 0 lenientOpened ([] ++ [granted 3]) claimedOnce :=
    .snoc (.refl lenientOpened) rfl (.single rfl)
  exact hfirst.snoc rfl (.single rfl)

/-- Claiming an interface again enters it again, and closing releases it twice. -/
theorem claimed_twice :
    ∃ xs, lenient.open? 1 2 = (lenientOpened, .ok 0) ∧ Operated 0 lenientOpened xs claimedTwice ∧
      xs.map (·.op) = [.claim 3 false, .claim 3 false] ∧
      claimedTwice.tableOf 0 = [(3, false), (3, false)] ∧
      (claimedTwice.close 0).bus.log =
        [.opened 1 2 1, .claim 1 3, .claim 1 3, .release 1 3, .release 1 3] :=
  ⟨_, rfl, operated_claimedTwice, rfl, by decide, by decide⟩

/-- One release takes out both entries, and closing leaves the interface alone. -/
theorem twice_released :
    ∃ xs l ys, lenient.open? 1 2 = (lenientOpened, .ok 0) ∧ Operated 0 lenientOpened xs l ∧
      xs.map (·.op) = [.claim 3 false, .claim 3 false, .release 3, .claim 4 false] ∧
      Bus.Calls (l.handleOf 0) l.bus ys (l.close 0).bus ∧ called .release ys = [4] := by
  have hopen : lenient.open? 1 2 = (lenientOpened, .ok 0) := rfl
  have hreleased : Operated 0 lenientOpened (_ ++ [⟨.release 3, .ok (), [⟨.release, 3, .ok ()⟩]⟩])
      (claimedTwice.release 0 3).1 := operated_claimedTwice.snoc rfl (.single rfl)
  have hclaimed : Operated 0 lenientOpened (_ ++ [granted 4])
      ((claimedTwice.release 0 3).1.claim 0 4 false).1 := hreleased.snoc rfl (.single rfl)
  obtain ⟨ys, hc, hy, -⟩ := (held_interfaces hopen hclaimed).closing
  exact ⟨_, _, ys, hopen, hclaimed, rfl, hc, hy.trans (by decide)⟩

end Link

end UsbTransfer
