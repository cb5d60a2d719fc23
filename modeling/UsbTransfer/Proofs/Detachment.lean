import UsbTransfer.Proofs.Claims

namespace UsbTransfer

namespace Link

/-- What becomes of the kernel drivers that these operations detached. Only a claim by force
detaches one, and closing gives it back if the claim succeeded and no release came after it. -/
structure GivenBack (d : Nat) (xs : List Operation) (l : Link) : Prop where
  detached : ∀ x ∈ xs, ∀ i, x.detaches i → x.op = .claim i true
  kept : ∀ x ∈ xs, called .attach x.replies = []
  closing : ∃ ys, Bus.Calls (l.handleOf d) l.bus ys (l.close d).bus ∧
    (∀ i, (called .attach ys).count i = (since i xs).countP fun x => x.claims i && x.detaches i) ∧
    ∀ i, i ∈ called .attach ys ↔ ∃ earlier x later, xs = earlier ++ x :: later ∧
      x.claims i ∧ x.detaches i ∧ ∀ z ∈ later, z.releases i = false

variable {l₀ l l' : Link} {d : Nat} {xs : List Operation} {x : Operation} {i : UInt8}
  {vendor product : UInt16} {table table' : List (UInt8 × Bool)}

theorem Performed.forced (hp : Performed x table table') (hx : x.detaches i) :
    x.op = .claim i true := by
  cases hp with
  | claimed h => cases h <;> simp_all [Operation.detaches]
  | released | kept => simp [Operation.detaches] at hx

theorem Performed.attaches (hp : Performed x table table') : called .attach x.replies = [] := by
  cases hp with
  | claimed h => cases h <;> rfl
  | released | kept => rfl

theorem Recorded.count_marked (hr : Recorded xs table) (i : UInt8) :
    ((table.filter (·.2)).map (·.1)).count i =
      (since i xs).countP fun x => x.claims i && x.detaches i := by
  have hentries := congrArg (List.countP (·.2)) (hr i)
  rw [List.countP_map, List.countP_filter, List.countP_filter] at hentries
  rw [List.count, List.countP_map, List.countP_filter]
  simpa [Function.comp_def, Bool.and_comm, beq_eq_decide] using hentries

theorem given_back (ho : l₀.open? vendor product = (l, .ok d)) (ht : Operated d l xs l') :
    GivenBack d xs l' := by
  obtain ⟨hopened, hempty⟩ := open_cases ho
  obtain ⟨hopened', hall⟩ := performedAll_of_operated ht hopened
  refine ⟨fun x hx i hi => ?_, fun x hx => ?_, ?_⟩
  · obtain ⟨before, after, hp⟩ := hall.of_mem hx
    exact hp.forced hi
  · obtain ⟨before, after, hp⟩ := hall.of_mem hx
    exact hp.attaches
  · rw [hempty] at hall
    obtain ⟨ys, hc, hy, -⟩ := l'.close_cases d
    have hcount : ∀ i, (called .attach ys).count i =
        (since i xs).countP fun x => x.claims i && x.detaches i := fun i => by
      rw [called_eq hy, attach_of_dues, hall.recorded.count_marked]
    refine ⟨ys, hc, hcount, fun i => ?_⟩
    rw [← List.count_pos_iff, hcount, List.countP_pos_iff]
    constructor
    · rintro ⟨x, hx, hboth⟩
      obtain ⟨-, earlier, later, heq, hlater⟩ := mem_since.mp hx
      obtain ⟨hclaims, hdetaches⟩ := Bool.and_eq_true_iff.mp hboth
      exact ⟨earlier, x, later, heq, hclaims, hdetaches, hlater⟩
    · rintro ⟨earlier, x, later, heq, hclaims, hdetaches, hlater⟩
      exact ⟨x, mem_since.mpr ⟨Operation.releases_eq_false hclaims, earlier, later, heq, hlater⟩,
        Bool.and_eq_true_iff.mpr ⟨hclaims, hdetaches⟩⟩

/-- A library where a kernel driver holds each interface; one claim fails without it as well. -/
def contested : Link where
  bus := { plugged := [(1, 2)]
           answers := [(.claimInterface, { code := some (-6) }), (.claimInterface, {}),
             (.claimInterface, { code := some (-6) }), (.claimInterface, { code := some (-1) })] }

def contestedOpened : Link := (contested.open? 1 2).1

def contestedClaimed : Link := ((contestedOpened.claim 0 3 true).1.claim 0 4 true).1

def forced (i : UInt8) (r : Except UsbError Unit) : Operation :=
  ⟨.claim i true, r, [⟨.claim, i, .error .busy⟩, ⟨.detach, i, .ok ()⟩, ⟨.claim, i, r⟩]⟩

theorem operated_contestedClaimed :
    Operated 0 contestedOpened [forced 3 (.ok ()), forced 4 (.error .io)] contestedClaimed := by
  have hfirst : Operated 0 contestedOpened ([] ++ [forced 3 (.ok ())])
      (contestedOpened.claim 0 3 true).1 :=
    .snoc (.refl contestedOpened) rfl ⟨_, rfl, _, rfl, _, rfl, rfl⟩
  exact hfirst.snoc rfl ⟨_, rfl, _, rfl, _, rfl, rfl⟩

/-- The claim that failed and the release both lose the driver they owe. -/
theorem forced_lost :
    ∃ xs l, contested.open? 1 2 = (contestedOpened, .ok 0) ∧ Operated 0 contestedOpened xs l ∧
      xs.map (·.op) = [.claim 3 true, .claim 4 true, .release 3] ∧
      (∃ x ∈ xs, x.detaches 3) ∧ (∃ x ∈ xs, x.detaches 4) ∧
      (l.close 0).bus.log =
        [.opened 1 2 1, .claim 1 3, .detach 1 3, .claim 1 3, .claim 1 4, .detach 1 4, .claim 1 4,
          .release 1 3] := by
  have hreleased : Operated 0 contestedOpened
      (_ ++ [⟨.release 3, .ok (), [⟨.release, 3, .ok ()⟩]⟩]) (contestedClaimed.release 0 3).1 :=
    operated_contestedClaimed.snoc rfl (.single rfl)
  exact ⟨_, _, rfl, hreleased, rfl, by decide, by decide, by decide⟩

theorem forced_given_back :
    ∃ xs ys, contested.open? 1 2 = (contestedOpened, .ok 0) ∧
      Operated 0 contestedOpened xs contestedClaimed ∧
      xs.map (·.op) = [.claim 3 true, .claim 4 true] ∧
      Bus.Calls (contestedClaimed.handleOf 0) contestedClaimed.bus ys
        (contestedClaimed.close 0).bus ∧ 3 ∈ called .attach ys ∧ 4 ∉ called .attach ys := by
  have hopen : contested.open? 1 2 = (contestedOpened, .ok 0) := rfl
  obtain ⟨ys, hc, hcount, -⟩ := (given_back hopen operated_contestedClaimed).closing
  refine ⟨_, ys, hopen, operated_contestedClaimed, rfl, hc, ?_, ?_⟩
  · rw [← List.count_pos_iff, hcount]
    decide
  · rw [← List.count_eq_zero, hcount]
    decide

end Link

end UsbTransfer
