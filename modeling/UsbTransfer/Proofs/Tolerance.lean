import UsbTransfer.Dictated
import UsbTransfer.Proofs.Agreement

namespace UsbTransfer

def Route.header : Route → Nat
  | .control _ => SetupPacket.size
  | .bulk _ | .interrupt _ => 0

namespace Request

/-- What is told of a request that ended so: towards the caller, as many bytes after the setup stage
as were both reported and asked for. -/
def notice (r : Request) (status : TransferStatus) (actual : Nat) (bytes : Bytes) :
    Outcome × Option Bytes :=
  match status.outcome actual with
  | .error e => (.error e, none)
  | .ok n =>
    (.ok n, if r.route.direction = .deviceToHost then
      some ((bytes.drop r.route.header).take (min n r.dataLength)) else none)

def notification (r : Request) (id : TransferId) (target : TargetId) (contracts : Contracts)
    (status : TransferStatus) (actual : Nat) (bytes : Bytes) : Delivery where
  transfer := id
  target := target
  notifier := contracts.notifier r.route.kind
  completion :=
    { kind := r.route.kind
      data := (r.notice status actual bytes).2
      result := (r.notice status actual bytes).1 }

def Wraps (r : Request) (x : Transfer) : Prop :=
  x.status = some .completed ∧ r.route.direction = .deviceToHost ∧
    wordSize ≤ r.route.header + x.actual

instance (r : Request) (x : Transfer) : Decidable (r.Wraps x) :=
  inferInstanceAs (Decidable (_ ∧ _ ∧ _))

end Request

namespace Transfer

/-- What a controller may have made of a transfer with memory of its own: it has written into the
memory and reported a status and a count, whatever they are. -/
structure Ends (x y : Transfer) (bytes : Bytes) : Prop where
  frame : y.frame = x.frame
  own : y.own? = some bytes
  length : bytes.length = x.length
  actual : y.actual < wordSize

def verdict (x : Transfer) : TransferStatus := x.status.getD (.unrecognized (-1))

end Transfer

namespace Host

variable {κ δ : Type} {h k : Host κ δ} {target : TargetId} {contracts : Contracts}
  {id : ConnectionId} {r : Request} {x y : Transfer} {bytes : Bytes}

theorem settle_of_own (k : Host κ δ) (hk : y.kind ≠ .isochronous) (hm : y.own? = some bytes)
    (hl : y.header ≤ bytes.length) (ha : y.actual < wordSize) :
    k.settle y =
      match y.verdict.outcome y.actual with
      | .error e => some (.error e, none)
      | .ok n =>
        if y.direction = .deviceToHost then
          if wordSize ≤ y.header + n then none
          else some (.ok n, some (bytes.slice y.header (y.header + n)))
        else some (.ok n, none) := by
  unfold settle Transfer.verdict
  rcases ho : (y.status.getD (.unrecognized (-1))).outcome y.actual with e | n
  · rfl
  · obtain ⟨-, rfl⟩ := TransferStatus.outcome_eq_ok_iff.1 ho
    have hreceived := Transfer.received?_of_owned hm hl ha k.buffers
    cases hs : y.shape with
    | isochronous ps => exact absurd (by rw [Transfer.kind, hs]; rfl) hk
    | control | bulk | interrupt =>
      simp only [hreceived]
      split
      · split <;> rfl
      · rfl

theorem header_draft (h : Host κ δ) (target : TargetId) (contracts : Contracts) (id : ConnectionId)
    (r : Request) : (h.draft target contracts id r).header = r.route.header ∧
      (h.draft target contracts id r).length = r.route.header + r.dataLength := by
  unfold draft Request.dataLength
  cases r.route with
  | control s => exact ⟨rfl, rfl⟩
  | bulk e | interrupt e => exact ⟨rfl, (Nat.zero_add _).symm⟩

theorem notice_of_error {status : TransferStatus} {n : Nat} {e : UsbError}
    (ho : status.outcome n = .error e) : r.notice status n bytes = (.error e, none) := by
  simp only [Request.notice, ho]

theorem notice_of_ok {status : TransferStatus} {n k : Nat} (ho : status.outcome n = .ok k) :
    r.notice status n bytes =
      (.ok k, if r.route.direction = .deviceToHost then
        some ((bytes.drop r.route.header).take (min k r.dataLength)) else none) := by
  simp only [Request.notice, ho]

theorem settle_of_ends (k : Host κ δ) (he : (h.draft target contracts id r).Ends y bytes) :
    k.settle y = if r.Wraps y then none else some (r.notice y.verdict y.actual bytes) := by
  have hkind : y.kind = r.route.kind :=
    (Transfer.kind_of_frame he.frame).trans (Transfer.kind_ofRoute h.nextTransfer r)
  have hdir : y.direction = r.route.direction :=
    (Transfer.direction_of_frame he.frame).trans (Transfer.direction_ofRoute h.nextTransfer r)
  obtain ⟨hheader, hlength⟩ := h.header_draft target contracts id r
  rw [← Transfer.header_of_frame he.frame] at hheader
  rw [← he.length] at hlength
  have hiso : y.kind ≠ .isochronous := by
    rw [hkind]
    cases r.route <;> simp [Route.kind]
  rw [settle_of_own k hiso he.own (by omega) he.actual, hdir, hheader]
  rcases ho : y.verdict.outcome y.actual with e | n
  · have hno : ¬ r.Wraps y := by
      rintro ⟨hst, -⟩
      rw [Transfer.verdict, hst] at ho
      cases ho
    rw [if_neg hno, notice_of_error ho]
  · obtain ⟨hverdict, rfl⟩ := TransferStatus.outcome_eq_ok_iff.1 ho
    have hst : y.status = some .completed := by
      unfold Transfer.verdict at hverdict
      cases hs : y.status <;> simp_all
    rw [notice_of_ok ho]
    by_cases hin : r.route.direction = .deviceToHost
    · have htake : (bytes.drop r.route.header).take (min y.actual r.dataLength) =
          bytes.slice r.route.header (r.route.header + y.actual) := by
        -- the memory ends with the data that was asked for
        rw [Bytes.slice, List.drop_take, List.take_eq_take_iff, List.length_drop]
        omega
      simp only [if_true, htake, Request.Wraps, hst, hin, true_and]
    · have hno : ¬ r.Wraps y := fun hw => hin hw.2.1
      simp only [if_neg hin, if_neg hno]

section Dispatching

variable [Controller κ δ] {p : Pending} {result : Outcome} {data : Option Bytes}

theorem dispatch_of_settled (reactions : Reactions) (hp : x.pending = some p)
    (hs : k.settle x = some (result, data)) :
    (dispatch reactions k x).2 = true ∧
      (dispatch reactions k x).1.deliveries = k.deliveries ++ [k.deliveryOf x p result data] := by
  obtain ⟨reaction, -, hd⟩ := dispatch_eq reactions k hp hs
  rw [hd]
  exact ⟨rfl, (deliveries_respond _ _ _).trans (k.deliveries_deliver x p result data)⟩

theorem dispatch_of_unsettled (reactions : Reactions) (hp : x.pending = some p)
    (hs : k.settle x = none) :
    (dispatch reactions k x).2 = false ∧
      (dispatch reactions k x).1.deliveries = k.deliveries := by
  obtain ⟨controller, -, hr⟩ := k.reap?_cases x.connection
  simp only [dispatch, hp, hs, hr]
  exact ⟨trivial, rfl⟩

/-- How the dispatcher takes a report on a request: it notifies once, unless the end of the data
wraps. -/
structure Tolerates (reactions : Reactions) (k : Host κ δ) (y : Transfer) (r : Request)
    (d : Delivery) : Prop where
  delivered : ¬ r.Wraps y → (dispatch reactions k y).2 = true ∧
    (dispatch reactions k y).1.deliveries = k.deliveries ++ [d]
  crashed : r.Wraps y → (dispatch reactions k y).2 = false ∧
    (dispatch reactions k y).1.deliveries = k.deliveries
  wraps : r.Wraps y → ∃ s, r.route = .control s ∧ wordSize - SetupPacket.size ≤ y.actual

theorem tolerates_of_ends (he : (h.draft target contracts id r).Ends y bytes)
    (reactions : Reactions) (k : Host κ δ) :
    Tolerates reactions k y r
      (r.notification h.nextTransfer target contracts y.verdict y.actual bytes) := by
  have hp : y.pending = some { target, contracts } := Transfer.pending_of_frame he.frame
  have hid : y.id = h.nextTransfer :=
    (Transfer.id_of_frame he.frame).trans (Transfer.id_ofRoute _ _ _ _ _)
  have hkind : y.kind = r.route.kind :=
    (Transfer.kind_of_frame he.frame).trans (Transfer.kind_ofRoute h.nextTransfer r)
  have hs := settle_of_ends k he
  refine ⟨fun hw => ?_, fun hw => ?_, fun hw => ?_⟩
  · rw [if_neg hw] at hs
    have hd := dispatch_of_settled reactions hp hs
    simp only [deliveryOf, hid, hkind, completion] at hd
    exact hd
  · rw [if_pos hw] at hs
    exact dispatch_of_unsettled reactions hp hs
  · obtain ⟨-, -, hlt⟩ := hw
    have hact := he.actual
    cases hroute : r.route with
    | control s =>
      rw [hroute] at hlt
      exact ⟨s, rfl, Nat.sub_le_of_le_add (by rw [Nat.add_comm]; exact hlt)⟩
    | bulk e | interrupt e =>
      -- with no setup stage the data ends at the count itself
      rw [hroute] at hlt
      simp only [Route.header] at hlt
      omega

theorem report_tolerated {t : Token} {device : δ} (hd : h.Drafts target (.transfer t r) device x)
    (he : x.Ends y bytes) :
    ∃ contracts, h.contracts = some contracts ∧ ∀ reactions, ∀ k : Host κ δ,
      Tolerates reactions k y r
        (r.notification h.nextTransfer target contracts y.verdict y.actual bytes) := by
  cases hd with
  | transfer ha _ => exact ⟨_, contracts_of_admission ha, tolerates_of_ends he⟩

end Dispatching

def fetching : Request where
  route := .control ⟨0x80, 6, 0x100, 0, 4⟩
  buffer := []
  offset := 0
  length := 0
  timeout := 0

def dictating : Host Dictated UInt32 where
  controller := {}
  connections := [{ device := 1 }]
  devices := (Arena.insert {} 0).1
  contracts := Registry.standard.resolve.toOption
  targets := [.recorder]

def fetched : Transfer := dictating.draft 0 ⟨.forward, .forward, .forward, .forward⟩ 0 fetching

def answered (actual : Nat) : Transfer :=
  { fetched with
    memory := .owned [0x80, 6, 0, 1, 0, 0, 4, 0, 1, 2, 3, 4], status := some .completed, actual }

def ended (actual : Nat) : Option (Host Dictated UInt32) :=
  let h := (dictating.place 0 (.transfer ⟨0, 0⟩ fetching)).1
  (h.controller.finish h.buffers 0 (some .completed) actual 8 [1, 2, 3, 4] []).map
    fun (controller, buffers, _) => { h with controller, buffers }

theorem short_report_tolerated :
    dictating.Drafts 0 (.transfer ⟨0, 0⟩ fetching) 1 fetched ∧
      fetched.Ends (answered 3) [0x80, 6, 0, 1, 0, 0, 4, 0, 1, 2, 3, 4] ∧
      ∃ k, ended 3 = some k ∧ k.controller.done = [answered 3] ∧
        (dispatch (fun _ _ => {}) k (answered 3)).2 = true ∧
        (dispatch (fun _ _ => {}) k (answered 3)).1.deliveries.map (·.completion) =
          [{ kind := .control, data := some [1, 2, 3], result := .ok 3 }] := by
  have hd : dictating.Drafts 0 (.transfer ⟨0, 0⟩ fetching) 1 fetched :=
    .transfer (c := ⟨1, 0⟩) rfl (by decide)
  have he : fetched.Ends (answered 3) [0x80, 6, 0, 1, 0, 0, 4, 0, 1, 2, 3, 4] :=
    ⟨rfl, rfl, rfl, by decide⟩
  obtain ⟨contracts, -, ht⟩ := report_tolerated hd he
  obtain ⟨k, hk⟩ : ∃ k, ended 3 = some k := ⟨_, rfl⟩
  obtain ⟨hok, hone⟩ := (ht (fun _ _ => {}) k).delivered (by decide)
  have hnone : k.controller.done = [answered 3] ∧ k.deliveries = [] := by
    obtain rfl := Option.some.inj hk
    exact ⟨rfl, rfl⟩
  refine ⟨hd, he, k, hk, hnone.1, hok, ?_⟩
  rw [hone, hnone.2]
  rfl

/-- The end of the data wraps, and nobody is notified. -/
theorem overlong_report_lost :
    fetched.Ends (answered (wordSize - 8)) [0x80, 6, 0, 1, 0, 0, 4, 0, 1, 2, 3, 4] ∧
      ∃ k, ended (wordSize - 8) = some k ∧ k.controller.done = [answered (wordSize - 8)] ∧
        (k.processEvents (fun _ _ => {}) none).2 = .crashed ∧
        (k.processEvents (fun _ _ => {}) none).1.deliveries = [] ∧
        (k.processEvents (fun _ _ => {}) none).1.controller.done = [] :=
  ⟨⟨rfl, rfl, rfl, by decide⟩, _, rfl, rfl, by decide, by decide, by decide⟩

end Host

end UsbTransfer
