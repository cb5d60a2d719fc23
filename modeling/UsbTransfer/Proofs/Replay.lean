import UsbTransfer.Proofs.Delivery

namespace UsbTransfer

namespace DeviceLog

def replay (held : List UInt8) : DeviceLog → List UInt8
  | performed _ (.claim i _) => held ++ [i]
  | performed _ (.release i) => held.erase i
  | performed _ .reset | closed _ => []
  | performed _ (.clearHalt _) | performed _ (.setInterface ..)
  | performed _ (.setConfiguration _) => held

def Lawful (held : List UInt8) : DeviceLog → Prop
  | performed _ (.claim i _) => i ∉ held
  | performed _ (.release i) | performed _ (.setInterface i _) => i ∈ held
  | performed _ .reset | performed _ (.clearHalt _) | performed _ (.setConfiguration _)
  | closed _ => True

theorem nodup_replay {held : List UInt8} {x : DeviceLog} (hn : held.Nodup) (hx : x.Lawful held) :
    (x.replay held).Nodup := by
  cases x with
  | closed d => exact .nil
  | performed d op =>
    cases op with
    | claim i force => exact List.nodup_append.2 ⟨hn, List.nodup_singleton i, by
        rintro j hj k hk rfl
        exact hx (List.mem_singleton.1 hk ▸ hj)⟩
    | release i => exact hn.erase i
    | reset => exact .nil
    | clearHalt | setInterface | setConfiguration => exact hn

end DeviceLog

def replayed (device : UInt32) (log : List DeviceLog) : List UInt8 :=
  (log.filter (·.device = device)).foldl DeviceLog.replay []

inductive DeviceCall where
  | operate (device : UInt32) (op : DeviceOp)
  | close (device : UInt32)
  | disconnect
  deriving DecidableEq, Repr

def DeviceCall.record? : DeviceCall → Option DeviceLog
  | operate device op => some (.performed device op)
  | close device => some (.closed device)
  | disconnect => none

def recorded (history : List (DeviceCall × Except UsbError Unit)) : List DeviceLog :=
  (history.filter (·.2.isOk)).filterMap (·.1.record?)

theorem replayed_concat (device : UInt32) (log : List DeviceLog) (x : DeviceLog) :
    replayed device (log ++ [x]) =
      if x.device = device then x.replay (replayed device log) else replayed device log := by
  by_cases hd : x.device = device <;> simp [replayed, hd]

theorem recorded_concat_ok (history : List (DeviceCall × Except UsbError Unit)) (c : DeviceCall) :
    recorded (history ++ [(c, .ok ())]) = recorded history ++ c.record?.toList := by
  cases c <;> simp [recorded, Except.isOk, Except.toBool, DeviceCall.record?]

theorem recorded_concat_error (history : List (DeviceCall × Except UsbError Unit)) (c : DeviceCall)
    (e : UsbError) : recorded (history ++ [(c, .error e)]) = recorded history := by
  simp [recorded, Except.isOk, Except.toBool]

namespace Simulated

def handle (s : Simulated) : DeviceCall → Simulated × Except UsbError Unit
  | .operate device op => s.operate device op
  | .close device => (s.close device, .ok ())
  | .disconnect => (s.disconnect, .ok ())

/-- Calls with their answers. What else happens meanwhile leaves the claims and the log alone. -/
inductive Handled : Simulated → List (DeviceCall × Except UsbError Unit) → Simulated → Prop
  | refl (s : Simulated) : Handled s [] s
  | call {s₁ s₂ : Simulated} {history : List (DeviceCall × Except UsbError Unit)}
      (hs : Handled s₁ history s₂) (c : DeviceCall) :
      Handled s₁ (history ++ [(c, (s₂.handle c).2)]) (s₂.handle c).1
  | aside {s₁ s₂ s₃ : Simulated} {history : List (DeviceCall × Except UsbError Unit)}
      (hs : Handled s₁ history s₂) (hk : Steady s₂ s₃) : Handled s₁ history s₃

variable {s s' : Simulated} {history : List (DeviceCall × Except UsbError Unit)}

theorem mem_claimed {d : UInt32} {i : UInt8} : i ∈ s.claimed d ↔ (d, i) ∈ s.claims := by
  simp [claimed]

def interfaces (claims : List (UInt32 × UInt8)) (device : UInt32) : List UInt8 :=
  (claims.filter (·.1 = device)).map (·.2)

theorem interfaces_concat (claims : List (UInt32 × UInt8)) (d d' : UInt32) (i : UInt8) :
    interfaces (claims ++ [(d, i)]) d' =
      if d = d' then interfaces claims d' ++ [i] else interfaces claims d' := by
  by_cases hd : d = d' <;> simp [interfaces, hd]

theorem interfaces_erase (claims : List (UInt32 × UInt8)) (d d' : UInt32) (i : UInt8) :
    interfaces (claims.erase (d, i)) d' =
      if d = d' then (interfaces claims d').erase i else interfaces claims d' := by
  -- the first entry for both is the first for the interface among those of the device
  induction claims with
  | nil => simp [interfaces]
  | cons c claims ih =>
    simp only [interfaces] at ih ⊢
    grind

theorem interfaces_filter (claims : List (UInt32 × UInt8)) (d d' : UInt32) :
    interfaces (claims.filter (·.1 ≠ d)) d' = if d = d' then [] else interfaces claims d' := by
  simp only [interfaces, List.filter_filter]
  split
  · rw [List.filter_eq_nil_iff.2 (by grind), List.map_nil]
  · exact congrArg _ (List.filter_congr (by grind))

structure Logged (s : Simulated) (x : DeviceLog) (s' : Simulated) : Prop where
  lawful : x.Lawful (s.claimed x.device)
  ops : s'.ops = s.ops ++ [x]
  claimed : ∀ d, s'.claimed d = if x.device = d then x.replay (s.claimed d) else s.claimed d

theorem claimsAfter_cases (s : Simulated) (device : UInt32) (op : DeviceOp) :
    (¬ (DeviceLog.performed device op).Lawful (s.claimed device) ∧
        ∃ e, claimsAfter s.claims device op = .error e) ∨
      ∃ claims, claimsAfter s.claims device op = .ok claims ∧
        Logged s (.performed device op)
          { s with claims, ops := s.ops ++ [.performed device op] } := by
  cases op with
  | reset => exact .inr ⟨_, rfl, trivial, rfl, fun d => interfaces_filter s.claims device d⟩
  | clearHalt e => exact .inr ⟨_, rfl, trivial, rfl, fun d => (ite_self _).symm⟩
  | setConfiguration n => exact .inr ⟨_, rfl, trivial, rfl, fun d => (ite_self _).symm⟩
  | claim i force =>
    by_cases hi : (device, i) ∈ s.claims
    · exact .inl ⟨not_not_intro (mem_claimed.2 hi), .busy, if_pos hi⟩
    · exact .inr ⟨_, if_neg hi, fun hc => hi (mem_claimed.1 hc), rfl,
        fun d => interfaces_concat s.claims device d i⟩
  | release i =>
    by_cases hi : (device, i) ∈ s.claims
    · exact .inr ⟨_, if_pos hi, mem_claimed.2 hi, rfl,
        fun d => interfaces_erase s.claims device d i⟩
    · exact .inl ⟨fun hc => hi (mem_claimed.1 hc), .notFound, if_neg hi⟩
  | setInterface i setting =>
    by_cases hi : (device, i) ∈ s.claims
    · exact .inr ⟨_, if_pos hi, mem_claimed.2 hi, rfl, fun d => (ite_self _).symm⟩
    · exact .inl ⟨fun hc => hi (mem_claimed.1 hc), .notFound, if_neg hi⟩

theorem operate_cases (s : Simulated) (device : UInt32) (op : DeviceOp) :
    (¬ (s.disconnected = false ∧ (DeviceLog.performed device op).Lawful (s.claimed device)) ∧
        ∃ e, s.operate device op = (s, .error e)) ∨
      (s.disconnected = false ∧ (s.operate device op).2 = .ok () ∧
        Logged s (.performed device op) (s.operate device op).1) := by
  unfold operate
  by_cases hd : s.disconnected = true
  · refine .inl ⟨fun hc => ?_, .noDevice, if_pos hd⟩
    rw [hd] at hc
    cases hc.1
  · rw [if_neg hd]
    rcases s.claimsAfter_cases device op with ⟨hn, e, he⟩ | ⟨claims, he, hl⟩ <;> rw [he]
    · exact .inl ⟨fun hc => hn hc.2, e, rfl⟩
    · exact .inr ⟨by simpa using hd, rfl, hl⟩

theorem handle_cases (s : Simulated) (c : DeviceCall) :
    (∃ e, s.handle c = (s, .error e)) ∨
      (c.record? = none ∧ (s.handle c).2 = .ok () ∧ Steady s (s.handle c).1) ∨
      ∃ x, c.record? = some x ∧ (s.handle c).2 = .ok () ∧ Logged s x (s.handle c).1 := by
  cases c with
  | operate device op =>
    rcases s.operate_cases device op with ⟨-, e, he⟩ | ⟨-, hok, hl⟩
    · exact .inl ⟨e, he⟩
    · exact .inr (.inr ⟨_, rfl, hok, hl⟩)
  | close device =>
    exact .inr (.inr ⟨_, rfl, rfl, trivial, rfl, fun d => interfaces_filter s.claims device d⟩)
  | disconnect => exact .inr (.inl ⟨rfl, rfl, ⟨rfl, rfl⟩⟩)

structure Told (s : Simulated) : Prop where
  claimed : ∀ d, s.claimed d = replayed d s.ops
  nodup : ∀ d, (s.claimed d).Nodup
  lawful : ∀ earlier x, earlier ++ [x] <+: s.ops → x.Lawful (replayed x.device earlier)

theorem Told.steady (ht : Told s) (hk : Steady s s') : Told s' := by
  have hclaimed : ∀ d, s'.claimed d = s.claimed d := fun d => by
    rw [Simulated.claimed, Simulated.claimed, hk.claims]
  refine ⟨fun d => ?_, fun d => ?_, fun earlier x hx => ht.lawful earlier x (hk.ops ▸ hx)⟩
  · rw [hclaimed, hk.ops]
    exact ht.claimed d
  · rw [hclaimed]
    exact ht.nodup d

theorem Told.logged {x : DeviceLog} (ht : Told s) (hl : Logged s x s') : Told s' := by
  refine ⟨fun d => ?_, fun d => ?_, fun earlier y hy => ?_⟩
  · rw [hl.claimed, hl.ops, replayed_concat, ht.claimed]
  · rw [hl.claimed]
    split
    · rename_i hd
      exact DeviceLog.nodup_replay (ht.nodup d) (hd ▸ hl.lawful)
    · exact ht.nodup d
  · -- the new entry is judged by the log before it, which tells the claims before it
    rw [hl.ops, List.prefix_concat_iff] at hy
    rcases hy with he | hp
    · obtain ⟨rfl, hxy⟩ := List.append_inj' he rfl
      obtain rfl := List.singleton_injective hxy
      rw [← ht.claimed]
      exact hl.lawful
    · exact ht.lawful earlier y hp

theorem Told.handle (ht : Told s) (c : DeviceCall) : Told (s.handle c).1 := by
  rcases s.handle_cases c with ⟨e, he⟩ | ⟨-, -, hk⟩ | ⟨x, -, -, hl⟩
  · rw [he]
    exact ht
  · exact ht.steady hk
  · exact ht.logged hl

theorem told_fresh : Told {} :=
  ⟨fun _ => rfl, fun _ => .nil, fun _ _ hx => by simp at hx⟩

theorem Handled.told (hr : Handled s history s') (ht : Told s) : Told s' := by
  induction hr with
  | refl => exact ht
  | call hs c ih => exact ih.handle c
  | aside hs hk ih => exact ih.steady hk

theorem Handled.ops (hr : Handled s history s') : s'.ops = s.ops ++ recorded history := by
  induction hr with
  | refl => exact (List.append_nil _).symm
  | @call s₂ history hs c ih =>
    rcases s₂.handle_cases c with ⟨e, he⟩ | ⟨hc, hok, hk⟩ | ⟨x, hc, hok, hl⟩
    · rw [he, recorded_concat_error]
      exact ih
    · rw [hok, recorded_concat_ok, hc, hk.ops, ih]
      simp
    · rw [hok, recorded_concat_ok, hc, hl.ops, ih, List.append_assoc]
      rfl
  | aside hs hk ih => rw [hk.ops, ih]

/-- The claims are what the log says, the log is what succeeded, and what fails changes nothing. -/
structure Replays (history : List (DeviceCall × Except UsbError Unit)) (s : Simulated) : Prop
    extends Told s where
  ops : s.ops = recorded history
  refused : ∀ c e, (s.handle c).2 = .error e → (s.handle c).1 = s
  answer : ∀ d op, (s.handle (.operate d op)).2 = .ok () ↔
    s.disconnected = false ∧ (DeviceLog.performed d op).Lawful (s.claimed d)

theorem claims_replay_log (hr : Handled {} history s) : Replays history s := by
  have ht := hr.told told_fresh
  refine ⟨ht, hr.ops, fun c e he => ?_, fun d op => ?_⟩
  · rcases s.handle_cases c with ⟨e', he'⟩ | ⟨-, hok, -⟩ | ⟨x, -, hok, -⟩
    · rw [he']
    · rw [hok] at he
      cases he
    · rw [hok] at he
      cases he
  · rcases s.operate_cases d op with ⟨hn, e, he⟩ | ⟨hd, hok, hl⟩
    · refine ⟨fun hok => ?_, fun hl => absurd hl hn⟩
      rw [handle, he] at hok
      cases hok
    · exact ⟨fun _ => ⟨hd, hl.lawful⟩, fun _ => hok⟩

end Simulated

namespace Host

open Simulated

variable {h h' : SimulatedHost} {k : Simulated} {n : Note} {notes : List Note}
  {history : List (DeviceCall × Except UsbError Unit)}

theorem handled_perform (hk : Handled k history h.controller) (u : Upkeep) :
    ∃ history', Handled k history' (h.perform u).controller := by
  cases u with
  | operate t op =>
    simp only [perform, operate]
    split
    · exact ⟨_, hk⟩
    · rename_i c _
      exact ⟨_, hk.call (.operate c.device op)⟩
  | close t =>
    simp only [perform, close]
    split
    · exact ⟨_, hk⟩
    · rename_i c _
      rw [reap_eq]
      exact ⟨_, hk.call (.close c.device)⟩
  | disconnect => exact ⟨_, hk.call .disconnect⟩
  | resolve r =>
    simp only [perform, resolve]
    split <;> exact ⟨_, hk⟩
  | beginDrain t =>
    simp only [perform, beginDrain]
    split <;> exact ⟨_, hk⟩
  | receive t =>
    simp only [perform]
    split <;> exact ⟨_, hk⟩
  | dropTarget t =>
    simp only [perform, dropTarget]
    split <;> exact ⟨_, hk⟩
  | dropReceiver t =>
    simp only [perform, dropReceiver]
    split <;> exact ⟨_, hk⟩
  | refuseNext | setPacketSize | hold | release => exact ⟨_, hk.aside ⟨rfl, rfl⟩⟩
  | adopt | endDrain | addBuffer | write | setValid | addTarget | answer | leave => exact ⟨_, hk⟩

theorem handled_move (hk : Handled k history h.controller) (hm : Move h n h') :
    ∃ history', Handled k history' h'.controller := by
  cases hm with
  | upkeep u => exact handled_perform hk u
  | allocate t e packets given =>
    rcases h.allocate_cases t e packets given with he | ⟨packetLength, he⟩ <;> rw [he] <;>
      exact ⟨_, hk⟩
  | script device e r => exact ⟨_, hk.aside ⟨rfl, rfl⟩⟩
  | exchange hc hd hr =>
    obtain ⟨sent, rfl⟩ := run_eq hc hd hr
    exact ⟨_, hk.aside ⟨rfl, rfl⟩⟩
  | place target o => exact ⟨_, hk.aside (h.steady_place target o)⟩
  | poll hb => exact ⟨_, hk.aside ⟨rfl, rfl⟩⟩
  | deliver hb hp hs =>
    rw [controller_deliver]
    exact ⟨_, hk⟩

theorem handled_of_run (hr : Run h notes h') :
    ∃ history, Handled h.controller history h'.controller := by
  induction hr with
  | refl => exact ⟨_, .refl _⟩
  | snoc _ hm ih =>
    obtain ⟨history, hk⟩ := ih
    exact handled_move hk hm

/-- Two devices. Of the first an interface is claimed twice, used, released and used again; the
second is claimed, closed and claimed after it is gone. -/
def managing : List Act :=
  [.upkeep (.resolve .standard), .upkeep (.adopt 1), .upkeep (.adopt 2),
    .upkeep (.operate ⟨0, 0⟩ (.claim 0 true)), .upkeep (.operate ⟨1, 0⟩ (.claim 0 false)),
    .upkeep (.operate ⟨0, 0⟩ (.claim 0 false)), .upkeep (.operate ⟨0, 0⟩ (.claim 3 false)),
    .upkeep (.operate ⟨0, 0⟩ (.setInterface 0 1)), .upkeep (.operate ⟨0, 0⟩ (.release 0)),
    .upkeep (.operate ⟨0, 0⟩ (.setInterface 0 0)), .upkeep (.close ⟨1, 0⟩),
    .upkeep .disconnect, .upkeep (.operate ⟨0, 0⟩ .reset)]

theorem managing_replays_log :
    ∃ history, Handled {} history (after managing).controller ∧
      Replays history (after managing).controller ∧
      (after managing).controller.claimed 1 = [3] ∧ (after managing).controller.claimed 2 = [] ∧
      (after managing).controller.ops =
        [.performed 1 (.claim 0 true), .performed 2 (.claim 0 false), .performed 1 (.claim 3 false),
          .performed 1 (.setInterface 0 1), .performed 1 (.release 0), .closed 2] := by
  obtain ⟨notes, hr, -⟩ := after_run managing
  obtain ⟨history, hh⟩ := handled_of_run hr
  exact ⟨history, hh, claims_replay_log hh, by decide, by decide, by decide⟩

end Host

end UsbTransfer
