import UsbTransfer.Proofs.Simulation

namespace UsbTransfer

namespace Host

variable {h : SimulatedHost} {t : Token} {q : Request} {contracts : Contracts} {id : ConnectionId}
  {c : Connection UInt32}

theorem exchange_disconnected (hl : h.lookup t = .ok (id, c))
    (hd : h.controller.disconnected = true)
    (hk : (c.device, q.route.answerKey) ∉ h.controller.holding)
    (hq : q.region.Fits q.buffer.length) :
    ∃ h' buffer, h.exchange t q = some (h', buffer, .error (.usb .noDevice)) := by
  have hx : h.controller.exchange c.device q.route q.payload =
      some (h.controller, q.payload, .error .noDevice) := by
    simp only [Simulated.exchange, if_neg hk, if_pos hd]
  have hrun : h.run ⟨id, q⟩ = _ := run_of_exchange (connection_of_lookup hl) hx
  exact ⟨_, _, (exchange_of_lookup hl hq).trans hrun⟩

theorem submit_disconnected (target : TargetId) (ha : h.admission t = .ok (contracts, id, c))
    (hd : h.controller.disconnected = true) (hf : h.controller.refusals = [])
    (hq : q.region.Fits q.buffer.length) :
    ∃ h', h.submit target t q = (h', .error (.usb .noDevice)) := by
  have hrefusal : h.controller.refusal = (h.controller, some .noDevice) := by
    simp [Simulated.refusal, hf, hd]
  have hplace : h.place target (.transfer t q) = _ := place_transfer ha fun _ => hq
  simp only [offer, hrefusal] at hplace
  obtain ⟨result, hsubmit, hanswer⟩ := submit_of_place hplace
  cases result with
  | ok u => cases hanswer
  | error e =>
    cases hanswer
    exact ⟨_, hsubmit⟩

end Host

namespace Cli

variable {s : Session Simulated UInt32} {t : Token} {q : Request}

/-- The host forwards every completion, and the device is open: nobody drains it, no failure is
injected and no endpoint is held. -/
structure Ready (s : Session Simulated UInt32) (t : Token) : Prop extends Attended s where
  contracts : ∃ c, s.host.contracts = some c ∧ ∀ kind, c.notifier kind = .forward
  opened : ∃ id c, s.host.lookup t = .ok (id, c) ∧ c.draining = 0
  refusals : s.host.controller.refusals = []
  holding : s.host.controller.holding = []

theorem ready_of_run {history : List Note} (hr : Run Host.fresh history s.host)
    (halive : s.alive = true) (howned : s.host.owned = true)
    (hrunning : ∃ p, s.pump = some p ∧ p.Running)
    (htargets : ∀ x ∈ s.host.controller.queue, ∀ p, x.pending = some p →
      p.target < s.host.targets.length)
    (hcontracts : ∃ c, s.host.contracts = some c ∧ ∀ kind, c.notifier kind = .forward)
    (hopened : ∃ id c, s.host.lookup t = .ok (id, c) ∧ c.draining = 0)
    (hrefusals : s.host.controller.refusals = []) (hholding : s.host.controller.holding = []) :
    Ready s t where
  alive := halive
  owned := howned
  running := hrunning
  queue x hx :=
    ⟨(Host.ledger_of_run hr).deliverable x (List.mem_append_right _ hx), htargets x hx⟩
  contracts := hcontracts
  opened := hopened
  refusals := hrefusals
  holding := hholding

theorem Ready.admitted (hs : Ready s t) : ∃ contracts id c,
    s.host.admission t = .ok (contracts, id, c) ∧ ∀ kind, contracts.notifier kind = .forward := by
  obtain ⟨contracts, hc, hforward⟩ := hs.contracts
  obtain ⟨id, c, hl, hd⟩ := hs.opened
  exact ⟨contracts, id, c, by simp [Host.admission, hc, hl, hd], hforward⟩

/-- Two reports of one outcome. A failure that the callback was told has the text of the bus alone,
and one that a call on the host returned has it after that of the host. -/
structure Alike (disconnected : Bool) (blocking asynchronous : Report) : Prop where
  operation : asynchronous.operation = blocking.operation
  device : asynchronous.device = blocking.device
  status : asynchronous.status = blocking.status
  data : asynchronous.data = blocking.data
  error : (blocking.error = none ∧ asynchronous.error = none) ∨
    ∃ e : UsbError, blocking.status = e.code ∧ blocking.error = some (HostError.usb e).message ∧
      asynchronous.error =
        some (if disconnected then (HostError.usb e).message else e.message)

theorem alike_of_answer (operation : String) (t : Token) (data : Option Bytes) (result : Outcome)
    (hdata : ∀ e, result = .error e → data = none) :
    Alike false (Report.returned { operation, device := t, asynchronous := false } data result)
      (Report.told { operation, device := t, asynchronous := true } data result) := by
  cases result with
  | ok n => exact ⟨rfl, rfl, rfl, rfl, .inl ⟨rfl, rfl⟩⟩
  | error e => exact ⟨rfl, rfl, rfl, hdata e rfl, .inr ⟨e, rfl, rfl, rfl⟩⟩

theorem transfer_alike (hs : Ready s t) (hq : q.Whole) (operation : String) :
    ∃ blocking asynchronous, (transfer s t operation false q).2 = .ok blocking ∧
      (transfer s t operation true q).2 = .ok asynchronous ∧
      Alike s.host.controller.disconnected blocking asynchronous := by
  obtain ⟨contracts, id, c, ha, hforward⟩ := hs.admitted
  have hk : (c.device, q.route.answerKey) ∉ s.host.controller.holding := by
    rw [hs.holding]
    exact List.not_mem_nil
  cases hd : s.host.controller.disconnected with
  | false =>
    have hblocking := transferBlocking_of_answer
      { operation, device := t, asynchronous := false } ha hd hq hk rfl
    have hasynchronous := transferAsynchronous_of_answer
      { operation, device := t, asynchronous := true } ha hd hq hs.toAttended
      (hforward q.route.kind) hs.refusals rfl
    exact ⟨_, _, hblocking, hasynchronous,
      alike_of_answer operation t _ _ fun e he => data_of_expected_error he⟩
  | true =>
    obtain ⟨h, buffer, hexchange⟩ :=
      Host.exchange_disconnected (Host.lookup_of_admission ha) hd hk hq.fits
    obtain ⟨h', hsubmit⟩ := Host.submit_disconnected
      (h := (s.host.addTarget (.channel {})).1) s.host.targets.length ha hd hs.refusals hq.fits
    have hadd : s.host.addTarget (.channel {}) =
      ((s.host.addTarget (.channel {})).1, s.host.targets.length) := rfl
    refine ⟨Report.withError { operation, device := t, asynchronous := false } (.usb .noDevice),
      Report.withError { operation, device := t, asynchronous := true } (.usb .noDevice), ?_, ?_,
      rfl, rfl, rfl, rfl, .inr ⟨.noDevice, rfl, rfl, rfl⟩⟩
    · simp [transfer, transferBlocking, hexchange]
    · simp only [transfer, transferAsynchronous, if_true]
      rw [hadd]
      simp only [hsubmit]

inductive Matched (disconnected : Bool) :
    Except CommandError Report → Except CommandError Report → Prop
  | failed (e : CommandError) : Matched disconnected (.error e) (.error e)
  | reported {blocking asynchronous : Report} (ha : Alike disconnected blocking asynchronous) :
      Matched disconnected (.ok blocking) (.ok asynchronous)

theorem transfer_matched (hs : Ready s t) (hq : q.Whole) (operation : String) :
    Matched s.host.controller.disconnected (transfer s t operation false q).2
      (transfer s t operation true q).2 := by
  obtain ⟨blocking, asynchronous, hb, ha, halike⟩ := transfer_alike hs hq operation
  rw [hb, ha]
  exact .reported halike

/-- Each command that can be executed in both modes. Lengths are words. -/
structure BothModes (s : Session Simulated UInt32) (t : Token) (timeout : UInt32)
    (config : Config) : Prop where
  control : ∀ c : ControlCommand, Matched s.host.controller.disconnected
    ((Command.control { c with asynchronous := false }).execute s t timeout config).2
    ((Command.control { c with asynchronous := true }).execute s t timeout config).2
  pipe : ∀ c : PipeCommand, c.length < wordSize → (∀ data, c.data = some data →
      data.length < wordSize) → Matched s.host.controller.disconnected
    ((Command.pipe { c with asynchronous := false }).execute s t timeout config).2
    ((Command.pipe { c with asynchronous := true }).execute s t timeout config).2

theorem modes_alike (hs : Ready s t) (timeout : UInt32) (config : Config) :
    BothModes s t timeout config := by
  constructor
  · intro c
    have hsetup : ∀ a, ControlCommand.setup { c with asynchronous := a } config = c.setup config :=
      fun _ => rfl
    simp only [Command.execute, ControlCommand.run, hsetup]
    rcases c.setup config with e | setup
    · exact .failed e
    · exact transfer_matched hs (whole_control c setup timeout) "control"
  · intro c hlength hdata
    have hbuffer : ∀ a, PipeCommand.buffer { c with asynchronous := a } = c.buffer := fun _ => rfl
    simp only [Command.execute, PipeCommand.run, hbuffer]
    rcases hb : c.buffer with e | buffer
    · exact .failed e
    · refine transfer_matched hs (whole_pipe c.pipe c.endpoint timeout buffer ?_) _
      unfold PipeCommand.buffer at hb
      split at hb
      · cases hb
        rw [Bytes.length_zeros]
        exact hlength
      · split at hb
        · rename_i data hgiven
          cases hb
          exact hdata _ hgiven
        · cases hb

theorem overflowing_ready : Ready ((Command.control overflowing).staged {}).startPump ⟨0, 0⟩ := by
  have hscripted :=
    Run.single (.script Host.fresh simulatedDevice .controlIn (.data deviceDescriptor))
  have hr : Run Host.fresh _ ((Command.control overflowing).staged {}).startPump.host :=
    (hscripted.snoc (.upkeep _ (.adopt simulatedDevice))).snoc (.upkeep _ (.resolve .standard))
  refine ready_of_run hr rfl rfl ⟨_, rfl, rfl, rfl⟩ (fun x hx => nomatch hx)
    ⟨_, rfl, fun kind => ?_⟩ ⟨_, _, rfl, rfl⟩ rfl rfl
  cases kind <;> rfl

theorem overflowing_modes_alike :
    Ready ((Command.control overflowing).staged {}).startPump ⟨0, 0⟩ ∧
      BothModes ((Command.control overflowing).staged {}).startPump ⟨0, 0⟩ 1000 {} :=
  ⟨overflowing_ready, modes_alike overflowing_ready 1000 {}⟩

/-- The same failure under two texts. -/
theorem overflowing_modes_differ :
    Ready ((Command.control overflowing).staged {}).startPump ⟨0, 0⟩ ∧
      ((Command.control overflowing).execute ((Command.control overflowing).staged {}).startPump
        ⟨0, 0⟩ 1000 {}).2 =
          .ok { operation := "control", device := ⟨0, 0⟩, asynchronous := false, status := -8
                error := some "USB error: Overflow" } ∧
      ((Command.control { overflowing with asynchronous := true }).execute
        ((Command.control overflowing).staged {}).startPump ⟨0, 0⟩ 1000 {}).2 =
          .ok { operation := "control", device := ⟨0, 0⟩, asynchronous := true, status := -8
                error := some "Overflow" } ∧
      "USB error: Overflow" ≠ "Overflow" :=
  ⟨overflowing_ready, rfl, rfl, by decide⟩

end Cli

end UsbTransfer
