import UsbTransfer.Cli.Simulation
import UsbTransfer.Proofs.Awaited
import UsbTransfer.Proofs.FullPackets

namespace UsbTransfer

namespace Cli

def Command.staged (c : Command) (config : Config) : Session Simulated UInt32 :=
  let host : SimulatedHost := { controller := c.script config {} }
  { host := ((host.adopt simulatedDevice).1.resolve .standard).1
    interval := config.events.pollInterval.toNat }

/-- A pump runs at least where a command waits for a completion. -/
def Served (c : Command) (config : Config) (s : Session Simulated UInt32) : Prop :=
  s = (c.staged config).startPump ∨ ¬ c.IsAsynchronous ∧ s = c.staged config

variable {a : Bool} {c : Command} {config : Config} {s : Session Simulated UInt32} {q : Request}

theorem script_plain (c : Command) (config : Config) :
    (c.script config {}).refusals = [] ∧ (c.script config {}).holding = [] ∧
      (c.script config {}).disconnected = false ∧ (c.script config {}).queue = [] := by
  cases c with
  | control c =>
    simp only [Command.script]
    split <;> exact ⟨rfl, rfl, rfl, rfl⟩
  | pipe c =>
    simp only [Command.script]
    split <;> exact ⟨rfl, rfl, rfl, rfl⟩
  | packets | reset | clearStall => exact ⟨rfl, rfl, rfl, rfl⟩

theorem Served.host (hs : Served c config s) : s.host = (c.staged config).host := by
  rcases hs with rfl | ⟨-, rfl⟩ <;> rfl

theorem Served.controller (hs : Served c config s) :
    s.host.controller = c.script config {} := by
  rw [hs.host]
  rfl

theorem Served.admission (hs : Served c config s) : s.host.admission ⟨0, 0⟩ =
    .ok (⟨.forward, .forward, .forward, .forward⟩, 0, { device := simulatedDevice }) := by
  rw [hs.host]
  rfl

theorem attended_staged (c : Command) (config : Config) :
    Attended (c.staged config).startPump where
  alive := rfl
  owned := rfl
  running := ⟨_, rfl, rfl, rfl⟩
  queue x hx := by
    have hq : (c.staged config).startPump.host.controller.queue = [] :=
      (script_plain c config).2.2.2
    rw [hq] at hx
    cases hx

theorem transfer_served (hs : Served c config s) (ha : a = true → c.IsAsynchronous) (hq : q.Whole)
    (operation : String) (data : Option Bytes) (result : Outcome)
    (he : expected q.route.direction q.dataLength
      ((c.script config {}).take (simulatedDevice, q.route.answerKey)).2 = (data, result)) :
    (transfer s ⟨0, 0⟩ operation a q).2 =
      .ok (if a then
          Report.told { operation, device := ⟨0, 0⟩, asynchronous := a } data result
        else Report.returned { operation, device := ⟨0, 0⟩, asynchronous := a } data result) := by
  obtain ⟨hrefusals, hholding, hconnected, -⟩ := script_plain c config
  rw [← hs.controller] at he hrefusals hholding hconnected
  cases a with
  | false =>
    exact transferBlocking_of_answer _ hs.admission hconnected hq (by simp [hholding]) he
  | true =>
    have hpumped : s = (c.staged config).startPump :=
      hs.resolve_right fun hf => hf.1 (ha rfl)
    exact transferAsynchronous_of_answer _ hs.admission hconnected hq
      (hpumped ▸ attended_staged c config) (by cases q.route <;> rfl) hrefusals he

def answerTo (length : Nat) : Bytes :=
  if deviceDescriptor.length ≤ length then deviceDescriptor else .counting length

theorem length_answerTo (length : Nat) : (answerTo length).length = min length 18 := by
  have hd : deviceDescriptor.length = 18 := rfl
  unfold answerTo
  split
  · omega
  · rw [Bytes.length_counting]
    omega

structure Moved (r : Report) (operation : String) (asynchronous : Bool) (n : Nat)
    (data : Option Bytes) : Prop where
  operation : r.operation = operation
  device : r.device = ⟨0, 0⟩
  asynchronous : r.asynchronous = asynchronous
  status : r.status = Outcome.code (.ok n)
  exact : n < wordSize / 2 → r.status = n
  error : r.error = none
  data : r.data = data

theorem Moved.of_status {r : Report} {operation : String} {n : Nat} {data : Option Bytes}
    (hoperation : r.operation = operation) (hdevice : r.device = ⟨0, 0⟩)
    (hasynchronous : r.asynchronous = a) (hstatus : r.status = Outcome.code (.ok n))
    (herror : r.error = none) (hdata : r.data = data) : Moved r operation a n data where
  operation := hoperation
  device := hdevice
  asynchronous := hasynchronous
  status := hstatus
  exact hn := hstatus.trans (Outcome.code_of_lt hn)
  error := herror
  data := hdata

theorem moved_of_told (operation : String) (a : Bool) (n : Nat) (data : Option Bytes) :
    Moved (if a then Report.told { operation, device := ⟨0, 0⟩, asynchronous := a } data (.ok n)
      else Report.returned { operation, device := ⟨0, 0⟩, asynchronous := a } data (.ok n))
      operation a n data := by
  cases a <;> refine .of_status rfl rfl rfl ?_ rfl rfl <;>
    simp only [Report.told, Report.returned, Report.withOutcome, Report.withData, if_true, if_false,
      Bool.false_eq_true]

def Moves (c : Command) (config : Config) (s : Session Simulated UInt32) (timeout : UInt32)
    (operation : String) (n : Nat) (data : Option Bytes) : Prop :=
  ∃ r, (c.execute s ⟨0, 0⟩ timeout config).2 = .ok r ∧
    Moved r operation (decide c.IsAsynchronous) n data

theorem isAsynchronous_control (c : ControlCommand) :
    decide (Command.control c).IsAsynchronous = c.asynchronous :=
  Bool.eq_iff_iff.2 decide_eq_true_iff

theorem isAsynchronous_pipe (c : PipeCommand) :
    decide (Command.pipe c).IsAsynchronous = c.asynchronous :=
  Bool.eq_iff_iff.2 decide_eq_true_iff

theorem transfer_moved (hs : Served c config s) (ha : a = true → c.IsAsynchronous) (hq : q.Whole)
    (operation : String) (data : Option Bytes) (n : Nat)
    (he : expected q.route.direction q.dataLength
      ((c.script config {}).take (simulatedDevice, q.route.answerKey)).2 = (data, .ok n)) :
    ∃ r, (transfer s ⟨0, 0⟩ operation a q).2 = .ok r ∧ Moved r operation a n data :=
  ⟨_, transfer_served hs ha hq operation data (.ok n) he, moved_of_told operation a n data⟩

def PacketCommand.size (c : PacketCommand) (config : Config) : Nat :=
  (c.size? config).getD simulatedPacketSize

def PacketCommand.stream (c : PacketCommand) (config : Config) : Stream where
  token := ⟨0, 0⟩
  endpoint := c.endpoint
  packets := c.count config
  packetLength := c.size config
  slot := some (.ofPackets 1 c.endpoint (c.count config) (c.size config))

def PacketCommand.allocated (c : PacketCommand) (config : Config) : SimulatedHost :=
  { ((Command.packets c).staged config).host.draw with streams := [c.stream config] }

def PacketCommand.provided (c : PacketCommand) (config : Config) : SimulatedHost :=
  (((c.allocated config).addBuffer (.zeroed (c.stream config).capacity)).1.addTarget
    (.channel {})).1

def PacketCommand.posted (c : PacketCommand) (config : Config) (timeout : UInt32) : Transfer :=
  (c.provided config).rebind 0 ⟨.forward, .forward, .forward, .forward⟩ 0 0 0 timeout
    (.ofPackets 1 c.endpoint (c.count config) (c.size config))

def packetBytes (count size : Nat) : Bytes :=
  (List.range count).flatMap fun i => List.replicate size (UInt8.ofNat i)

theorem length_packetBytes (count size : Nat) : (packetBytes count size).length = count * size := by
  simp [packetBytes]

section Packets

variable (c : PacketCommand) (config : Config) (timeout : UInt32)

theorem allocate_staged (hp : 0 < c.count config) (hs : 0 < c.size config) :
    ((Command.packets c).staged config).startPump.host.allocate ⟨0, 0⟩ c.endpoint (c.count config)
        (c.size? config) =
      (c.allocated config, .ok 0) := by
  have hlookup : ((Command.packets c).staged config).startPump.host.lookup ⟨0, 0⟩ =
      .ok (0, { device := simulatedDevice }) := rfl
  have hreported :
    Controller.maxPacket ((Command.packets c).staged config).startPump.host.controller
      simulatedDevice c.endpoint =
        (((Command.packets c).staged config).host.controller, .ok (c.size config)) := by
    have hdisconnected : ((Command.packets c).script config {}).disconnected = false := rfl
    have hsizes : ((Command.packets c).script config {}).packetSizes =
      [((simulatedDevice, c.endpoint), c.size config)] := rfl
    show (_, Simulated.maxPacket ((Command.packets c).script config {}) _ _) = _
    simp only [Simulated.maxPacket, hdisconnected, hsizes, List.lookup_cons_self]
    rfl
  have hlength : Host.packetSize (.ok (c.size config)) (c.size? config) = .ok (c.size config) := by
    obtain ⟨n, hn⟩ := Nat.exists_eq_succ_of_ne_zero (Nat.ne_of_gt hs)
    rw [hn]
    rfl
  simp only [Host.allocate, hlookup, if_neg (Nat.ne_of_gt hp), hreported, hlength]
  rfl

theorem submit_provided :
    (c.provided config).submitStream 0 0 (c.stream config) 0 timeout =
      ((c.provided config).queued simulatedDevice (c.posted config timeout), .ok ()) := by
  have hstream : (c.provided config).streams[0]? = some (c.stream config) := rfl
  have hadmission : (c.provided config).admission (c.stream config).token =
      .ok (⟨.forward, .forward, .forward, .forward⟩, 0, { device := simulatedDevice }) := rfl
  have hcapacity : (c.stream config).capacity ≤ (c.provided config).buffers.capacity 0 := by
    show _ ≤ Buffers.capacity [.zeroed (c.stream config).capacity] 0
    simp [Buffers.capacity, Buffers.bytes, Storage.zeroed]
  have hplace : (c.provided config).place 0 (.stream 0 0 timeout) =
      ((c.provided config).queued simulatedDevice (c.posted config timeout), .done) := by
    rw [Host.place_stream hstream hadmission hcapacity rfl, Host.offer_accepted rfl rfl]
    rfl
  obtain ⟨answer, hsubmit, hanswer⟩ := Host.submitStream_of_place hstream hplace
  cases answer with
  | ok u => exact hsubmit
  | error e => cases hanswer

variable {c config} (hp : 0 < c.count config) (hs : 0 < c.size config)
  (hsize : c.size config < UInt32.size) (hw : c.count config * c.size config < wordSize)

include hp hs

theorem run_provided :
    c.run ((Command.packets c).staged config).startPump ⟨0, 0⟩ timeout config =
      completed { ((Command.packets c).staged config).startPump with
        host := (c.provided config).queued simulatedDevice (c.posted config timeout) } 0
        { operation := "isochronous", device := ⟨0, 0⟩, asynchronous := true } timeout := by
  have hstream : (c.allocated config).streams[0]? = some (c.stream config) := rfl
  have hbuffer : (c.allocated config).addBuffer (.zeroed (c.stream config).capacity) =
      (((c.allocated config).addBuffer (.zeroed (c.stream config).capacity)).1, 0) := rfl
  have htarget : ((c.allocated config).addBuffer (.zeroed (c.stream config).capacity)).1.addTarget
      (.channel {}) = (c.provided config, 0) := rfl
  simp only [PacketCommand.run, allocate_staged c config hp hs, hstream]
  rw [hbuffer]
  simp only [htarget, submit_provided c config timeout]

include hsize hw

theorem finished_posted {y : Transfer} {m : Buffers}
    (hy : (c.provided config).finished simulatedDevice (c.posted config timeout) = (y, m)) :
    (∀ k : SimulatedHost, k.settle y = some (.ok (c.count config * c.size config), none)) ∧
      m[0]? = some { bytes := packetBytes (c.count config) (c.size config), valid := 0 } := by
  have hof : (UInt32.ofNat (c.size config)).toNat = c.size config := UInt32.toNat_ofNat_of_lt' hsize
  have hanswer : ((c.provided config).controller.take
      (Simulated.answerKey simulatedDevice (c.posted config timeout))).2 =
        some (.packets (.replicate (c.count config) (.ofNat (c.size config)))) := by
    show (Simulated.take ((Command.packets c).script config {}) (simulatedDevice, c.endpoint)).2 = _
    simp [Simulated.take, Command.script, Simulated.addResponse, Simulated.setPacketSize,
      PacketCommand.size]
  have hbuffer : (c.provided config).buffers[0]? =
      some (.zeroed (c.count config * (UInt32.ofNat (c.size config)).toNat)) := by
    rw [hof, ← Nat.mod_eq_of_lt hw]
    rfl
  have hfull :=
    Host.finished_full (h := c.provided config) (x := c.posted config timeout) rfl rfl hp
    (by rwa [hof]) (by rwa [hof]) hanswer hbuffer
  rw [hy, hof, Simulated.received_replicate, hof, ← List.range_eq_range'] at hfull
  exact hfull

theorem run_moved :
    ∃ r, (c.run ((Command.packets c).staged config).startPump ⟨0, 0⟩ timeout config).2 = .ok r ∧
      Moved r "isochronous" true (c.count config * c.size config)
        (some (packetBytes (c.count config) (c.size config))) := by
  rcases hfinished : (c.provided config).finished simulatedDevice (c.posted config timeout) with
    ⟨y, m⟩
  obtain ⟨hsettle, hfilled⟩ := finished_posted timeout hp hs hsize hw hfinished
  have hframe := (c.provided config).frame_finished simulatedDevice (c.posted config timeout)
  rw [hfinished] at hframe
  have hkind : y.kind = .isochronous := (Transfer.kind_of_frame hframe).trans rfl
  obtain ⟨k, hbuffers, completion, hread, hcompleted⟩ := completed_of_youngest
    { operation := "isochronous", device := ⟨0, 0⟩, asynchronous := true } timeout
    (attended_staged (.packets c) config)
    (h := (c.provided config).queued simulatedDevice (c.posted config timeout))
    (by rw [Host.queue_queued, hfinished]; rfl) (Host.owned_queued ..) (Host.targets_queued ..)
    (Transfer.pending_of_frame hframe) rfl (by rw [hkind]; rfl) hsettle
  -- no transfer comes before this one in the pass, so nobody else has written to the buffer
  have hk : k.buffers[0]? =
      some { bytes := packetBytes (c.count config) (c.size config), valid := 0 } := by
    rw [hbuffers rfl]
    show ((c.provided config).finished simulatedDevice (c.posted config timeout)).2[0]? = _
    rw [hfinished]
    exact hfilled
  have hcompletion : completion =
      { kind := .isochronous
        data := some (packetBytes (c.count config) (c.size config))
        result := .ok (c.count config * c.size config)
        valid := some (c.count config * c.size config) } := by
    rw [hread, Pending.message, if_pos hkind]
    exact Host.read_mark hk (length_packetBytes _ _)
  rw [run_provided timeout hp hs]
  refine ⟨_, hcompleted, ?_⟩
  rw [hcompletion]
  exact moved_of_told "isochronous" true _ _

end Packets

section Controls

variable {c : ControlCommand} {setup : SetupPacket} {timeout : UInt32}

def ControlCommand.scripted (c : ControlCommand) (config : Config) : Nat :=
  (c.length.map (·.toNat)).getD config.transfers.controlBuffer.toNat

theorem toNat_stageLength {n : Nat} {e : CommandError} {length : UInt16}
    (hl : stageLength n e = .ok length) : length.toNat = n := by
  unfold stageLength at hl
  split at hl
  · rename_i hn
    cases hl
    exact UInt16.toNat_ofNat_of_lt' hn
  · cases hl

/-- What is said first decides: the length, the data, the configuration. -/
inductive Sized (c : ControlCommand) (config : Config) (length : UInt16) : Prop
  | length (hl : c.length = some length)
  | data (d : Bytes) (hl : c.length = none) (hd : c.data = some d) (hn : length.toNat = d.length)
  | buffer (hl : c.length = none) (hd : c.data = none)
      (hn : Direction.ofByte c.requestType = .deviceToHost →
        length.toNat = config.transfers.controlBuffer.toNat)

theorem setup_cases (hsetup : c.setup config = .ok setup) :
    setup.direction = Direction.ofByte c.requestType ∧ Sized c config setup.length := by
  unfold ControlCommand.setup at hsetup
  split at hsetup
  · -- a given length
    rename_i hl
    cases hsetup
    exact ⟨rfl, .length hl⟩
  · -- no length, but data
    rename_i d hl hd
    cases hn : stageLength d.length .dataTooLong with
    | error e =>
      rw [hn] at hsetup
      cases hsetup
    | ok length =>
      rw [hn] at hsetup
      cases hsetup
      exact ⟨rfl, .data d hl hd (toNat_stageLength hn)⟩
  · -- neither
    rename_i hl hd
    cases hdirection : Direction.ofByte c.requestType with
    | hostToDevice =>
      simp only [hdirection] at hsetup
      cases hsetup
      exact ⟨hdirection, .buffer hl hd fun hin => nomatch hdirection.symm.trans hin⟩
    | deviceToHost =>
      simp only [hdirection] at hsetup
      cases hn : stageLength config.transfers.controlBuffer.toNat .controlBufferTooLong with
      | error e =>
        rw [hn] at hsetup
        cases hsetup
      | ok length =>
        rw [hn] at hsetup
        cases hsetup
        exact ⟨hdirection, .buffer hl hd fun _ => toNat_stageLength hn⟩

theorem Sized.scripted (hs : Sized c config setup.length)
    (hin : Direction.ofByte c.requestType = .deviceToHost) (hd : c.length = none → c.data = none) :
    c.scripted config = setup.length.toNat := by
  cases hs with
  | length hl => simp [ControlCommand.scripted, hl]
  | data d hl hgiven => cases (hd hl).symm.trans hgiven
  | buffer hl hnone hn => simp [ControlCommand.scripted, hl, hn hin]

theorem drift_of_data {data : Bytes} (hsetup : c.setup config = .ok setup) (hl : c.length = none)
    (hd : c.data = some data) :
    c.scripted config = config.transfers.controlBuffer.toNat ∧
      setup.length.toNat = data.length := by
  refine ⟨by simp [ControlCommand.scripted, hl], ?_⟩
  cases (setup_cases hsetup).2 with
  | length hl' => cases hl.symm.trans hl'
  | data d hl' hd' hn =>
    cases hd.symm.trans hd'
    exact hn
  | buffer hl' hd' hn => cases hd.symm.trans hd'

theorem take_control (hd : Direction.ofByte c.requestType = .deviceToHost) :
    (((Command.control c).script config {}).take (simulatedDevice, .controlIn)).2 =
      some (.data (answerTo (c.scripted config))) := by
  simp only [Command.script, hd]
  rfl

theorem control_in_moves (hs : Served (.control c) config s)
    (hin : Direction.ofByte c.requestType = .deviceToHost) (hsetup : c.setup config = .ok setup)
    (hfit : min (c.scripted config) 18 ≤ setup.length.toNat) :
    Moves (.control c) config s timeout "control" (min (c.scripted config) 18)
      (some (answerTo (c.scripted config))) := by
  have hdirection := (setup_cases hsetup).1.trans hin
  have hkey : (Route.control setup).answerKey = .controlIn := if_pos hdirection
  have hexpected : expected setup.direction setup.length.toNat
      (some (.data (answerTo (c.scripted config)))) =
        (some (answerTo (c.scripted config)), .ok (min (c.scripted config) 18)) := by
    simp only [expected, hdirection, length_answerTo, if_pos hfit]
  obtain ⟨r, hr, hmoved⟩ := transfer_moved hs id (whole_control c setup timeout) "control"
    _ _ (by rw [hkey, take_control hin]; exact hexpected)
  rw [Moves, isAsynchronous_control]
  refine ⟨r, ?_, hmoved⟩
  simp only [Command.execute, ControlCommand.run, hsetup]
  exact hr

theorem control_in_overflows (hs : Served (.control c) config s)
    (hin : Direction.ofByte c.requestType = .deviceToHost) (hsetup : c.setup config = .ok setup)
    (hlarge : setup.length.toNat < min (c.scripted config) 18) :
    ((Command.control c).execute s ⟨0, 0⟩ timeout config).2 =
      .ok { operation := "control", device := ⟨0, 0⟩, asynchronous := c.asynchronous
            status := UsbError.overflow.code
            error := some (if c.asynchronous then UsbError.overflow.message
              else (HostError.usb .overflow).message) } := by
  have hdirection := (setup_cases hsetup).1.trans hin
  have hkey : (Route.control setup).answerKey = .controlIn := if_pos hdirection
  have hexpected : expected setup.direction setup.length.toNat
      (some (.data (answerTo (c.scripted config)))) = (none, .error .overflow) := by
    simp only [expected, hdirection, length_answerTo, if_neg (Nat.not_le.2 hlarge)]
  have htransfer := transfer_served hs id (whole_control c setup timeout) "control"
    none (.error .overflow) (by rw [hkey, take_control hin]; exact hexpected)
  simp only [Command.execute, ControlCommand.run, hsetup]
  rw [htransfer]
  cases c.asynchronous <;> rfl

theorem control_out_moves (hs : Served (.control c) config s)
    (hout : Direction.ofByte c.requestType = .hostToDevice) (hsetup : c.setup config = .ok setup) :
    Moves (.control c) config s timeout "control" setup.length.toNat none := by
  have hdirection := (setup_cases hsetup).1.trans hout
  have hscript : (Command.control c).script config {} = {} := by
    simp only [Command.script, hout]
  obtain ⟨r, hr, hmoved⟩ := transfer_moved hs id (whole_control c setup timeout) "control"
    none setup.length.toNat (by
      rw [hscript]
      show expected setup.direction setup.length.toNat none = _
      rw [hdirection]
      rfl)
  rw [Moves, isAsynchronous_control]
  refine ⟨r, ?_, hmoved⟩
  simp only [Command.execute, ControlCommand.run, hsetup]
  exact hr

end Controls

section Pipes

variable {c : PipeCommand} {timeout : UInt32}

theorem expected_pipe (c : PipeCommand) (config : Config) (timeout : UInt32) {buffer : Bytes}
    {q : Request} (hq : q = ⟨c.pipe.route c.endpoint, buffer, 0, buffer.length, timeout⟩) :
    expected q.route.direction q.dataLength
      (((Command.pipe c).script config {}).take (simulatedDevice, q.route.answerKey)).2 =
        expected c.endpoint.direction buffer.length
          (if c.endpoint.IsIn then some (.data (.counting c.length)) else none) := by
  subst hq
  have hkey : (c.pipe.route c.endpoint).answerKey = c.endpoint := by cases c.pipe <;> rfl
  have hdirection : (c.pipe.route c.endpoint).direction = c.endpoint.direction := by
    cases c.pipe <;> rfl
  have hlength : (Request.mk (c.pipe.route c.endpoint) buffer 0 buffer.length timeout).dataLength =
      buffer.length := by
    cases c.pipe <;> rfl
  have hanswer : (((Command.pipe c).script config {}).take (simulatedDevice, c.endpoint)).2 =
      if c.endpoint.IsIn then some (.data (.counting c.length)) else none := by
    simp only [Command.script]
    split <;> simp [Simulated.addResponse, Simulated.take]
  rw [hkey, hdirection, hlength, hanswer]

theorem pipe_in_moves (hs : Served (.pipe c) config s) (hin : c.endpoint.IsIn)
    (hw : c.length < wordSize) :
    Moves (.pipe c) config s timeout (c.pipe.kind.label ++ " " ++ c.endpoint.label) c.length
      (some (.counting c.length)) := by
  have hbuffer : c.buffer = .ok (.zeros c.length) := if_pos hin
  obtain ⟨r, hr, hmoved⟩ := transfer_moved hs id
    (whole_pipe c.pipe c.endpoint timeout (.zeros c.length) (by simpa using hw))
    (c.pipe.kind.label ++ " " ++ c.endpoint.label) (some (.counting c.length)) c.length (by
      rw [expected_pipe c config timeout rfl, if_pos hin, hin]
      simp [expected])
  rw [Moves, isAsynchronous_pipe]
  refine ⟨r, ?_, hmoved⟩
  simp only [Command.execute, PipeCommand.run, hbuffer]
  exact hr

theorem pipe_out_moves {data : Bytes} (hs : Served (.pipe c) config s) (hout : ¬ c.endpoint.IsIn)
    (hd : c.data = some data) (hw : data.length < wordSize) :
    Moves (.pipe c) config s timeout (c.pipe.kind.label ++ " " ++ c.endpoint.label) data.length
      none := by
  have hbuffer : c.buffer = .ok data := by
    rw [PipeCommand.buffer, if_neg hout, hd]
  have hdirection : c.endpoint.direction = .hostToDevice := by
    cases h : c.endpoint.direction with
    | hostToDevice => rfl
    | deviceToHost => exact absurd h hout
  obtain ⟨r, hr, hmoved⟩ := transfer_moved hs id
    (whole_pipe c.pipe c.endpoint timeout data hw) (c.pipe.kind.label ++ " " ++ c.endpoint.label)
    none data.length (by
      rw [expected_pipe c config timeout rfl, if_neg hout, hdirection]
      rfl)
  rw [Moves, isAsynchronous_pipe]
  refine ⟨r, ?_, hmoved⟩
  simp only [Command.execute, PipeCommand.run, hbuffer]
  exact hr

end Pipes

theorem packets_move {c : PacketCommand} (timeout : UInt32) (hs : Served (.packets c) config s)
    (hcount : 0 < c.count config) (hsize : 0 < c.size config) (hlt : c.size config < UInt32.size)
    (hw : c.count config * c.size config < wordSize) :
    Moves (.packets c) config s timeout "isochronous" (c.count config * c.size config)
      (some (packetBytes (c.count config) (c.size config))) := by
  have hpumped : s = ((Command.packets c).staged config).startPump :=
    hs.resolve_right fun hf => hf.1 trivial
  have hasynchronous : decide (Command.packets c).IsAsynchronous = true := decide_eq_true trivial
  rw [Moves, hasynchronous, hpumped]
  exact run_moved timeout hcount hsize hlt hw

theorem run_eq_execute (c : Command) (s : Session Simulated UInt32) (t : Token)
    (timeout : Option UInt32) (config : Config) :
    (c.run s t timeout config).2 =
      (c.execute (if config.events.autoStart ∨ c.IsAsynchronous
        then Session.startPump { s with host := (s.host.resolve .standard).1 }
        else { s with host := (s.host.resolve .standard).1 })
          t (timeout.getD config.transfers.timeout) config).2 := by
  simp only [Command.run]
  split <;> (rename_i hexecuted; rw [hexecuted])

theorem simulate_served (c : Command) (config : Config) (timeout : Option UInt32) :
    ∃ s, Served c config s ∧ (c.simulate timeout config).2 =
      (c.execute s ⟨0, 0⟩ (timeout.getD config.transfers.timeout) config).2 := by
  refine ⟨if config.events.autoStart ∨ c.IsAsynchronous then (c.staged config).startPump
    else c.staged config, ?_, run_eq_execute c _ _ timeout config⟩
  split
  · exact .inl rfl
  · rename_i hquiet
    exact .inr ⟨fun hc => hquiet (.inr hc), rfl⟩

/-- What each transfer ends with on the simulated device. A control request that reads as much as
the data given with it is the odd one: it is answered as if it read the configured buffer. -/
structure Patterned (config : Config) (timeout : UInt32) : Prop where
  controlIn (c : ControlCommand) (setup : SetupPacket) (s : Session Simulated UInt32) :
    Served (.control c) config s → Direction.ofByte c.requestType = .deviceToHost →
    c.setup config = .ok setup → (c.length = none → c.data = none) →
      Moves (.control c) config s timeout "control" (min setup.length.toNat 18)
        (some (answerTo setup.length.toNat))
  controlInFits (c : ControlCommand) (setup : SetupPacket) (s : Session Simulated UInt32)
    (data : Bytes) :
    Served (.control c) config s → Direction.ofByte c.requestType = .deviceToHost →
    c.setup config = .ok setup → c.length = none → c.data = some data →
    min config.transfers.controlBuffer.toNat 18 ≤ data.length →
      Moves (.control c) config s timeout "control" (min config.transfers.controlBuffer.toNat 18)
        (some (answerTo config.transfers.controlBuffer.toNat))
  controlInOverflows (c : ControlCommand) (setup : SetupPacket) (s : Session Simulated UInt32)
    (data : Bytes) :
    Served (.control c) config s → Direction.ofByte c.requestType = .deviceToHost →
    c.setup config = .ok setup → c.length = none → c.data = some data →
    data.length < min config.transfers.controlBuffer.toNat 18 →
      ((Command.control c).execute s ⟨0, 0⟩ timeout config).2 =
        .ok { operation := "control", device := ⟨0, 0⟩, asynchronous := c.asynchronous
              status := UsbError.overflow.code
              error := some (if c.asynchronous then UsbError.overflow.message
                else (HostError.usb .overflow).message) }
  controlOut (c : ControlCommand) (setup : SetupPacket) (s : Session Simulated UInt32) :
    Served (.control c) config s → Direction.ofByte c.requestType = .hostToDevice →
    c.setup config = .ok setup →
      Moves (.control c) config s timeout "control" setup.length.toNat none
  pipeIn (c : PipeCommand) (s : Session Simulated UInt32) :
    Served (.pipe c) config s → c.endpoint.IsIn → c.length < wordSize →
      Moves (.pipe c) config s timeout (c.pipe.kind.label ++ " " ++ c.endpoint.label) c.length
        (some (.counting c.length))
  pipeOut (c : PipeCommand) (s : Session Simulated UInt32) (data : Bytes) :
    Served (.pipe c) config s → ¬ c.endpoint.IsIn → c.data = some data → data.length < wordSize →
      Moves (.pipe c) config s timeout (c.pipe.kind.label ++ " " ++ c.endpoint.label) data.length
        none
  packets (c : PacketCommand) (s : Session Simulated UInt32) :
    Served (.packets c) config s → 0 < c.count config → 0 < c.size config →
    c.size config < UInt32.size → c.count config * c.size config < wordSize →
      Moves (.packets c) config s timeout "isochronous" (c.count config * c.size config)
        (some (packetBytes (c.count config) (c.size config)))
  simulated (c : Command) (given : Option UInt32) : given.getD config.transfers.timeout = timeout →
    ∃ s, Served c config s ∧
      (c.simulate given config).2 = (c.execute s ⟨0, 0⟩ timeout config).2

theorem simulation_patterned (config : Config) (timeout : UInt32) : Patterned config timeout where
  controlIn c setup s hs hin hsetup hdata := by
    have hlength : c.scripted config = setup.length.toNat :=
      (setup_cases hsetup).2.scripted hin hdata
    rw [← hlength]
    exact control_in_moves hs hin hsetup (hlength ▸ Nat.min_le_left _ _)
  controlInFits c setup s data hs hin hsetup hnone hdata hfit := by
    obtain ⟨hscripted, hlength⟩ := drift_of_data hsetup hnone hdata
    rw [← hscripted] at hfit ⊢
    exact control_in_moves hs hin hsetup (hlength ▸ hfit)
  controlInOverflows c setup s data hs hin hsetup hnone hdata hlarge := by
    obtain ⟨hscripted, hlength⟩ := drift_of_data hsetup hnone hdata
    rw [← hscripted] at hlarge
    exact control_in_overflows hs hin hsetup (hlength ▸ hlarge)
  controlOut c setup s hs hout hsetup := control_out_moves hs hout hsetup
  pipeIn c s hs hin hw := pipe_in_moves hs hin hw
  pipeOut c s data hs hout hd hw := pipe_out_moves hs hout hd hw
  packets c s hs hcount hsize hlt hw := packets_move timeout hs hcount hsize hlt hw
  simulated c given ht := ht ▸ simulate_served c config given

theorem descriptor_patterned :
    Moves (.control ⟨0x80, 6, 0x100, 0, some 18, none, false⟩) {}
        ((Command.control ⟨0x80, 6, 0x100, 0, some 18, none, false⟩).staged {}) 1000 "control" 18
        (some deviceDescriptor) ∧
      Moves (.packets ⟨⟨0x81⟩, some 2, some 3⟩) {}
        ((Command.packets ⟨⟨0x81⟩, some 2, some 3⟩).staged {}).startPump 1000 "isochronous" 6
        (some [0, 0, 0, 1, 1, 1]) :=
  ⟨(simulation_patterned {} 1000).controlIn _ ⟨0x80, 6, 0x100, 0, 18⟩ _ (.inr ⟨nofun, rfl⟩) rfl rfl
      nofun,
    (simulation_patterned {} 1000).packets _ _ (.inl rfl) (by decide) (by decide) (by decide)
      (by decide)⟩

def overflowing : ControlCommand where
  requestType := 0x80
  request := 6
  value := 0x100
  index := 0
  data := some [0, 0, 0, 0]

/-- The configuration is accepted and the request is for four bytes, and yet it is answered 18. -/
theorem overflowing_unpatterned :
    Config.Valid {} ∧ overflowing.setup {} = .ok ⟨0x80, 6, 0x100, 0, 4⟩ ∧
      ((Command.control overflowing).execute ((Command.control overflowing).staged {}) ⟨0, 0⟩ 1000
        {}).2 =
          .ok { operation := "control", device := ⟨0, 0⟩, asynchronous := false, status := -8
                error := some "USB error: Overflow" } ∧
      ¬ Moves (.control overflowing) {} ((Command.control overflowing).staged {}) 1000 "control"
        (min 4 18) (some (answerTo 4)) := by
  refine ⟨⟨by decide, by decide, by decide, by decide, by decide⟩, rfl, rfl, ?_⟩
  rintro ⟨r, hr, hmoved⟩
  cases hr
  exact nomatch hmoved.error

end Cli

end UsbTransfer
