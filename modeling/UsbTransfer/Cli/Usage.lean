import UsbTransfer.Cli.Argument
import UsbTransfer.Cli.Command
import UsbTransfer.Cli.Grammar

namespace UsbTransfer.Cli

def programName : String := "usb-xfer"

def programVersion : String := "0.1.0"

def versionText : String := programName ++ " " ++ programVersion

def slot {σ α : Type} (filled : σ → Bool) (parse : String → Except String α) (put : σ → α → σ) :
    Slot σ where
  filled
  fill draft text :=
    match parse text with
    | .ok a => .ok (put draft a)
    | .error message => .error (.badValue message)

def helpParameter {σ : Type} : Parameter σ :=
  { long := "help", short := some 'h', action := .stop .help }

def parseTimeout (s : String) : Except String UInt32 :=
  match Text.readInteger 10 64 s.toList with
  | .error e => .error e.message
  | .ok (.ofNat n) => if n < UInt32.size then .ok (.ofNat n) else .error (outside n)
  | .ok n => .error (outside n)
where
  outside (n : Int) : String := toString n ++ " is not in 0..=4294967295"

def optionGrammar : Grammar Options where
  parameters := [
    { long := "config", short := some 'c', action := .value
        { filled := (·.config.isSome)
          fill := fun o s =>
            if s = "" then .error .missingValue else .ok { o with config := some s } } },
    { long := "save-config",
      action := .mark (·.saveConfig) fun o => { o with saveConfig := true } },
    { long := "log-level", short := some 'l', action := .value
        (slot (·.logLevel.isSome) .ok fun o s => { o with logLevel := some s }) },
    { long := "device", short := some 'd', action := .value
        (slot (·.device.isSome) (fun s => (parseDeviceId s).mapError (·.message))
          fun o d => { o with device := some d }) },
    { long := "simulate", action := .mark (·.simulate) fun o => { o with simulate := true } },
    { long := "timeout", short := some 't', action := .value
        (slot (·.timeout.isSome) parseTimeout fun o t => { o with timeout := some t }) },
    helpParameter,
    { long := "version", short := some 'V', action := .stop .version }]

structure Draft where
  numbers : List Nat := []
  length : Option Nat := none
  data : Option Bytes := none
  asynchronous : Bool := false
  packets : Option Nat := none
  packetSize : Option Nat := none

def number (bits : Nat) : Slot Draft :=
  slot (fun _ => false) (fun s => (parseBits bits s).mapError (·.message))
    fun d n => { d with numbers := d.numbers ++ [n] }

def parseSize (s : String) : Except String Nat :=
  (Text.readNatural 10 wordSize s.toList).mapError (·.message)

def lengthParameter : Parameter Draft where
  long := "length"
  action := .value (slot (·.length.isSome) parseSize fun d n => { d with length := some n })

/-- May be given again; the last one counts. -/
def dataParameter : Parameter Draft where
  long := "data"
  action := .value (slot (fun _ => false) (fun s => (parseHex s).mapError (·.message))
    fun d b => { d with data := some b })

def asyncParameter : Parameter Draft where
  long := "async"
  action := .mark (·.asynchronous) fun d => { d with asynchronous := true }

def packetsParameter : Parameter Draft where
  long := "packets"
  action := .value (slot (·.packets.isSome) parseSize fun d n => { d with packets := some n })

def packetSizeParameter : Parameter Draft where
  long := "packet-size"
  action := .value (slot (·.packetSize.isSome) parseSize fun d n => { d with packetSize := some n })

/-- The name of a command, its arguments, and the command of a draft that has all it needs. -/
structure CommandForm where
  name : String
  grammar : Grammar Draft
  build : Draft → Option Command

def pipeForm (p : Pipe) : CommandForm where
  name := p.kind.label
  grammar :=
    { positionals := [number 8]
      parameters := [lengthParameter, dataParameter, asyncParameter, helpParameter] }
  build d :=
    match d.numbers with
    | [e] => some (.pipe
        { pipe := p, endpoint := ⟨.ofNat e⟩, length := d.length.getD p.defaultLength, data := d.data
          asynchronous := d.asynchronous })
    | _ => none

def commandForms : List CommandForm := [
  { name := "control"
    grammar :=
      { positionals := [number 8, number 8, number 16, number 16, number 16]
        parameters := [dataParameter, asyncParameter, helpParameter] }
    build := fun d =>
      match d.numbers with
      | t :: r :: v :: i :: length => some (.control
          { requestType := .ofNat t, request := .ofNat r, value := .ofNat v, index := .ofNat i
            length := length.head?.map .ofNat, data := d.data, asynchronous := d.asynchronous })
      | _ => none },
  pipeForm .bulk,
  pipeForm .interrupt,
  { name := "iso"
    grammar :=
      { positionals := [number 8]
        parameters := [packetsParameter, packetSizeParameter, helpParameter] }
    build := fun d =>
      match d.numbers with
      | [e] => some (.packets
          { endpoint := ⟨.ofNat e⟩, packets := d.packets, packetSize := d.packetSize })
      | _ => none },
  { name := "reset", grammar := { parameters := [helpParameter] }, build := fun _ => some .reset },
  { name := "clear-stall"
    grammar := { positionals := [number 8], parameters := [helpParameter] }
    build := fun d =>
      match d.numbers with
      | [e] => some (.clearStall ⟨.ofNat e⟩)
      | _ => none }]

def CommandForm.read (f : CommandForm) (arguments : List String) : Except UsageError Command :=
  match f.grammar.read {} arguments with
  | .error e => .error e
  | .ok d =>
    match f.build d with
    | none => .error .missingArgument
    | some c => .ok c

def helpName : String := "help"

def commandNames : List String := commandForms.map (·.name) ++ [helpName]

def helpOn : List String → UsageError
  | [] => .help
  | [name] => if name ∈ commandNames then .help else .unknownCommand
  | _ => .unknownCommand

def readOptions (r : Reading Options) : List String →
    Except UsageError (Reading Options × Option (String × List String))
  | [] => .ok (r, none)
  | a :: rest =>
    if a ∈ commandNames ∧ ¬ r.escaped ∧ ¬ r.awaits then .ok (r, some (a, rest))
    else if r.escaped ∨ (Piece.of a = .plain ∧ ¬ r.awaits) then
      .error (if r.escaped ∧ a ∈ commandNames then .unknownArgument else .unknownCommand)
    else
      match optionGrammar.step r a with
      | .error e => .error e
      | .ok r => readOptions r rest

/-- A mistake in a command comes before one in the last option. -/
def parse (arguments : List String) : Except UsageError Invocation := do
  match ← readOptions { draft := {} } arguments with
  | (r, none) => return { options := (← r.settle).draft }
  | (r, some (name, rest)) =>
    match commandForms.find? (·.name = name) with
    | none => throw (helpOn rest)
    | some form =>
      let command ← form.read rest
      return { options := (← r.settle).draft, command := some command }

end UsbTransfer.Cli
