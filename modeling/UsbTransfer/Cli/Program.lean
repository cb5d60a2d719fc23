import UsbTransfer.Cli.Simulation
import UsbTransfer.Cli.Usage
import UsbTransfer.Config.File
import UsbTransfer.LogFilter
import UsbTransfer.Native.Link

namespace UsbTransfer.Cli

/-- How the program ends. The messages of a failure begin with the outermost one. -/
inductive Ending where
  | stopped (error : UsageError)
  | failed (messages : List String)
  | done (output : String)
  deriving DecidableEq, Repr

def Ending.code : Ending → UInt32
  | stopped .help | stopped .version | done _ => 0
  | failed _ => 1
  | stopped _ => 2

structure Trail where
  disk : Disk
  bus : Bus
  ending : Ending

def Ending.ofReport : Except CommandError Report → Ending
  | .ok r => .done r.toJson.lines
  | .error e => .failed e.messages

def runNative (c : Command) (o : Options) (config : Config) (vendor product : UInt16) (bus : Bus) :
    Bus × Ending :=
  match Link.start bus with
  | (bus, .error e) => (bus, .failed ["Failed to initialize libusb", e.message])
  | (bus, .ok ()) =>
    let host : Host Link Nat := { controller := { bus } }
    let session (host : Host Link Nat) : Session Link Nat :=
      { host, interval := config.events.pollInterval.toNat }
    match host.openNative vendor product with
    | (host, .error e) =>
      let id (n : UInt16) : String := String.ofList (Text.hexPadded 4 n.toNat)
      ((session host).dropHost.host.controller.bus,
        .failed (("Failed to open device " ++ id vendor ++ ":" ++ id product) :: e.messages))
    | (host, .ok token) =>
      let (s, r) := c.run (session host) token o.timeout config
      (s.dropHost.host.controller.bus, .ofReport r)

def Invocation.perform (i : Invocation) (config : Config) (bus : Bus) : Bus × Ending :=
  match i.command with
  | none => (bus, .failed ["No command given, see --help"])
  | some c =>
    if i.options.simulate then (bus, .ofReport (c.simulate i.options.timeout config).2)
    else
      match i.options.device with
      | none => (bus, .failed ["--device VID:PID is required unless --simulate is given"])
      | some (vendor, product) => runNative c i.options config vendor product bus

/-- A file that is named has to be a configuration; one that is looked up is passed over if it is
none. -/
def Options.load (o : Options) (e : Environment) (disk : Disk) : Except Config.LoadError Config :=
  match o.config with
  | some p => Config.load e disk (some p)
  | none => .ok (Config.loadOrDefault e disk none)

def saveDefaults (e : Environment) (disk : Disk) : Disk × Ending :=
  let path := Config.userPath e
  match ({} : Config).save disk path with
  | (disk, .ok ()) => (disk, .done ("Configuration saved to: " ++ path))
  | (disk, .error f) => (disk, .failed ["Failed to save configuration", f.message])

/-- The defaults are saved before anything is loaded. -/
def Invocation.run (i : Invocation) (e : Environment) (disk : Disk) (bus : Bus) : Trail :=
  if i.options.saveConfig then
    let (disk, ending) := saveDefaults e disk
    { disk, bus, ending }
  else
    match i.options.load e disk with
    | .error f => { disk, bus, ending := .failed ["Failed to load configuration", f.message] }
    | .ok config =>
      match LogFilter.setUp e.logFilter (i.options.logLevel.getD config.logging.level) with
      | .error f => { disk, bus, ending := .failed ("Failed to setup logging" :: f.messages) }
      | .ok () =>
        let (bus, ending) := i.perform config bus
        { disk, bus, ending }

def launch (e : Environment) (disk : Disk) (bus : Bus) (arguments : List String) : Trail :=
  match parse arguments with
  | .error f => { disk, bus, ending := .stopped f }
  | .ok i => i.run e disk bus

end UsbTransfer.Cli
