import UsbTransfer.Config.Text
import UsbTransfer.Disk

namespace UsbTransfer

structure Environment where
  home : Option Path := none
  /-- Where a user keeps configurations, if not below the home directory. -/
  configHome : Option Path := none
  /-- What to log, whatever the program asks for. -/
  logFilter : Option String := none
  deriving Repr

namespace Environment

def configDirectory? (e : Environment) : Option Path :=
  match e.configHome with
  | some p => some p
  | none => e.home.map (·.join ".config")

/-- A tilde alone in front of a path is the home directory. -/
def expand (e : Environment) (p : Path) : Path :=
  match p.toList, e.home with
  | '~' :: rest, some home =>
    if rest = [] ∨ rest.head? = some '/' then home ++ String.ofList rest else p
  | _, _ => p

end Environment

namespace Config

def userPath (e : Environment) : Path :=
  match e.configDirectory? with
  | some p => (p.join "usb-xfer").join "host.toml"
  | none => ".config/usb-xfer/host.toml"

def systemPath : Path := "/etc/usb-xfer/host.toml"

inductive LoadError where
  | nowhere
  | unreadable (path : Path)
  | malformed (path : Path)
  | faulty (fault : Fault)
  deriving DecidableEq, Repr

def LoadError.message : LoadError → String
  | nowhere => "No configuration file found"
  | unreadable p => "Failed to read config file: " ++ p
  | malformed p => "Failed to parse config file: " ++ p
  | faulty f => f.message

inductive SaveError where
  | unprintable
  | noDirectory (path : Path)
  | unwritable (path : Path)
  deriving DecidableEq, Repr

def SaveError.message : SaveError → String
  | unprintable => "Failed to serialize configuration"
  | noDirectory p => "Failed to create config directory: " ++ p
  | unwritable p => "Failed to write config file: " ++ p

def read (d : Disk) (p : Path) : Except LoadError Config :=
  match d.read? p with
  | none => .error (.unreadable p)
  | some text =>
    match parse? text with
    | none => .error (.malformed p)
    | some c =>
      match c.fault? with
      | some f => .error (.faulty f)
      | none => .ok c

/-- Without a path the user's file comes before that of the system. -/
def load (e : Environment) (d : Disk) : Option Path → Except LoadError Config
  | some p => read d (e.expand p)
  | none =>
    match [userPath e, systemPath].find? d.exists? with
    | some p => read d p
    | none => .error .nowhere

def loadOrDefault (e : Environment) (d : Disk) (p : Option Path) : Config :=
  (load e d p).toOption.getD {}

def saveText (d : Disk) (p : Path) : Option String → Disk × Except SaveError Unit
  | none => (d, .error .unprintable)
  | some text =>
    match d.makeDirectories? [] p.parent.parts with
    | none => (d, .error (.noDirectory p.parent))
    | some d =>
      match d.write? p text with
      | none => (d, .error (.unwritable p))
      | some d => (d, .ok ())

/-- The text is made before the disk is touched. -/
def save (c : Config) (d : Disk) (p : Path) : Disk × Except SaveError Unit := saveText d p c.print?

theorem save_of_print? {c : Config} {text? : Option String} (d : Disk) (p : Path)
    (hprint : c.print? = text?) : c.save d p = saveText d p text? := by
  rw [save, hprint]

end Config

end UsbTransfer
