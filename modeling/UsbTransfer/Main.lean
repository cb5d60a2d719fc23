import UsbTransfer.Cli.Program

namespace UsbTransfer.Cli

def places (e : Environment) (arguments : List String) : List Path :=
  let named := match parse arguments with
    | .ok i => i.options.config.toList.map e.expand
    | .error _ => []
  [Config.userPath e, Config.systemPath] ++ named

/-- What cannot be opened is not there, and what opens but cannot be read is a directory. -/
def entryAt (p : Path) : IO (Option Entry) := do
  match ← (IO.FS.Handle.mk p .read).toBaseIO with
  | .error _ => return none
  | .ok file =>
    match ← file.readBinToEnd.toBaseIO with
    | .error _ => return some .directory
    | .ok content => return some ((String.fromUTF8? content).elim .binary .text)

def snapshot (paths : List Path) : IO Disk :=
  paths.foldlM (fun d p => return (← entryAt p).elim d (d.place p)) {}

def commit (paths : List Path) (before after : Disk) : IO Unit :=
  paths.forM fun p =>
    match after.read? p with
    | some text => do
      if before.read? p ≠ some text then
        IO.FS.createDirAll p.parent
        IO.FS.writeFile p text
    | none => pure ()

def helpText : String :=
  "Run USB transfers against a device\n\n" ++
  "Usage: " ++ programName ++ " [OPTIONS] [COMMAND]\n\n" ++
  "Commands:\n" ++ String.join (commandNames.map fun n => "  " ++ n ++ "\n") ++
  "\nOptions:\n" ++ String.join (optionGrammar.parameters.map fun p => "  --" ++ p.long ++ "\n")

def print (e : Ending) : IO Unit :=
  match e with
  | .done output => IO.println output
  | .stopped .help => IO.print helpText
  | .stopped .version => IO.println versionText
  | .stopped (.badValue message) => IO.eprintln ("error: invalid value: " ++ message)
  | .stopped _ => IO.eprintln ("error: invalid arguments\n\nFor more information, try '--help'.")
  | .failed messages => IO.eprintln ("Error: " ++ ": ".intercalate messages)

def setting? (name : String) : IO (Option String) := do
  return (← IO.getEnv name).filter (· ≠ "")

end UsbTransfer.Cli

open UsbTransfer Cli in
/-- Looks at the files, runs, and leaves what the run leaves. There is no device on the bus. -/
def main (arguments : List String) : IO UInt32 := do
  let environment : Environment :=
    { home := ← setting? "HOME"
      configHome := (← setting? "XDG_CONFIG_HOME").filter (·.startsWith "/")
      logFilter := ← setting? "RUST_LOG" }
  let paths := places environment arguments
  let disk ← snapshot paths
  let trail := launch environment disk {} arguments
  match ← (commit paths disk trail.disk).toBaseIO with
  | .error e =>
    print (.failed ["Failed to save configuration", toString e])
    return 1
  | .ok () =>
    print trail.ending
    return trail.ending.code
