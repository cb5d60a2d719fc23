/-! Command lines: options by a long name or a letter, values behind an equals sign or in the next
argument, and positional values. Values are read late, when the next argument is taken up. -/

namespace UsbTransfer.Cli

inductive UsageError where
  | help
  | version
  | unknownArgument
  | unknownCommand
  | missingArgument
  | missingValue
  | badValue (message : String)
  | repeated
  | needlessValue
  deriving DecidableEq, Repr

structure Slot (σ : Type) where
  filled : σ → Bool
  fill : σ → String → Except UsageError σ

def Slot.take {σ : Type} (s : Slot σ) (draft : σ) (text : String) : Except UsageError σ :=
  if s.filled draft then .error .repeated else s.fill draft text

inductive Action (σ : Type) where
  | value (slot : Slot σ)
  | mark (marked : σ → Bool) (set : σ → σ)
  | stop (error : UsageError)

structure Parameter (σ : Type) where
  long : String
  short : Option Char := none
  action : Action σ

structure Grammar (σ : Type) where
  parameters : List (Parameter σ)
  positionals : List (Slot σ) := []

/-- A command line that is read so far. The last value, or the option that still waits for one, is
pending. -/
structure Reading (σ : Type) where
  draft : σ
  pending : Option (Slot σ × Option String) := none
  position : Nat := 0
  escaped : Bool := false

namespace Reading

variable {σ : Type}

def awaits (r : Reading σ) : Bool :=
  !r.escaped && r.pending.any fun p => p.2.isNone

def settle (r : Reading σ) : Except UsageError (Reading σ) :=
  match r.pending with
  | none => .ok r
  | some (_, none) => .error .missingValue
  | some (slot, some text) =>
    (slot.take r.draft text).map fun draft => { r with draft, pending := none }

def act (r : Reading σ) (a : Action σ) (attached : Option String) :
    Except UsageError (Reading σ) := do
  match a, attached with
  | .value slot, some text =>
    let r ← r.settle
    return { r with draft := ← slot.take r.draft text }
  | .value slot, none => return { ← r.settle with pending := some (slot, none) }
  | _, some _ => throw .needlessValue
  | .mark marked set, none =>
    let r ← r.settle
    if marked r.draft then throw .repeated else return { r with draft := set r.draft }
  | .stop e, none =>
    let _ ← r.settle
    throw e

end Reading

inductive Piece where
  | escape
  | long (text : List Char)
  | letters (text : List Char)
  | plain
  deriving DecidableEq, Repr

def Piece.of (argument : String) : Piece :=
  match argument.toList with
  | ['-', '-'] => escape
  | '-' :: '-' :: text => long text
  | '-' :: c :: text => letters (c :: text)
  | _ => plain

namespace Grammar

variable {σ : Type}

def long (g : Grammar σ) (r : Reading σ) (text : List Char) : Except UsageError (Reading σ) :=
  let (name, rest) := text.span (· ≠ '=')
  match g.parameters.find? fun p => p.long = String.ofList name with
  | none => .error .unknownArgument
  | some p => r.act p.action (rest.tail?.map String.ofList)

def attached : List Char → Option String
  | [] => none
  | '=' :: text => some (String.ofList text)
  | text => some (String.ofList text)

def letters (g : Grammar σ) (r : Reading σ) : List Char → Except UsageError (Reading σ)
  | [] => .ok r
  | c :: rest =>
    match g.parameters.find? fun p => p.short = some c with
    | none => .error .unknownArgument
    | some p =>
      match p.action with
      | .value slot => r.act (.value slot) (attached rest)
      | a =>
        match r.act a none with
        | .error e => .error e
        | .ok r => g.letters r rest

def positional (g : Grammar σ) (r : Reading σ) (text : String) : Except UsageError (Reading σ) :=
  match g.positionals[r.position]? with
  | none => .error .unknownArgument
  | some slot =>
    r.settle.map fun r => { r with pending := some (slot, some text), position := r.position + 1 }

/-- Takes up one argument. After two dashes every argument is positional. -/
def step (g : Grammar σ) (r : Reading σ) (argument : String) : Except UsageError (Reading σ) :=
  match r.escaped, Piece.of argument with
  | true, _ => g.positional r argument
  | false, .escape => .ok { r with escaped := true }
  | false, .long text => g.long r text
  | false, .letters text => g.letters r text
  | false, .plain =>
    match r.awaits, r.pending with
    | true, some (slot, _) => .ok { r with pending := some (slot, some argument) }
    | _, _ => g.positional r argument

def read (g : Grammar σ) (draft : σ) (arguments : List String) : Except UsageError σ := do
  let r ← arguments.foldlM g.step { draft }
  return (← r.settle).draft

end Grammar

end UsbTransfer.Cli
