import UsbTransfer.HostError
import UsbTransfer.Pattern.Machine
import UsbTransfer.Text.Decimal
import UsbTransfer.Text.Numeral

/-! What to log: directives between commas, each a level, a target, a span in brackets, or one of
the last two with a level behind an equals sign. The fields of a span stand in braces. -/

namespace UsbTransfer.LogFilter

inductive Fault where
  | malformed
  | unknownLevel
  | field (fault : Pattern.Fault)
  deriving DecidableEq, Repr

def Fault.message : Fault → String
  | malformed => "invalid filter directive"
  | unknownLevel => "error parsing level filter: expected one of \"off\", \"error\", " ++
      "\"warn\", \"info\", \"debug\", \"trace\", or a number 0-5"
  | field fault => "invalid field filter: " ++ fault.message

def levelNames : List String := ["off", "error", "warn", "info", "debug", "trace"]

def isLevel (s : List Char) : Bool :=
  (match Text.readNatural 10 wordSize s with
    | .ok n => n < levelNames.length
    | .error _ => false) || String.ofList (s.map Char.toLower) ∈ levelNames

def beginsTarget (c : Char) : Bool := Text.isAlphanumeric c || c ∈ ['-', ':', '_']

def withoutSign : List Char → List Char
  | '+' :: s | '-' :: s => s
  | s => s

/-- A sign, digits with a point among or around them, and an exponent, or the name of a number
that is infinite or none. -/
def isNumber (s : List Char) : Bool :=
  let s := withoutSign s
  let (whole, rest) := s.span Text.isDigit
  let (places, rest) :=
    match rest with
    | '.' :: rest => rest.span Text.isDigit
    | rest => ([], rest)
  String.ofList (s.map Char.toLower) ∈ ["inf", "infinity", "nan"] ||
    (!(whole ++ places).isEmpty &&
      match rest with
      | [] => true
      | e :: rest =>
        (e = 'e' || e = 'E') && !(withoutSign rest).isEmpty && (withoutSign rest).all Text.isDigit)

/-- What stands between the first equals sign of a field and the next one is a number or a
pattern. -/
def fieldFault? (s : List Char) : Option Fault :=
  match s.dropWhile (· ≠ '=') with
  | [] => none
  | _ :: rest =>
    let value := rest.takeWhile (· ≠ '=')
    if isNumber value then none else (Pattern.fault? value).map .field

def part (s : List Char) (start count : Nat) : List Char :=
  take count (drop start s)
where
  drop : Nat → List Char → List Char
    | 0, s => s
    | _, [] => []
    | n, c :: s => drop (n - c.utf8Size) s
  take : Nat → List Char → List Char
    | 0, _ | _, [] => []
    | n, c :: s => c :: take (n - c.utf8Size) s

def size (s : List Char) : Nat := total (s.map Char.utf8Size)

/-- Behind the target or span that ends at `n`: where the level begins, if there is one. -/
def behindTarget (n : Nat) : List Char → Except Fault (Option Nat)
  | [] => .ok none
  | '=' :: _ => .ok (some (n + 1))
  | _ => .error .malformed

def inSpan (whole : List Char) (n : Nat) (s : List Char) : Except Fault (Option Nat) :=
  let (name, rest) := s.span fun c => c ≠ ']' && c ≠ '\x7b'
  match rest with
  | ']' :: rest => behindTarget (n + size name + 1) rest
  | _ :: rest =>
    let (fields, rest) := rest.span (· ≠ '\x7d')
    let start := n + size name + 1
    if fields.isEmpty || rest.isEmpty then .error .malformed
    else
      match fieldFault? (part whole start (size fields)), rest with
      | some f, _ => .error f
      | none, _ :: ']' :: rest => behindTarget (start + size fields + 2) rest
      | none, _ => .error .malformed
  | [] => .error .malformed

/-- Where the level of a directive begins, `none` if it names no level. Blanks around the directive
do not count for its form, but they do for the places of its parts. -/
def levelStart? (whole : List Char) : Except Fault (Option Nat) :=
  match Text.trimBlank whole with
  | [] => .error .malformed
  | '[' :: rest => inSpan whole 1 rest
  | c :: s =>
    if beginsTarget c then
      let (target, rest) := s.span fun c => c ≠ '=' && c ≠ '['
      match rest with
      | '[' :: rest => inSpan whole (size (c :: target) + 1) rest
      | rest => behindTarget (size (c :: target)) rest
    else .error .malformed

def directiveFault? (s : List Char) : Option Fault :=
  match levelStart? s with
  | .error f => some f
  | .ok none => none
  | .ok (some start) =>
    let level := part s start (size s)
    if level = [] ∨ isLevel level then none else some .unknownLevel

def fault? (text : String) : Option Fault :=
  ((text.splitToList (· = ',')).filter (· ≠ "")).findSome? fun s => directiveFault? s.toList

/-- The surroundings decide if they name a filter without fault, and else the program. -/
def setUp (given : Option String) (level : String) : Except HostError Unit :=
  match given with
  | some text => if fault? text = none then .ok () else check level
  | none => check level
where
  check (level : String) : Except HostError Unit :=
    match fault? level with
    | none => .ok ()
    | some f => .error (.config ("Invalid log filter: " ++ f.message))

end UsbTransfer.LogFilter
