import UsbTransfer.Toml.Basic

/-! Tables under construction. How a table came to be decides who may add to it. -/

namespace UsbTransfer.Toml

/-- How a table came to be: as the parent in a header, as the parent in a dotted key, by a header of
its own. -/
inductive Origin where
  | implied
  | dotted
  | declared
  deriving DecidableEq, Repr

inductive Node where
  | leaf (value : Toml)
  | branch (origin : Origin) (fields : List (String × Node))
  | rows (rows : List (List (String × Node)))
  deriving Inhabited

abbrev Fields := List (String × Node)

def Fields.put (fields : Fields) (k : String) (n : Node) : Fields :=
  if (fields.lookup k).isSome then fields.map fun (k', x) => (k', if k' = k then n else x)
  else fields ++ [(k, n)]

def changeLast (f : Fields → Option Fields) (rows : List Fields) : Option (List Fields) :=
  rows.getLast?.bind fun last => (f last).map fun last => rows.dropLast ++ [last]

/-- Adds a value at a dotted key. Tables that the key runs through are made where they are missing;
a table of its own header is closed to it, and the last one has to be made by a dotted key. -/
def insert (accepts : Bool) (value : Toml) : List String → Fields → Option Fields
  | [], _ => none
  | [k], fields =>
    if accepts ∧ (fields.lookup k).isNone then some (fields.put k (.leaf value)) else none
  | k :: path, fields =>
    (match fields.lookup k with
      | none => (insert true value path []).map (Node.branch .dotted)
      | some (.branch .declared _) => none
      | some (.branch origin inner) =>
        (insert (origin = Origin.dotted) value path inner).map (Node.branch origin)
      | some (.rows rows) => (changeLast (insert false value path) rows).map Node.rows
      | some (.leaf _) => none).map (fields.put k)

/-- Changes the table at a path of a header; the current row stands for its rows. -/
def within (f : Fields → Option Fields) : List String → Fields → Option Fields
  | [], fields => f fields
  | k :: path, fields =>
    (match fields.lookup k with
      | none => (within f path []).map (Node.branch .implied)
      | some (.branch origin inner) => (within f path inner).map (Node.branch origin)
      | some (.rows rows) => (changeLast (within f path) rows).map Node.rows
      | some (.leaf _) => none).map (fields.put k)

/-- A table gets one header, before which it can only have been implied. -/
def declare (k : String) (fields : Fields) : Option Fields :=
  match fields.lookup k with
  | none => some (fields.put k (.branch .declared []))
  | some (.branch .implied inner) => some (fields.put k (.branch .declared inner))
  | some _ => none

def addRow (k : String) (fields : Fields) : Option Fields :=
  match fields.lookup k with
  | none => some (fields.put k (.rows [[]]))
  | some (.rows rows) => some (fields.put k (.rows (rows ++ [[]])))
  | some _ => none

mutual

def Node.value : Node → Toml
  | .leaf v => v
  | .branch _ fields => .table (valueFields fields)
  | .rows rows => .arr (valueRows rows)

def valueFields : List (String × Node) → List (String × Toml)
  | [] => []
  | (k, n) :: fields => (k, n.value) :: valueFields fields

def valueRows : List (List (String × Node)) → List Toml
  | [] => []
  | fields :: rows => .table (valueFields fields) :: valueRows rows

end

def inline? (entries : List (List String × Toml)) : Option Toml :=
  (entries.foldlM (fun fields (path, v) => insert true v path fields) []).map fun fields =>
    .table (valueFields fields)

/-- A line of a text: a header, the header of a row, or a value at a dotted key. -/
inductive Statement where
  | table (path : List String)
  | row (path : List String)
  | entry (path : List String) (value : Toml)

structure Draft where
  root : Fields := []
  current : List String := []

def Draft.open? (d : Draft) (path : List String) (f : String → Fields → Option Fields) :
    Option Draft := do
  let k ← path.getLast?
  return { root := ← within (f k) path.dropLast d.root, current := path }

def Draft.add? (d : Draft) : Statement → Option Draft
  | .table path => d.open? path declare
  | .row path => d.open? path addRow
  | .entry path v => (within (insert true v path) d.current d.root).map fun root => { d with root }

def ofStatements? (statements : List Statement) : Option Toml :=
  (statements.foldlM Draft.add? {}).map fun d => .table (valueFields d.root)

end UsbTransfer.Toml
