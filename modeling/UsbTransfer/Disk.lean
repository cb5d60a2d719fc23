namespace UsbTransfer

/-- What stands at a place of a disk. A file that is not text has no content to read. -/
inductive Entry where
  | text (content : String)
  | binary
  | directory
  deriving DecidableEq, Repr

abbrev Path := String

namespace Path

def parts (p : Path) : List String := p.splitToList (· = '/')

def parent (p : Path) : Path :=
  let above := p.toList.reverse.dropWhile (· ≠ '/')
  String.ofList (if above = ['/'] then above else (above.drop 1).reverse)

def join (p q : Path) : Path := if p.endsWith "/" then p ++ q else p ++ "/" ++ q

end Path

/-- The entries of a tree of files, by the names on the straight way to them. -/
structure Disk where
  entries : List (List String × Entry) := []
  deriving Repr

namespace Disk

def entry? (d : Disk) (names : List String) : Option Entry :=
  if names = [] then some .directory else d.entries.lookup names

/-- The place some parts lead to. There has to be a directory in front of each of them, and two
dots lead out of it. -/
def follow? (d : Disk) (here : List String) : List String → Option (List String)
  | [] => some here
  | part :: parts =>
    if d.entry? here ≠ some .directory then none
    else if part = "" ∨ part = "." then d.follow? here parts
    else if part = ".." then d.follow? here.dropLast parts
    else d.follow? (here ++ [part]) parts

def at? (d : Disk) (p : Path) : Option Entry := (d.follow? [] p.parts).bind d.entry?

def exists? (d : Disk) (p : Path) : Bool := (d.at? p).isSome

def read? (d : Disk) (p : Path) : Option String :=
  match d.at? p with
  | some (.text content) => some content
  | _ => none

def put (d : Disk) (names : List String) (e : Entry) : Disk :=
  ⟨(names, e) :: d.entries.filter (·.1 ≠ names)⟩

def makeDirectories? (d : Disk) (here : List String) : List String → Option Disk
  | [] => some d
  | part :: parts =>
    if part = "" ∨ part = "." then d.makeDirectories? here parts
    else if part = ".." then d.makeDirectories? here.dropLast parts
    else
      let next := here ++ [part]
      match d.entry? next with
      | some .directory => d.makeDirectories? next parts
      | some _ => none
      | none => (d.put next .directory).makeDirectories? next parts

def place (d : Disk) (p : Path) (e : Entry) : Disk :=
  let d := (d.makeDirectories? [] p.parent.parts).getD d
  (d.follow? [] p.parts).elim d (d.put · e)

def write? (d : Disk) (p : Path) (content : String) : Option Disk :=
  (d.follow? [] p.parts).bind fun place =>
    if d.entry? place = some .directory then none else some (d.put place (.text content))

end Disk

end UsbTransfer
