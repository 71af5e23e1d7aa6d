import HouseRules.Files.Path
import HouseRules.Text.Newline
import HouseRules.Text.Utf8

/-! # File trees

A file tree lists its files and directories by their location, the names on the way from the root.
Whoever names an entry also names the directories above it. A path is followed name by name; double
dots lead back, and only directories can be entered or left. -/

namespace HouseRules

/-- The names on the way from the root. -/
abbrev Location := List String

/-- What stands at a location. -/
inductive Entry where
  /-- A file with its bytes. -/
  | file (contents : Bytes)
  /-- A directory. -/
  | directory
  deriving DecidableEq, Repr

/-- A file tree. -/
structure FileTree where
  /-- The entries by location. -/
  entries : List (Location × Entry)
  deriving Repr

namespace FileTree

/-- The locations above a location, the root excepted. -/
def above : Location → List Location
  | [] => []
  | [_] => []
  | n :: r => [n] :: (above r).map (n :: ·)

/-- What stands at a location. The root is a directory. -/
def entry? (t : FileTree) (here : Location) : Option Entry :=
  if here.isEmpty then some .directory else t.entries.lookup here

/-- One more entry, with the directories above it that are missing. -/
def insert (t : FileTree) (here : Location) (e : Entry) : FileTree :=
  let missing := (above here).filter fun l => (t.entry? l).isNone
  ⟨t.entries ++ (missing.map (·, .directory) ++ if (t.entry? here).isSome then [] else [(here, e)])⟩

/-- Follows names from a location. -/
def follow (t : FileTree) (here : Location) : List String → Option Location
  | [] => some here
  | n :: r =>
    if t.entry? here = some .directory then
      let next := if n = ".." then here.dropLast else here ++ [n]
      if (t.entry? next).isSome then t.follow next r else none
    else none

/-- What stands at an absolute path. -/
def find? (t : FileTree) (p : Path) : Option Entry := do t.entry? (← t.follow [] p.names)

/-- The path leads to a file. -/
def isFile (t : FileTree) (p : Path) : Bool :=
  match t.find? p with
  | some (.file _) => true
  | _ => false

/-- The path leads to a directory. -/
def isDirectory (t : FileTree) (p : Path) : Bool := t.find? p == some .directory

/-- The path leads somewhere. -/
def leadsSomewhere (t : FileTree) (p : Path) : Bool := (t.find? p).isSome

/-- The bytes of the file that a path leads to. -/
def bytes? (t : FileTree) (p : Path) : Option Bytes :=
  match t.find? p with
  | some (.file b) => some b
  | _ => none

/-- The locations below a directory, as seen from it. -/
def below (t : FileTree) (p : Path) : List (Location × Entry) :=
  match t.follow [] p.names with
  | some here =>
    t.entries.filterMap fun (l, e) =>
      match Search.after? here l with
      | some (n :: r) => some (n :: r, e)
      | _ => none
  | none => []

end FileTree

/-- The text of a file, with line feeds only. -/
def textOfFile (b : Bytes) : Except Utf8.Fault String := do
  return String.ofList (Text.unifyNewlines (← Utf8.decode b).toList)

end HouseRules
