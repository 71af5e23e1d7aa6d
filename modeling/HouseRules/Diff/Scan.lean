import HouseRules.Diff.Section

/-! # The scan of a diff

The changed files of a diff are read in one pass over its lines. A `Scan` holds all that passes from
one line to the next, also from the lines of one file to those of the next: a `diff --git` line ends
the file before it, whose blob is read now, and sets everything but the number of the next added
line, which stays until a hunk sets it. Lines are passed over while no path is known. -/

namespace HouseRules.Diff

/-- A way to end a computation at a path that cannot be read. -/
structure Exit (m : Type → Type) [Monad m] where
  /-- Ends the computation. -/
  fail : {α : Type} → PathError → m α
  /-- Nothing is done behind the end. -/
  fail_bind : ∀ {α β : Type} (e : PathError) (f : α → m β), fail e >>= f = fail e

/-- What a reader of bytes gives, or the end. -/
def Exit.orFail {m : Type → Type} [Monad m] (exit : Exit m) {α : Type} : Except PathError α → m α
  | .ok a => pure a
  | .error e => exit.fail e

/-- What has been read of a diff. -/
structure Scan where
  /-- The files that have been read to their end. -/
  files : List ChangedFile := []
  /-- The path of the file that is being read, if one is known. -/
  path : Option String := none
  /-- The path of its old side. -/
  oldPath : Option String := none
  /-- The name of its new blob. -/
  blob : Option String := none
  /-- It stands for a commit of another repository. -/
  gitlink : Bool := false
  /-- The numbers of its added lines, the last one first. -/
  added : List Nat := []
  /-- The number of the next added line. -/
  next : Nat := 0
  /-- A hunk has started. -/
  inHunk : Bool := false
deriving DecidableEq, Repr

namespace Scan

variable {m : Type → Type} [Monad m]

/-- What has been read of the file with the given path. -/
def progress (s : Scan) (path : String) : Progress :=
  ⟨path, s.oldPath, s.blob, s.gitlink, s.added, s.next, s.inHunk⟩

/-- The scan with other things read of the file. -/
def withProgress (s : Scan) (p : Progress) : Scan :=
  ⟨s.files, some p.path, p.oldPath, p.blob, p.gitlink, p.added, p.next, p.inHunk⟩

/-- The scan at the start of a file. The number of the next added line is still the old one. -/
def restart (s : Scan) (path : Option String) : Scan :=
  { s with path, oldPath := none, blob := none, gitlink := false, added := [], inHunk := false }

/-- Ends the file that is being read. -/
def flush (load : String → m Bytes) (s : Scan) : m Scan :=
  match s.path with
  | none => pure s
  | some path => do
    let file ← (s.progress path).entry.resolve load
    return { s with files := s.files ++ [file] }

/-- Reads one line. -/
def line (exit : Exit m) (load : String → m Bytes) (s : Scan) (line : Bytes) : m Scan :=
  if isTitle line then do
    let s ← s.flush load
    return s.restart (← exit.orFail (titlePath? line))
  else match s.path with
    | none => pure s
    | some path => do return s.withProgress (← exit.orFail (readLine (s.progress path) line))

end Scan

/-- The changed files of a diff, in order. -/
def changedFiles {m : Type → Type} [Monad m] (exit : Exit m) (load : String → m Bytes)
    (output : Bytes) : m (List ChangedFile) := do
  if output.all Bytes.isBlank then
    return []
  let s ← (lines output).foldlM (Scan.line exit load) {}
  return (← s.flush load).files

end HouseRules.Diff
